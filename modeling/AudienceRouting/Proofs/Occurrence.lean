/-
  Audience routing — what occurs in a tree.

  * `Expr.Occurs part e`: `part` is `e` itself or stands somewhere below its root.
  * `Expr.Canonical e`: the form of the trees that texts are read as, said of
    everything that occurs in `e`.

  The predicates that follow a tree from its root down say the same:
  `valid_iff_occurs` and `canonical_iff`.
-/
import AudienceRouting.Proofs.Merging

namespace AudienceRouting.Expr

inductive Occurs : Expr → Expr → Prop
  | here {e : Expr} : Occurs e e
  | within {part child e : Expr} : child ∈ e.children → Occurs part child → Occurs part e

/-- No empty expression, chains of two or more operands that are no chains of the same connective,
    and tags made of tag characters. -/
structure Canonical (e : Expr) : Prop where
  not_always : ¬ Occurs .always e
  two_le_length : ∀ c es, Occurs (.chain c es) e → 2 ≤ es.length
  separate : ∀ c es, Occurs (.chain c es) e → ∀ x ∈ es, x.isChainOf c = false
  isTag : ∀ value, Occurs (.tag value) e → IsTag value

variable {part e : Expr}

/-- What goes down from a tree to its children holds of everything that occurs in it. -/
theorem Occurs.inherits {P : Expr → Prop} (h : Occurs part e)
    (hdown : ∀ e, P e → ∀ child ∈ e.children, P child) (he : P e) : P part := by
  induction h with
  | here => exact he
  | within hmem _ ih => exact ih (hdown _ he _ hmem)

theorem Valid.down (h : e.Valid) : ∀ child ∈ e.children, child.Valid := by
  cases h with
  | tag => simp [children]
  | not h => simpa [children] using h
  | chain _ h => exact h

theorem Flat.down (h : e.Flat) : ∀ child ∈ e.children, child.Flat := by
  cases h with
  | always | tag => simp [children]
  | not h => simpa [children] using h
  | chain _ h => exact h

theorem valid_iff_occurs : e.Valid ↔ ¬ Occurs .always e ∧
    (∀ c es, Occurs (.chain c es) e → 2 ≤ es.length) ∧
    ∀ value, Occurs (.tag value) e → IsTag value := by
  constructor
  · intro h
    have hpart : ∀ part, Occurs part e → part.Valid :=
      fun part hp => hp.inherits (fun e h => h.down) h
    refine ⟨fun hp => ?_, fun c es hp => ?_, fun value hp => ?_⟩
    · cases hpart _ hp
    · cases hpart _ hp with
      | chain h2 => exact h2
    · cases hpart _ hp with
      | tag h => exact h
  · rintro ⟨halways, hchain, htag⟩
    induction e with
    | always => exact absurd .here halways
    | tag value => exact .tag (htag value .here)
    | not e ih =>
      have hmem : e ∈ (Expr.not e).children := List.mem_singleton.2 rfl
      exact .not (ih (fun hp => halways (.within hmem hp))
        (fun c es hp => hchain c es (.within hmem hp))
        fun value hp => htag value (.within hmem hp))
    | chain c es ih =>
      refine .chain (hchain c es .here) fun x hx => ?_
      have hmem : x ∈ (Expr.chain c es).children := hx
      exact ih x hx (fun hp => halways (.within hmem hp))
        (fun c es hp => hchain c es (.within hmem hp))
        fun value hp => htag value (.within hmem hp)

/-- Below the root there is no empty expression, if the tree is valid or itself empty. -/
theorem always_or_valid_iff : (e = .always ∨ e.Valid) ↔
    (∀ child ∈ e.children, ¬ Occurs .always child) ∧
    (∀ c es, Occurs (.chain c es) e → 2 ≤ es.length) ∧
    ∀ value, Occurs (.tag value) e → IsTag value := by
  rw [valid_iff_occurs]
  constructor
  · rintro (rfl | ⟨halways, hparts⟩)
    · have honly : ∀ part, Occurs part .always → part = .always := by
        rintro part (_ | ⟨hmem, -⟩)
        · rfl
        · simp [children] at hmem
      refine ⟨by simp [children], fun c es hp => ?_, fun value hp => ?_⟩
      · cases honly _ hp
      · cases honly _ hp
    · exact ⟨fun child hmem hp => halways (.within hmem hp), hparts⟩
  · rintro ⟨hbelow, hparts⟩
    by_cases he : e = .always
    · exact Or.inl he
    · refine Or.inr ⟨fun hp => ?_, hparts⟩
      cases hp with
      | here => exact he rfl
      | within hmem hp => exact hbelow _ hmem hp

theorem Canonical.down (h : e.Canonical) : ∀ child ∈ e.children, child.Canonical :=
  fun _ hmem => ⟨fun hp => h.not_always (.within hmem hp),
    fun c es hp => h.two_le_length c es (.within hmem hp),
    fun c es hp => h.separate c es (.within hmem hp),
    fun value hp => h.isTag value (.within hmem hp)⟩

theorem Canonical.flat (h : e.Canonical) : e.Flat := by
  induction e with
  | always => exact .always
  | tag value => exact .tag value
  | not e ih => exact .not (ih (h.down e (List.mem_singleton.2 rfl)))
  | chain c es ih =>
    exact .chain (h.two_le_length c es .here) (fun x hx => ih x hx (h.down x hx))
      (h.separate c es .here)

theorem canonical_iff : e.Canonical ↔ e.Flat ∧ e.Spellable := by
  constructor
  · intro h
    have hvalid : e.Valid := valid_iff_occurs.2 ⟨h.not_always, h.two_le_length, h.isTag⟩
    exact ⟨h.flat, hvalid.spellable⟩
  · rintro ⟨hflat, hspell⟩
    obtain ⟨halways, hchain, htag⟩ := valid_iff_occurs.1 (hflat.valid hspell)
    refine ⟨halways, hchain, fun c es hp => ?_, htag⟩
    cases hp.inherits (fun e h => h.down) hflat with
    | chain _ _ hseparate => exact hseparate

end AudienceRouting.Expr
