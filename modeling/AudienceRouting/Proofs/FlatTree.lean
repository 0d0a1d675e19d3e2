/-
  Audience routing — trees without nested chains of one connective.

  * `Expr.Flat e`: every chain in `e` has at least two operands, and none of them
    is a chain of the same connective.
  * `Expr.Spellable e`: every leaf of `e` is a tag made of tag characters.

  `join_cases`: what a join is.  `Flat.join`: joining flat trees gives a flat tree;
  `height_join` is its height, and `join_of_separate` the case in which nothing is merged.
-/
import AudienceRouting.Proofs.Preorder
import AudienceRouting.Token

namespace AudienceRouting

/-- A tag as texts have it: at least one character, tag characters only. -/
def IsTag (value : String) : Prop :=
  value.toList ≠ [] ∧ ∀ c ∈ value.toList, isTagChar c = true

namespace Expr

inductive Flat : Expr → Prop
  | always : Flat .always
  | tag (value : String) : Flat (.tag value)
  | not {e : Expr} : Flat e → Flat (.not e)
  | chain {c : Connective} {es : List Expr} : 2 ≤ es.length → (∀ e ∈ es, Flat e) →
      (∀ e ∈ es, e.isChainOf c = false) → Flat (.chain c es)

inductive Spellable : Expr → Prop
  | tag {value : String} : IsTag value → Spellable (.tag value)
  | not {e : Expr} : Spellable e → Spellable (.not e)
  | chain {c : Connective} {es : List Expr} : (∀ e ∈ es, Spellable e) → Spellable (.chain c es)

theorem Flat.two_le_length {c : Connective} {es : List Expr} (h : (Expr.chain c es).Flat) :
    2 ≤ es.length := by
  cases h with
  | chain h2 => exact h2

/-- To show something of the trees of texts, show it of a chain once it holds of the operands. -/
@[elab_as_elim]
theorem Flat.induct {motive : Expr → Prop}
    (tag : ∀ value, IsTag value → motive (.tag value))
    (not : ∀ child, motive child → motive (.not child))
    (chain : ∀ c es, (Expr.chain c es).Flat → (∀ e ∈ es, motive e) → motive (.chain c es))
    {e : Expr} (hf : e.Flat) (hs : e.Spellable) : motive e := by
  induction e with
  | always => cases hs
  | tag value =>
    cases hs with
    | tag h => exact tag value h
  | not child ih =>
    cases hf with
    | not hf =>
      cases hs with
      | not hs => exact not child (ih hf hs)
  | chain c es ih =>
    refine chain c es hf fun e he => ?_
    cases hf with
    | chain _ hf =>
      cases hs with
      | chain hs => exact ih e he (hf e he) (hs e he)

/-! ## What an operand contributes -/

theorem operandsFor_of_separate {c : Connective} {e : Expr} (h : e.isChainOf c = false) :
    e.operandsFor c = [e] := by
  cases e with
  | chain d es =>
    have : d ≠ c := by simpa [isChainOf] using h
    simp [operandsFor, this]
  | _ => rfl

theorem isChainOf_iff {c : Connective} {e : Expr} :
    e.isChainOf c = true ↔ ∃ es, e = .chain c es := by
  cases e <;> simp [isChainOf]

/-- Either the tree goes into the chain as it is, or its operands do. -/
theorem operandsFor_cases (c : Connective) (e : Expr) :
    (e.isChainOf c = false ∧ e.operandsFor c = [e]) ∨
      (∃ es, e = .chain c es ∧ e.operandsFor c = es) := by
  cases h : e.isChainOf c with
  | false => exact Or.inl ⟨rfl, operandsFor_of_separate h⟩
  | true =>
    obtain ⟨es, rfl⟩ := isChainOf_iff.1 h
    exact Or.inr ⟨es, rfl, by simp [operandsFor]⟩

theorem Flat.length_operandsFor {c : Connective} {e : Expr} (h : Flat e) :
    1 ≤ (e.operandsFor c).length := by
  rcases operandsFor_cases c e with ⟨-, he⟩ | ⟨es, rfl, he⟩
  · simp [he]
  · cases h with
    | chain h2 => rw [he]; omega

theorem length_flatMap_operandsFor {c : Connective} {es : List Expr} (h : ∀ e ∈ es, Flat e) :
    es.length ≤ (es.flatMap (operandsFor c)).length := by
  induction es with
  | nil => simp
  | cons e es ih =>
    have h1 := (h e (by simp)).length_operandsFor (c := c)
    have h2 := ih fun x hx => h x (by simp [hx])
    simp only [List.flatMap_cons, List.length_append, List.length_cons]
    omega

theorem heights_flatMap_operandsFor (c : Connective) (es : List Expr) :
    heights (es.flatMap (operandsFor c)) =
      (es.map fun e => heights (e.operandsFor c)).foldr max 0 := by
  induction es with
  | nil => rfl
  | cons e es ih => simp [heights_append, ih]

/-! ## Joining -/

/-- Either the operands contribute one tree, which is the join, or the join is the chain of what
    they contribute. -/
theorem join_cases (c : Connective) (es : List Expr) :
    es.flatMap (operandsFor c) = [join c es] ∨
      ((∀ only, es.flatMap (operandsFor c) ≠ [only]) ∧
        join c es = .chain c (es.flatMap (operandsFor c))) := by
  unfold join
  split
  · rename_i only he
    exact Or.inl he
  · rename_i hmerged
    exact Or.inr ⟨hmerged, rfl⟩

theorem join_singleton {c : Connective} {e : Expr} (h : Flat e) : join c [e] = e := by
  rcases operandsFor_cases c e with ⟨-, he⟩ | ⟨es, rfl, he⟩
  · simp [join, he]
  · cases h with
    | chain h2 =>
      match es, h2, he with
      | _ :: _ :: _, _, he => simp [join, he]

theorem join_of_two_le {c : Connective} {es : List Expr}
    (h : 2 ≤ (es.flatMap (operandsFor c)).length) :
    join c es = .chain c (es.flatMap (operandsFor c)) := by
  rcases join_cases c es with he | ⟨-, hj⟩
  · simp [he] at h
  · exact hj

theorem flatMap_operandsFor_of_separate {c : Connective} {es : List Expr}
    (h : ∀ e ∈ es, e.isChainOf c = false) : es.flatMap (operandsFor c) = es := by
  induction es with
  | nil => rfl
  | cons e es ih =>
    rw [List.flatMap_cons, operandsFor_of_separate (h e (by simp)), ih (List.forall_mem_cons.1 h).2]
    rfl

/-- Operands that are not chains of the same connective stay as they are. -/
theorem join_of_separate {c : Connective} {es : List Expr} (h2 : 2 ≤ es.length)
    (h : ∀ e ∈ es, e.isChainOf c = false) : join c es = .chain c es := by
  have hm := flatMap_operandsFor_of_separate h
  rw [join_of_two_le (by rwa [hm]), hm]

theorem mem_flatMap_operandsFor {c : Connective} {es : List Expr} (h : ∀ e ∈ es, Flat e) :
    ∀ x ∈ es.flatMap (operandsFor c), Flat x ∧ x.isChainOf c = false := by
  intro x hx
  obtain ⟨e, he, hxe⟩ := List.mem_flatMap.1 hx
  rcases operandsFor_cases c e with ⟨hc, ho⟩ | ⟨os, rfl, ho⟩
  · rw [ho, List.mem_singleton] at hxe
    exact hxe ▸ ⟨h e he, hc⟩
  · rw [ho] at hxe
    cases h _ he with
    | chain _ hf hs => exact ⟨hf x hxe, hs x hxe⟩

theorem Flat.join {c : Connective} {es : List Expr} (h : ∀ e ∈ es, Flat e) (hne : es ≠ []) :
    Flat (join c es) := by
  match es, hne with
  | [e], _ => rw [join_singleton (h e (by simp))]; exact h e (by simp)
  | e :: e' :: es, _ =>
    have hl : 2 ≤ ((e :: e' :: es).flatMap (operandsFor c)).length :=
      Nat.le_trans (by simp) (length_flatMap_operandsFor h)
    rw [join_of_two_le hl]
    exact .chain hl (fun x hx => (mem_flatMap_operandsFor h x hx).1)
      fun x hx => (mem_flatMap_operandsFor h x hx).2

theorem Spellable.join {c : Connective} {es : List Expr} (h : ∀ e ∈ es, Spellable e) :
    Spellable (join c es) := by
  have hm : ∀ x ∈ es.flatMap (operandsFor c), Spellable x := by
    intro x hx
    obtain ⟨e, he, hxe⟩ := List.mem_flatMap.1 hx
    rcases operandsFor_cases c e with ⟨-, ho⟩ | ⟨os, rfl, ho⟩
    · rw [ho, List.mem_singleton] at hxe
      exact hxe ▸ h e he
    · rw [ho] at hxe
      cases h _ he with
      | chain hs => exact hs x hxe
  rcases join_cases c es with he | ⟨-, hj⟩
  · exact hm _ (by simp [he])
  · rw [hj]
    exact .chain hm

/-! ## The height of a join -/

/-- The height that a chain of `c` gets from an operand. -/
def heightIn (c : Connective) (e : Expr) : Nat :=
  if e.isChainOf c then e.height else e.height + 1

theorem heightIn_eq (c : Connective) (e : Expr) :
    e.heightIn c = heights (e.operandsFor c) + 1 := by
  rcases operandsFor_cases c e with ⟨hc, ho⟩ | ⟨es, rfl, ho⟩
  · simp [heightIn, hc, ho, heights]
  · simp [heightIn, isChainOf, ho, height]

/-- The height of a join of two or more trees. -/
theorem height_join {c : Connective} {es : List Expr} (h : ∀ e ∈ es, Flat e)
    (h2 : 2 ≤ es.length) : (join c es).height = (es.map (heightIn c)).foldr max 0 := by
  rw [join_of_two_le (Nat.le_trans h2 (length_flatMap_operandsFor h)), height,
    heights_flatMap_operandsFor]
  have hne : es ≠ [] := by rintro rfl; simp at h2
  clear h h2
  induction es with
  | nil => exact absurd rfl hne
  | cons e es ih =>
    cases es with
    | nil => simp [heightIn_eq]
    | cons e' es =>
      have := ih (by simp)
      simp only [List.map_cons, List.foldr_cons, heightIn_eq] at this ⊢
      omega

/-- An operand is no higher than the join. -/
theorem height_le_join {c : Connective} {es : List Expr} (h : ∀ e ∈ es, Flat e) {e : Expr}
    (he : e ∈ es) : e.height ≤ (join c es).height := by
  match es, he with
  | [e'], he =>
    obtain rfl := List.mem_singleton.1 he
    exact Nat.le_of_eq (congrArg height (join_singleton (h e (by simp))).symm)
  | e₁ :: e₂ :: es, he =>
    have hl : 2 ≤ ((e₁ :: e₂ :: es).flatMap (operandsFor c)).length :=
      Nat.le_trans (by simp) (length_flatMap_operandsFor h)
    rw [join_of_two_le hl, height]
    rcases operandsFor_cases c e with ⟨-, ho⟩ | ⟨os, rfl, ho⟩
    · have : e ∈ (e₁ :: e₂ :: es).flatMap (operandsFor c) :=
        List.mem_flatMap.2 ⟨e, he, by simp [ho]⟩
      exact Nat.le_succ_of_le (height_le_heights this)
    · rw [height]
      refine Nat.succ_le_succ (heights_le_iff.2 fun x hx => height_le_heights ?_)
      exact List.mem_flatMap.2 ⟨_, he, by rwa [ho]⟩

end Expr

end AudienceRouting
