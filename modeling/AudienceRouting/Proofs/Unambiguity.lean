/-
  Audience routing — derivations and the trees they mean.

  * `Derivation.flat_tree`, `Derivation.spellable_tree`: the tree of a derivation has
    no nested chains of one connective, and every leaf is a tag.
  * `Derivation.eq_of_tokens`: the grammar is unambiguous, tokens have at most one
    derivation.  A part ends where no token follows that continues it
    (`Part.Ends`), so a derivation can be cut off the front of longer texts.
-/
import AudienceRouting.Expr.Grammar
import AudienceRouting.Proofs.Scanning

namespace AudienceRouting

/-! ## Trees of derivations -/

mutual

theorem Derivation.flat_tree : {p : Part} → (d : Derivation p) → d.tree.Flat
  | _, .tag value => .tag value
  | _, .group inner => inner.flat_tree
  | _, .plain primary => primary.flat_tree
  | _, .bang operand => .not operand.flat_tree
  | _, .minus operand => .not operand.flat_tree
  | _, .all first rest =>
    .join (List.forall_mem_cons.2 ⟨first.flat_tree, rest.flat_trees⟩) (by simp)
  | _, .any first rest =>
    .join (List.forall_mem_cons.2 ⟨first.flat_tree, rest.flat_trees⟩) (by simp)

theorem Continuation.flat_trees : {c : Connective} → (k : Continuation c) → ∀ e ∈ k.trees, e.Flat
  | _, .none _ => by simp [Continuation.trees]
  | _, .plus operand rest => List.forall_mem_cons.2 ⟨operand.flat_tree, rest.flat_trees⟩
  | _, .minus operand rest => List.forall_mem_cons.2 ⟨.not operand.flat_tree, rest.flat_trees⟩
  | _, .bar operand rest => List.forall_mem_cons.2 ⟨operand.flat_tree, rest.flat_trees⟩

end

mutual

theorem Derivation.spellable_tree : {p : Part} → (d : Derivation p) →
    (∀ t ∈ d.tokens, t.Written) → d.tree.Spellable
  | _, .tag value, h => .tag (h (.tag value) (by simp [Derivation.tokens]))
  | _, .group inner, h => inner.spellable_tree fun t ht => h t (by simp [Derivation.tokens, ht])
  | _, .plain primary, h => primary.spellable_tree h
  | _, .bang operand, h =>
    .not (operand.spellable_tree fun t ht => h t (by simp [Derivation.tokens, ht]))
  | _, .minus operand, h =>
    .not (operand.spellable_tree fun t ht => h t (by simp [Derivation.tokens, ht]))
  | _, .all first rest, h => .join (List.forall_mem_cons.2
      ⟨first.spellable_tree fun t ht => h t (by simp [Derivation.tokens, ht]),
        rest.spellable_trees fun t ht => h t (by simp [Derivation.tokens, ht])⟩)
  | _, .any first rest, h => .join (List.forall_mem_cons.2
      ⟨first.spellable_tree fun t ht => h t (by simp [Derivation.tokens, ht]),
        rest.spellable_trees fun t ht => h t (by simp [Derivation.tokens, ht])⟩)

theorem Continuation.spellable_trees : {c : Connective} → (k : Continuation c) →
    (∀ t ∈ k.tokens, t.Written) → ∀ e ∈ k.trees, e.Spellable
  | _, .none _, _ => by simp [Continuation.trees]
  | _, .plus operand rest, h => List.forall_mem_cons.2
      ⟨operand.spellable_tree fun t ht => h t (by simp [Continuation.tokens, ht]),
        rest.spellable_trees fun t ht => h t (by simp [Continuation.tokens, ht])⟩
  | _, .minus operand rest, h => List.forall_mem_cons.2
      ⟨.not (operand.spellable_tree fun t ht => h t (by simp [Continuation.tokens, ht])),
        rest.spellable_trees fun t ht => h t (by simp [Continuation.tokens, ht])⟩
  | _, .bar operand rest, h => List.forall_mem_cons.2
      ⟨operand.spellable_tree fun t ht => h t (by simp [Continuation.tokens, ht]),
        rest.spellable_trees fun t ht => h t (by simp [Continuation.tokens, ht])⟩

end

/-- The first token of a part stands under what is open around the part. -/
theorem Derivation.outer_mem_levels (outer : Nat) : {p : Part} → (d : Derivation p) →
    outer ∈ d.levels outer
  | _, .tag _ => by simp [Derivation.levels]
  | _, .group _ => by simp [Derivation.levels]
  | _, .plain primary => primary.outer_mem_levels outer
  | _, .bang _ => by simp [Derivation.levels]
  | _, .minus _ => by simp [Derivation.levels]
  | _, .all first _ => List.mem_append_left _ (first.outer_mem_levels outer)
  | _, .any first _ => List.mem_append_left _ (first.outer_mem_levels outer)

/-! ## Unambiguity -/

/-- The tokens that continue a part beyond a place where it could end. -/
def Part.continuedBy : Part → Token → Bool
  | .or, .plus | .or, .minus | .or, .bar | .and, .plus | .and, .minus => true
  | _, _ => false

/-- The part that operands of the connective and their operators make up. -/
def Connective.part : Connective → Part
  | .and => .and
  | .or => .or

/-- What follows does not continue the part. -/
def Part.Ends (p : Part) (rest : List Token) : Prop :=
  ∀ t ∈ rest.head?, p.continuedBy t = false

theorem Part.ends_not (rest : List Token) : Part.not.Ends rest := fun _ _ => rfl

theorem Part.ends_primary (rest : List Token) : Part.primary.Ends rest := fun _ _ => rfl

/-- Where an `or` part ends, the `and` part before the rest of its chain ends as well. -/
theorem Continuation.ends_and (k : Continuation .or) {rest : List Token} (h : Part.or.Ends rest) :
    Part.and.Ends (k.tokens ++ rest) := by
  cases k with
  | none =>
    intro t ht
    have := h t ht
    cases t <;> simp_all [Part.continuedBy]
  | bar => simp [Continuation.tokens, Part.Ends, Part.continuedBy]

/-- A part that starts with a tag or a parenthesis is no negation. -/
theorem Derivation.head_primary (d : Derivation .primary) (rest : List Token) :
    ∃ t ts, d.tokens ++ rest = t :: ts ∧ t ≠ .bang ∧ t ≠ .minus := by
  cases d with
  | tag value => exact ⟨_, _, rfl, by simp, by simp⟩
  | group inner => exact ⟨_, _, rfl, by simp, by simp⟩

mutual

theorem Derivation.eq_of_append : {p : Part} → (d d' : Derivation p) → {r r' : List Token} →
    d.tokens ++ r = d'.tokens ++ r' → p.Ends r → p.Ends r' → d = d' ∧ r = r'
  | _, .tag _, .tag _, _, _, h, _, _ => by simpa [Derivation.tokens] using h
  | _, .tag _, .group _, _, _, h, _, _ | _, .group _, .tag _, _, _, h, _, _
  | _, .bang _, .minus _, _, _, h, _, _ | _, .minus _, .bang _, _, _, h, _, _ => by
    simp [Derivation.tokens] at h
  | _, .group inner, .group inner', _, _, h, _, _ => by
    simp only [Derivation.tokens, List.cons_append, List.append_assoc, List.cons.injEq] at h
    obtain ⟨rfl, hi⟩ := inner.eq_of_append inner' h.2 (by simp [Part.Ends, Part.continuedBy])
      (by simp [Part.Ends, Part.continuedBy])
    exact ⟨rfl, by simpa using hi⟩
  | _, .plain primary, .plain primary', _, _, h, _, _ => by
    obtain ⟨rfl, hr⟩ := primary.eq_of_append primary' h (Part.ends_primary _) (Part.ends_primary _)
    exact ⟨rfl, hr⟩
  | _, .plain primary, .bang _, r, _, h, _, _ => by
    obtain ⟨t, ts, ht, hb, -⟩ := primary.head_primary r
    simp only [Derivation.tokens, ht, List.cons_append, List.cons.injEq] at h
    exact absurd h.1 hb
  | _, .plain primary, .minus _, r, _, h, _, _ => by
    obtain ⟨t, ts, ht, -, hm⟩ := primary.head_primary r
    simp only [Derivation.tokens, ht, List.cons_append, List.cons.injEq] at h
    exact absurd h.1 hm
  | _, .bang _, .plain primary, _, r', h, _, _ => by
    obtain ⟨t, ts, ht, hb, -⟩ := primary.head_primary r'
    simp only [Derivation.tokens, ht, List.cons_append, List.cons.injEq] at h
    exact absurd h.1.symm hb
  | _, .minus _, .plain primary, _, r', h, _, _ => by
    obtain ⟨t, ts, ht, -, hm⟩ := primary.head_primary r'
    simp only [Derivation.tokens, ht, List.cons_append, List.cons.injEq] at h
    exact absurd h.1.symm hm
  | _, .bang operand, .bang operand', _, _, h, _, _ => by
    simp only [Derivation.tokens, List.cons_append, List.cons.injEq] at h
    obtain ⟨rfl, hr⟩ := operand.eq_of_append operand' h.2 (Part.ends_not _) (Part.ends_not _)
    exact ⟨rfl, hr⟩
  | _, .minus operand, .minus operand', _, _, h, _, _ => by
    simp only [Derivation.tokens, List.cons_append, List.cons.injEq] at h
    obtain ⟨rfl, hr⟩ :=
      operand.eq_of_append operand' h.2 (Part.ends_primary _) (Part.ends_primary _)
    exact ⟨rfl, hr⟩
  | _, .all first rest, .all first' rest', _, _, h, hr, hr' => by
    simp only [Derivation.tokens, List.append_assoc] at h
    obtain ⟨rfl, h₁⟩ := first.eq_of_append first' h (Part.ends_not _) (Part.ends_not _)
    obtain ⟨rfl, h₂⟩ := rest.eq_of_append rest' h₁ hr hr'
    exact ⟨rfl, h₂⟩
  | _, .any first rest, .any first' rest', _, _, h, hr, hr' => by
    simp only [Derivation.tokens, List.append_assoc] at h
    obtain ⟨rfl, h₁⟩ := first.eq_of_append first' h (rest.ends_and hr) (rest'.ends_and hr')
    obtain ⟨rfl, h₂⟩ := rest.eq_of_append rest' h₁ hr hr'
    exact ⟨rfl, h₂⟩

theorem Continuation.eq_of_append : {c : Connective} → (k k' : Continuation c) →
    {r r' : List Token} → k.tokens ++ r = k'.tokens ++ r' → c.part.Ends r → c.part.Ends r' →
    k = k' ∧ r = r'
  | _, .none _, .none _, _, _, h, _, _ => ⟨rfl, h⟩
  | _, .plus operand rest, .plus operand' rest', _, _, h, hr, hr' => by
    simp only [Continuation.tokens, List.cons_append, List.append_assoc, List.cons.injEq] at h
    obtain ⟨rfl, h₁⟩ := operand.eq_of_append operand' h.2 (Part.ends_not _) (Part.ends_not _)
    obtain ⟨rfl, h₂⟩ := rest.eq_of_append rest' h₁ hr hr'
    exact ⟨rfl, h₂⟩
  | _, .minus operand rest, .minus operand' rest', _, _, h, hr, hr' => by
    simp only [Continuation.tokens, List.cons_append, List.append_assoc, List.cons.injEq] at h
    obtain ⟨rfl, h₁⟩ :=
      operand.eq_of_append operand' h.2 (Part.ends_primary _) (Part.ends_primary _)
    obtain ⟨rfl, h₂⟩ := rest.eq_of_append rest' h₁ hr hr'
    exact ⟨rfl, h₂⟩
  | _, .bar operand rest, .bar operand' rest', _, _, h, hr, hr' => by
    simp only [Continuation.tokens, List.cons_append, List.append_assoc, List.cons.injEq] at h
    obtain ⟨rfl, h₁⟩ := operand.eq_of_append operand' h.2 (rest.ends_and hr) (rest'.ends_and hr')
    obtain ⟨rfl, h₂⟩ := rest.eq_of_append rest' h₁ hr hr'
    exact ⟨rfl, h₂⟩
  | _, .plus _ _, .minus _ _, _, _, h, _, _ | _, .minus _ _, .plus _ _, _, _, h, _, _ => by
    simp [Continuation.tokens] at h
  -- one chain ends where the other goes on: then its end is followed by an operator of the chain
  | _, .none _, .plus _ _, _, _, h, hr, _ | _, .none _, .minus _ _, _, _, h, hr, _
  | _, .none _, .bar _ _, _, _, h, hr, _ => by
    subst h
    simp [Continuation.tokens, Part.Ends, Connective.part, Part.continuedBy] at hr
  | _, .plus _ _, .none _, _, _, h, _, hr | _, .minus _ _, .none _, _, _, h, _, hr
  | _, .bar _ _, .none _, _, _, h, _, hr => by
    subst h
    simp [Continuation.tokens, Part.Ends, Connective.part, Part.continuedBy] at hr

end

/-- **The grammar is unambiguous.** -/
theorem Derivation.eq_of_tokens {p : Part} {d d' : Derivation p} (h : d.tokens = d'.tokens) :
    d = d' := by
  have hnil : p.Ends [] := by simp [Part.Ends]
  have happend : d.tokens ++ [] = d'.tokens ++ [] := by rw [h]
  exact (d.eq_of_append d' happend hnil hnil).1

end AudienceRouting
