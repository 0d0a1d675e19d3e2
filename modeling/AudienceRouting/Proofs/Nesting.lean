/-
  Audience routing — how deep the tokens of a derivation stand.

  * `Derivation.nesting d`: the most `(` and `!` that a token of `d` stands under.

  What is open around a derivation counts for each of its tokens (`levels_add`), so whether a
  derivation fits somewhere is a matter of its nesting (`shallow_levels_iff`).
-/
import AudienceRouting.Proofs.Operands

namespace AudienceRouting

mutual

/-- What is open around a part is open around each of its tokens. -/
theorem Derivation.levels_add (outer k : Nat) : {p : Part} → (d : Derivation p) →
    d.levels (outer + k) = (d.levels outer).map (· + k)
  | _, .tag _ => rfl
  | _, .group inner => by
    have hinner := inner.levels_add (outer + 1) k
    rw [Nat.add_right_comm] at hinner
    simp [Derivation.levels, hinner]
  | _, .plain primary => primary.levels_add outer k
  | _, .bang operand => by
    have hoperand := operand.levels_add (outer + 1) k
    rw [Nat.add_right_comm] at hoperand
    simp [Derivation.levels, hoperand]
  | _, .minus operand => by simp [Derivation.levels, operand.levels_add outer k]
  | _, .all first rest | _, .any first rest => by
    simp [Derivation.levels, first.levels_add outer k, rest.levels_add outer k]

theorem Continuation.levels_add (outer k : Nat) : {c : Connective} → (rest : Continuation c) →
    rest.levels (outer + k) = (rest.levels outer).map (· + k)
  | _, .none _ => rfl
  | _, .plus operand rest => by
    simp [Continuation.levels, operand.levels_add outer k, rest.levels_add outer k]
  | _, .minus operand rest => by
    simp [Continuation.levels, operand.levels_add outer k, rest.levels_add outer k]
  | _, .bar operand rest => by
    simp [Continuation.levels, operand.levels_add outer k, rest.levels_add outer k]

end

namespace Derivation

/-- The most `(` and `!` that a token stands under. -/
def nesting {p : Part} (d : Derivation p) : Nat := (d.levels 0).foldr max 0

theorem foldr_max_le_iff {ns : List Nat} {n : Nat} :
    ns.foldr max 0 ≤ n ↔ ∀ m ∈ ns, m ≤ n := by
  induction ns with
  | nil => simp
  | cons m ns ih => rw [List.foldr_cons, Nat.max_le, ih, List.forall_mem_cons]

/-- A derivation is shallow wherever its deepest token is. -/
theorem shallow_levels_iff {p : Part} (d : Derivation p) (outer : Nat) :
    Shallow (d.levels outer) ↔ d.nesting + outer ≤ maxDepth := by
  have hlevels : d.levels outer = (d.levels 0).map (· + outer) := by
    simpa using d.levels_add 0 outer
  have houter : outer ≤ d.nesting + outer := Nat.le_add_left _ _
  rw [hlevels, Shallow, List.forall_mem_map]
  constructor
  · intro h
    have hle : outer ≤ maxDepth := by simpa using h 0 (d.outer_mem_levels 0)
    have hnesting : d.nesting ≤ maxDepth - outer :=
      foldr_max_le_iff.2 fun n hn => Nat.le_sub_of_add_le (h n hn)
    omega
  · intro h n hn
    have := foldr_max_le_iff.1 (Nat.le_refl d.nesting) n hn
    omega

theorem shallow_of_deeper {p : Part} (d : Derivation p) {outer : Nat}
    (h : Shallow (d.levels (outer + 1))) : Shallow (d.levels outer) := by
  rw [shallow_levels_iff] at h ⊢
  omega

end Derivation

end AudienceRouting
