/-
  Audience routing — merging nested chains of one connective.

  * `Expr.Valid e`: every leaf of `e` is a tag made of tag characters, and every
    chain has at least two operands.
  * `Expr.merged e`: `e`, with every operand that is a chain of the same connective
    merged into the chain around it.

  Joining keeps the tags and the meaning of the operands, and the join is at most
  one level higher than they are (`leaves_join`, `holds_join`, `height_join_le`);
  so `merged` keeps the tags and the meaning of a tree and makes it no higher.
  It makes valid trees flat (`Valid.flat_merged`) and keeps flat ones as they are
  (`Flat.merged_eq`).
-/
import Mathlib.Data.List.Basic
import AudienceRouting.Evaluation
import AudienceRouting.Proofs.FlatTree

namespace AudienceRouting.Expr

inductive Valid : Expr → Prop
  | tag {value : String} : IsTag value → Valid (.tag value)
  | not {e : Expr} : Valid e → Valid (.not e)
  | chain {c : Connective} {es : List Expr} : 2 ≤ es.length → (∀ e ∈ es, Valid e) →
      Valid (.chain c es)

theorem Valid.spellable {e : Expr} (h : e.Valid) : e.Spellable := by
  induction h with
  | tag hvalue => exact .tag hvalue
  | not _ ih => exact .not ih
  | chain _ _ ih => exact .chain ih

theorem Flat.valid {e : Expr} (hf : e.Flat) (hs : e.Spellable) : e.Valid := by
  refine Flat.induct ?_ ?_ ?_ hf hs
  · exact fun value hvalue => .tag hvalue
  · exact fun child ih => .not ih
  · exact fun c es hf ih => .chain hf.two_le_length ih

/-! ## What a join keeps -/

theorem leavesAll_operandsFor (c : Connective) (e : Expr) :
    leavesAll (e.operandsFor c) = e.leaves := by
  rcases operandsFor_cases c e with ⟨-, he⟩ | ⟨es, rfl, he⟩
  · simp [he, leavesAll]
  · rw [he, leaves]

theorem leaves_join (c : Connective) (es : List Expr) : (join c es).leaves = leavesAll es := by
  have hmerged : leavesAll (es.flatMap (operandsFor c)) = leavesAll es := by
    simp only [leavesAll_eq_flatMap, List.flatMap_assoc]
    simp only [← leavesAll_eq_flatMap, leavesAll_operandsFor]
  rcases join_cases c es with he | ⟨-, hj⟩
  · rw [← hmerged, he, leavesAll, leavesAll, List.append_nil]
  · rw [hj, leaves, hmerged]

theorem heights_operandsFor_le (c : Connective) (e : Expr) :
    heights (e.operandsFor c) ≤ e.height := by
  rcases operandsFor_cases c e with ⟨-, he⟩ | ⟨es, rfl, he⟩
  · simp [he, heights]
  · rw [he, height]
    omega

theorem height_join_le (c : Connective) (es : List Expr) :
    (join c es).height ≤ heights es + 1 := by
  have hmerged : heights (es.flatMap (operandsFor c)) ≤ heights es := by
    refine heights_le_iff.2 fun x hx => ?_
    obtain ⟨e, he, hxe⟩ := List.mem_flatMap.1 hx
    calc x.height ≤ heights (e.operandsFor c) := height_le_heights hxe
      _ ≤ e.height := heights_operandsFor_le c e
      _ ≤ heights es := height_le_heights he
  rcases join_cases c es with he | ⟨-, hj⟩
  · rw [he, heights, heights] at hmerged
    omega
  · rw [hj]
    exact Nat.succ_le_succ hmerged

section
variable (tags : TagSet) (options : MatchOptions)

theorem holds_chain_singleton (c : Connective) (e : Expr) :
    (chain c [e]).holds tags options = e.holds tags options := by
  cases c <;> simp [holds, allHold, someHolds]

theorem holds_chain_operandsFor (c : Connective) (e : Expr) :
    (chain c (e.operandsFor c)).holds tags options = e.holds tags options := by
  rcases operandsFor_cases c e with ⟨-, he⟩ | ⟨es, rfl, he⟩
  · rw [he, holds_chain_singleton]
  · rw [he]

/-- A chain depends on the results of its operands only, one by one or in groups. -/
theorem holds_chain_flatMap (c : Connective) {es : List Expr} {f : Expr → List Expr}
    (h : ∀ e ∈ es, (chain c (f e)).holds tags options = e.holds tags options) :
    (chain c (es.flatMap f)).holds tags options = (chain c es).holds tags options := by
  cases c with
  | and =>
    simp only [holds, allHold_eq_all, List.all_flatMap] at h ⊢
    rw [Bool.eq_iff_iff, List.all_eq_true, List.all_eq_true]
    exact forall₂_congr fun e he => by rw [h e he]
  | or =>
    simp only [holds, someHolds_eq_any, List.any_flatMap] at h ⊢
    rw [Bool.eq_iff_iff, List.any_eq_true, List.any_eq_true]
    exact exists_congr fun e => and_congr_right fun he => by rw [h e he]

/-- **Joining means what the chain means.** -/
theorem holds_join (c : Connective) (es : List Expr) :
    (join c es).holds tags options = (chain c es).holds tags options := by
  rw [← holds_chain_flatMap tags options c fun e _ => holds_chain_operandsFor tags options c e]
  rcases join_cases c es with he | ⟨-, hj⟩
  · rw [he, holds_chain_singleton]
  · rw [hj]

end

/-! ## Merging -/

mutual

def merged : Expr → Expr
  | .always => .always
  | .tag value => .tag value
  | .not child => .not (merged child)
  | .chain c operands => join c (mergedAll operands)

/-- Every tree merged by itself. -/
def mergedAll : List Expr → List Expr
  | [] => []
  | e :: es => merged e :: mergedAll es

end

theorem mergedAll_eq_map (es : List Expr) : mergedAll es = es.map merged := by
  induction es with
  | nil => rfl
  | cons e es ih => simp [mergedAll, ih]

theorem merged_chain (c : Connective) (es : List Expr) :
    (chain c es).merged = join c (es.map merged) := by
  rw [merged, mergedAll_eq_map]

theorem Flat.merged_eq {e : Expr} (h : e.Flat) : e.merged = e := by
  induction h with
  | always => rfl
  | tag value => rfl
  | not _ ih => rw [merged, ih]
  | @chain c es h2 _ hseparate ih =>
    have hmap : es.map merged = es := (List.map_congr_left ih).trans (List.map_id' es)
    rw [merged_chain, hmap, join_of_separate h2 hseparate]

theorem Valid.flat_merged {e : Expr} (h : e.Valid) : e.merged.Flat := by
  induction h with
  | tag => exact .tag _
  | not _ ih => exact .not ih
  | @chain c es h2 _ ih =>
    have hne : es.map merged ≠ [] := by
      rintro h
      rw [List.map_eq_nil_iff.1 h] at h2
      simp at h2
    rw [merged_chain]
    exact .join (List.forall_mem_map.2 ih) hne

theorem leaves_merged (e : Expr) : e.merged.leaves = e.leaves := by
  induction e with
  | always => rfl
  | tag value => rfl
  | not child ih => exact ih
  | chain c es ih =>
    rw [merged_chain, leaves_join, leaves, leavesAll_eq_flatMap, leavesAll_eq_flatMap,
      List.flatMap_map]
    exact List.flatMap_congr ih

theorem height_merged_le (e : Expr) : e.merged.height ≤ e.height := by
  induction e with
  | always => exact Nat.le_refl _
  | tag value => exact Nat.le_refl _
  | not child ih => exact Nat.succ_le_succ ih
  | chain c es ih =>
    have hes : heights (es.map merged) ≤ heights es :=
      heights_le_iff.2 (List.forall_mem_map.2 fun e he =>
        Nat.le_trans (ih e he) (height_le_heights he))
    rw [merged_chain, height]
    exact Nat.le_trans (height_join_le c _) (Nat.succ_le_succ hes)

/-- **Merging keeps the meaning.** -/
theorem holds_merged (tags : TagSet) (options : MatchOptions) (e : Expr) :
    e.merged.holds tags options = e.holds tags options := by
  induction e with
  | always => rfl
  | tag value => rfl
  | not child ih => rw [merged, holds, holds, ih]
  | chain c es ih =>
    rw [merged_chain, holds_join, List.map_eq_flatMap]
    refine holds_chain_flatMap tags options c fun e he => ?_
    exact (holds_chain_singleton tags options c _).trans (ih e he)

end AudienceRouting.Expr
