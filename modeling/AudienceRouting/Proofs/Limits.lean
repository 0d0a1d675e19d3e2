/-
  Audience routing — reading within the limits on depth.

  `Limited p x P`: the step `x` gives a value with `P` if `p` holds, and
  stops with the fault `tooDeep` if not.  There is one such lemma for each part of
  the reader that can meet a limit.
-/
import Mathlib.Logic.Function.Iterate
import AudienceRouting.Expr.Reader
import AudienceRouting.Proofs.FlatTree
import AudienceRouting.Proofs.Outcome

namespace AudienceRouting

/-- A value with `P` within the limits `p`, the fault `tooDeep` beyond them. -/
def Limited {α : Type} (p : Prop) (x : Except Problem α) (P : α → Prop) : Prop :=
  (p → ∃ a, x = .ok a ∧ P a) ∧ (¬ p → ∃ offset, x = .error ⟨.tooDeep, offset⟩)

namespace Limited

variable {α β : Type} {p q : Prop} {x : Except Problem α} {P P' : α → Prop}

theorem ok {a : α} (h : P a) : Limited True (.ok a) P :=
  ⟨fun _ => ⟨a, rfl, h⟩, fun h => absurd trivial h⟩

theorem of_ok {a : α} (h : Limited p x P) (hx : x = .ok a) : P a := by
  subst hx
  by_cases hp : p
  · obtain ⟨a', ha, hP⟩ := h.1 hp
    cases ha
    exact hP
  · obtain ⟨offset, ha⟩ := h.2 hp
    cases ha

theorem congr (h : Limited p x P) (hq : q ↔ p) : Limited q x P := by
  unfold Limited
  rwa [hq]

theorem mono (h : Limited p x P) (hP : ∀ a, P a → P' a) : Limited p x P' :=
  ⟨fun hf => let ⟨a, ha, hp⟩ := h.1 hf; ⟨a, ha, hP a hp⟩, h.2⟩

theorem bind {f : α → Except Problem β} {Q : β → Prop} (h : Limited p x P)
    (hf : ∀ a, P a → Limited q (f a) Q) : Limited (p ∧ q) (x >>= f) Q := by
  by_cases hx : p
  · obtain ⟨a, rfl, ha⟩ := h.1 hx
    exact (hf a ha).congr (and_iff_right hx)
  · obtain ⟨offset, rfl⟩ := h.2 hx
    exact ⟨fun h => absurd h.1 hx, fun _ => ⟨offset, rfl⟩⟩

theorem ofIf {a : α} {offset : Nat} [Decidable p] (h : p → P a) :
    Limited p (if p then .ok a else .error ⟨.tooDeep, offset⟩) P :=
  ⟨fun hf => ⟨a, if_pos hf, h hf⟩, fun hf => ⟨offset, if_neg hf⟩⟩

end Limited

/-! ## Operands -/

/-- An operand as the reader keeps it: within the limit, and measured right. -/
structure Operand.Finished (o : Operand) : Prop where
  depth_eq : o.depth = o.expr.height
  depth_le : o.depth ≤ maxDepth
  flat : o.expr.Flat

theorem Operand.forall_flat {os : List Operand} (h : ∀ o ∈ os, o.Finished) :
    ∀ e ∈ os.map (·.expr), e.Flat :=
  List.forall_mem_map.2 fun o ho => (h o ho).flat

theorem Operand.limited_spec {o : Operand} (hd : o.depth = o.expr.height) (hf : o.expr.Flat)
    (offset : Nat) :
    Limited (o.expr.height ≤ maxDepth) (o.limited offset) fun o' => o' = o ∧ o'.Finished := by
  unfold Operand.limited
  rw [← hd]
  exact .ofIf fun h => ⟨rfl, hd, h, hf⟩

theorem height_nots (n : Nat) (e : Expr) : (Expr.not^[n] e).height = e.height + n := by
  induction n generalizing e with
  | zero => rfl
  | succ n ih => rw [Function.iterate_succ_apply, ih, Expr.height]; omega

theorem negate_spec (negations : List Negation) (nesting : Nat) {o : Operand} (ho : o.Finished) :
    Limited (o.expr.height + negations.length ≤ maxDepth) (negate negations nesting o) fun x =>
      x.1.Finished ∧ x.1.expr = Expr.not^[negations.length] o.expr ∧
        x.2 = nesting - (negations.filter (·.nests)).length := by
  induction negations generalizing nesting o with
  | nil => exact (Limited.ok ⟨ho, rfl, rfl⟩).congr (iff_true_intro (ho.depth_eq ▸ ho.depth_le))
  | cons n outer ih =>
    have hd : o.depth + 1 = (Expr.not o.expr).height := by rw [ho.depth_eq, Expr.height]
    have hfirst := Operand.limited_spec (o := ⟨.not o.expr, o.depth + 1, n.offset⟩) hd
      (.not ho.flat) n.offset
    refine (hfirst.bind (q := (Expr.not o.expr).height + outer.length ≤ maxDepth)
      fun o' ho' => ?_).congr ?_
    · obtain ⟨rfl, ho'⟩ := ho'
      refine (ih (if n.nests then nesting - 1 else nesting) ho').mono fun x hx => ?_
      obtain ⟨hfinished, hexpr, hnesting⟩ := hx
      refine ⟨hfinished, hexpr, ?_⟩
      rw [hnesting]
      cases hn : n.nests <;> simp [hn, Nat.sub_sub, Nat.add_comm 1]
    · simp only [Expr.height, List.length_cons]
      omega

namespace Connective

theorem foldl_chainDepth (c : Connective) {os : List Operand} (h : ∀ o ∈ os, o.Finished) (d : Nat) :
    os.foldl (fun d o => max d (if o.expr.isChainOf c then o.depth else o.depth + 1)) d =
      max d ((os.map fun o => o.expr.heightIn c).foldr max 0) := by
  induction os generalizing d with
  | nil => simp
  | cons o os ih =>
    rw [List.foldl_cons, ih (List.forall_mem_cons.1 h).2, (h o (by simp)).depth_eq]
    simp only [List.map_cons, List.foldr_cons, Expr.heightIn]
    omega

theorem chainDepth_eq (c : Connective) {operands : List Operand} (h : ∀ o ∈ operands, o.Finished)
    (h2 : 2 ≤ operands.length) :
    c.chainDepth operands = (Expr.join c (operands.map (·.expr))).height := by
  have hheight := Expr.height_join (c := c) (Operand.forall_flat h) (by simpa using h2)
  rw [chainDepth, foldl_chainDepth c h, hheight, List.map_map]
  simp [Function.comp_def]

/-- Ending a chain gives the join of its operands. -/
theorem close_spec (c : Connective) (earlier : List Operand) (last : Operand)
    (h : ∀ o ∈ earlier.reverse ++ [last], o.Finished) :
    Limited ((Expr.join c ((earlier.reverse ++ [last]).map (·.expr))).height ≤ maxDepth)
      (c.close earlier last) fun o =>
        o.Finished ∧ o.expr = Expr.join c ((earlier.reverse ++ [last]).map (·.expr)) := by
  have hlast := h last (by simp)
  unfold close
  cases he : earlier.reverse with
  | nil =>
    have hj : Expr.join c [last.expr] = last.expr := Expr.join_singleton hlast.flat
    simp only [List.nil_append, List.map_cons, List.map_nil, hj]
    exact (Limited.ok ⟨hlast, rfl⟩).congr (iff_true_intro (hlast.depth_eq ▸ hlast.depth_le))
  | cons first middle =>
    rw [he] at h
    have hd := chainDepth_eq c h (by simp)
    have hf : (Expr.join c ((first :: middle ++ [last]).map (·.expr))).Flat :=
      .join (Operand.forall_flat h) (by simp)
    refine (Operand.limited_spec (o := ⟨Expr.join c ((first :: middle ++ [last]).map (·.expr)),
      c.chainDepth (first :: middle ++ [last]), first.start⟩) hd hf first.start).mono ?_
    rintro o ⟨rfl, hfin⟩
    exact ⟨hfin, rfl⟩

end Connective

end AudienceRouting
