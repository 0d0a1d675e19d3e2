/-
  Audience routing — reading the operands of a derivation.

  The reader is taken token by token (`steps`), and a group is ended by `settle`.
  An operand is read together with the negations that wait for it: there is one
  lemma `readsFrom_*` for each way to derive one, given how what is inside is
  read.
-/
import AudienceRouting.Proofs.Limits
import AudienceRouting.Proofs.Unambiguity

namespace AudienceRouting

/-- All levels are within the limit. -/
def Shallow (levels : List Nat) : Prop := ∀ n ∈ levels, n ≤ maxDepth

instance (levels : List Nat) : Decidable (Shallow levels) :=
  inferInstanceAs (Decidable (∀ n ∈ levels, n ≤ maxDepth))

theorem shallow_cons {n : Nat} {ns : List Nat} : Shallow (n :: ns) ↔ n ≤ maxDepth ∧ Shallow ns :=
  List.forall_mem_cons

theorem shallow_append {ns ms : List Nat} : Shallow (ns ++ ms) ↔ Shallow ns ∧ Shallow ms :=
  List.forall_mem_append

/-- No token stands under too many `(` and `!`, and the tree is not too deep. -/
def Derivation.Fits (d : Derivation .or) : Prop :=
  Shallow (d.levels 0) ∧ d.tree.depth ≤ maxDepth

instance (d : Derivation .or) : Decidable d.Fits :=
  inferInstanceAs (Decidable (Shallow (d.levels 0) ∧ d.tree.depth ≤ maxDepth))

theorem Derivation.le_of_shallow {p : Part} {d : Derivation p} {outer : Nat}
    (h : Shallow (d.levels outer)) : outer ≤ maxDepth :=
  h _ (d.outer_mem_levels outer)

namespace Reader

/-- Reads tokens one after the other. -/
def steps (r : Reader) (xs : List Lexeme) : Except Problem Reader := xs.foldlM step r

theorem steps_append (r : Reader) (xs ys : List Lexeme) :
    r.steps (xs ++ ys) = r.steps xs >>= (steps · ys) :=
  List.foldlM_append

theorem steps_cons (r : Reader) (x : Lexeme) (xs : List Lexeme) :
    r.steps (x :: xs) = r.step x >>= (steps · xs) :=
  List.foldlM_cons

theorem run_eq (r : Reader) (xs : List Lexeme) : r.run xs = r.steps xs >>= finish := by
  induction xs generalizing r with
  | nil => rfl
  | cons x xs ih => rw [run, steps_cons, bind_assoc, funext ih]

/-- Ends the innermost group. -/
def settle (r : Reader) : Except Problem (Operand × Reader) :=
  match r.position with
  | .operator last => (r.closeGroup last).map (·, r)
  | _ => .error ⟨.unfinished, r.previous⟩

/-- What is done at the end of a group can be done after `settle`. -/
theorem limited_of_settle {β : Type} {p q : Prop} {x : Except Problem Reader}
    {P : Operand × Reader → Prop} {Q : β → Prop} {f : Reader → Except Problem β}
    {g : Operand × Reader → Except Problem β} (h : Limited p (x >>= settle) P)
    (hf : ∀ r last, r.position = .operator last → f r = r.settle >>= g)
    (hg : ∀ a, P a → Limited q (g a) Q) : Limited (p ∧ q) (x >>= f) Q := by
  have hx : x >>= f = (x >>= settle) >>= g ∨
      ∃ offset, x >>= settle = .error ⟨.unfinished, offset⟩ := by
    cases x with
    | error p => exact Or.inl rfl
    | ok r =>
      cases hr : r.position with
      | operator last => exact Or.inl (hf r last hr)
      | _ => exact Or.inr ⟨r.previous, by simp [settle, hr, bind, Except.bind]⟩
  rcases hx with hx | ⟨offset, hx⟩
  · rw [hx]
    exact h.bind hg
  · -- a reader that still waits for an operand cannot settle, against `h`
    exfalso
    by_cases hfit : p
    · obtain ⟨a, ha, -⟩ := h.1 hfit
      rw [hx] at ha
      cases ha
    · obtain ⟨offset', ha⟩ := h.2 hfit
      rw [hx] at ha
      cases ha

/-- The reader waits for an operand, no deeper than it may. -/
structure Waits (r : Reader) : Prop where
  position : ∀ last, r.position ≠ .operator last
  nesting : r.nesting ≤ maxDepth

/-- The reader behind the operand `o` that it waited for. -/
def supplied (r : Reader) (o : Operand) : Reader :=
  { r with
    group := { r.group with negations := [] }
    nesting := r.nesting - (r.group.negations.filter (·.nests)).length
    position := .operator o }

/-- The reader `r'` has read `e` for the operand that `r` waited for. -/
def Supplied (r : Reader) (e : Expr) (r' : Reader) : Prop :=
  ∃ o previous, o.Finished ∧ o.expr = Expr.not^[r.group.negations.length] e ∧
    r' = { r.supplied o with previous }

/-- The reader `r'` has read the operands `es` of a conjunction where `r` waited for one. -/
def Gathered (r : Reader) (es : List Expr) (r' : Reader) : Prop :=
  ∃ conjuncts last previous, (∀ o ∈ conjuncts.reverse ++ [last], o.Finished) ∧
    (conjuncts.reverse ++ [last]).map (·.expr) = es ∧
    r' = { r with
      group := ⟨r.group.alternatives, conjuncts, []⟩
      position := .operator last
      previous }

theorem supply_spec (r : Reader) {o : Operand} (ho : o.Finished) :
    Limited (o.expr.height + r.group.negations.length ≤ maxDepth) (r.supply o)
      (r.Supplied o.expr) := by
  unfold supply
  refine ((negate_spec r.group.negations r.nesting ho).bind (q := True) ?_).congr
    (and_iff_left trivial).symm
  rintro ⟨o', nesting⟩ ⟨hf, he, rfl⟩
  exact .ok ⟨o', r.previous, hf, he, rfl⟩

theorem step_operand {r : Reader} (h : ∀ last, r.position ≠ .operator last) (x : Lexeme) :
    r.step x = r.readOperand x >>= fun r => .ok { r with previous := x.offset } := by
  unfold step
  cases hr : r.position with
  | operator last => exact absurd hr (h last)
  | _ => rfl

theorem step_operator {r : Reader} {last : Operand} (h : r.position = .operator last)
    (x : Lexeme) :
    r.step x = r.readOperator last x >>= fun r => .ok { r with previous := x.offset } := by
  unfold step
  rw [h]

theorem Supplied.passed {r r' : Reader} {e : Expr} (h : r.Supplied e r') (previous : Nat) :
    r.Supplied e { r' with previous } := by
  obtain ⟨o, _, ho, he, rfl⟩ := h
  exact ⟨o, previous, ho, he, rfl⟩

/-- The reader behind a negation. -/
def negated (r : Reader) (n : Negation) (position : Position) : Reader :=
  { r with
    group := { r.group with negations := n :: r.group.negations }
    position
    previous := n.offset }

/-- The reader one level further down. -/
def deeper (r : Reader) : Reader := { r with nesting := r.nesting + 1 }

theorem enter_spec (r : Reader) (offset : Nat) :
    Limited (r.nesting + 1 ≤ maxDepth) (r.enter offset) fun r' =>
      r.nesting + 1 ≤ maxDepth ∧ r' = r.deeper :=
  .ofIf fun h => ⟨h, rfl⟩

/-- An operand of `!` is, with the `!`, an operand one level further up. -/
theorem supplied_of_bang {r r' : Reader} {offset : Nat} {position : Position} {e : Expr}
    (h : (r.deeper.negated ⟨offset, true⟩ position).Supplied e r') : r.Supplied (.not e) r' := by
  obtain ⟨o, previous, ho, he, rfl⟩ := h
  exact ⟨o, previous, ho, he, by simp [supplied, negated, deeper]⟩

theorem supplied_of_minus {r r' : Reader} {offset : Nat} {position : Position} {e : Expr}
    (h : (r.negated ⟨offset, false⟩ position).Supplied e r') : r.Supplied (.not e) r' := by
  obtain ⟨o, previous, ho, he, rfl⟩ := h
  exact ⟨o, previous, ho, he, by simp [supplied, negated]⟩

/-- The reader behind a `(`. -/
def opened (r : Reader) (offset : Nat) : Reader :=
  { r with
    group := .empty
    enclosing := ⟨offset, r.group⟩ :: r.enclosing
    position := .afterOpening
    previous := offset }

/-- What a `)` does with a group that is settled. -/
def closed (offset : Nat) (x : Operand × Reader) : Except Problem Reader :=
  match x.2.enclosing with
  | [] => .error ⟨.strayClosing, offset⟩
  | outer :: enclosing =>
    supply { x.2 with group := outer.group, enclosing, nesting := x.2.nesting - 1 }
      { x.1 with start := outer.opening } >>= fun r => .ok { r with previous := offset }

theorem step_closeParen {r : Reader} {last : Operand} (h : r.position = .operator last)
    {x : Lexeme} (hx : x.token = .closeParen) : r.step x = r.settle >>= closed x.offset := by
  rw [step_operator h, readOperator, hx, settle, h]
  cases hc : r.closeGroup last with
  | error p => simp [hc, bind, Except.bind, Except.map]
  | ok inner =>
    cases he : r.enclosing with
    | nil => simp [hc, he, closed, bind, Except.bind, Except.map]
    | cons outer enclosing => simp [h, hc, he, closed, bind, Except.bind, Except.map]

/-- A settled group gives the operand that the reader waited for before the `(`. -/
theorem closed_spec {r : Reader} {opening : Nat} (offset : Nat) {x : Operand × Reader}
    (hx : x.1.Finished) (he : x.2.enclosing = ⟨opening, r.group⟩ :: r.enclosing)
    (hn : x.2.nesting = r.nesting + 1) :
    Limited (x.1.expr.height + r.group.negations.length ≤ maxDepth) (closed offset x)
      (r.Supplied x.1.expr) := by
  have hfin : ({ x.1 with start := opening } : Operand).Finished :=
    ⟨hx.depth_eq, hx.depth_le, hx.flat⟩
  unfold closed
  rw [he]
  refine ((supply_spec { x.2 with
    group := r.group, enclosing := r.enclosing, nesting := x.2.nesting - 1 } hfin).bind
      (q := True) ?_).congr (and_iff_left trivial).symm
  rintro _ ⟨o, previous, ho, heo, rfl⟩
  exact .ok ⟨o, offset, ho, heo, by simp [supplied, hn]⟩

end Reader

/-! ## Operands -/

namespace Derivation

/-- The reader `r` reads the derivation as the operand that it waits for. -/
def ReadsFrom {p : Part} (d : Derivation p) (r : Reader) : Prop :=
  ∀ xs : List Lexeme, xs.map (·.token) = d.tokens →
    Limited (Shallow (d.levels r.nesting) ∧ d.tree.height + r.group.negations.length ≤ maxDepth)
      (r.steps xs) (r.Supplied d.tree)

/-- The reader `r` reads the derivation as the contents of a group. -/
def FillsFrom (d : Derivation .or) (r : Reader) : Prop :=
  ∀ xs : List Lexeme, xs.map (·.token) = d.tokens →
    Limited (Shallow (d.levels r.nesting) ∧ d.tree.height ≤ maxDepth)
      (r.steps xs >>= Reader.settle) fun x => x.1.Finished ∧ x.1.expr = d.tree ∧
        x.2.enclosing = r.enclosing ∧ x.2.nesting = r.nesting

theorem readsFrom_tag (value : String) {r : Reader} (hr : r.Waits) :
    (Derivation.tag value).ReadsFrom r := by
  intro xs hxs
  obtain ⟨x, rfl, hx⟩ := List.map_eq_singleton_iff.1 hxs
  have hsteps : r.steps [x] = r.supply ⟨.tag value, 1, x.offset⟩ >>=
      fun r => .ok { r with previous := x.offset } := by
    rw [Reader.steps_cons, Reader.step_operand hr.position, Reader.readOperand, hx, bind_assoc]
    rfl
  have hfin : (⟨.tag value, 1, x.offset⟩ : Operand).Finished :=
    ⟨rfl, show 1 ≤ maxDepth by decide, .tag value⟩
  rw [hsteps]
  refine ((r.supply_spec hfin).bind (q := True) fun r' hr' => .ok (hr'.passed x.offset)).congr ?_
  simp [levels, tree, Shallow, hr.nesting]

theorem readsFrom_bang {o : Derivation .not} {r : Reader}
    (h : ∀ r : Reader, r.Waits → r.position ≠ .primary → o.ReadsFrom r)
    (hr : r.Waits) (hp : r.position ≠ .primary) : (bang o).ReadsFrom r := by
  intro xs hxs
  obtain ⟨x, ys, rfl, hx, hys⟩ := List.map_eq_cons_iff.1 hxs
  have hsteps : r.steps (x :: ys) =
      r.enter x.offset >>= fun r => (r.negated ⟨x.offset, true⟩ .operand).steps ys := by
    rw [Reader.steps_cons, Reader.step_operand hr.position, Reader.readOperand, hx]
    simp only [if_neg hp, bind_assoc]
    rfl
  rw [hsteps]
  refine ((r.enter_spec x.offset).bind
    (q := Shallow (o.levels (r.nesting + 1)) ∧
      o.tree.height + (r.group.negations.length + 1) ≤ maxDepth) ?_).congr ?_
  · rintro _ ⟨hn, rfl⟩
    have ho := h (r.deeper.negated ⟨x.offset, true⟩ .operand) ⟨by simp [Reader.negated], hn⟩
      (by simp [Reader.negated])
    exact (ho ys hys).mono fun r' => Reader.supplied_of_bang
  · simp only [levels, tree, Expr.height, shallow_cons]
    constructor
    · rintro ⟨⟨-, hs⟩, hh⟩
      exact ⟨le_of_shallow hs, hs, by omega⟩
    · rintro ⟨hn, hs, hh⟩
      exact ⟨⟨hr.nesting, hs⟩, by omega⟩

theorem readsFrom_minus {o : Derivation .primary} {r : Reader}
    (h : ∀ r : Reader, r.Waits → o.ReadsFrom r)
    (hr : r.Waits) (hp : r.position ≠ .primary) : (minus o).ReadsFrom r := by
  intro xs hxs
  obtain ⟨x, ys, rfl, hx, hys⟩ := List.map_eq_cons_iff.1 hxs
  have hsteps : r.steps (x :: ys) = (r.negated ⟨x.offset, false⟩ .primary).steps ys := by
    rw [Reader.steps_cons, Reader.step_operand hr.position, Reader.readOperand, hx]
    simp only [if_neg hp]
    rfl
  have ho := h (r.negated ⟨x.offset, false⟩ .primary) ⟨by simp [Reader.negated], hr.nesting⟩
  rw [hsteps]
  refine ((ho ys hys).mono fun r' => Reader.supplied_of_minus).congr ?_
  simp only [levels, tree, Expr.height, shallow_cons, Reader.negated, List.length_cons]
  constructor
  · rintro ⟨⟨-, hs⟩, hh⟩
    exact ⟨hs, by omega⟩
  · rintro ⟨hs, hh⟩
    exact ⟨⟨hr.nesting, hs⟩, by omega⟩

theorem readsFrom_group {inner : Derivation .or} {r : Reader}
    (h : ∀ r : Reader, r.Waits → r.position ≠ .primary → r.group = .empty → inner.FillsFrom r)
    (hr : r.Waits) : (group inner).ReadsFrom r := by
  intro xs hxs
  obtain ⟨x, rest, rfl, hx, hrest⟩ := List.map_eq_cons_iff.1 hxs
  obtain ⟨ys, zs, rfl, hys, hzs⟩ := List.map_eq_append_iff.1 hrest
  obtain ⟨z, rfl, hz⟩ := List.map_eq_singleton_iff.1 hzs
  have hsteps : r.steps (x :: (ys ++ [z])) = r.enter x.offset >>= fun r' =>
      (r'.opened x.offset).steps ys >>= (Reader.step · z) := by
    rw [Reader.steps_cons, Reader.step_operand hr.position, Reader.readOperand, hx]
    simp only [bind_assoc, Reader.steps_append]
    simp only [Reader.steps, List.foldlM_cons, List.foldlM_nil, bind_pure]
    rfl
  rw [hsteps]
  refine ((r.enter_spec x.offset).bind
    (q := (Shallow (inner.levels (r.nesting + 1)) ∧ inner.tree.height ≤ maxDepth) ∧
      inner.tree.height + r.group.negations.length ≤ maxDepth) ?_).congr ?_
  · rintro _ ⟨hn, rfl⟩
    have hi := h (r.deeper.opened x.offset) ⟨by simp [Reader.opened], hn⟩ (by simp [Reader.opened])
      rfl ys hys
    refine Reader.limited_of_settle hi (g := Reader.closed z.offset)
      (fun r last hp => Reader.step_closeParen hp hz) ?_
    rintro ⟨o, r'⟩ ⟨hf, he, hen, hne⟩
    have hc := Reader.closed_spec (r := r) z.offset hf hen hne
    rwa [he] at hc
  · simp only [levels, tree, shallow_cons, shallow_append]
    constructor
    · rintro ⟨⟨-, hs, -⟩, hh⟩
      exact ⟨le_of_shallow hs, ⟨hs, by omega⟩, hh⟩
    · rintro ⟨hn, ⟨hs, -⟩, hh⟩
      exact ⟨⟨hr.nesting, hs, hr.nesting, by simp [Shallow]⟩, hh⟩

end Derivation

end AudienceRouting
