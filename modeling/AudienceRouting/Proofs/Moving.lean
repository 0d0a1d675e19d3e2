/-
  Audience routing — reading does not depend on where the tokens stand.

  * `mapBoth f g x`: a result with `f` applied to the failure and `g` to the value.
  * `move f` of a lexeme, an operand, a group, a reader or a problem: every offset `n`
    in it is put to `f n`.

  Offsets are kept and reported but never looked at, so each part of the reader
  commutes with `move f`, whatever `f` is (`Reader.step_move`, `Reader.run_move`).
-/
import AudienceRouting.Expr.Reader
import AudienceRouting.Proofs.Outcome

namespace AudienceRouting

/-! ## Failures and values -/

def mapBoth {ε ε' α β : Type} (f : ε → ε') (g : α → β) : Except ε α → Except ε' β
  | .error e => .error (f e)
  | .ok a => .ok (g a)

/-- What commutes part by part commutes as a whole. -/
theorem bind_mapBoth {ε ε' α α' β β' : Type} {f : ε → ε'} {g : α → α'} {h : β → β'}
    {x : Except ε α} {x' : Except ε' α'} {k : α → Except ε β} {k' : α' → Except ε' β'}
    (hx : x' = mapBoth f g x) (hk : ∀ a, k' (g a) = mapBoth f h (k a)) :
    x' >>= k' = mapBoth f h (x >>= k) := by
  subst hx
  cases x with
  | error e => rfl
  | ok a => exact hk a

theorem ite_mapBoth {ε ε' α α' : Type} {f : ε → ε'} {g : α → α'} {c : Prop} [Decidable c]
    {x y : Except ε α} {x' y' : Except ε' α'} (hx : x' = mapBoth f g x)
    (hy : y' = mapBoth f g y) : (if c then x' else y') = mapBoth f g (if c then x else y) := by
  split
  · exact hx
  · exact hy

/-! ## Offsets -/

def Lexeme.move (f : Nat → Nat) (x : Lexeme) : Lexeme := { x with offset := f x.offset }

def Operand.move (f : Nat → Nat) (o : Operand) : Operand := { o with start := f o.start }

def Negation.move (f : Nat → Nat) (n : Negation) : Negation := { n with offset := f n.offset }

def Problem.move (f : Nat → Nat) (p : Problem) : Problem := { p with offset := f p.offset }

def Group.move (f : Nat → Nat) (g : Group) : Group where
  alternatives := g.alternatives.map (.move f)
  conjuncts := g.conjuncts.map (.move f)
  negations := g.negations.map (.move f)

def Enclosing.move (f : Nat → Nat) (e : Enclosing) : Enclosing where
  opening := f e.opening
  group := e.group.move f

def Position.move (f : Nat → Nat) : Position → Position
  | .operator last => .operator (last.move f)
  | p => p

def Reader.move (f : Nat → Nat) (r : Reader) : Reader where
  group := r.group.move f
  enclosing := r.enclosing.map (.move f)
  nesting := r.nesting
  position := r.position.move f
  previous := f r.previous

variable (f : Nat → Nat)

theorem Position.move_eq_iff {p q : Position} (hq : ∀ last, q ≠ .operator last) :
    p.move f = q ↔ p = q := by
  cases p with
  | operator last => exact iff_of_false (fun h => hq _ h.symm) fun h => hq last h.symm
  | _ => rfl

/-! ## Operands and chains -/

theorem Operand.limited_move (o : Operand) (n : Nat) :
    (o.move f).limited (f n) = mapBoth (.move f) (.move f) (o.limited n) :=
  ite_mapBoth rfl rfl

theorem negate_move (negations : List Negation) (nesting : Nat) (o : Operand) :
    negate (negations.map (.move f)) nesting (o.move f) =
      mapBoth (.move f) (Prod.map (.move f) id) (negate negations nesting o) := by
  induction negations generalizing nesting o with
  | nil => rfl
  | cons n outer ih =>
    exact bind_mapBoth
      (Operand.limited_move f ⟨.not o.expr, o.depth + 1, n.offset⟩ n.offset) fun o => ih _ o

namespace Connective

theorem chainDepth_move (c : Connective) (operands : List Operand) :
    c.chainDepth (operands.map (.move f)) = c.chainDepth operands :=
  List.foldl_map

theorem exprs_move (operands : List Operand) :
    (operands.map (Operand.move f)).map (·.expr) = operands.map (·.expr) := by
  rw [List.map_map]
  rfl

theorem close_move (c : Connective) (earlier : List Operand) (last : Operand) :
    c.close (earlier.map (.move f)) (last.move f) =
      mapBoth (.move f) (.move f) (c.close earlier last) := by
  unfold close
  rw [← List.map_reverse]
  cases earlier.reverse with
  | nil => rfl
  | cons first middle =>
    have hoperands : first.move f :: middle.map (.move f) ++ [last.move f] =
        (first :: middle ++ [last]).map (.move f) := by simp
    simp only [List.map_cons, hoperands, exprs_move, chainDepth_move]
    exact Operand.limited_move f ⟨_, _, first.start⟩ first.start

end Connective

/-! ## The reader -/

namespace Reader

theorem enter_move (r : Reader) (n : Nat) :
    (r.move f).enter (f n) = mapBoth (.move f) (.move f) (r.enter n) :=
  ite_mapBoth rfl rfl

theorem supply_move (r : Reader) (o : Operand) :
    (r.move f).supply (o.move f) = mapBoth (.move f) (.move f) (r.supply o) :=
  bind_mapBoth (negate_move f r.group.negations r.nesting o) fun _ => rfl

theorem closeGroup_move (r : Reader) (last : Operand) :
    (r.move f).closeGroup (last.move f) = mapBoth (.move f) (.move f) (r.closeGroup last) :=
  bind_mapBoth (Connective.close_move f .and r.group.conjuncts last)
    fun alternative => Connective.close_move f .or r.group.alternatives alternative

theorem readOperand_move (r : Reader) (x : Lexeme) :
    (r.move f).readOperand (x.move f) = mapBoth (.move f) (.move f) (r.readOperand x) := by
  obtain ⟨token, offset⟩ := x
  have hprimary : (r.move f).position = .primary ↔ r.position = .primary :=
    Position.move_eq_iff f (by simp)
  have hopening : (r.move f).position = .afterOpening ↔ r.position = .afterOpening :=
    Position.move_eq_iff f (by simp)
  cases token with
  | tag value => exact supply_move f r ⟨.tag value, 1, offset⟩
  | openParen => exact bind_mapBoth (enter_move f r offset) fun _ => rfl
  | bang =>
    simp only [readOperand, Lexeme.move, hprimary]
    exact ite_mapBoth rfl (bind_mapBoth (enter_move f r offset) fun _ => rfl)
  | minus =>
    simp only [readOperand, Lexeme.move, hprimary]
    exact ite_mapBoth rfl rfl
  | closeParen =>
    simp only [readOperand, Lexeme.move, hopening]
    exact ite_mapBoth rfl (ite_mapBoth rfl rfl)
  | plus | bar | endOfText => rfl

theorem readOperator_move (r : Reader) (last : Operand) (x : Lexeme) :
    (r.move f).readOperator (last.move f) (x.move f) =
      mapBoth (.move f) (.move f) (r.readOperator last x) := by
  obtain ⟨token, offset⟩ := x
  cases token with
  | plus | minus | endOfText => rfl
  | bar =>
    exact bind_mapBoth (Connective.close_move f .and r.group.conjuncts last) fun _ => rfl
  | closeParen =>
    refine bind_mapBoth (closeGroup_move f r last) fun inner => ?_
    obtain ⟨group, enclosing, nesting, position, previous⟩ := r
    cases enclosing with
    | nil => rfl
    | cons outer enclosing =>
      exact supply_move f ⟨outer.group, enclosing, nesting - 1, position, previous⟩
        { inner with start := outer.opening }
  | tag | openParen | bang => exact bind_mapBoth (closeGroup_move f r last) fun _ => rfl

/-- The step lemma. -/
theorem step_move (r : Reader) (x : Lexeme) :
    (r.move f).step (x.move f) = mapBoth (.move f) (.move f) (r.step x) := by
  obtain ⟨group, enclosing, nesting, position, previous⟩ := r
  cases position with
  | operator last => exact bind_mapBoth (readOperator_move f _ last x) fun _ => rfl
  | afterOpening | operand | primary => exact bind_mapBoth (readOperand_move f _ x) fun _ => rfl

theorem finish_move (r : Reader) : (r.move f).finish = mapBoth (.move f) id r.finish := by
  obtain ⟨group, enclosing, nesting, position, previous⟩ := r
  cases position with
  | operator last =>
    refine bind_mapBoth (closeGroup_move f ⟨group, enclosing, nesting, _, previous⟩ last)
      fun whole => ?_
    cases enclosing <;> rfl
  | afterOpening | operand | primary => rfl

/-- The run lemma. -/
theorem run_move (r : Reader) (xs : List Lexeme) :
    (r.move f).run (xs.map (.move f)) = mapBoth (.move f) id (r.run xs) := by
  induction xs generalizing r with
  | nil => exact finish_move f r
  | cons x xs ih => exact bind_mapBoth (step_move f r x) fun r => ih r

end Reader

end AudienceRouting
