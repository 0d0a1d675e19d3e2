/-
  Audience routing — what one step of the reader does.

  * `Reader.Moves r x r'`: the ways in which the reader `r` goes on as `r'` at the
    token `x`, one constructor for each.
  * `Reader.Stops r x p`: the ways in which it stops with the problem `p` instead.
  * `Reader.Place r n`: the reader keeps the offset `n`, which it may complain about
    when a part of the expression turns out to be too deep.

  `moves_of_step`, `stops_of_step`: there are no other ways.  `invariant_of_steps`:
  what every move preserves holds after any run of tokens.
-/
import AudienceRouting.Proofs.Reading

namespace AudienceRouting

/-- Tokens that an operand can start with. -/
def Token.StartsOperand : Token → Prop
  | .tag _ | .openParen | .bang | .minus => True
  | _ => False

/-! ## Places -/

def Group.Place (g : Group) (n : Nat) : Prop :=
  (∃ o ∈ g.alternatives, o.start = n) ∨ (∃ o ∈ g.conjuncts, o.start = n) ∨
    ∃ m ∈ g.negations, m.offset = n

def Reader.Place (r : Reader) (n : Nat) : Prop :=
  r.group.Place n ∨ (∃ last, r.position = .operator last ∧ last.start = n) ∨
    ∃ e ∈ r.enclosing, e.opening = n ∨ e.group.Place n

/-! ## Negations and chains -/

theorem Operand.eq_of_limited {o o' : Operand} {offset : Nat} (h : o.limited offset = .ok o') :
    o' = o := by
  unfold Operand.limited at h
  split at h <;> cases h
  rfl

theorem Operand.eq_of_limited_error {o : Operand} {offset : Nat} {p : Problem}
    (h : o.limited offset = .error p) : p = ⟨.tooDeep, offset⟩ := by
  unfold Operand.limited at h
  split at h <;> cases h
  rfl

/-- Each `!` leaves a level, and what is negated starts at the first negation. -/
theorem negate_ok {negations : List Negation} {nesting : Nat} {o : Operand} {x : Operand × Nat}
    (h : negate negations nesting o = .ok x) :
    x.2 = nesting - (negations.filter (·.nests)).length ∧
      (x.1.start = o.start ∨ ∃ n ∈ negations, n.offset = x.1.start) := by
  induction negations generalizing nesting o with
  | nil =>
    cases h
    exact ⟨rfl, Or.inl rfl⟩
  | cons n outer ih =>
    obtain ⟨negated, hnegated, h⟩ := bind_eq_ok_iff.1 h
    obtain rfl := Operand.eq_of_limited hnegated
    obtain ⟨hnesting, hstart⟩ := ih h
    refine ⟨?_, Or.inr ?_⟩
    · rw [hnesting]
      cases hn : n.nests <;> simp [hn, Nat.sub_sub, Nat.add_comm 1]
    · rcases hstart with hstart | ⟨m, hm, hstart⟩
      · exact ⟨n, List.mem_cons_self, hstart.symm⟩
      · exact ⟨m, List.mem_cons_of_mem _ hm, hstart⟩

theorem negate_error {negations : List Negation} {nesting : Nat} {o : Operand} {p : Problem}
    (h : negate negations nesting o = .error p) :
    ∃ n ∈ negations, p = ⟨.tooDeep, n.offset⟩ := by
  induction negations generalizing nesting o with
  | nil => cases h
  | cons n outer ih =>
    rcases bind_eq_error_iff.1 h with h | ⟨negated, -, h⟩
    · exact ⟨n, List.mem_cons_self, Operand.eq_of_limited_error h⟩
    · obtain ⟨m, hm, hp⟩ := ih h
      exact ⟨m, List.mem_cons_of_mem _ hm, hp⟩

namespace Connective

variable {c : Connective} {earlier : List Operand} {last : Operand}

/-- A chain starts where one of its operands does. -/
theorem close_ok {o : Operand} (h : c.close earlier last = .ok o) :
    ∃ o' ∈ last :: earlier, o'.start = o.start := by
  unfold close at h
  split at h
  · cases h
    exact ⟨last, List.mem_cons_self, rfl⟩
  · rename_i first middle he
    have hfirst : first ∈ earlier := List.mem_reverse.1 (he ▸ List.mem_cons_self)
    exact ⟨first, List.mem_cons_of_mem _ hfirst, by rw [Operand.eq_of_limited h]⟩

theorem close_error {p : Problem} (h : c.close earlier last = .error p) :
    ∃ o ∈ last :: earlier, p = ⟨.tooDeep, o.start⟩ := by
  unfold close at h
  split at h
  · cases h
  · rename_i first middle he
    have hfirst : first ∈ earlier := List.mem_reverse.1 (he ▸ List.mem_cons_self)
    exact ⟨first, List.mem_cons_of_mem _ hfirst, Operand.eq_of_limited_error h⟩

end Connective

namespace Reader

variable {r r' : Reader} {x : Lexeme} {last : Operand} {p : Problem}

/-- The reader waits for an operand. -/
def AwaitsOperand (r : Reader) : Prop := ∀ last, r.position ≠ .operator last

theorem awaitsOperand_or (r : Reader) : r.AwaitsOperand ∨ ∃ last, r.position = .operator last := by
  by_cases h : r.AwaitsOperand
  · exact Or.inl h
  · exact Or.inr (by simpa [AwaitsOperand] using h)

theorem place_of_last_or_conjunct (hl : r.position = .operator last) {o : Operand}
    (ho : o ∈ last :: r.group.conjuncts) : r.Place o.start := by
  rcases List.mem_cons.1 ho with rfl | ho
  · exact Or.inr (Or.inl ⟨_, hl, rfl⟩)
  · exact Or.inl (Or.inr (Or.inl ⟨o, ho, rfl⟩))

theorem closeGroup_error (hl : r.position = .operator last) (h : r.closeGroup last = .error p) :
    ∃ offset, p = ⟨.tooDeep, offset⟩ ∧ r.Place offset := by
  rcases bind_eq_error_iff.1 h with h | ⟨a, ha, h⟩
  · obtain ⟨o, ho, hp⟩ := Connective.close_error h
    exact ⟨o.start, hp, place_of_last_or_conjunct hl ho⟩
  · obtain ⟨o, ho, hp⟩ := Connective.close_error h
    rcases List.mem_cons.1 ho with rfl | ho
    · obtain ⟨o', ho', hstart⟩ := Connective.close_ok ha
      exact ⟨o'.start, hstart ▸ hp, place_of_last_or_conjunct hl ho'⟩
    · exact ⟨o.start, hp, Or.inl (Or.inl ⟨o, ho, rfl⟩)⟩

/-- The reader behind the operand that it waited for: the operand itself, or its negation. -/
theorem supply_cases {o : Operand} (h : r.supply o = .ok r') :
    ∃ o', r' = r.supplied o' ∧
      (o'.start = o.start ∨ ∃ n ∈ r.group.negations, n.offset = o'.start) := by
  obtain ⟨⟨o', nesting⟩, hnegate, h⟩ := bind_eq_ok_iff.1 h
  cases h
  obtain ⟨hnesting, hstart⟩ := negate_ok hnegate
  obtain rfl : nesting = _ := hnesting
  exact ⟨o', rfl, hstart⟩

theorem supply_error {o : Operand} (h : r.supply o = .error p) :
    ∃ n ∈ r.group.negations, p = ⟨.tooDeep, n.offset⟩ := by
  rcases bind_eq_error_iff.1 h with h | ⟨x, -, h⟩
  · exact negate_error h
  · cases h

theorem enter_error {offset : Nat} (h : r.enter offset = .error p) : p = ⟨.tooDeep, offset⟩ := by
  unfold enter at h
  split at h <;> cases h
  rfl

theorem enter_cases {offset : Nat} (h : r.enter offset = .ok r') :
    r.nesting + 1 ≤ maxDepth ∧ r' = r.deeper := by
  unfold enter at h
  split at h <;> cases h
  exact ⟨‹_›, rfl⟩

/-! ## Moves -/

/-- The reader outside of a group, with the group still to be supplied. -/
def outside (r : Reader) (outer : Enclosing) (enclosing : List Enclosing) : Reader :=
  { r with group := outer.group, enclosing, nesting := r.nesting - 1 }

inductive Moves (r : Reader) (x : Lexeme) : Reader → Prop
  | tag {value : String} {r' : Reader} (hr : r.AwaitsOperand) (hx : x.token = .tag value)
      (hs : r.supply ⟨.tag value, 1, x.offset⟩ = .ok r') :
      Moves r x { r' with previous := x.offset }
  | opening (hr : r.AwaitsOperand) (hx : x.token = .openParen) (hn : r.nesting + 1 ≤ maxDepth) :
      Moves r x (r.deeper.opened x.offset)
  | bang (hr : r.AwaitsOperand) (hp : r.position ≠ .primary) (hx : x.token = .bang)
      (hn : r.nesting + 1 ≤ maxDepth) : Moves r x (r.deeper.negated ⟨x.offset, true⟩ .operand)
  /-- a `-` in front of an operand -/
  | minus (hr : r.AwaitsOperand) (hp : r.position ≠ .primary) (hx : x.token = .minus) :
      Moves r x (r.negated ⟨x.offset, false⟩ .primary)
  | plus {last : Operand} (hl : r.position = .operator last) (hx : x.token = .plus) :
      Moves r x (r.continued last r.group.negations .operand x.offset)
  /-- a `-` between operands -/
  | without {last : Operand} (hl : r.position = .operator last) (hx : x.token = .minus) :
      Moves r x (r.continued last [⟨x.offset, false⟩] .primary x.offset)
  | bar {last alternative : Operand} (hl : r.position = .operator last) (hx : x.token = .bar)
      (ha : Connective.and.close r.group.conjuncts last = .ok alternative) :
      Moves r x { r with
        group := ⟨alternative :: r.group.alternatives, [], r.group.negations⟩
        position := .operand
        previous := x.offset }
  | closing {last inner : Operand} {outer : Enclosing} {enclosing : List Enclosing} {r' : Reader}
      (hl : r.position = .operator last) (hx : x.token = .closeParen)
      (hi : r.closeGroup last = .ok inner) (he : r.enclosing = outer :: enclosing)
      (hs : (r.outside outer enclosing).supply { inner with start := outer.opening } = .ok r') :
      Moves r x { r' with previous := x.offset }

theorem moves_of_readOperand (hr : r.AwaitsOperand) (h : r.readOperand x = .ok r') :
    Moves r x { r' with previous := x.offset } := by
  unfold readOperand at h
  cases hx : x.token with
  | tag value =>
    simp only [hx] at h
    exact .tag hr hx h
  | openParen =>
    simp only [hx] at h
    obtain ⟨r₁, h₁, h⟩ := bind_eq_ok_iff.1 h
    obtain ⟨hn, rfl⟩ := enter_cases h₁
    cases h
    exact .opening hr hx hn
  | bang =>
    simp only [hx] at h
    split at h
    · cases h
    rename_i hp
    obtain ⟨r₁, h₁, h⟩ := bind_eq_ok_iff.1 h
    obtain ⟨hn, rfl⟩ := enter_cases h₁
    cases h
    exact .bang hr hp hx hn
  | minus =>
    simp only [hx] at h
    split at h
    · cases h
    rename_i hp
    cases h
    exact .minus hr hp hx
  | closeParen =>
    simp only [hx] at h
    split at h
    · cases h
    · split at h <;> cases h
  | plus | bar | endOfText => simp [hx] at h

theorem moves_of_readOperator (hl : r.position = .operator last)
    (hx : x.token ≠ .endOfText) (h : r.readOperator last x = .ok r') :
    Moves r x { r' with previous := x.offset } := by
  unfold readOperator at h
  cases ht : x.token with
  | plus =>
    simp only [ht] at h
    cases h
    exact .plus hl ht
  | minus =>
    simp only [ht] at h
    cases h
    exact .without hl ht
  | bar =>
    simp only [ht] at h
    obtain ⟨a, ha, h⟩ := bind_eq_ok_iff.1 h
    cases h
    exact .bar hl ht ha
  | closeParen =>
    simp only [ht] at h
    obtain ⟨inner, hi, h⟩ := bind_eq_ok_iff.1 h
    cases he : r.enclosing with
    | nil => simp [he] at h
    | cons outer enclosing =>
      simp only [he] at h
      exact .closing hl ht hi he h
  | tag | openParen | bang =>
    simp only [ht] at h
    obtain ⟨inner, -, h⟩ := bind_eq_ok_iff.1 h
    cases h
  | endOfText => exact absurd ht hx

theorem moves_of_step (h : r.step x = .ok r') (hx : x.token ≠ .endOfText) : Moves r x r' := by
  rcases r.awaitsOperand_or with hr | ⟨last, hl⟩
  · obtain ⟨r₁, h₁, h⟩ := bind_eq_ok_iff.1 (step_operand hr x ▸ h)
    cases h
    exact moves_of_readOperand hr h₁
  · obtain ⟨r₁, h₁, h⟩ := bind_eq_ok_iff.1 (step_operator hl x ▸ h)
    cases h
    exact moves_of_readOperator hl hx h₁

/-- What holds before the first token and is preserved by every move holds after any tokens. -/
theorem invariant_of_steps (Inv : List Lexeme → Reader → Prop) {xs : List Lexeme}
    (h : start.steps xs = .ok r) (hxs : ∀ x ∈ xs, x.token ≠ .endOfText) (hstart : Inv [] start)
    (hstep : ∀ {read r x r'}, Inv read r → Moves r x r' → Inv (read ++ [x]) r') : Inv xs r := by
  suffices hrun : ∀ (xs read : List Lexeme) (r₀ : Reader), Inv read r₀ → r₀.steps xs = .ok r →
      (∀ x ∈ xs, x.token ≠ .endOfText) → Inv (read ++ xs) r by
    exact hrun xs [] start hstart h hxs
  intro xs
  induction xs with
  | nil =>
    intro read r₀ hinv h _
    cases h
    simpa using hinv
  | cons x xs ih =>
    intro read r₀ hinv h hxs
    rw [steps_cons] at h
    obtain ⟨r₁, h₁, h⟩ := bind_eq_ok_iff.1 h
    have ⟨hx, hxs⟩ := List.forall_mem_cons.1 hxs
    rw [List.append_cons]
    exact ih _ r₁ (hstep hinv (moves_of_step h₁ hx)) h hxs

/-! ## Stops -/

inductive Stops (r : Reader) (x : Lexeme) : Problem → Prop
  | tooDeep {offset : Nat} (h : r.Place offset ∨ x.token.StartsOperand ∧ x.offset = offset) :
      Stops r x ⟨.tooDeep, offset⟩
  | emptyGroup (hx : x.token = .closeParen) (hp : r.position = .afterOpening) :
      Stops r x ⟨.emptyGroup, x.offset⟩
  | strayBehindOperator (hr : r.AwaitsOperand) (hx : x.token = .closeParen)
      (hp : r.position ≠ .afterOpening) (hn : r.nesting = 0) : Stops r x ⟨.strayClosing, x.offset⟩
  | strayBehindOperand {last : Operand} (hl : r.position = .operator last)
      (hx : x.token = .closeParen) (he : r.enclosing = []) : Stops r x ⟨.strayClosing, x.offset⟩
  | missingBeforeClosing (hr : r.AwaitsOperand) (hx : x.token = .closeParen)
      (hp : r.position ≠ .afterOpening) (hn : r.nesting ≠ 0) : Stops r x ⟨.missingOperand, x.offset⟩
  | missingBeforeOperator (hr : r.AwaitsOperand) (hx : x.token = .plus ∨ x.token = .bar ∨
      r.position = .primary ∧ (x.token = .bang ∨ x.token = .minus)) :
      Stops r x ⟨.missingOperand, x.offset⟩
  | unfinished (hr : r.AwaitsOperand) (hx : x.token = .endOfText) :
      Stops r x ⟨.unfinished, r.previous⟩
  | missingOperator {last : Operand} (hl : r.position = .operator last)
      (hx : (∃ value, x.token = .tag value) ∨ x.token = .openParen ∨ x.token = .bang) :
      Stops r x ⟨.missingOperator, x.offset⟩

theorem stops_of_readOperand (hr : r.AwaitsOperand) (h : r.readOperand x = .error p) :
    Stops r x p := by
  unfold readOperand at h
  cases hx : x.token with
  | tag value =>
    simp only [hx] at h
    obtain ⟨n, hn, rfl⟩ := supply_error h
    exact .tooDeep (Or.inl (Or.inl (Or.inr (Or.inr ⟨n, hn, rfl⟩))))
  | openParen =>
    simp only [hx] at h
    rcases bind_eq_error_iff.1 h with h | ⟨r₁, -, h⟩
    · obtain rfl := enter_error h
      exact .tooDeep (Or.inr ⟨by simp [hx, Token.StartsOperand], rfl⟩)
    · cases h
  | bang =>
    simp only [hx] at h
    split at h
    · rename_i hp
      cases h
      exact .missingBeforeOperator hr (Or.inr (Or.inr ⟨hp, Or.inl hx⟩))
    · rcases bind_eq_error_iff.1 h with h | ⟨r₁, -, h⟩
      · obtain rfl := enter_error h
        exact .tooDeep (Or.inr ⟨by simp [hx, Token.StartsOperand], rfl⟩)
      · cases h
  | minus =>
    simp only [hx] at h
    split at h
    · rename_i hp
      cases h
      exact .missingBeforeOperator hr (Or.inr (Or.inr ⟨hp, Or.inr hx⟩))
    · cases h
  | closeParen =>
    simp only [hx] at h
    split at h
    · rename_i hp
      cases h
      exact .emptyGroup hx hp
    · rename_i hp
      split at h
      · rename_i hn
        cases h
        exact .strayBehindOperator hr hx hp hn
      · rename_i hn
        cases h
        exact .missingBeforeClosing hr hx hp hn
  | plus =>
    simp only [hx] at h
    cases h
    exact .missingBeforeOperator hr (Or.inl hx)
  | bar =>
    simp only [hx] at h
    cases h
    exact .missingBeforeOperator hr (Or.inr (Or.inl hx))
  | endOfText =>
    simp only [hx] at h
    cases h
    exact .unfinished hr hx

theorem stops_of_readOperator (hl : r.position = .operator last)
    (h : r.readOperator last x = .error p) : Stops r x p := by
  unfold readOperator at h
  cases hx : x.token with
  | plus | minus | endOfText => simp [hx] at h
  | bar =>
    simp only [hx] at h
    rcases bind_eq_error_iff.1 h with h | ⟨a, -, h⟩
    · obtain ⟨o, ho, rfl⟩ := Connective.close_error h
      exact .tooDeep (Or.inl (place_of_last_or_conjunct hl ho))
    · cases h
  | closeParen =>
    simp only [hx] at h
    rcases bind_eq_error_iff.1 h with h | ⟨inner, hi, h⟩
    · obtain ⟨offset, rfl, hplace⟩ := closeGroup_error hl h
      exact .tooDeep (Or.inl hplace)
    · cases he : r.enclosing with
      | nil =>
        simp only [he] at h
        cases h
        exact .strayBehindOperand hl hx he
      | cons outer enclosing =>
        simp only [he] at h
        obtain ⟨n, hn, rfl⟩ := supply_error h
        have houter : outer ∈ r.enclosing := he ▸ List.mem_cons_self
        exact .tooDeep (Or.inl (Or.inr (Or.inr
          ⟨outer, houter, Or.inr (Or.inr (Or.inr ⟨n, hn, rfl⟩))⟩)))
  | tag | openParen | bang =>
    simp only [hx] at h
    rcases bind_eq_error_iff.1 h with h | ⟨inner, -, h⟩
    · obtain ⟨offset, rfl, hplace⟩ := closeGroup_error hl h
      exact .tooDeep (Or.inl hplace)
    · cases h
      exact .missingOperator hl (by simp [hx])

theorem stops_of_step (h : r.step x = .error p) : Stops r x p := by
  rcases r.awaitsOperand_or with hr | ⟨last, hl⟩
  · rcases bind_eq_error_iff.1 (step_operand hr x ▸ h) with h | ⟨r₁, -, h⟩
    · exact stops_of_readOperand hr h
    · cases h
  · rcases bind_eq_error_iff.1 (step_operator hl x ▸ h) with h | ⟨r₁, -, h⟩
    · exact stops_of_readOperator hl h
    · cases h

/-- Reading stops at a token, after the tokens before it were read. -/
theorem stops_of_steps {xs : List Lexeme} (h : r.steps xs = .error p) :
    ∃ before x after r', xs = before ++ x :: after ∧ r.steps before = .ok r' ∧ Stops r' x p := by
  induction xs generalizing r with
  | nil => cases h
  | cons x xs ih =>
    rw [steps_cons] at h
    rcases bind_eq_error_iff.1 h with h | ⟨r₁, h₁, h⟩
    · exact ⟨[], x, xs, r, rfl, rfl, stops_of_step h⟩
    · obtain ⟨before, y, after, r', rfl, hr', hstops⟩ := ih h
      refine ⟨x :: before, y, after, r', rfl, ?_, hstops⟩
      rw [steps_cons, h₁]
      exact hr'

/-- A reader with a last operand finishes unless something is too deep or a group is open. -/
theorem finish_error (hl : r.position = .operator last) (h : r.finish = .error p) :
    (p.fault = .tooDeep ∨ p.fault = .unclosed) ∧ r.Place p.offset := by
  unfold finish at h
  simp only [hl] at h
  rcases bind_eq_error_iff.1 h with h | ⟨whole, -, h⟩
  · obtain ⟨offset, rfl, hplace⟩ := closeGroup_error hl h
    exact ⟨Or.inl rfl, hplace⟩
  · cases he : r.enclosing with
    | nil => simp [he] at h
    | cons innermost outer =>
      simp only [he] at h
      cases h
      have hmem : innermost ∈ r.enclosing := he ▸ List.mem_cons_self
      exact ⟨Or.inr rfl, Or.inr (Or.inr ⟨innermost, hmem, Or.inl rfl⟩)⟩

end Reader

end AudienceRouting
