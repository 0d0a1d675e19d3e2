/-
  Audience routing — what completes an expression that is read in part.

  * `Trails n ts`: the tokens `ts` may follow an operand inside of `n` groups and
    end the expression.
  * `Reader.CompletedBy r ts`: they may follow what the reader `r` has read.

  `completedBy_of_moves`: a move of the reader takes a token off the front of what
  completes it.  So whatever the reader accepts is derivable (`derivable_of_run`).
-/
import AudienceRouting.Proofs.Transitions

namespace AudienceRouting

def Trails : Nat → List Token → Prop
  | 0, ts => ∃ (a : Continuation .and) (o : Continuation .or), ts = a.tokens ++ o.tokens
  | n + 1, ts => ∃ (a : Continuation .and) (o : Continuation .or) (rest : List Token),
      ts = a.tokens ++ (o.tokens ++ .closeParen :: rest) ∧ Trails n rest

/-- What ends the innermost of `n` groups, or the text. -/
def Closes : Nat → List Token → Prop
  | 0, ts => ts = []
  | n + 1, ts => ∃ rest, ts = .closeParen :: rest ∧ Trails n rest

/-- Behind an operand the rest of its conjunction, the rest of the group, and what ends that. -/
theorem trails_iff {n : Nat} {ts : List Token} :
    Trails n ts ↔ ∃ (a : Continuation .and) (o : Continuation .or) (rest : List Token),
      ts = a.tokens ++ (o.tokens ++ rest) ∧ Closes n rest := by
  cases n with
  | zero => simp [Trails, Closes]
  | succ n =>
    constructor
    · rintro ⟨a, o, rest, rfl, h⟩
      exact ⟨a, o, _, rfl, rest, rfl, h⟩
    · rintro ⟨a, o, _, rfl, rest, rfl, h⟩
      exact ⟨a, o, rest, rfl, h⟩

theorem exists_trails : ∀ n, ∃ ts, Trails n ts
  | 0 => ⟨[], .none .and, .none .or, rfl⟩
  | n + 1 => by
    obtain ⟨rest, hrest⟩ := exists_trails n
    exact ⟨.closeParen :: rest, .none .and, .none .or, rest, rfl, hrest⟩

theorem trails_plus {n : Nat} {ts : List Token} (d : Derivation .not) (h : Trails n ts) :
    Trails n (.plus :: (d.tokens ++ ts)) := by
  obtain ⟨a, o, rest, rfl, hrest⟩ := trails_iff.1 h
  exact trails_iff.2 ⟨.plus d a, o, rest, by simp [Continuation.tokens], hrest⟩

theorem trails_minus {n : Nat} {ts : List Token} (d : Derivation .primary) (h : Trails n ts) :
    Trails n (.minus :: (d.tokens ++ ts)) := by
  obtain ⟨a, o, rest, rfl, hrest⟩ := trails_iff.1 h
  exact trails_iff.2 ⟨.minus d a, o, rest, by simp [Continuation.tokens], hrest⟩

theorem trails_bar {n : Nat} {ts : List Token} (d : Derivation .not) (h : Trails n ts) :
    Trails n (.bar :: (d.tokens ++ ts)) := by
  obtain ⟨a, o, rest, rfl, hrest⟩ := trails_iff.1 h
  exact trails_iff.2 ⟨.none .and, .bar (.all d a) o, rest,
    by simp [Continuation.tokens, Derivation.tokens], hrest⟩

/-- A group is an operand of what surrounds it. -/
theorem trails_group {n : Nat} {ts : List Token} (d : Derivation .not) (h : Trails (n + 1) ts) :
    ∃ (inner : Derivation .or) (rest : List Token),
      .openParen :: (d.tokens ++ ts) = (Derivation.group inner).tokens ++ rest ∧ Trails n rest := by
  obtain ⟨a, o, rest, rfl, hrest⟩ := h
  exact ⟨.any (.all d a) o, rest, by simp [Derivation.tokens], hrest⟩

namespace Reader

def CompletedBy (r : Reader) (ts : List Token) : Prop :=
  match r.position with
  | .operator _ => Trails r.enclosing.length ts
  | .primary => ∃ (d : Derivation .primary) (rest : List Token),
      ts = d.tokens ++ rest ∧ Trails r.enclosing.length rest
  | _ => ∃ (d : Derivation .not) (rest : List Token),
      ts = d.tokens ++ rest ∧ Trails r.enclosing.length rest

theorem completedBy_of_primary {r : Reader} (h : r.AwaitsOperand) (d : Derivation .primary)
    {rest : List Token} (hrest : Trails r.enclosing.length rest) :
    r.CompletedBy (d.tokens ++ rest) := by
  unfold CompletedBy
  cases hp : r.position with
  | operator last => exact absurd hp (h last)
  | primary => exact ⟨d, rest, rfl, hrest⟩
  | _ => exact ⟨.plain d, rest, rfl, hrest⟩

theorem completedBy_of_not {r : Reader} (h : r.AwaitsOperand) (hp : r.position ≠ .primary)
    (d : Derivation .not) {rest : List Token} (hrest : Trails r.enclosing.length rest) :
    r.CompletedBy (d.tokens ++ rest) := by
  unfold CompletedBy
  cases hq : r.position with
  | operator last => exact absurd hq (h last)
  | primary => exact absurd hq hp
  | _ => exact ⟨d, rest, rfl, hrest⟩

/-- The step lemma: what completes the reader after a token completes it before, with the token
    in front. -/
theorem completedBy_of_moves {r r' : Reader} {x : Lexeme} {ts : List Token} (h : Moves r x r')
    (hts : r'.CompletedBy ts) : r.CompletedBy (x.token :: ts) := by
  cases h with
  | @tag value r' hr hx hs =>
    obtain ⟨o, rfl, -⟩ := supply_cases hs
    rw [hx]
    exact completedBy_of_primary hr (.tag value) hts
  | opening hr hx hn =>
    obtain ⟨d, rest, rfl, hrest⟩ := hts
    obtain ⟨inner, rest, he, hrest⟩ := trails_group d hrest
    rw [hx, he]
    exact completedBy_of_primary hr (.group inner) hrest
  | bang hr hp hx hn =>
    obtain ⟨d, rest, rfl, hrest⟩ := hts
    rw [hx]
    exact completedBy_of_not hr hp (.bang d) hrest
  | minus hr hp hx =>
    obtain ⟨d, rest, rfl, hrest⟩ := hts
    rw [hx]
    exact completedBy_of_not hr hp (.minus d) hrest
  | plus hl hx =>
    obtain ⟨d, rest, rfl, hrest⟩ := hts
    rw [CompletedBy, hl, hx]
    exact trails_plus d hrest
  | without hl hx =>
    obtain ⟨d, rest, rfl, hrest⟩ := hts
    rw [CompletedBy, hl, hx]
    exact trails_minus d hrest
  | bar hl hx ha =>
    obtain ⟨d, rest, rfl, hrest⟩ := hts
    rw [CompletedBy, hl, hx]
    exact trails_bar d hrest
  | closing hl hx hi he hs =>
    obtain ⟨o, rfl, -⟩ := supply_cases hs
    rw [CompletedBy, hl, hx, he]
    exact ⟨.none .and, .none .or, ts, rfl, hts⟩

/-- The operand that is waited for can be supplied, and the groups be closed. -/
theorem exists_completedBy (r : Reader) : ∃ ts, r.CompletedBy ts := by
  obtain ⟨ts, hts⟩ := exists_trails r.enclosing.length
  rcases r.awaitsOperand_or with hr | ⟨last, hl⟩
  · exact ⟨_, completedBy_of_primary hr (.tag "a") hts⟩
  · exact ⟨ts, by rwa [CompletedBy, hl]⟩

theorem completedBy_of_steps {r r' : Reader} {xs : List Lexeme} {ts : List Token}
    (h : r.steps xs = .ok r') (hxs : ∀ x ∈ xs, x.token ≠ .endOfText) (hts : r'.CompletedBy ts) :
    r.CompletedBy (xs.map (·.token) ++ ts) := by
  induction xs generalizing r with
  | nil =>
    cases h
    exact hts
  | cons x xs ih =>
    rw [steps_cons] at h
    obtain ⟨r₁, h₁, h⟩ := bind_eq_ok_iff.1 h
    have ⟨hx, hxs⟩ := List.forall_mem_cons.1 hxs
    exact completedBy_of_moves (moves_of_step h₁ hx) (ih h hxs)

/-- A reader that may finish needs no more tokens … -/
theorem completedBy_nil_of_finish {r : Reader} {e : Expr} (h : r.finish = .ok e) :
    r.CompletedBy [] := by
  unfold finish at h
  cases hp : r.position with
  | operator last =>
    simp only [hp] at h
    obtain ⟨whole, -, h⟩ := bind_eq_ok_iff.1 h
    cases he : r.enclosing with
    | nil =>
      rw [CompletedBy, hp, he]
      exact ⟨.none .and, .none .or, rfl⟩
    | cons innermost outer => simp [he] at h
  | _ => simp [hp] at h

/-- … and neither does one that may finish at the end of the text. -/
theorem completedBy_nil_of_end {r r' : Reader} {x : Lexeme} {e : Expr}
    (hx : x.token = .endOfText) (h : r.step x = .ok r') (he : r'.finish = .ok e) :
    r.CompletedBy [] := by
  rcases r.awaitsOperand_or with hr | ⟨last, hl⟩
  · rw [step_operand hr, readOperand, hx] at h
    cases h
  · rw [step_operator hl, readOperator, hx] at h
    cases h
    exact completedBy_nil_of_finish (r := { r with previous := x.offset }) he

/-- What completes the reader before the first token is a whole expression. -/
theorem derivable_of_completedBy_start {ts : List Token} (h : start.CompletedBy ts) :
    ∃ d : Derivation .or, d.tokens = ts := by
  obtain ⟨d, rest, rfl, a, o, rfl⟩ := h
  exact ⟨.any (.all d a) o, by simp [Derivation.tokens]⟩

end Reader

/-- **Whatever the reader accepts is derivable.** -/
theorem derivable_of_run {read : List Lexeme} {last : Nat} {e : Expr}
    (h : Reader.start.run (read ++ [⟨.endOfText, last⟩]) = .ok e)
    (hread : ∀ x ∈ read, x.token ≠ .endOfText) :
    ∃ d : Derivation .or, d.tokens = read.map (·.token) := by
  rw [Reader.run_eq, Reader.steps_append, bind_assoc] at h
  obtain ⟨r, hr, h⟩ := bind_eq_ok_iff.1 h
  rw [Reader.steps_cons, bind_assoc] at h
  obtain ⟨r', hr', h⟩ := bind_eq_ok_iff.1 h
  have hnil : r.CompletedBy [] := Reader.completedBy_nil_of_end rfl hr' h
  have hstart := Reader.completedBy_of_steps hr hread hnil
  exact Reader.derivable_of_completedBy_start (by simpa using hstart)

end AudienceRouting
