/-
  Audience routing — what can go on from what was read.

  * `Reader.GoesOn r t ts`: the tokens `ts` complete the reader `r` behind the token
    `t`, one constructor for each token that fits where the reader stands.
  * `Complete ts`: the tokens `ts` are those of a whole expression.

  What completes the reader before a move is what completes it after the move, with the
  token in front (`completedBy_iff_of_moves`), and nothing that completes it starts with
  a token that it stops at (`Stops.not_completedBy`).  So what was read tells which
  tokens are viable (`viable_append_iff`) and which are complete (`complete_iff`).
-/
import AudienceRouting.Proofs.TextEnd

namespace AudienceRouting

/-! ## What can go on -/

/-- Behind a `(` there are an operand and what trails it in the group. -/
theorem exists_trails_of_group {n : Nat} (inner : Derivation .or) {rest : List Token}
    (h : Trails n rest) : ∃ (d : Derivation .not) (ts : List Token),
      inner.tokens ++ .closeParen :: rest = d.tokens ++ ts ∧ Trails (n + 1) ts := by
  cases inner with
  | any first o =>
    cases first with
    | all d a =>
      exact ⟨d, a.tokens ++ (o.tokens ++ .closeParen :: rest), by simp [Derivation.tokens],
        a, o, rest, rfl, h⟩

namespace Reader

inductive GoesOn (r : Reader) : Token → List Token → Prop
  | tag {value : String} {ts : List Token} (hr : r.AwaitsOperand)
      (h : Trails r.enclosing.length ts) : GoesOn r (.tag value) ts
  | opening {rest : List Token} (hr : r.AwaitsOperand) (d : Derivation .not)
      (h : Trails (r.enclosing.length + 1) rest) : GoesOn r .openParen (d.tokens ++ rest)
  | bang {rest : List Token} (hr : r.AwaitsOperand) (hp : r.position ≠ .primary)
      (d : Derivation .not) (h : Trails r.enclosing.length rest) :
      GoesOn r .bang (d.tokens ++ rest)
  | minus {rest : List Token} (hr : r.AwaitsOperand) (hp : r.position ≠ .primary)
      (d : Derivation .primary) (h : Trails r.enclosing.length rest) :
      GoesOn r .minus (d.tokens ++ rest)
  | plus {last : Operand} {rest : List Token} (hl : r.position = .operator last)
      (d : Derivation .not) (h : Trails r.enclosing.length rest) :
      GoesOn r .plus (d.tokens ++ rest)
  | without {last : Operand} {rest : List Token} (hl : r.position = .operator last)
      (d : Derivation .primary) (h : Trails r.enclosing.length rest) :
      GoesOn r .minus (d.tokens ++ rest)
  | bar {last : Operand} {rest : List Token} (hl : r.position = .operator last)
      (d : Derivation .not) (h : Trails r.enclosing.length rest) :
      GoesOn r .bar (d.tokens ++ rest)
  | closing {last : Operand} {outer : Enclosing} {enclosing : List Enclosing} {ts : List Token}
      (hl : r.position = .operator last) (he : r.enclosing = outer :: enclosing)
      (h : Trails enclosing.length ts) : GoesOn r .closeParen ts

variable {r r' : Reader} {x : Lexeme} {t : Token} {ts rest : List Token} {p : Problem}

theorem goesOn_of_primary (hr : r.AwaitsOperand) (d : Derivation .primary)
    (h : t :: ts = d.tokens ++ rest) (hrest : Trails r.enclosing.length rest) : r.GoesOn t ts := by
  cases d with
  | tag value =>
    obtain ⟨rfl, rfl⟩ := List.cons.inj h
    exact .tag hr hrest
  | group inner =>
    obtain ⟨d, more, he, hmore⟩ := exists_trails_of_group inner hrest
    have h : t :: ts = .openParen :: (d.tokens ++ more) := by
      rw [h, ← he]
      simp [Derivation.tokens]
    obtain ⟨rfl, rfl⟩ := List.cons.inj h
    exact .opening hr d hmore

theorem goesOn_of_not (hr : r.AwaitsOperand) (hp : r.position ≠ .primary) (d : Derivation .not)
    (h : t :: ts = d.tokens ++ rest) (hrest : Trails r.enclosing.length rest) : r.GoesOn t ts := by
  cases d with
  | plain d => exact goesOn_of_primary hr d h hrest
  | bang d =>
    obtain ⟨rfl, rfl⟩ := List.cons.inj h
    exact .bang hr hp d hrest
  | minus d =>
    obtain ⟨rfl, rfl⟩ := List.cons.inj h
    exact .minus hr hp d hrest

theorem goesOn_of_trails {last : Operand} (hl : r.position = .operator last)
    (h : Trails r.enclosing.length (t :: ts)) : r.GoesOn t ts := by
  obtain ⟨a, o, rest, h, hrest⟩ := trails_iff.1 h
  -- the tokens start with the next operand of the conjunction, else with the next
  -- alternative, else with what ends the group
  cases a with
  | plus d a =>
    simp only [Continuation.tokens, List.cons_append, List.append_assoc, List.cons.injEq] at h
    obtain ⟨rfl, rfl⟩ := h
    exact .plus hl d (trails_iff.2 ⟨a, o, rest, rfl, hrest⟩)
  | minus d a =>
    simp only [Continuation.tokens, List.cons_append, List.append_assoc, List.cons.injEq] at h
    obtain ⟨rfl, rfl⟩ := h
    exact .without hl d (trails_iff.2 ⟨a, o, rest, rfl, hrest⟩)
  | none =>
    cases o with
    | bar d o =>
      cases d with
      | all d a =>
        simp only [Continuation.tokens, Derivation.tokens, List.nil_append, List.cons_append,
          List.append_assoc, List.cons.injEq] at h
        obtain ⟨rfl, rfl⟩ := h
        exact .bar hl d (trails_iff.2 ⟨a, o, rest, rfl, hrest⟩)
    | none =>
      obtain rfl : t :: ts = rest := h
      cases he : r.enclosing with
      | nil =>
        rw [he] at hrest
        cases hrest
      | cons outer enclosing =>
        rw [he] at hrest
        obtain ⟨_, h, hrest⟩ := hrest
        obtain ⟨rfl, rfl⟩ := List.cons.inj h
        exact .closing hl he hrest

theorem goesOn_of_completedBy (h : r.CompletedBy (t :: ts)) : r.GoesOn t ts := by
  unfold CompletedBy at h
  cases hp : r.position with
  | operator last =>
    simp only [hp] at h
    exact goesOn_of_trails hp h
  | primary =>
    simp only [hp] at h
    obtain ⟨d, rest, h, hrest⟩ := h
    exact goesOn_of_primary (by simp [AwaitsOperand, hp]) d h hrest
  | afterOpening | operand =>
    simp only [hp] at h
    obtain ⟨d, rest, h, hrest⟩ := h
    exact goesOn_of_not (by simp [AwaitsOperand, hp]) (by simp [hp]) d h hrest

/-- A move takes its token off what goes on from the reader. -/
theorem GoesOn.completedBy (h : r.GoesOn x.token ts) (hmoves : Moves r x r') :
    r'.CompletedBy ts := by
  cases hmoves with
  | tag hr hx hs =>
    obtain ⟨o, rfl, -⟩ := supply_cases hs
    rw [hx] at h
    cases h with
    | tag _ h => exact h
  | opening hr hx hn =>
    rw [hx] at h
    cases h with
    | opening _ d h => exact ⟨d, _, rfl, h⟩
  | bang hr hp hx hn =>
    rw [hx] at h
    cases h with
    | bang _ _ d h => exact ⟨d, _, rfl, h⟩
  | minus hr hp hx =>
    rw [hx] at h
    cases h with
    | minus _ _ d h => exact ⟨d, _, rfl, h⟩
    | without hl => exact absurd hl (hr _)
  | plus hl hx =>
    rw [hx] at h
    cases h with
    | plus _ d h => exact ⟨d, _, rfl, h⟩
  | without hl hx =>
    rw [hx] at h
    cases h with
    | minus hr => exact absurd hl (hr _)
    | without _ d h => exact ⟨d, _, rfl, h⟩
  | bar hl hx ha =>
    rw [hx] at h
    cases h with
    | bar _ d h => exact ⟨d, _, rfl, h⟩
  | closing hl hx hi he hs =>
    obtain ⟨o, rfl, -⟩ := supply_cases hs
    rw [hx] at h
    cases h with
    | closing _ he' h =>
      obtain ⟨rfl, rfl⟩ := List.cons.inj (he.symm.trans he')
      exact h

/-- The step lemma. -/
theorem completedBy_iff_of_moves (h : Moves r x r') :
    r.CompletedBy (x.token :: ts) ↔ r'.CompletedBy ts :=
  ⟨fun hts => (goesOn_of_completedBy hts).completedBy h, completedBy_of_moves h⟩

/-- The run lemma. -/
theorem completedBy_iff_of_steps {xs : List Lexeme} (h : r.steps xs = .ok r')
    (hxs : ∀ x ∈ xs, x.token ≠ .endOfText) :
    r.CompletedBy (xs.map (·.token) ++ ts) ↔ r'.CompletedBy ts := by
  refine ⟨fun hts => ?_, completedBy_of_steps h hxs⟩
  induction xs generalizing r with
  | nil =>
    cases h
    exact hts
  | cons x xs ih =>
    rw [steps_cons] at h
    obtain ⟨r₁, h₁, h⟩ := bind_eq_ok_iff.1 h
    have ⟨hx, hxs⟩ := List.forall_mem_cons.1 hxs
    exact ih h hxs ((completedBy_iff_of_moves (moves_of_step h₁ hx)).1 hts)

theorem GoesOn.startsOperand (h : r.GoesOn t ts) (hr : r.AwaitsOperand) :
    t.StartsOperand ∧ (r.position = .primary → t ≠ .bang ∧ t ≠ .minus) := by
  cases h with
  | tag | opening => exact ⟨trivial, fun _ => ⟨by simp, by simp⟩⟩
  | bang _ hp | minus _ hp => exact ⟨trivial, fun hprimary => absurd hprimary hp⟩
  | plus hl | without hl | bar hl | closing hl => exact absurd hl (hr _)

theorem GoesOn.continues {last : Operand} (h : r.GoesOn t ts) (hl : r.position = .operator last) :
    t = .plus ∨ t = .minus ∨ t = .bar ∨ t = .closeParen ∧ r.enclosing ≠ [] := by
  cases h with
  | tag hr | opening hr | bang hr | minus hr => exact absurd hl (hr last)
  | plus | without | bar => simp
  | closing _ he => simp [he]

/-- Nothing goes on with a token that the reader stops at, unless something is too deep there or
    the text ends. -/
theorem Stops.not_completedBy (h : r.Stops x p) (hdeep : p.fault ≠ .tooDeep)
    (hend : p.fault ≠ .unfinished) (ts : List Token) : ¬ r.CompletedBy (x.token :: ts) := by
  intro hts
  have hgoes := goesOn_of_completedBy hts
  cases h with
  | tooDeep => exact hdeep rfl
  | unfinished => exact hend rfl
  | emptyGroup hx hp =>
    have hstarts := hgoes.startsOperand (by simp [AwaitsOperand, hp])
    simp [hx, Token.StartsOperand] at hstarts
  | strayBehindOperator hr hx | missingBeforeClosing hr hx =>
    have hstarts := hgoes.startsOperand hr
    simp [hx, Token.StartsOperand] at hstarts
  | missingBeforeOperator hr hx =>
    have hstarts := hgoes.startsOperand hr
    rcases hx with hx | hx | ⟨hp, hx | hx⟩
    · simp [hx, Token.StartsOperand] at hstarts
    · simp [hx, Token.StartsOperand] at hstarts
    · exact (hstarts.2 hp).1 hx
    · exact (hstarts.2 hp).2 hx
  | strayBehindOperand hl hx he =>
    have hcontinues := hgoes.continues hl
    simp [hx, he] at hcontinues
  | missingOperator hl hx =>
    have hcontinues := hgoes.continues hl
    rcases hx with ⟨value, hx⟩ | hx | hx <;> simp [hx] at hcontinues

theorem completedBy_start_iff : start.CompletedBy ts ↔ ∃ d : Derivation .or, d.tokens = ts := by
  refine ⟨derivable_of_completedBy_start, ?_⟩
  rintro ⟨d, rfl⟩
  cases d with
  | any first o =>
    cases first with
    | all d a => exact ⟨d, a.tokens ++ o.tokens, by simp [Derivation.tokens], a, o, rfl⟩

theorem not_completedBy_nil_of_awaits (hr : r.AwaitsOperand) : ¬ r.CompletedBy [] := by
  unfold CompletedBy
  cases hp : r.position with
  | operator last => exact absurd hp (hr last)
  | _ =>
    rintro ⟨d, rest, h, -⟩
    exact d.tokens_ne_nil (List.append_eq_nil_iff.1 h.symm).1

theorem not_completedBy_nil_of_enclosing {last : Operand} (hl : r.position = .operator last)
    (he : r.enclosing ≠ []) : ¬ r.CompletedBy [] := by
  obtain ⟨outer, enclosing, he⟩ := List.exists_cons_of_ne_nil he
  rw [CompletedBy, hl, he]
  rintro ⟨a, o, rest, h, -⟩
  simp at h

end Reader

/-! ## Viable and complete tokens -/

/-- The tokens are those of a whole expression. -/
def Complete (ts : List Token) : Prop := ∃ d : Derivation .or, d.tokens = ts

section

variable {read : List Lexeme} {r : Reader}

theorem viable_append_iff (h : Reader.start.steps read = .ok r)
    (hread : ∀ x ∈ read, x.token ≠ .endOfText) (ts : List Token) :
    Viable (read.map (·.token) ++ ts) ↔ ∃ more, r.CompletedBy (ts ++ more) := by
  constructor
  · rintro ⟨d, more, hd⟩
    refine ⟨more, (Reader.completedBy_iff_of_steps h hread).1 ?_⟩
    exact Reader.completedBy_start_iff.2 ⟨d, by rw [hd, List.append_assoc]⟩
  · rintro ⟨more, hmore⟩
    obtain ⟨d, hd⟩ := Reader.completedBy_start_iff.1
      ((Reader.completedBy_iff_of_steps h hread).2 hmore)
    exact ⟨d, more, by rw [hd, List.append_assoc]⟩

theorem complete_iff (h : Reader.start.steps read = .ok r)
    (hread : ∀ x ∈ read, x.token ≠ .endOfText) :
    Complete (read.map (·.token)) ↔ r.CompletedBy [] := by
  rw [← Reader.completedBy_iff_of_steps h hread, List.append_nil, Reader.completedBy_start_iff]
  rfl

end

end AudienceRouting
