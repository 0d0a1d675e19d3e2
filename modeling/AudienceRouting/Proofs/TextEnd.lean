/-
  Audience routing — texts that end where an operand is waited for.

  * `EndsWith text before x`: the tokens of `text` are `before` and, as the last, `x`.
  * `Viable ts`: an expression can start with the tokens `ts`.

  A trailing operator is reported for texts that are viable and end in an operator or
  in a `(`, at the last token (`trailingOperator_at_end`).
-/
import AudienceRouting.Proofs.Diagnosis

namespace AudienceRouting

def EndsWith (text : String) (before : List Lexeme) (x : Lexeme) : Prop :=
  ∃ last, Token.scan text = .ok (before ++ [x] ++ [⟨.endOfText, last⟩])

def Viable (ts : List Token) : Prop :=
  ∃ (d : Derivation .or) (more : List Token), d.tokens = ts ++ more

/-! ## What the reader has read -/

theorem viable_of_steps {read : List Lexeme} {r : Reader} (h : Reader.start.steps read = .ok r)
    (hread : ∀ x ∈ read, x.token ≠ .endOfText) : Viable (read.map (·.token)) := by
  obtain ⟨ts, hts⟩ := r.exists_completedBy
  obtain ⟨d, hd⟩ := Reader.derivable_of_completedBy_start (Reader.completedBy_of_steps h hread hts)
  exact ⟨d, ts, hd⟩

/-- The reader reads the tokens that a derivation within the limits starts with. -/
theorem Derivation.Fits.steps {d : Derivation .or} (h : d.Fits) {xs : List Lexeme}
    {more : List Token} (hd : d.tokens = xs.map (·.token) ++ more) :
    ∃ r, Reader.start.steps xs = .ok r := by
  let rest : List Lexeme := (more ++ [Token.endOfText]).map (⟨·, 0⟩)
  have htokens : (xs ++ rest).map (·.token) = d.tokens ++ [.endOfText] := by
    simp [rest, hd, Function.comp_def]
  obtain ⟨e, he, -⟩ := (d.run_spec htokens).1 h
  rw [Reader.run_eq, Reader.steps_append, bind_assoc] at he
  obtain ⟨r, hr, -⟩ := bind_eq_ok_iff.1 he
  exact ⟨r, hr⟩

section

variable {text : String} {before : List Lexeme} {x : Lexeme}

theorem EndsWith.unique (h : EndsWith text before x) {before' : List Lexeme} {x' : Lexeme}
    (h' : EndsWith text before' x') : before = before' ∧ x = x' := by
  obtain ⟨last, h⟩ := h
  obtain ⟨last', h'⟩ := h'
  have hlexemes := List.append_singleton_inj.1 (Except.ok.inj (h.symm.trans h'))
  exact List.append_singleton_inj.1 hlexemes.1

theorem EndsWith.not_blank (h : EndsWith text before x) : Text.isBlank text = false := by
  obtain ⟨last, h⟩ := h
  cases hb : Text.isBlank text with
  | false => rfl
  | true =>
    obtain ⟨last', hlast⟩ := Token.scan_of_blank hb
    have hlength := congrArg List.length (Except.ok.inj (hlast.symm.trans h))
    simp at hlength

theorem EndsWith.written (h : EndsWith text before x) :
    ∀ y ∈ before ++ [x], y.token.Written := by
  obtain ⟨last, h⟩ := h
  exact (Token.scan_split h).1

/-- Where an operand is waited for at the end, the last token is reported. -/
theorem EndsWith.read_error {r : Reader} (h : EndsWith text before x)
    (hr : Reader.start.steps (before ++ [x]) = .ok r) (hwaits : r.AwaitsOperand) :
    Expr.read text = .error ⟨⟨.unfinished, x.offset⟩, text⟩ := by
  have hb := h.not_blank
  have htracks := Reader.tracks_of_steps hr fun y hy => (h.written y hy).ne_endOfText
  have hprevious : r.previous = x.offset := htracks.previous x (by simp)
  obtain ⟨last, h⟩ := h
  have hrun : Expr.readTokens text = .error ⟨.unfinished, x.offset⟩ := by
    rw [Expr.readTokens, h]
    change Reader.start.run _ = _
    rw [Reader.run_eq, Reader.steps_append, hr]
    change r.steps _ >>= Reader.finish = _
    rw [Reader.steps_cons, Reader.step_operand hwaits, Reader.readOperand, hprevious]
    rfl
  rw [read_of_not_blank hb, hrun]
  rfl

/-- A trailing operator is reported where an operand is waited for at the end. -/
theorem steps_of_trailingOperator {p : Problem} (h : Refused text p)
    (hb : Text.isBlank text = false) (hp : p.fault.kind = .trailingOperator) :
    ∃ before x r, EndsWith text before x ∧ Reader.start.steps (before ++ [x]) = .ok r ∧
      r.AwaitsOperand ∧ p.offset = x.offset := by
  cases h with
  | stray => cases hp
  | atEnd _ _ _ hfault =>
    rcases hfault with hfault | hfault <;> rw [hfault] at hp <;> cases hp
  | @stopped before after x r p hscan hr hstops =>
    cases hstops with
    | unfinished hwaits hx =>
      obtain ⟨hwritten, hx' | ⟨-, rfl⟩⟩ := Token.scan_split hscan
      · exact absurd hx hx'.ne_endOfText
      rcases List.eq_nil_or_concat before with rfl | ⟨front, y, rfl⟩
      · simp [Token.blank_of_scan hscan hx] at hb
      rw [List.concat_eq_append] at hscan hr hwritten
      have htracks := Reader.tracks_of_steps hr fun z hz => (hwritten z hz).ne_endOfText
      refine ⟨front, y, r, ⟨x.offset, ?_⟩, hr, hwaits, htracks.previous y (by simp)⟩
      rw [hscan, ← hx]
    | _ => cases hp

/-! ## What is reported -/

/-- The reports at the end of a text: a trailing operator only at an operator that is the last
    token, and an open group for a `(` that is the last token of what could go on. -/
structure EndDiagnosed (text : String) : Prop where
  operator : ∀ e, Expr.read text = .error e → e.kind = .trailingOperator →
    ∃ before x, EndsWith text before x ∧ x.token.isOperator = true ∧ e.offset = x.offset
  opening : ∀ before x (d : Derivation .or) more, EndsWith text before x →
    x.token = .openParen → d.Fits → d.tokens = (before ++ [x]).map (·.token) ++ more →
    ∃ e, Expr.read text = .error e ∧ e.kind = .unbalancedParens

theorem viable_of_trailingOperator {e : SyntaxError} (h : Expr.read text = .error e)
    (he : e.kind = .trailingOperator) :
    ∃ before x, EndsWith text before x ∧ e.offset = x.offset ∧
      (x.token.isOperator = true ∨ x.token = .openParen) ∧
      Viable ((before ++ [x]).map (·.token)) := by
  obtain ⟨hb, hrefused⟩ := refused_of_read h
  obtain ⟨before, x, r, hends, hr, hwaits, hoffset⟩ := steps_of_trailingOperator hrefused hb he
  have hread : ∀ y ∈ before ++ [x], y.token ≠ .endOfText :=
    fun y hy => (hends.written y hy).ne_endOfText
  exact ⟨before, x, hends, hoffset, (Reader.tracks_of_steps hr hread).awaitsOperand_iff.1 hwaits,
    viable_of_steps hr hread⟩

theorem trailingOperator_of_fits {d : Derivation .or} {more : List Token}
    (h : EndsWith text before x) (hx : x.token.isOperator = true ∨ x.token = .openParen)
    (hfit : d.Fits) (hd : d.tokens = (before ++ [x]).map (·.token) ++ more) :
    ∃ e, Expr.read text = .error e ∧ e.kind = .trailingOperator ∧ e.offset = x.offset := by
  obtain ⟨r, hr⟩ := hfit.steps hd
  have htracks := Reader.tracks_of_steps hr fun y hy => (h.written y hy).ne_endOfText
  exact ⟨_, h.read_error hr (htracks.awaitsOperand_iff.2 hx), rfl, rfl⟩

end

/-- **What is said at the end of a text.**  A trailing operator is reported only for texts that are
    viable and end in an operator or in a `(`, at this last token, and for all of them that can go
    on within the limits.  So the reports are right except for the texts that end in a `(` and are
    said to end in a trailing operator. -/
theorem trailingOperator_at_end (text : String) :
    (∀ e, Expr.read text = .error e → e.kind = .trailingOperator →
      ∃ before x, EndsWith text before x ∧ e.offset = x.offset ∧
        (x.token.isOperator = true ∨ x.token = .openParen) ∧
        Viable ((before ++ [x]).map (·.token))) ∧
    (∀ before x (d : Derivation .or) more, EndsWith text before x →
      (x.token.isOperator = true ∨ x.token = .openParen) → d.Fits →
      d.tokens = (before ++ [x]).map (·.token) ++ more →
      ∃ e, Expr.read text = .error e ∧ e.kind = .trailingOperator ∧ e.offset = x.offset) ∧
    (EndDiagnosed text ↔ ¬ ∃ before x e, EndsWith text before x ∧ x.token = .openParen ∧
      Expr.read text = .error e ∧ e.kind = .trailingOperator) := by
  refine ⟨fun e h he => viable_of_trailingOperator h he,
    fun before x d more h hx hfit hd => trailingOperator_of_fits h hx hfit hd, ?_, ?_⟩
  · rintro hdiagnosed ⟨before, x, e, hends, hx, h, he⟩
    obtain ⟨before', x', hends', hoperator, -⟩ := hdiagnosed.operator e h he
    obtain ⟨-, rfl⟩ := hends.unique hends'
    simp [hx, Token.isOperator] at hoperator
  · intro hnone
    refine ⟨fun e h he => ?_, fun before x d more hends hx hfit hd => ?_⟩
    · obtain ⟨before, x, hends, hoffset, hx, -⟩ := viable_of_trailingOperator h he
      have hoperator := hx.resolve_right fun hx => hnone ⟨before, x, e, hends, hx, h, he⟩
      exact ⟨before, x, hends, hoperator, hoffset⟩
    · obtain ⟨e, h, he, -⟩ := trailingOperator_of_fits hends (Or.inr hx) hfit hd
      exact absurd ⟨before, x, e, hends, hx, h, he⟩ hnone

/-- A `|` in an open group. -/
theorem trailingOperator_at_end_bar : ∃ e, Expr.read "a + (b |" = .error e ∧
    e.kind = .trailingOperator ∧ e.offset = 7 ∧ EndDiagnosed "a + (b |" := by
  let d : Derivation .or := .any (.all (.plain (.tag "a")) (.plus (.plain (.group
    (.any (.all (.plain (.tag "b")) (.none _)) (.bar (.all (.plain (.tag "c")) (.none _))
      (.none _))))) (.none _))) (.none _)
  let before : List Lexeme := [⟨.tag "a", 0⟩, ⟨.plus, 2⟩, ⟨.openParen, 4⟩, ⟨.tag "b", 5⟩]
  have hends : EndsWith "a + (b |" before ⟨.bar, 7⟩ := ⟨8, by decide +kernel⟩
  have hfit : d.Fits := by decide +kernel
  obtain ⟨-, hreport, hdiagnosed⟩ := trailingOperator_at_end "a + (b |"
  obtain ⟨e, h, he, hoffset⟩ := hreport before ⟨.bar, 7⟩ d [.tag "c", .closeParen] hends
    (Or.inl rfl) hfit (by decide)
  refine ⟨e, h, he, hoffset, hdiagnosed.2 ?_⟩
  rintro ⟨before', x, -, hends', hx, -⟩
  obtain ⟨-, rfl⟩ := hends.unique hends'
  cases hx

/-- The text `(` is reported to end in a trailing operator, although `(a)` goes on from it. -/
theorem read_opening : ∃ e, Expr.read "(" = .error e ∧ e.kind = .trailingOperator ∧
    ¬ EndDiagnosed "(" := by
  let d : Derivation .or := .any (.all (.plain (.group (.any (.all (.plain (.tag "a")) (.none _))
    (.none _)))) (.none _)) (.none _)
  have hread : Expr.read "(" = .error ⟨⟨.unfinished, 0⟩, "("⟩ := by decide +kernel
  have hends : EndsWith "(" [] ⟨.openParen, 0⟩ := ⟨1, by decide +kernel⟩
  refine ⟨_, hread, rfl, fun hdiagnosed => ?_⟩
  obtain ⟨e, h, he⟩ := hdiagnosed.opening [] ⟨.openParen, 0⟩ d [.tag "a", .closeParen] hends rfl
    (by decide +kernel) (by decide)
  rw [hread] at h
  cases h
  cases he

end AudienceRouting
