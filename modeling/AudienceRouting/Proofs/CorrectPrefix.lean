/-
  Audience routing — errors are reported at the first token that does not fit.

  * `Matched ts`: every parenthesis among `ts` has its counterpart among them.
  * `Reader.Opened enclosing read`: the groups `enclosing` are those that the tokens
    `read` leave open, innermost first, each with the offset of its `(`.
  * `UnfitAt text offset`: the tokens before `offset` are viable, but not with the one there.
  * `BreaksOff text`: the tokens of the text are viable, but not complete.
  * `OpenAt text offset`: the innermost `(` that is left open stands at `offset`.

  A reader that stops at a token makes the text unfit there, and one that is left with
  open groups knows where the innermost one starts (`opened_of_steps`).  So a text is
  refused at the first token that no expression goes on with (`first_unfit_token`).
-/
import AudienceRouting.Proofs.Continuing

namespace AudienceRouting

/-! ## Open groups -/

inductive Matched : List Token → Prop
  | nil : Matched []
  | other {ts : List Token} {t : Token} (h : Matched ts) (hopen : t ≠ .openParen)
      (hclose : t ≠ .closeParen) : Matched (ts ++ [t])
  | group {ts us : List Token} (h : Matched ts) (hinner : Matched us) :
      Matched (ts ++ .openParen :: us ++ [.closeParen])

namespace Reader

def Opened : List Enclosing → List Lexeme → Prop
  | [], read => Matched (read.map (·.token))
  | innermost :: outer, read => ∃ before x after, read = before ++ x :: after ∧
      x.token = .openParen ∧ x.offset = innermost.opening ∧ Matched (after.map (·.token)) ∧
      Opened outer before

variable {enclosing : List Enclosing} {read more : List Lexeme} {r r' : Reader} {x : Lexeme}

/-- Tokens that match when they follow matched ones leave the open groups as they are. -/
theorem Opened.append (h : Opened enclosing read)
    (hmore : ∀ ts, Matched ts → Matched (ts ++ more.map (·.token))) :
    Opened enclosing (read ++ more) := by
  cases enclosing with
  | nil =>
    rw [Opened, List.map_append]
    exact hmore _ h
  | cons innermost outer =>
    obtain ⟨before, x, after, rfl, hx, hoffset, hafter, houter⟩ := h
    refine ⟨before, x, after ++ more, by simp, hx, hoffset, ?_, houter⟩
    rw [List.map_append]
    exact hmore _ hafter

theorem Opened.other (h : Opened enclosing read) (hopen : x.token ≠ .openParen)
    (hclose : x.token ≠ .closeParen) : Opened enclosing (read ++ [x]) :=
  h.append fun _ hts => .other hts hopen hclose

theorem Opened.close {innermost : Enclosing} (h : Opened (innermost :: enclosing) read)
    (hx : x.token = .closeParen) : Opened enclosing (read ++ [x]) := by
  obtain ⟨before, y, after, rfl, hy, -, hafter, houter⟩ := h
  rw [List.append_assoc]
  refine houter.append fun ts hts => ?_
  have hgroup := Matched.group hts hafter
  simpa [hx, hy] using hgroup

/-- The step lemma. -/
theorem Opened.step (h : Opened r.enclosing read) (hmoves : Moves r x r') :
    Opened r'.enclosing (read ++ [x]) := by
  cases hmoves with
  | tag hr hx hs =>
    obtain ⟨o, rfl, -⟩ := supply_cases hs
    exact h.other (by simp [hx]) (by simp [hx])
  | opening hr hx hn => exact ⟨read, x, [], rfl, hx, rfl, .nil, h⟩
  | bang _ _ hx | minus _ _ hx | plus _ hx | without _ hx | bar _ hx =>
    exact h.other (by simp [hx]) (by simp [hx])
  | closing hl hx hi he hs =>
    obtain ⟨o, rfl, -⟩ := supply_cases hs
    rw [he] at h
    exact h.close hx

theorem opened_of_steps (h : start.steps read = .ok r)
    (hread : ∀ x ∈ read, x.token ≠ .endOfText) : Opened r.enclosing read :=
  invariant_of_steps (fun read r => Opened r.enclosing read) h hread Matched.nil Opened.step

end Reader

/-! ## What is reported -/

/-- There is a token at `offset`, and an expression can start with the tokens before it, but not
    with these and the one there. -/
def UnfitAt (text : String) (offset : Nat) : Prop :=
  ∃ lexemes, Token.scan text = .ok lexemes ∧ (∃ x ∈ lexemes, x.token.Written ∧ x.offset = offset) ∧
    Viable ((lexemes.filter (·.offset < offset)).map (·.token)) ∧
    ¬ Viable ((lexemes.filter (·.offset ≤ offset)).map (·.token))

/-- An expression can start with the tokens of the text, but they are none. -/
def BreaksOff (text : String) : Prop :=
  ∃ read last, Token.scan text = .ok (read ++ [⟨.endOfText, last⟩]) ∧
    Viable (read.map (·.token)) ∧ ¬ Complete (read.map (·.token))

/-- The innermost `(` that the text leaves open stands at `offset`. -/
def OpenAt (text : String) (offset : Nat) : Prop :=
  ∃ before x after last, Token.scan text = .ok (before ++ x :: after ++ [⟨.endOfText, last⟩]) ∧
    x.token = .openParen ∧ x.offset = offset ∧ Matched (after.map (·.token))

section

variable {text : String} {p : Problem} {r : Reader} {x : Lexeme}

/-- The reader stops at a token of the text, unless something is too deep or the text ends. -/
theorem Reader.Stops.at_token (h : r.Stops x p) (hdeep : p.fault ≠ .tooDeep)
    (hend : p.fault ≠ .unfinished) : p.offset = x.offset ∧ x.token ≠ .endOfText := by
  cases h with
  | tooDeep => exact absurd rfl hdeep
  | unfinished => exact absurd rfl hend
  | emptyGroup hx => exact ⟨rfl, by simp [hx]⟩
  | strayBehindOperator _ hx | strayBehindOperand _ hx | missingBeforeClosing _ hx =>
    exact ⟨rfl, by simp [hx]⟩
  | missingBeforeOperator _ hx =>
    refine ⟨rfl, ?_⟩
    rcases hx with hx | hx | ⟨-, hx | hx⟩ <;> simp [hx]
  | missingOperator _ hx =>
    refine ⟨rfl, ?_⟩
    rcases hx with ⟨value, hx⟩ | hx | hx <;> simp [hx]

/-- It complains about this token or about an offset that it keeps. -/
theorem Reader.Stops.place_or (h : r.Stops x p) (hend : p.fault ≠ .unfinished) :
    r.Place p.offset ∨ x.offset = p.offset ∧ x.token ≠ .endOfText := by
  by_cases hdeep : p.fault = .tooDeep
  · cases h with
    | tooDeep hplace =>
      refine hplace.imp_right fun ⟨hstarts, hoffset⟩ => ⟨hoffset, fun hx => ?_⟩
      simp [hx, Token.StartsOperand] at hstarts
    | _ => cases hdeep
  · obtain ⟨hoffset, hne⟩ := h.at_token hdeep hend
    exact Or.inr ⟨hoffset.symm, hne⟩

/-- The faults of a token that nothing goes on with. -/
def Fault.Misplaced : Fault → Prop
  | .emptyGroup | .missingOperand | .strayClosing | .missingOperator => True
  | _ => False

theorem Fault.misplaced_of_kind {f : Fault}
    (h : f.kind = .emptyOperand ∨ f.kind = .missingOperator) : f.Misplaced := by
  cases f <;> simp [kind, Misplaced] at h ⊢

theorem Fault.of_unbalanced {f : Fault} (h : f.kind = .unbalancedParens) :
    f = .strayClosing ∨ f = .unclosed := by
  cases f <;> simp [kind] at h ⊢

theorem unfitAt_of_refused (h : Refused text p) (hp : p.fault.Misplaced) :
    UnfitAt text p.offset := by
  have hdeep : p.fault ≠ .tooDeep := fun hfault => by simp [hfault, Fault.Misplaced] at hp
  have hend : p.fault ≠ .unfinished := fun hfault => by simp [hfault, Fault.Misplaced] at hp
  cases h with
  | stray => exact hp.elim
  | atEnd _ _ _ hfault =>
    rcases hfault with hfault | hfault <;> simp [hfault, Fault.Misplaced] at hp
  | @stopped before after x r p hscan hr hstops =>
    obtain ⟨hoffset, hx⟩ := hstops.at_token hdeep hend
    obtain ⟨hwritten, hx'⟩ := Token.scan_split hscan
    have hread : ∀ y ∈ before, y.token ≠ .endOfText := fun y hy => (hwritten y hy).ne_endOfText
    have hx : x.token.Written := hx'.resolve_right fun hx' => hx hx'.1
    obtain ⟨hbefore, hthere⟩ := Token.filter_offset hscan
    rw [hoffset]
    refine ⟨_, hscan, ⟨x, by simp, hx, rfl⟩, ?_, ?_⟩
    · rw [hbefore]
      exact viable_of_steps hr hread
    · rw [hthere, List.map_append, viable_append_iff hr hread]
      rintro ⟨more, hmore⟩
      exact hstops.not_completedBy hdeep hend more hmore

theorem breaksOff_of_refused (h : Refused text p) (hb : Text.isBlank text = false)
    (hp : p.fault.kind = .trailingOperator) : BreaksOff text := by
  obtain ⟨before, x, r, hends, hr, hwaits, -⟩ := steps_of_trailingOperator h hb hp
  have hread : ∀ y ∈ before ++ [x], y.token ≠ .endOfText :=
    fun y hy => (hends.written y hy).ne_endOfText
  obtain ⟨last, hscan⟩ := hends
  refine ⟨before ++ [x], last, hscan, viable_of_steps hr hread, ?_⟩
  rw [complete_iff hr hread]
  exact Reader.not_completedBy_nil_of_awaits hwaits

theorem Reader.enclosing_of_unclosed {last : Operand} (hl : r.position = .operator last)
    (h : r.finish = .error p) (hp : p.fault = .unclosed) :
    ∃ innermost outer, r.enclosing = innermost :: outer ∧ p.offset = innermost.opening := by
  unfold finish at h
  simp only [hl] at h
  rcases bind_eq_error_iff.1 h with h | ⟨whole, -, h⟩
  · obtain ⟨offset, rfl, -⟩ := closeGroup_error hl h
    cases hp
  · cases he : r.enclosing with
    | nil => simp [he] at h
    | cons innermost outer =>
      simp only [he] at h
      cases h
      exact ⟨innermost, outer, rfl, rfl⟩

theorem breaksOff_of_unclosed (h : Expr.readTokens text = .error p) (hp : p.fault = .unclosed) :
    BreaksOff text ∧ OpenAt text p.offset := by
  rcases readTokens_error h with ⟨place, -, rfl⟩ | ⟨before, x, after, r, -, -, hstops⟩ |
    ⟨read, last, r, o, hscan, hwritten, hr, ho, hfinish⟩
  · cases hp
  · cases hstops <;> cases hp
  · have hread : ∀ y ∈ read, y.token ≠ .endOfText := fun y hy => (hwritten y hy).ne_endOfText
    obtain ⟨innermost, outer, he, hoffset⟩ :=
      Reader.enclosing_of_unclosed (r := { r with previous := last }) ho hfinish hp
    have he : r.enclosing = innermost :: outer := he
    constructor
    · refine ⟨read, last, hscan, viable_of_steps hr hread, ?_⟩
      rw [complete_iff hr hread]
      exact Reader.not_completedBy_nil_of_enclosing ho (by simp [he])
    · have hopened := Reader.opened_of_steps hr hread
      rw [he] at hopened
      obtain ⟨before, x, after, rfl, hx, hplace, hafter, -⟩ := hopened
      exact ⟨before, x, after, last, hscan, hx, hplace.trans hoffset.symm, hafter⟩

/-- There is a `(` where an open group is said to start. -/
theorem OpenAt.opening {offset : Nat} (h : OpenAt text offset) :
    text.toList[offset]? = some '(' := by
  obtain ⟨before, x, after, last, hscan, hx, rfl, -⟩ := h
  have hmem : x ∈ before ++ x :: after ++ [⟨.endOfText, last⟩] := by simp
  exact (Token.getElem?_offset_iff hscan hmem rfl).2 hx

/-- What is complained about is a token, unless it is a stray character. -/
theorem written_of_refused (h : Refused text p) (hb : Text.isBlank text = false)
    (hp : p.fault ≠ .strayCharacter) :
    ∃ lexemes, Token.scan text = .ok lexemes ∧
      ∃ y ∈ lexemes, y.token.Written ∧ y.offset = p.offset := by
  by_cases hend : p.fault = .unfinished
  · obtain ⟨before, x, -, hends, -, -, hoffset⟩ :=
      steps_of_trailingOperator h hb (by rw [hend]; rfl)
    have hx := hends.written x (by simp)
    obtain ⟨last, hscan⟩ := hends
    exact ⟨_, hscan, x, by simp, hx, hoffset.symm⟩
  · cases h with
    | stray => exact absurd rfl hp
    | atEnd hscan hwritten hr _ hplace =>
      obtain ⟨y, hy, -, hoffset⟩ :=
        Reader.startsOperand_of_place hr (fun y hy => (hwritten y hy).ne_endOfText) hplace
      exact ⟨_, hscan, y, List.mem_append_left _ hy, hwritten y hy, hoffset⟩
    | @stopped before after x r p hscan hr hstops =>
      obtain ⟨hwritten, hx⟩ := Token.scan_split hscan
      rcases hstops.place_or hend with hplace | ⟨hoffset, hne⟩
      · obtain ⟨y, hy, -, hoffset⟩ :=
          Reader.startsOperand_of_place hr (fun y hy => (hwritten y hy).ne_endOfText) hplace
        exact ⟨_, hscan, y, List.mem_append_left _ hy, hwritten y hy, hoffset⟩
      · exact ⟨_, hscan, x, by simp, hx.resolve_right fun hx => hne hx.1, hoffset⟩

theorem visible_of_refused (h : Refused text p) (hb : Text.isBlank text = false) :
    ∃ c, text.toList[p.offset]? = some c ∧ Text.isWhitespace c = false := by
  by_cases hp : p.fault = .strayCharacter
  · cases h with
    | stray hscan =>
      obtain ⟨front, c, rest, htext, rfl, hc, -⟩ := Token.char_of_scanFrom_error hscan
      exact ⟨c, by simp [htext], hc⟩
    | stopped _ _ hstops => cases hstops <;> cases hp
    | atEnd _ _ _ hfault => rcases hfault with hfault | hfault <;> simp [hfault] at hp
  · obtain ⟨lexemes, hscan, y, hy, hwritten, hoffset⟩ := written_of_refused h hb hp
    rw [← hoffset]
    exact Token.visible_at_offset hscan hy hwritten

/-- A `)` that no `(` belongs to is where the error says. -/
theorem closing_of_strayClosing (h : Refused text p) (hp : p.fault = .strayClosing) :
    text.toList[p.offset]? = some ')' := by
  cases h with
  | stray => cases hp
  | atEnd _ _ _ hfault => rcases hfault with hfault | hfault <;> simp [hfault] at hp
  | stopped hscan _ hstops =>
    cases hstops with
    | strayBehindOperator _ hx | strayBehindOperand _ hx =>
      exact (Token.getElem?_offset_iff hscan (by simp) (t := .closeParen) rfl).2 hx
    | _ => cases hp

end

/-- **Errors are reported at the first token that does not fit.**  An empty operand, a missing
    operator and an unbalanced `)` are reported at a token such that an expression can start with
    the tokens before it but not with these and the token itself.  Where a trailing operator or an
    unbalanced `(` is reported, an expression can start with the tokens of the text but they are
    none by themselves, and the `(` is the innermost one that is left open.  Every error is
    reported at a visible character of the text. -/
theorem first_unfit_token {text : String} {e : SyntaxError} (h : Expr.read text = .error e) :
    (e.kind = .emptyOperand ∨ e.kind = .missingOperator ∨
      e.kind = .unbalancedParens ∧ text.toList[e.offset]? = some ')' → UnfitAt text e.offset) ∧
    (e.kind = .trailingOperator → BreaksOff text) ∧
    (e.kind = .unbalancedParens ∧ text.toList[e.offset]? = some '(' →
      BreaksOff text ∧ OpenAt text e.offset) ∧
    e.offset < text.length ∧
    ∃ c, text.toList[e.offset]? = some c ∧ Text.isWhitespace c = false := by
  obtain ⟨hb, hrefused⟩ := refused_of_read h
  obtain ⟨c, hc, hvisible⟩ := visible_of_refused hrefused hb
  have hlt : e.offset < text.length := by
    rw [← String.length_toList]
    exact (List.getElem?_eq_some_iff.1 hc).1
  have hunclosed : e.fault = .unclosed → BreaksOff text ∧ OpenAt text e.offset := by
    rw [read_of_not_blank hb] at h
    obtain ⟨p, hp, rfl⟩ := mapError_eq_error_iff.1 h
    exact breaksOff_of_unclosed hp
  refine ⟨fun hkind => unfitAt_of_refused hrefused ?_, breaksOff_of_refused hrefused hb, ?_, hlt,
    c, hc, hvisible⟩
  · rcases hkind with hkind | hkind | ⟨hkind, hclosing⟩
    · exact Fault.misplaced_of_kind (Or.inl hkind)
    · exact Fault.misplaced_of_kind (Or.inr hkind)
    · rcases Fault.of_unbalanced hkind with hfault | hfault
      · rw [hfault]
        trivial
      · have hopening := (hunclosed hfault).2.opening
        rw [hclosing] at hopening
        simp at hopening
  · rintro ⟨hkind, hopening⟩
    rcases Fault.of_unbalanced hkind with hfault | hfault
    · rw [closing_of_strayClosing hrefused hfault] at hopening
      simp at hopening
    · exact hunclosed hfault

/-- Two groups are open at the end, and the inner one is reported. -/
theorem first_unfit_token_open_group : ∃ e, Expr.read "((a) + (b" = .error e ∧
    e.kind = .unbalancedParens ∧ e.offset = 7 ∧ BreaksOff "((a) + (b" ∧ OpenAt "((a) + (b" 7 := by
  have hread : Expr.read "((a) + (b" = .error ⟨⟨.unclosed, 7⟩, "((a) + (b"⟩ := by decide +kernel
  obtain ⟨-, -, hopen, -⟩ := first_unfit_token hread
  exact ⟨_, hread, rfl, rfl, hopen ⟨rfl, by decide⟩⟩

end AudienceRouting
