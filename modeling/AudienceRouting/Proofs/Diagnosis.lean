/-
  Audience routing — why a text is refused.

  * `Refused text p`: the ways in which reading `text` ends with the problem `p`: a
    character that no token has, a token at which the reader stops, or a group that
    is open or too deep at the end.

  `refused_of_read`: there are no other ways.

  A problem at a `)` is said to be an unbalanced parenthesis if as many parentheses are
  closed as opened before it, and else an empty operand, but a `!` that waits there is
  taken for an open group (`kind_at_closing`).
-/
import AudienceRouting.Proofs.Language
import AudienceRouting.Proofs.Positions
import AudienceRouting.Proofs.Tracking

namespace AudienceRouting

/-! ## Refusals -/

inductive Refused (text : String) : Problem → Prop
  | stray {place : Nat} (h : Token.scan text = .error place) : Refused text ⟨.strayCharacter, place⟩
  | stopped {before after : List Lexeme} {x : Lexeme} {r : Reader} {p : Problem}
      (h : Token.scan text = .ok (before ++ x :: after)) (hr : Reader.start.steps before = .ok r)
      (hp : r.Stops x p) : Refused text p
  | atEnd {read after : List Lexeme} {r : Reader} {p : Problem}
      (h : Token.scan text = .ok (read ++ after)) (hread : ∀ x ∈ read, x.token.Written)
      (hr : Reader.start.steps read = .ok r) (hp : p.fault = .tooDeep ∨ p.fault = .unclosed)
      (hplace : r.Place p.offset) : Refused text p

/-- Reading fails in the scanner, at a token, or behind the last operand. -/
theorem readTokens_error {text : String} {p : Problem} (h : Expr.readTokens text = .error p) :
    (∃ place, Token.scan text = .error place ∧ p = ⟨.strayCharacter, place⟩) ∨
    (∃ before x after r, Token.scan text = .ok (before ++ x :: after) ∧
      Reader.start.steps before = .ok r ∧ r.Stops x p) ∨
    ∃ read last r o, Token.scan text = .ok (read ++ [⟨.endOfText, last⟩]) ∧
      (∀ x ∈ read, x.token.Written) ∧ Reader.start.steps read = .ok r ∧
      r.position = .operator o ∧ Reader.finish { r with previous := last } = .error p := by
  unfold Expr.readTokens at h
  cases hscan : Token.scan text with
  | error place =>
    simp only [hscan] at h
    cases h
    exact Or.inl ⟨place, rfl, rfl⟩
  | ok lexemes =>
    simp only [hscan, Reader.run_eq] at h
    rcases bind_eq_error_iff.1 h with h | ⟨r', hr', h⟩
    · obtain ⟨before, x, after, r, rfl, hr, hstops⟩ := Reader.stops_of_steps h
      exact Or.inr (Or.inl ⟨before, x, after, r, rfl, hr, hstops⟩)
    · obtain ⟨read, last, rfl, hread⟩ := Token.scan_ok hscan
      rw [Reader.steps_append] at hr'
      obtain ⟨r, hr, hend⟩ := bind_eq_ok_iff.1 hr'
      rw [Reader.steps_cons] at hend
      obtain ⟨_, hend, hnil⟩ := bind_eq_ok_iff.1 hend
      cases hnil
      rcases r.awaitsOperand_or with hwaits | ⟨o, ho⟩
      · rw [Reader.step_operand hwaits] at hend
        cases hend
      · rw [Reader.step_operator ho] at hend
        cases hend
        exact Or.inr (Or.inr ⟨read, last, r, o, rfl, hread, hr, ho, h⟩)

theorem refused_of_readTokens {text : String} {p : Problem}
    (h : Expr.readTokens text = .error p) : Refused text p := by
  rcases readTokens_error h with ⟨place, hscan, rfl⟩ | ⟨before, x, after, r, hscan, hr, hstops⟩ |
    ⟨read, last, r, o, hscan, hread, hr, ho, hfinish⟩
  · exact .stray hscan
  · exact .stopped hscan hr hstops
  · obtain ⟨hp, hplace⟩ := Reader.finish_error (r := { r with previous := last }) ho hfinish
    exact .atEnd hscan hread hr hp hplace

/-- A text that is refused is not blank. -/
theorem refused_of_read {text : String} {e : SyntaxError} (h : Expr.read text = .error e) :
    Text.isBlank text = false ∧ Refused text e.toProblem := by
  cases hb : Text.isBlank text with
  | true =>
    rw [read_of_blank hb] at h
    cases h
  | false =>
    rw [read_of_not_blank hb] at h
    obtain ⟨p, hp, rfl⟩ := mapError_eq_error_iff.1 h
    exact ⟨rfl, refused_of_readTokens hp⟩

/-! ## Characters and tokens -/

namespace Text

/-- As many parentheses are closed as opened. -/
def Balanced (text : List Char) : Prop := text.count ')' = text.count '('

instance (text : List Char) : Decidable (Balanced text) :=
  inferInstanceAs (Decidable (text.count ')' = text.count '('))

/-- The last of the visible characters is a `!`, or a `-` behind one. -/
def EndsInBang (text : List Char) : Prop :=
  ['!'] <:+ visible text ∨ ['!', '-'] <:+ visible text

theorem count_visible {c : Char} (hc : isWhitespace c = false) (text : List Char) :
    (visible text).count c = text.count c :=
  List.count_filter (by simp [hc])

end Text

namespace Token

variable {text : String} {before after : List Lexeme} {x : Lexeme}

theorem count_take (h : scan text = .ok (before ++ x :: after)) {c : Char} {t : Token}
    (ht : ofReserved? c = some t) (hc : Text.isWhitespace c = false) :
    (text.toList.take x.offset).count c = (before.map (·.token)).count t := by
  have hwritten : ∀ u ∈ before.map (·.token), u.Written := List.forall_mem_map.2 (scan_split h).1
  rw [← Text.count_visible hc, visible_take h, ← count_chars ht hwritten, List.flatMap_map]

theorem endsInBang_take (h : scan text = .ok (before ++ x :: after)) :
    Text.EndsInBang (text.toList.take x.offset) ↔ EndInBang (before.map (·.token)) := by
  have hwritten : ∀ u ∈ before.map (·.token), u.Written := List.forall_mem_map.2 (scan_split h).1
  have hchars : Text.visible (text.toList.take x.offset) =
      (before.map (·.token)).flatMap chars := by
    rw [visible_take h, List.flatMap_map]
  have hbang : ∃ c, ofReserved? c = some .bang := ⟨'!', rfl⟩
  have hminus : ∃ c, ofReserved? c = some .minus := ⟨'-', rfl⟩
  rw [Text.EndsInBang, hchars]
  exact or_congr (suffix_chars_iff [.bang] (by simp [hbang]) hwritten)
    (suffix_chars_iff [.bang, .minus] (by simp [hbang, hminus]) hwritten)

end Token

/-! ## At a `)` -/

namespace Reader

variable {r : Reader} {read : List Lexeme} {x : Lexeme} {p : Problem}

/-- No group is open and no `!` waits where a `)` is said to be unbalanced. -/
theorem Stops.kind_cases (h : r.Stops x p) (htracks : r.Tracks read)
    (hx : x.token = .closeParen) (hp : p.fault ≠ .tooDeep) :
    p.fault.kind = .unbalancedParens ∧ r.enclosing = [] ∧ ¬ EndInBang (read.map (·.token)) ∨
      p.fault.kind = .emptyOperand ∧ (r.enclosing ≠ [] ∨ EndInBang (read.map (·.token))) := by
  have hnesting := htracks.nesting
  rw [bangs] at hnesting
  cases h with
  | tooDeep => exact absurd rfl hp
  | emptyGroup _ hopening => exact Or.inr ⟨rfl, Or.inl (htracks.inside hopening)⟩
  | strayBehindOperator hr _ _ hn =>
    refine Or.inl ⟨rfl, List.length_eq_zero_iff.1 (by omega), ?_⟩
    rw [← htracks.waits hr]
    omega
  | strayBehindOperand hl _ he => exact Or.inl ⟨rfl, he, htracks.not_endInBang hl⟩
  | missingBeforeClosing hr _ _ hn =>
    refine Or.inr ⟨rfl, ?_⟩
    rw [← htracks.waits hr]
    by_cases he : r.enclosing = []
    · rw [he, List.length_nil, outerBangs] at hnesting
      exact Or.inr (by omega)
    · exact Or.inl he
  | missingBeforeOperator _ hx' => simp [hx] at hx'
  | unfinished _ hx' => simp [hx] at hx'
  | missingOperator _ hx' => simp [hx] at hx'

end Reader

section Closing

variable {text : String} {before after : List Lexeme} {x : Lexeme} {r : Reader} {p : Problem}

/-- No offset that the reader keeps is that of a `)`. -/
theorem not_closing_of_place {read : List Lexeme}
    (h : Token.scan text = .ok (read ++ after)) (hread : ∀ x ∈ read, x.token ≠ .endOfText)
    (hr : Reader.start.steps read = .ok r) {n : Nat} (hplace : r.Place n) :
    text.toList[n]? ≠ some ')' := by
  obtain ⟨y, hy, hstarts, rfl⟩ := Reader.startsOperand_of_place hr hread hplace
  intro hc
  rw [Token.getElem?_offset_iff h (List.mem_append_left _ hy) (t := .closeParen) rfl] at hc
  simp [hc, Token.StartsOperand] at hstarts

/-- A reader that stops with a problem at a `)` stops there. -/
theorem closing_of_stops (h : Token.scan text = .ok (before ++ x :: after))
    (hb : Text.isBlank text = false) (hr : Reader.start.steps before = .ok r) (hp : r.Stops x p)
    (hc : text.toList[p.offset]? = some ')') :
    x.token = .closeParen ∧ p.offset = x.offset ∧ p.fault ≠ .tooDeep := by
  have hread : ∀ y ∈ before, y.token ≠ .endOfText :=
    fun y hy => ((Token.scan_split h).1 y hy).ne_endOfText
  have hat : text.toList[x.offset]? = some ')' ↔ x.token = .closeParen :=
    Token.getElem?_offset_iff h (by simp) rfl
  cases hp with
  | tooDeep hplace =>
    rcases hplace with hplace | ⟨hstarts, rfl⟩
    · exact absurd hc (not_closing_of_place h hread hr hplace)
    · simp [hat.1 hc, Token.StartsOperand] at hstarts
  | unfinished hwaits hx =>
    -- the token read last is no `)`, because an operand is waited for
    have htracks := Reader.tracks_of_steps hr hread
    rcases List.eq_nil_or_concat before with rfl | ⟨front, y, rfl⟩
    · simp [Token.blank_of_scan h hx] at hb
    rw [List.concat_eq_append] at htracks
    have hprevious : r.previous = y.offset := htracks.previous y (by simp)
    rw [hprevious, Token.getElem?_offset_iff h (by simp) (t := .closeParen) rfl] at hc
    simpa [hc, Token.isOperator] using htracks.awaitsOperand_iff.1 hwaits
  | emptyGroup | strayBehindOperator | strayBehindOperand | missingBeforeClosing |
    missingBeforeOperator | missingOperator => exact ⟨hat.1 hc, rfl, by simp⟩

/-- The reader that stops at a `)`, and the tokens before it. -/
theorem stops_of_refused_at_closing (h : Refused text p) (hb : Text.isBlank text = false)
    (hc : text.toList[p.offset]? = some ')') :
    ∃ (before after : List Lexeme) (x : Lexeme) (r : Reader),
      Token.scan text = .ok (before ++ x :: after) ∧ r.Tracks before ∧ r.Stops x p ∧
      x.token = .closeParen ∧ p.offset = x.offset ∧ p.fault ≠ .tooDeep := by
  cases h with
  | stray hscan =>
    obtain ⟨front, c, rest, htext, hoffset, -, hreserved, -⟩ := Token.char_of_scanFrom_error hscan
    rw [htext, hoffset, Nat.zero_add, List.getElem?_append_right (Nat.le_refl _),
      Nat.sub_self] at hc
    obtain rfl : c = ')' := by simpa using hc
    simp [isReserved] at hreserved
  | stopped hscan hr hp =>
    have htracks := Reader.tracks_of_steps hr
      fun y hy => ((Token.scan_split hscan).1 y hy).ne_endOfText
    exact ⟨_, _, _, _, hscan, htracks, hp, closing_of_stops hscan hb hr hp hc⟩
  | atEnd hscan hread hr _ hplace =>
    exact absurd hc (not_closing_of_place hscan (fun y hy => (hread y hy).ne_endOfText) hr hplace)

/-- The kind of an error tells whether a `(` is open behind the characters `before`. -/
def SyntaxError.TellsOpen (e : SyntaxError) (before : List Char) : Prop :=
  (e.kind = .unbalancedParens ↔ Text.Balanced before) ∧
    (¬ Text.Balanced before → e.kind = .emptyOperand)

/-- **What is said at a `)`.**  It is said to be unbalanced if no `(` is open before it and no `!`
    waits for its operand, and to stand for an empty operand otherwise.  So the kind tells whether
    a `(` is open, except behind a `!` where none is. -/
theorem kind_at_closing {e : SyntaxError} (h : Expr.read text = .error e)
    (hc : text.toList[e.offset]? = some ')') :
    let before := text.toList.take e.offset
    before.count ')' ≤ before.count '(' ∧
    (e.kind = .unbalancedParens ↔ Text.Balanced before ∧ ¬ Text.EndsInBang before) ∧
    (e.kind = .emptyOperand ↔ ¬ Text.Balanced before ∨ Text.EndsInBang before) ∧
    (e.TellsOpen before ↔ ¬ (Text.Balanced before ∧ Text.EndsInBang before)) := by
  obtain ⟨hb, hrefused⟩ := refused_of_read h
  obtain ⟨before, after, x, r, hscan, htracks, hstops, hx, hoffset, hfault⟩ :=
    stops_of_refused_at_closing hrefused hb hc
  have hclosed := Token.count_take hscan (c := ')') (t := .closeParen) rfl (by decide)
  have hopened := Token.count_take hscan (c := '(') (t := .openParen) rfl (by decide)
  rw [← hoffset] at hclosed hopened
  have hcounts := htracks.opened
  have hbalanced : Text.Balanced (text.toList.take e.offset) ↔ r.enclosing = [] := by
    rw [Text.Balanced, hclosed, hopened, ← List.length_eq_zero_iff]
    omega
  have hbang : Text.EndsInBang (text.toList.take e.offset) ↔ EndInBang (before.map (·.token)) :=
    hoffset ▸ Token.endsInBang_take hscan
  have hle : (text.toList.take e.offset).count ')' ≤ (text.toList.take e.offset).count '(' := by
    rw [hclosed, hopened]
    omega
  intro front
  rw [SyntaxError.TellsOpen, hbalanced, hbang]
  refine ⟨hle, ?_⟩
  rcases hstops.kind_cases htracks hx hfault with ⟨hkind, he, hnot⟩ | ⟨hkind, hor⟩
  · have hkind : e.kind = .unbalancedParens := hkind
    simp [hkind, he, hnot]
  · have hkind : e.kind = .emptyOperand := hkind
    by_cases he : r.enclosing = []
    · have hends := hor.resolve_left fun hne => hne he
      simp [hkind, he, hends]
    · simp [hkind, he]

theorem kind_at_closing_in_group : ∃ e, Expr.read "(a+)" = .error e ∧
    "(a+)".toList[e.offset]? = some ')' ∧ e.kind = .emptyOperand ∧
    e.TellsOpen ("(a+)".toList.take e.offset) := by
  have hread : Expr.read "(a+)" = .error ⟨⟨.missingOperand, 3⟩, "(a+)"⟩ := by decide +kernel
  have hopen : ¬ Text.Balanced ("(a+)".toList.take 3) := by decide
  obtain ⟨-, -, hkind, htells⟩ := kind_at_closing hread (by decide)
  exact ⟨_, hread, by decide, hkind.2 (Or.inl hopen), htells.2 fun h => hopen h.1⟩

/-- No `(` is open in `!)`, but the `!` passes for one. -/
theorem read_bang_closing : ∃ e, Expr.read "!)" = .error e ∧
    "!)".toList[e.offset]? = some ')' ∧ ¬ e.TellsOpen ("!)".toList.take e.offset) := by
  have hread : Expr.read "!)" = .error ⟨⟨.missingOperand, 1⟩, "!)"⟩ := by decide +kernel
  refine ⟨_, hread, by decide, fun h => ?_⟩
  have hkind := h.1.2 (by decide)
  cases hkind

end Closing

end AudienceRouting
