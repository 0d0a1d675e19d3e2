/-
  Audience routing — what the scanner makes of a text.

  * `scan_ok`: the lexemes of a text are written tokens and, behind them, the one
    that stands for the end.
  * `scan_chars`: the characters of written tokens scan as these tokens again, if
    no two tags stand next to each other.
-/
import Mathlib.Data.List.Chain
import AudienceRouting.Proofs.FlatTree
import AudienceRouting.Proofs.Outcome

namespace AudienceRouting

namespace Token

/-- A token that stands for characters of a text. -/
def Written : Token → Prop
  | .tag value => IsTag value
  | .endOfText => False
  | _ => True

theorem Written.ne_endOfText {t : Token} (h : t.Written) : t ≠ .endOfText := by
  rintro rfl
  exact h

/-- The characters of a token. -/
def chars : Token → List Char
  | .tag value => value.toList
  | .plus => ['+']
  | .bar => ['|']
  | .bang => ['!']
  | .minus => ['-']
  | .openParen => ['(']
  | .closeParen => [')']
  | .endOfText => []

/-- Two tokens that may stand next to each other without a space: not two tags. -/
def Apart : Token → Token → Prop
  | .tag _, .tag _ => False
  | _, _ => True

theorem written_of_ofReserved? {c : Char} {t : Token} (h : ofReserved? c = some t) : t.Written := by
  unfold ofReserved? at h
  split at h <;> cases h <;> trivial

theorem isTagChar_eq {c : Char} (h : isTagChar c = true) :
    isReserved c = false ∧ Text.isWhitespace c = false := by
  simp only [isTagChar, Bool.and_eq_true, Bool.not_eq_true'] at h
  exact h.1

theorem ofReserved?_of_isTagChar {c : Char} (h : isTagChar c = true) : ofReserved? c = none := by
  have := ofReserved?_isSome c
  rw [(isTagChar_eq h).1] at this
  simpa using this

/-! ## The first token of a text -/

section

variable {c : Char} {v w : List Char}

theorem scanFrom_white (hc : Text.isWhitespace c = true) (offset : Nat) (rest : List Char) :
    scanFrom offset (c :: rest) = scanFrom (offset + 1) rest := by
  rw [scanFrom, if_pos hc]

/-- A reserved character is a token by itself. -/
theorem scanFrom_reserved {t : Token} (h : ofReserved? c = some t)
    (hc : Text.isWhitespace c = false) (offset : Nat) (rest : List Char) :
    scanFrom offset (c :: rest) = (scanFrom (offset + 1) rest).map (⟨t, offset⟩ :: ·) := by
  rw [scanFrom]
  simp [h, hc]

/-- A tag is as long as it can be. -/
theorem scanFrom_tagChar (hc : isTagChar c = true) (offset : Nat) (rest : List Char) :
    scanFrom offset (c :: rest) =
      (scanFrom (offset + 1 + (rest.takeWhile isTagChar).length) (rest.dropWhile isTagChar)).map
        (⟨.tag (String.ofList (c :: rest.takeWhile isTagChar)), offset⟩ :: ·) := by
  rw [scanFrom]
  simp [(isTagChar_eq hc).2, ofReserved?_of_isTagChar hc, hc]

theorem scanFrom_stray (hc : Text.isWhitespace c = false) (hr : ofReserved? c = none)
    (ht : isTagChar c = false) (offset : Nat) (rest : List Char) :
    scanFrom offset (c :: rest) = .error offset := by
  rw [scanFrom]
  simp [hc, hr, ht]

/-- White space in front of a text is skipped. -/
theorem scanFrom_skip (hw : ∀ c ∈ w, Text.isWhitespace c = true) (offset : Nat) :
    scanFrom offset (w ++ v) = scanFrom (offset + w.length) v := by
  induction w generalizing offset with
  | nil => rfl
  | cons c w ih =>
    have ⟨hc, hw⟩ := List.forall_mem_cons.1 hw
    rw [List.cons_append, scanFrom_white hc, ih hw, List.length_cons, Nat.add_assoc,
      Nat.add_comm 1]

/-- A blank text has no token but the end. -/
theorem scanFrom_of_blank (hw : ∀ c ∈ w, Text.isWhitespace c = true) (offset : Nat) :
    scanFrom offset w = .ok [⟨.endOfText, offset + w.length⟩] := by
  have hskip := scanFrom_skip (v := []) hw offset
  rwa [List.append_nil, scanFrom] at hskip

end

theorem scan_of_blank {text : String} (h : Text.isBlank text = true) :
    ∃ last, scan text = .ok [⟨.endOfText, last⟩] :=
  ⟨_, scanFrom_of_blank (List.all_eq_true.1 h) 0⟩

/-! ## Scanning any text -/

theorem scanFrom_ok {offset : Nat} {text : List Char} {lexemes : List Lexeme}
    (h : scanFrom offset text = .ok lexemes) :
    ∃ read last, lexemes = read ++ [⟨.endOfText, last⟩] ∧ ∀ x ∈ read, x.token.Written := by
  fun_induction scanFrom offset text generalizing lexemes with
  | case1 offset => exact ⟨[], offset, by simpa using h.symm, by simp⟩
  | case2 offset c rest hc ih => exact ih h
  | case3 offset c rest hc token ht ih =>
    obtain ⟨more, hmore, rfl⟩ := map_eq_ok_iff.1 h
    obtain ⟨read, last, rfl, hw⟩ := ih hmore
    refine ⟨⟨token, offset⟩ :: read, last, rfl, fun x hx => ?_⟩
    rcases List.mem_cons.1 hx with rfl | hx
    · exact written_of_ofReserved? ht
    · exact hw x hx
  | case4 offset c rest hc hr hct more =>
    rename_i ih
    obtain ⟨others, hothers, rfl⟩ := map_eq_ok_iff.1 h
    obtain ⟨read, last, rfl, hw⟩ := ih hothers
    refine ⟨⟨.tag (String.ofList (c :: more)), offset⟩ :: read, last, rfl, fun x hx => ?_⟩
    rcases List.mem_cons.1 hx with rfl | hx
    · refine ⟨by simp, fun d hd => ?_⟩
      rcases List.mem_cons.1 (by simpa using hd) with rfl | hd
      · exact hct
      · exact List.all_eq_true.1 List.all_takeWhile d hd
    · exact hw x hx
  | case5 => cases h

theorem scan_ok {text : String} {lexemes : List Lexeme} (h : scan text = .ok lexemes) :
    ∃ read last, lexemes = read ++ [⟨.endOfText, last⟩] ∧ ∀ x ∈ read, x.token.Written :=
  scanFrom_ok h

/-! ## Scanning the characters of tokens -/

/-- A tag ends where no tag character follows. -/
theorem scanFrom_tag {value : String} (h : IsTag value) (offset : Nat) {rest : List Char}
    (hrest : ∀ c ∈ rest.head?, isTagChar c = false) :
    scanFrom offset (value.toList ++ rest) =
      (scanFrom (offset + value.toList.length) rest).map (⟨.tag value, offset⟩ :: ·) := by
  obtain ⟨hne, hall⟩ := h
  obtain ⟨c, more, hv⟩ := List.exists_cons_of_ne_nil hne
  have hc := hall c (by simp [hv])
  have hmore : ∀ d ∈ more, isTagChar d = true := fun d hd => hall d (by simp [hv, hd])
  have htake : (more ++ rest).takeWhile isTagChar = more := by
    rw [List.takeWhile_append_of_pos hmore]
    cases rest with
    | nil => simp
    | cons d ds => simp [hrest d (by simp)]
  have hdrop : (more ++ rest).dropWhile isTagChar = rest := by
    rw [List.dropWhile_append_of_pos hmore]
    cases rest with
    | nil => simp
    | cons d ds => simp [hrest d (by simp)]
  have hs : String.ofList (c :: more) = value := by rw [← hv, String.ofList_toList]
  rw [hv, List.cons_append, scanFrom_tagChar hc, htake, hdrop, hs, List.length_cons,
    Nat.add_assoc, Nat.add_comm 1]

/-- Behind a tag, the characters of the next token end it. -/
theorem head_chars_of_apart {value : String} {t : Token} (h : Apart (.tag value) t)
    (hw : t.Written) (rest : List Char) : ∀ c ∈ (t.chars ++ rest).head?, isTagChar c = false := by
  cases t with
  | tag _ => exact h.elim
  | endOfText => exact hw.elim
  | _ =>
    intro c hc
    obtain rfl : _ = c := by simpa [chars] using hc
    decide

theorem scanFrom_chars {ts : List Token} (hw : ∀ t ∈ ts, t.Written) (ha : ts.IsChain Apart)
    (offset : Nat) : ∃ read last, scanFrom offset (ts.flatMap chars) =
      .ok (read ++ [⟨.endOfText, last⟩]) ∧ read.map (·.token) = ts := by
  induction ts generalizing offset with
  | nil => exact ⟨[], offset, by simp [scanFrom], rfl⟩
  | cons t ts ih =>
    have ih := ih (fun u hu => hw u (by simp [hu])) ha.tail
    have htoken : ∃ next, scanFrom offset (t.chars ++ ts.flatMap chars) =
        (scanFrom next (ts.flatMap chars)).map (⟨t, offset⟩ :: ·) := by
      cases t with
      | tag value =>
        refine ⟨_, scanFrom_tag (hw (.tag value) (by simp)) offset ?_⟩
        cases ts with
        | nil => simp
        | cons u us =>
          rw [List.flatMap_cons]
          exact head_chars_of_apart ha.rel (hw u (by simp)) _
      | endOfText => exact (hw .endOfText (by simp)).elim
      | _ => exact ⟨_, scanFrom_reserved rfl (by decide) offset _⟩
    obtain ⟨next, hnext⟩ := htoken
    obtain ⟨read, last, hread, rfl⟩ := ih next
    refine ⟨⟨t, offset⟩ :: read, last, ?_, rfl⟩
    rw [List.flatMap_cons, hnext, hread]
    rfl

theorem scan_chars {ts : List Token} (hw : ∀ t ∈ ts, t.Written) (ha : ts.IsChain Apart)
    {text : String} (h : text.toList = ts.flatMap chars) :
    ∃ lexemes, scan text = .ok lexemes ∧ lexemes.map (·.token) = ts ++ [.endOfText] := by
  obtain ⟨read, last, hread, rfl⟩ := scanFrom_chars hw ha 0
  exact ⟨_, by rw [scan, h, hread], by simp⟩

end Token

end AudienceRouting
