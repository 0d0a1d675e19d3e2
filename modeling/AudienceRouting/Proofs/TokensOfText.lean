/-
  Audience routing — the tokens of a text, wherever they stand.

  * `Token.ofText? text`: the tokens of a text without their offsets.

  There is one equation for each kind of first character.  A reserved character is a token
  by itself, so texts around it have the tokens that they have alone (`ofText?_append`).
-/
import AudienceRouting.Proofs.Blanks

namespace AudienceRouting

namespace Token

/-- The tokens of a text, the end included, unless some character stands for none. -/
def ofText? (text : List Char) : Option (List Token) :=
  (scanFrom 0 text).toOption.map (List.map (·.token))

variable {c : Char} {text rest u v : List Char} {t : Token}

theorem ofText?_eq_some_iff {ts : List Token} :
    ofText? text = some ts ↔ ∃ lexemes, scanFrom 0 text = .ok lexemes ∧
      lexemes.map (·.token) = ts := by
  unfold ofText?
  cases scanFrom 0 text <;> simp [Except.toOption]

/-- Where a text starts makes no difference to its tokens. -/
theorem ofText?_eq (offset : Nat) (text : List Char) :
    ofText? text = (scanFrom offset text).toOption.map (List.map (·.token)) := by
  have hshift : scanFrom (0 + offset) text = moveScan (· + offset) (scanFrom 0 text) :=
    scanFrom_shift text fun _ _ => rfl
  rw [Nat.zero_add] at hshift
  rw [hshift, ofText?]
  cases scanFrom 0 text with
  | error place => rfl
  | ok lexemes => simp [moveScan, mapBoth, Except.toOption, Function.comp_def, Lexeme.move]

/-! ## The first token -/

theorem ofText?_nil : ofText? [] = some [.endOfText] := by
  simp [ofText?, scanFrom, Except.toOption]

theorem ofText?_white (hc : Text.isWhitespace c = true) : ofText? (c :: rest) = ofText? rest := by
  rw [ofText?, scanFrom_white hc, ← ofText?_eq]

/-- One more token in front. -/
theorem ofText?_cons (offset : Nat) (x : Lexeme) :
    ((scanFrom offset rest).map (x :: ·)).toOption.map (List.map (·.token)) =
      (ofText? rest).map (x.token :: ·) := by
  rw [ofText?_eq offset]
  cases scanFrom offset rest <;> rfl

theorem isWhitespace_of_ofReserved? (h : ofReserved? c = some t) :
    Text.isWhitespace c = false := by
  unfold ofReserved? at h
  split at h <;> first | decide | cases h

theorem ofText?_reserved (h : ofReserved? c = some t) :
    ofText? (c :: rest) = (ofText? rest).map (t :: ·) := by
  rw [ofText?, scanFrom_reserved h (isWhitespace_of_ofReserved? h), ofText?_cons]

theorem ofText?_tagChar (hc : isTagChar c = true) :
    ofText? (c :: rest) = (ofText? (rest.dropWhile isTagChar)).map
      (.tag (String.ofList (c :: rest.takeWhile isTagChar)) :: ·) := by
  rw [ofText?, scanFrom_tagChar hc, ofText?_cons]

/-- A tag ends where no tag character follows. -/
theorem ofText?_tag {more : List Char} (hc : isTagChar c = true)
    (hmore : ∀ d ∈ more, isTagChar d = true) (hrest : ∀ d ∈ rest.head?, isTagChar d = false) :
    ofText? (c :: (more ++ rest)) =
      (ofText? rest).map (.tag (String.ofList (c :: more)) :: ·) := by
  have htag : IsTag (String.ofList (c :: more)) :=
    ⟨by simp, by simpa using ⟨hc, hmore⟩⟩
  have hscan := scanFrom_tag htag 0 hrest
  rw [String.toList_ofList, List.cons_append] at hscan
  rw [ofText?, hscan, ofText?_cons]

theorem ofText?_stray (hc : Text.isWhitespace c = false) (hr : ofReserved? c = none)
    (ht : isTagChar c = false) : ofText? (c :: rest) = none := by
  rw [ofText?, scanFrom_stray hc hr ht]
  rfl

/-- White space in front of a text has no tokens. -/
theorem ofText?_dropWhile (text : List Char) :
    ofText? (text.dropWhile Text.isWhitespace) = ofText? text := by
  induction text with
  | nil => rfl
  | cons c rest ih =>
    cases hc : Text.isWhitespace c with
    | true => rw [List.dropWhile_cons_of_pos hc, ofText?_white hc, ih]
    | false => rw [List.dropWhile_cons_of_neg (by simp [hc])]

/-- To show something of every text, take it apart token by token. -/
@[elab_as_elim]
theorem textInduct {motive : List Char → Prop} (nil : motive [])
    (white : ∀ c rest, Text.isWhitespace c = true → motive rest → motive (c :: rest))
    (reserved : ∀ c rest t, ofReserved? c = some t → motive rest → motive (c :: rest))
    (tagChar : ∀ c rest, isTagChar c = true → motive (rest.dropWhile isTagChar) →
      motive (c :: rest))
    (stray : ∀ c rest, Text.isWhitespace c = false → ofReserved? c = none →
      isTagChar c = false → motive (c :: rest))
    (text : List Char) : motive text := by
  generalize 0 = offset
  induction offset, text using scanFrom.induct with
  | case1 => exact nil
  | case2 offset c rest hc ih => exact white c rest hc ih
  | case3 offset c rest hc t ht ih => exact reserved c rest t ht ih
  | case4 offset c rest hc hr hct more ih => exact tagChar c rest hct ih
  | case5 offset c rest hc hr hct => exact stray c rest (by simpa using hc) hr (by simpa using hct)

/-! ## Texts around a reserved character -/

theorem seam_reserved (h : ofReserved? c = some t) : Seam u (c :: v) := by
  rintro a - d hd ⟨-, htag⟩
  obtain rfl : c = d := by simpa using hd
  rw [ofReserved?_of_isTagChar htag] at h
  cases h

/-- A first token that is not the end is the first one before the end. -/
theorem exists_of_map_cons {rest : Option (List Token)} {us : List Token}
    (ht : t ≠ .endOfText) (h : rest.map (t :: ·) = some (us ++ [.endOfText])) :
    ∃ us', us = t :: us' ∧ rest = some (us' ++ [.endOfText]) := by
  obtain ⟨ts, rfl, hts⟩ := Option.map_eq_some_iff.1 h
  cases us with
  | nil =>
    obtain ⟨rfl, -⟩ := List.cons.inj hts
    exact absurd rfl ht
  | cons u us' =>
    obtain ⟨rfl, rfl⟩ := List.cons.inj hts
    exact ⟨us', rfl, rfl⟩

/-- The tokens before a reserved character, its own, and those behind it. -/
theorem ofText?_append (hc : ofReserved? c = some t) {us : List Token}
    (hu : ofText? u = some (us ++ [.endOfText])) :
    ofText? (u ++ c :: v) = (ofText? v).map (us ++ t :: ·) := by
  induction u using textInduct generalizing us with
  | nil =>
    obtain rfl : us = [] := by simpa [ofText?_nil] using hu
    exact ofText?_reserved hc
  | white d rest hd ih =>
    rw [ofText?_white hd] at hu
    rw [List.cons_append, ofText?_white hd, ih hu]
  | reserved d rest s hs ih =>
    rw [ofText?_reserved hs] at hu
    obtain ⟨us', rfl, hrest⟩ := exists_of_map_cons (written_of_ofReserved? hs).ne_endOfText hu
    rw [List.cons_append, ofText?_reserved hs, ih hrest, Option.map_map]
    rfl
  | tagChar d rest hd ih =>
    rw [ofText?_tagChar hd] at hu
    obtain ⟨us', rfl, hrest⟩ := exists_of_map_cons (by simp) hu
    obtain ⟨htake, hdrop⟩ := (seam_reserved (u := d :: rest) (v := v) hc).split_tag hd
    rw [List.cons_append, ofText?_tagChar hd, htake, hdrop, ih hrest, Option.map_map]
    rfl
  | stray d rest hd hr ht =>
    rw [ofText?_stray hd hr ht] at hu
    cases hu

end Token

/-- A text that spells a derivation has its tokens. -/
theorem Derivation.spells_iff {p : Part} {d : Derivation p} {text : String} :
    d.Spells text ↔ Token.ofText? text.toList = some (d.tokens ++ [.endOfText]) :=
  Token.ofText?_eq_some_iff.symm

end AudienceRouting
