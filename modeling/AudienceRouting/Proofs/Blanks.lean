/-
  Audience routing — white space between tokens.

  * `Seam u v`: no tag goes across the place where `u` ends and `v` begins.
  * `movedFrom start k n`: the offset `n`, moved by `k` if it is at or past `start`.

  At a seam any white space can be put in: the tokens stay, and those behind it move
  (`Token.scanFrom_insert`).  Since reading does not depend on offsets, the tree stays
  or the error moves with its token (`read_insert_blank`).
-/
import AudienceRouting.Proofs.Language
import AudienceRouting.Proofs.Moving
import AudienceRouting.Proofs.Positions

namespace AudienceRouting

/-- No tag goes across the end of `u` in `u ++ v`. -/
def Seam (u v : List Char) : Prop :=
  ∀ c ∈ u.getLast?, ∀ d ∈ v.head?, ¬ (isTagChar c = true ∧ isTagChar d = true)

def movedFrom (start k n : Nat) : Nat := if start ≤ n then n + k else n

section

variable {u v w : List Char}

theorem Seam.suffix {u' : List Char} (h : Seam u v) (hu : u' <:+ u) : Seam u' v := by
  intro c hc
  obtain ⟨front, rfl⟩ := hu
  have hne : u' ≠ [] := by
    rintro rfl
    simp at hc
  exact h c (by rwa [List.getLast?_append_of_ne_nil _ hne])

/-- White space in front of `v` keeps a seam. -/
theorem Seam.blank (h : Seam u v) (hw : ∀ c ∈ w, Text.isWhitespace c = true) :
    Seam u (w ++ v) := by
  cases w with
  | nil => exact h
  | cons c w =>
    rintro a - d hd ⟨-, htag⟩
    obtain rfl : c = d := by simpa using hd
    have hc := hw c List.mem_cons_self
    simp [(Token.isTagChar_eq htag).2] at hc

/-- What a tag takes of `u` ends with `u` at the latest. -/
theorem Seam.split_tag {c : Char} (h : Seam (c :: u) v) (hc : isTagChar c = true) :
    (u ++ v).takeWhile isTagChar = u.takeWhile isTagChar ∧
      (u ++ v).dropWhile isTagChar = u.dropWhile isTagChar ++ v := by
  induction u generalizing c with
  | nil =>
    cases v with
    | nil => simp
    | cons d v =>
      have hd : isTagChar d ≠ true := fun hd => h c (by simp) d (by simp) ⟨hc, hd⟩
      simp [hd]
  | cons d u ih =>
    by_cases hd : isTagChar d = true
    · have ih := ih (h.suffix (List.suffix_cons c _)) hd
      simp [hd, ih]
    · simp [hd]

end

namespace Token

/-! ## Scanning at a seam -/

section

variable {f : Nat → Nat} {offset start k : Nat} {u v w : List Char}

/-- The tokens, put where `f` says, or the place that stops the scanner. -/
def moveScan (f : Nat → Nat) : Except Nat (List Lexeme) → Except Nat (List Lexeme) :=
  mapBoth f (List.map (.move f))

theorem moveScan_cons (x : Lexeme) (scanned : Except Nat (List Lexeme)) :
    moveScan f (scanned.map (x :: ·)) = (moveScan f scanned).map (x.move f :: ·) := by
  cases scanned <;> rfl

/-- A text that starts later has the same tokens at later offsets. -/
theorem scanFrom_shift (text : List Char) (hf : ∀ n, offset ≤ n → f n = n + k) :
    scanFrom (offset + k) text = moveScan f (scanFrom offset text) := by
  have hoffset := hf offset (Nat.le_refl _)
  fun_induction scanFrom offset text with
  | case1 offset =>
    rw [scanFrom, ← hoffset]
    rfl
  | case2 offset c rest hc ih =>
    rw [scanFrom_white hc, Nat.add_right_comm]
    exact ih (fun n hn => hf n (by omega)) (hf _ (by omega))
  | case3 offset c rest hc token ht ih =>
    rw [scanFrom_reserved ht (by simpa using hc), Nat.add_right_comm,
      ih (fun n hn => hf n (by omega)) (hf _ (by omega)), moveScan_cons, ← hoffset]
    rfl
  | case4 offset c rest hc hr hct more =>
    rename_i ih
    have hnext : offset + k + 1 + more.length = offset + 1 + more.length + k := by omega
    rw [scanFrom_tagChar hct, hnext, ih (fun n hn => hf n (by omega)) (hf _ (by omega)),
      moveScan_cons, ← hoffset]
    rfl
  | case5 offset c rest hc hr hct =>
    rw [scanFrom_stray (by simpa using hc) hr (by simpa using hct), ← hoffset]
    rfl

theorem movedFrom_of_lt {n : Nat} (h : n < start) : movedFrom start k n = n :=
  if_neg (by omega)

theorem movedFrom_of_le {n : Nat} (h : start ≤ n) : movedFrom start k n = n + k :=
  if_pos h

/-- White space at a seam moves the tokens behind it. -/
theorem scanFrom_insert (hw : ∀ c ∈ w, Text.isWhitespace c = true) (hseam : Seam u v)
    (hstart : offset + u.length = start) :
    scanFrom offset (u ++ (w ++ v)) =
      moveScan (movedFrom start w.length) (scanFrom offset (u ++ v)) := by
  fun_induction scanFrom offset u with
  | case1 offset =>
    obtain rfl : offset = start := hstart
    rw [List.nil_append, List.nil_append, scanFrom_skip hw]
    exact scanFrom_shift v fun n hn => movedFrom_of_le hn
  | case2 offset c rest hc ih =>
    have hrest : offset + 1 + rest.length = start := by simp at hstart; omega
    rw [List.cons_append, List.cons_append, scanFrom_white hc, scanFrom_white hc]
    exact ih (hseam.suffix (List.suffix_cons c rest)) hrest
  | case3 offset c rest hc token ht ih =>
    have hrest : offset + 1 + rest.length = start := by simp at hstart; omega
    have hoffset : offset < start := by omega
    have hc : Text.isWhitespace c = false := by simpa using hc
    rw [List.cons_append, List.cons_append, scanFrom_reserved ht hc, scanFrom_reserved ht hc,
      moveScan_cons, Lexeme.move, movedFrom_of_lt hoffset,
      ih (hseam.suffix (List.suffix_cons c rest)) hrest]
  | case4 offset c rest hc hr hct more =>
    rename_i ih
    have hlength : more.length + (rest.dropWhile isTagChar).length = rest.length := by
      rw [← List.length_append]
      exact congrArg _ List.takeWhile_append_dropWhile
    have hrest : offset + 1 + more.length + (rest.dropWhile isTagChar).length = start := by
      simp at hstart
      omega
    have hoffset : offset < start := by omega
    obtain ⟨htake, hdrop⟩ := hseam.split_tag hct
    obtain ⟨htake', hdrop'⟩ := (hseam.blank hw).split_tag hct
    rw [List.cons_append, List.cons_append, scanFrom_tagChar hct, scanFrom_tagChar hct,
      htake, hdrop, htake', hdrop', moveScan_cons, Lexeme.move, movedFrom_of_lt hoffset]
    have hsuffix : rest.dropWhile isTagChar <:+ c :: rest :=
      (List.dropWhile_suffix _).trans (List.suffix_cons c rest)
    rw [ih (hseam.suffix hsuffix) hrest]
  | case5 offset c rest hc hr hct =>
    have hoffset : offset < start := by simp at hstart; omega
    have hc : Text.isWhitespace c = false := by simpa using hc
    have hct : isTagChar c = false := by simpa using hct
    rw [List.cons_append, List.cons_append, scanFrom_stray hc hr hct,
      scanFrom_stray hc hr hct]
    exact congrArg _ (movedFrom_of_lt hoffset).symm

end

end Token

/-! ## Reading at a seam -/

/-- What stands for the token before the first one is not looked at, if there is a first one. -/
theorem Reader.step_start {x : Lexeme} (hx : x.token ≠ .endOfText) (n : Nat) :
    step { start with previous := n } x = start.step x := by
  obtain ⟨token, offset⟩ := x
  cases token with
  | endOfText => exact absurd rfl hx
  | _ => rfl

/-- Reading from the start moves with the tokens, if there are any. -/
theorem Reader.run_start_move (f : Nat → Nat) {x : Lexeme} (hx : x.token ≠ .endOfText)
    (xs : List Lexeme) :
    start.run ((x :: xs).map (.move f)) = mapBoth (.move f) id (start.run (x :: xs)) := by
  rw [← run_move, List.map_cons, run, run]
  have hstart : (start.move f).step (x.move f) = start.step (x.move f) :=
    step_start (x := x.move f) hx (f 0)
  rw [hstart]

section

variable {u v w : String}

theorem scan_insert (hw : Text.isBlank w = true) (hseam : Seam u.toList v.toList) :
    Token.scan (u ++ w ++ v) =
      Token.moveScan (movedFrom u.length w.length) (Token.scan (u ++ v)) := by
  have hstart : 0 + u.toList.length = u.length := by rw [Nat.zero_add, String.length_toList]
  have hinsert := Token.scanFrom_insert (List.all_eq_true.1 hw) hseam hstart
  simpa [Token.scan, String.length_toList] using hinsert

theorem readTokens_insert (hw : Text.isBlank w = true) (hseam : Seam u.toList v.toList)
    (hb : Text.isBlank (u ++ v) = false) :
    Expr.readTokens (u ++ w ++ v) =
      mapBoth (.move (movedFrom u.length w.length)) id (Expr.readTokens (u ++ v)) := by
  rw [Expr.readTokens, Expr.readTokens, scan_insert hw hseam]
  cases hscan : Token.scan (u ++ v) with
  | error place => rfl
  | ok lexemes =>
    obtain ⟨read, last, rfl, hwritten⟩ := Token.scan_ok hscan
    cases read with
    | nil =>
      rw [Token.blank_of_scan hscan rfl] at hb
      cases hb
    | cons x read => exact Reader.run_start_move _ (hwritten x List.mem_cons_self).ne_endOfText _

theorem isBlank_insert (hw : Text.isBlank w = true) :
    Text.isBlank (u ++ w ++ v) = Text.isBlank (u ++ v) := by
  unfold Text.isBlank at hw ⊢
  simp [hw]

end

/-- **White space between tokens is insignificant.**  Where no tag goes across the end of `u`,
    white space behind it changes neither the tree that is read nor the kind of the error and
    what was expected, and the error moves by its length if it stands behind `u`. -/
theorem read_insert_blank {u w v : String} (hw : Text.isBlank w = true)
    (hseam : Seam u.toList v.toList) :
    (∃ e, Expr.read (u ++ w ++ v) = .ok e ∧ Expr.read (u ++ v) = .ok e) ∨
    ∃ error error', Expr.read (u ++ w ++ v) = .error error ∧ Expr.read (u ++ v) = .error error' ∧
      error.kind = error'.kind ∧ error.expected = error'.expected ∧
      error.offset = if u.length ≤ error'.offset then error'.offset + w.length
        else error'.offset := by
  cases hb : Text.isBlank (u ++ v) with
  | true =>
    have hb' : Text.isBlank (u ++ w ++ v) = true := by rw [isBlank_insert hw, hb]
    exact Or.inl ⟨.always, read_of_blank hb', read_of_blank hb⟩
  | false =>
    have hb' : Text.isBlank (u ++ w ++ v) = false := by rw [isBlank_insert hw, hb]
    rw [read_of_not_blank hb, read_of_not_blank hb', readTokens_insert hw hseam hb]
    cases Expr.readTokens (u ++ v) with
    | ok e => exact Or.inl ⟨e, rfl, rfl⟩
    | error p => exact Or.inr ⟨_, _, rfl, rfl, rfl, rfl, rfl⟩

/-- A line break and a tab in front of the `)` move the error there. -/
theorem read_insert_blank_before_closing : ∃ error,
    Expr.read ("(a +" ++ "\n\t" ++ ")") = .error error ∧
      error.kind = .emptyOperand ∧ error.offset = 6 := by
  have hread : Expr.read ("(a +" ++ ")") = .error ⟨⟨.missingOperand, 4⟩, "(a +)"⟩ := by
    decide +kernel
  have hseam : Seam "(a +".toList ")".toList := by
    rintro c hc d hd ⟨-, htag⟩
    obtain rfl : ')' = d := by simpa using hd
    cases htag
  rcases read_insert_blank (w := "\n\t") (by decide +kernel) hseam with ⟨e, -, he⟩ |
    ⟨error, error', h, h', hkind, -, hoffset⟩
  · rw [hread] at he
    cases he
  · rw [hread] at h'
    cases h'
    exact ⟨error, h, hkind, hoffset⟩

end AudienceRouting
