/-
  Audience routing — where the caret of an error points.

  * `Text.lastLine text`: what stands behind the last line break of a text.
  * `SyntaxError.CaretBelow e n`: the caret that is shown with the error `e` stands
    below the character `n` of the text, in the line below and in the same column.

  The offset of an error is that of a visible character (`visible_of_refused`), and the
  caret is shown in the column of this offset, below the last line.  So it stands below the
  offending character if and only if the text is a single line (`caret_below_offending`).
-/
import Mathlib.Data.List.DropRight
import AudienceRouting.Proofs.CorrectPrefix

namespace AudienceRouting

/-! ## The last line -/

namespace Text

/-- What stands behind the last line break. -/
def lastLine (text : List Char) : List Char := text.rtakeWhile (· ≠ '\n')

theorem not_mem_lastLine (text : List Char) : '\n' ∉ lastLine text := by
  intro h
  simpa using List.mem_rtakeWhile_imp h

theorem lastLine_eq_self_iff {text : List Char} : lastLine text = text ↔ '\n' ∉ text := by
  rw [lastLine, List.rtakeWhile_eq_self_iff]
  constructor
  · intro h hmem
    simpa using h '\n' hmem
  · intro h c hc
    simpa using ne_of_mem_of_not_mem hc h

/-- A text is its last line and what ends with the line break before it, if there is one. -/
theorem exists_append_lastLine (text : List Char) :
    ∃ front, text = front ++ lastLine text ∧ ∀ c ∈ front.getLast?, c = '\n' := by
  refine ⟨text.rdropWhile (· ≠ '\n'), List.rdropWhile_append_rtakeWhile.symm, fun c hc => ?_⟩
  obtain ⟨hne, rfl⟩ := List.mem_getLast?_eq_getLast hc
  simpa using List.rdropWhile_last_not (· ≠ '\n') text hne

theorem lastLine_append {front line : List Char} (hfront : ∀ c ∈ front.getLast?, c = '\n')
    (hline : '\n' ∉ line) : lastLine (front ++ line) = line := by
  induction line using List.reverseRecOn with
  | nil =>
    rw [lastLine, List.append_nil, List.rtakeWhile_eq_nil_iff]
    intro hne
    simpa using hfront _ (List.getLast_mem_getLast? hne)
  | append_singleton line c ih =>
    have ⟨hline, hc⟩ : '\n' ∉ line ∧ '\n' ≠ c := by simpa [not_or] using hline
    rw [← List.append_assoc, lastLine, List.rtakeWhile_concat_pos _ _ _ (by simpa using hc.symm)]
    exact congrArg (· ++ [c]) (ih hline)

end Text

/-! ## The caret -/

namespace SyntaxError

variable {e : SyntaxError} {n : Nat}

/-- Below the last line of the text, in the column of the character `n` of the text, there is the
    caret with only spaces before it. -/
def CaretBelow (e : SyntaxError) (n : Nat) : Prop :=
  ∃ (front line message : List Char) (column : Nat), e.expression.toList = front ++ line ∧
    (∀ c ∈ front.getLast?, c = '\n') ∧ '\n' ∉ line ∧
    e.caret.toList = front ++ line ++ '\n' :: (List.replicate column ' ' ++ '^' :: message) ∧
    column < line.length ∧ n = front.length + column

/-- The lines of the text, and below them the caret in the column of the offset. -/
theorem toList_caret (e : SyntaxError) : e.caret.toList = e.expression.toList ++
    '\n' :: (List.replicate e.offset ' ' ++ '^' :: ' ' :: e.message.toList) := by
  simp [caret]

theorem column_unique {i j : Nat} {cs ds : List Char}
    (h : List.replicate i ' ' ++ '^' :: cs = List.replicate j ' ' ++ '^' :: ds) : i = j := by
  have hspaces : ∀ (k : Nat) (es : List Char),
      (List.replicate k ' ' ++ '^' :: es).takeWhile (· = ' ') = List.replicate k ' ' := by
    intro k es
    rw [List.takeWhile_append_of_pos (by simp)]
    simp
  simpa [hspaces] using congrArg (fun es => (es.takeWhile (· = ' ')).length) h

/-- The caret stands below a character of the last line, if this line is long enough. -/
theorem caretBelow_iff : e.CaretBelow n ↔
    e.offset < (Text.lastLine e.expression.toList).length ∧
      n + (Text.lastLine e.expression.toList).length =
        e.expression.toList.length + e.offset := by
  constructor
  · rintro ⟨front, line, message, column, htext, hfront, hline, hcaret, hcolumn, rfl⟩
    rw [toList_caret, htext] at hcaret
    have hsame := column_unique (List.cons.inj (List.append_cancel_left hcaret)).2
    obtain rfl : e.offset = column := hsame
    rw [htext, Text.lastLine_append hfront hline, List.length_append]
    exact ⟨hcolumn, by omega⟩
  · rintro ⟨hcolumn, hn⟩
    obtain ⟨front, htext, hfront⟩ := Text.exists_append_lastLine e.expression.toList
    refine ⟨front, _, ' ' :: e.message.toList, e.offset, htext, hfront, Text.not_mem_lastLine _, ?_,
      hcolumn, ?_⟩
    · rw [toList_caret, ← htext]
    · have hlength := congrArg List.length htext
      rw [List.length_append] at hlength
      omega

/-- The character above the caret is the one of the last line in the column of the offset. -/
theorem exists_caretBelow_iff {c : Char} :
    (∃ n, e.CaretBelow n ∧ e.expression.toList[n]? = some c) ↔
      (Text.lastLine e.expression.toList)[e.offset]? = some c := by
  obtain ⟨front, htext, -⟩ := Text.exists_append_lastLine e.expression.toList
  have hlength := congrArg List.length htext
  rw [List.length_append] at hlength
  have hat : ∀ i, e.expression.toList[front.length + i]? =
      (Text.lastLine e.expression.toList)[i]? := by
    intro i
    rw [htext, List.getElem?_append_right (Nat.le_add_right _ _), Nat.add_sub_cancel_left, ← htext]
  constructor
  · rintro ⟨n, hbelow, hc⟩
    obtain ⟨-, hn⟩ := caretBelow_iff.1 hbelow
    obtain rfl : n = front.length + e.offset := by omega
    rwa [hat] at hc
  · intro hc
    have hcolumn := (List.getElem?_eq_some_iff.1 hc).1
    exact ⟨front.length + e.offset, caretBelow_iff.2 ⟨hcolumn, by omega⟩, by rwa [hat]⟩

end SyntaxError

/-- **What the caret points at.**  The offset of an error is that of a visible character of the
    text.  The caret stands below this character if and only if the text is a single line, and
    below an equal one if and only if the last line has one in the column of the offset. -/
theorem caret_below_offending {text : String} {e : SyntaxError} (h : Expr.read text = .error e) :
    ∃ c, text.toList[e.offset]? = some c ∧ Text.isWhitespace c = false ∧
      (e.CaretBelow e.offset ↔ '\n' ∉ text.toList) ∧
      ((∃ n, e.CaretBelow n ∧ text.toList[n]? = some c) ↔
        (Text.lastLine text.toList)[e.offset]? = some c) := by
  obtain ⟨hb, hrefused⟩ := refused_of_read h
  obtain rfl : e.expression = text := by
    rw [read_of_not_blank hb] at h
    obtain ⟨p, -, rfl⟩ := mapError_eq_error_iff.1 h
    rfl
  obtain ⟨c, hc, hvisible⟩ := visible_of_refused hrefused hb
  refine ⟨c, hc, hvisible, ?_, SyntaxError.exists_caretBelow_iff⟩
  have hoffset := (List.getElem?_eq_some_iff.1 hc).1
  rw [SyntaxError.caretBelow_iff, ← Text.lastLine_eq_self_iff]
  constructor
  · rintro ⟨-, hlength⟩
    have hsame : (Text.lastLine e.expression.toList).length = e.expression.toList.length := by
      omega
    exact (List.rtakeWhile_suffix _ _).eq_of_length hsame
  · intro hline
    rw [hline]
    exact ⟨hoffset, Nat.add_comm _ _⟩

/-- Tabs and other blanks count as one column each. -/
theorem caret_below_offending_tab : ∃ e, Expr.read "a\t|\t+b" = .error e ∧
    e.caret = "a\t|\t+b\n    ^ empty operand at offset 4 in \"a\t|\t+b\": expected a tag or '('" ∧
    "a\t|\t+b".toList[4]? = some '+' ∧ e.CaretBelow 4 := by
  have hread : Expr.read "a\t|\t+b" = .error ⟨⟨.missingOperand, 4⟩, "a\t|\t+b"⟩ := by
    decide +kernel
  obtain ⟨c, -, -, hbelow, -⟩ := caret_below_offending hread
  exact ⟨_, hread, by decide +kernel, by decide, hbelow.2 (by decide)⟩

/-- In a text of two lines the caret misses the character, and here it stands below none. -/
theorem caret_misses_in_second_line : ∃ e, Expr.read "a\n+" = .error e ∧
    e.caret = "a\n+\n  ^ trailing operator at offset 2 in \"a\n+\": expected a tag or '('" ∧
    "a\n+".toList[e.offset]? = some '+' ∧
    ¬ ∃ n, e.CaretBelow n ∧ "a\n+".toList[n]? = "a\n+".toList[e.offset]? := by
  have hread : Expr.read "a\n+" = .error ⟨⟨.unfinished, 2⟩, "a\n+"⟩ := by decide +kernel
  refine ⟨_, hread, by decide +kernel, by decide, ?_⟩
  rintro ⟨n, hbelow, -⟩
  have hcolumn := (SyntaxError.caretBelow_iff.1 hbelow).1
  revert hcolumn
  decide

end AudienceRouting
