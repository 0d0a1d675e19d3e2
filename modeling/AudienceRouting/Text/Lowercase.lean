/-
  Audience routing — the lowercase form of a text.

  Letters are mapped one by one by the full Unicode mapping.  One letter depends
  on its surroundings: a capital sigma at the end of a word becomes `ς`, any
  other `σ`.  It ends a word if, leaving out characters that case ignores, a
  letter with case stands before it and none after it.
-/
import AudienceRouting.Text.Lowercase.Cased
import AudienceRouting.Text.Lowercase.Table

namespace AudienceRouting.Text

/-- The form of a code point in a row of letters. -/
def LowercaseRun.image? (run : LowercaseRun) (n : Nat) : Option Nat :=
  if run.first ≤ n && n ≤ run.last && (n - run.first) % run.stride == 0 then
    some (run.image + (n - run.first))
  else none

/-- The lowercase form of a character by itself. -/
def lowercaseChar (c : Char) : List Char :=
  let n := c.toNat
  if n < 0x80 then [if 0x41 ≤ n && n ≤ 0x5A then Char.ofNat (n + 0x20) else c]
  else if n = 0x130 then ['i', '\u0307']
  else match lowercaseRuns.findSome? (·.image? n) with
    | some m => [Char.ofNat m]
    | none => [c]

/-- Whether the first character that case does not ignore has a case. -/
def meetsCased (text : List Char) : Bool :=
  match text.dropWhile isCaseIgnorable with
  | [] => false
  | c :: _ => isCased c

/-- The lowercase form of `text`, with `before` in front of it in reverse. -/
def lowercaseAfter (before : List Char) : (text : List Char) → List Char
  | [] => []
  | c :: rest =>
    let form :=
      if c = 'Σ' then
        if meetsCased before && !meetsCased rest then ['ς'] else ['σ']
      else lowercaseChar c
    form ++ lowercaseAfter (c :: before) rest

/-- The lowercase form. -/
def lowercase (s : String) : String :=
  String.ofList (lowercaseAfter [] s.toList)

end AudienceRouting.Text
