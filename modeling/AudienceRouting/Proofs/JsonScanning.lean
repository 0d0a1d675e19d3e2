/-
  Audience routing — the tokens of a JSON text that was printed.

  * `readString_escaped`: reading gives back every string that was escaped.
  * `Json.tokens`: the tokens of a value, whatever the layout.
  * `scansAs_write`: the text of a value without numbers scans as its tokens, in
    either layout and whatever follows.
-/
import AudienceRouting.Json.Printer
import AudienceRouting.Json.Reader

namespace AudienceRouting.Json

/-! ## Strings -/

theorem hex4?_hexDigit :
    ∀ n < 0x20, hex4? '0' '0' (hexDigit (n / 16)) (hexDigit (n % 16)) = some n := by
  decide +kernel

/-- A control character is read from its code. -/
theorem readString_code {c : Char} (h : c.toNat < 0x20) (rest : List Char) :
    readString ('\\' :: 'u' :: '0' :: '0' :: hexDigit (c.toNat / 16) :: hexDigit (c.toNat % 16) ::
      rest) = prepend c (readString rest) := by
  have hhigh : ¬ 0xD800 ≤ c.toNat := by omega
  have hlow : ¬ 0xDC00 ≤ c.toNat := by omega
  rw [readString, hex4?_hexDigit _ h]
  simp only [hhigh, hlow, decide_false, Bool.false_and, Bool.false_eq_true, if_false,
    Char.ofNat_toNat]

/-- A character that needs no escape is read as it is. -/
theorem readString_plain {c : Char} (h : 0x20 ≤ c.toNat) (hquote : c ≠ '"') (hslash : c ≠ '\\')
    (rest : List Char) : readString (c :: rest) = prepend c (readString rest) := by
  have hle : ¬ c.toNat < 0x20 := by omega
  rw [readString]
  · simp [hle, hslash]
  · exact hquote
  · rintro _ _ _ _ _ rfl
    contradiction
  · rintro _ _ rfl
    contradiction

theorem readString_escapeChar (c : Char) (rest : List Char) :
    readString (escapeChar c ++ rest) = prepend c (readString rest) := by
  unfold escapeChar
  split
  case h_8 hquote hslash _ _ _ _ _ =>
    split
    · exact readString_code ‹_› rest
    · exact readString_plain (by omega) hquote hslash rest
  all_goals
    simp [readString, escape?]

theorem readString_escaped (s rest : List Char) :
    readString (s.flatMap escapeChar ++ '"' :: rest) = some (s, rest) := by
  induction s with
  | nil => simp [readString]
  | cons c s ih =>
    rw [List.flatMap_cons, List.append_assoc, readString_escapeChar, ih]
    rfl

/-! ## Tokens -/

mutual

/-- The tokens of a value. -/
def tokens : Json → List Token
  | .array [] => [.openBracket, .closeBracket]
  | .array (item :: rest) =>
    .openBracket :: (tokens item ++ (tokensOfItems rest ++ [.closeBracket]))
  | .object [] => [.openBrace, .closeBrace]
  | .object ((name, value) :: rest) =>
    .openBrace :: .scalar (.string name) :: .colon ::
      (tokens value ++ (tokensOfMembers rest ++ [.closeBrace]))
  | j => [.scalar j]

/-- The tokens of further items, each with its comma. -/
def tokensOfItems : List Json → List Token
  | [] => []
  | item :: rest => .comma :: (tokens item ++ tokensOfItems rest)

/-- The tokens of further members, each with its comma. -/
def tokensOfMembers : List (String × Json) → List Token
  | [] => []
  | (name, value) :: rest =>
    .comma :: .scalar (.string name) :: .colon :: (tokens value ++ tokensOfMembers rest)

end

/-- A value in which no number occurs. -/
inductive NumberFree : Json → Prop
  | null : NumberFree .null
  | bool (value : Bool) : NumberFree (.bool value)
  | string (value : String) : NumberFree (.string value)
  | array {items : List Json} : (∀ item ∈ items, NumberFree item) → NumberFree (.array items)
  | object {members : List (String × Json)} : (∀ member ∈ members, NumberFree member.2) →
      NumberFree (.object members)

/-- The text scans as the tokens, whatever follows. -/
def ScansAs (text : String) (ts : List Token) : Prop :=
  ∀ rest, scan (text.toList ++ rest) = (scan rest).map (ts ++ ·)

theorem ScansAs.append {a b : String} {ts us : List Token} (h : ScansAs a ts) (h' : ScansAs b us) :
    ScansAs (a ++ b) (ts ++ us) := by
  intro rest
  rw [String.toList_append, List.append_assoc, h, h', Option.map_map]
  simp [Function.comp_def]

theorem scansAs_quote (s : String) : ScansAs (quote s) [.scalar (.string s)] := by
  intro rest
  rw [quote, String.toList_ofList, List.cons_append, List.cons_append, List.append_assoc, scan]
  rw [show [_] ++ rest = '"' :: rest from rfl, readString_escaped]
  simp

theorem scan_blank {c : Char} (h : isBlank c = true) (rest : List Char) :
    scan (c :: rest) = scan rest := by
  have hc : c = ' ' ∨ c = '\n' ∨ c = '\t' ∨ c = '\r' := by
    simpa [isBlank, or_assoc] using h
  rcases hc with rfl | rfl | rfl | rfl <;> simp [scan, isBlank]

theorem scansAs_blank {text : String} (h : ∀ c ∈ text.toList, isBlank c = true) :
    ScansAs text [] := by
  intro rest
  generalize text.toList = cs at h
  induction cs with
  | nil => simp
  | cons c cs ih =>
    rw [List.cons_append, scan_blank (h c (by simp)), ih fun d hd => h d (by simp [hd])]

theorem scansAs_lineBreak (layout : Layout) (level : Nat) :
    ScansAs (layout.lineBreak level) [] := by
  apply scansAs_blank
  cases layout with
  | compact => simp [Layout.lineBreak]
  | indented =>
    intro c hc
    simp only [Layout.lineBreak, String.toList_append, String.toList_ofList, List.mem_append,
      List.mem_replicate] at hc
    rcases hc with hc | ⟨-, rfl⟩
    · rw [List.mem_singleton.1 hc]
      rfl
    · rfl

theorem scansAs_colon (layout : Layout) : ScansAs layout.colon [.colon] := by
  cases layout with
  | compact => exact fun rest => by simp [Layout.colon, scan]
  | indented => exact fun rest => by simp [Layout.colon, scan, scan_blank (c := ' ') rfl]

theorem scansAs_comma : ScansAs "," [.comma] := fun rest => by simp [scan]

/-- Texts with commas between them, each of which scans. -/
theorem scansAs_intercalate {α : Type} {text : α → String} {ts : α → List Token} {x : α}
    {rest : List α} (h : ∀ y ∈ x :: rest, ScansAs (text y) (ts y)) :
    ScansAs (",".intercalate ((x :: rest).map text)) (ts x ++ rest.flatMap (.comma :: ts ·)) := by
  induction rest generalizing x with
  | nil => simpa using h x (by simp)
  | cons y rest ih =>
    have := ((h x (by simp)).append scansAs_comma).append (ih (List.forall_mem_cons.1 h).2)
    simpa [String.intercalate_cons_cons] using this

/-! ## Values -/

/-- The tokens of a member. -/
def tokensOfMember (member : String × Json) : List Token :=
  .scalar (.string member.1) :: .colon :: member.2.tokens

theorem tokensOfItems_eq_flatMap (items : List Json) :
    tokensOfItems items = items.flatMap (.comma :: ·.tokens) := by
  induction items with
  | nil => rfl
  | cons item rest ih => simp [tokensOfItems, ih]

theorem tokensOfMembers_eq_flatMap (members : List (String × Json)) :
    tokensOfMembers members = members.flatMap (.comma :: tokensOfMember ·) := by
  induction members with
  | nil => rfl
  | cons member rest ih => simp [tokensOfMembers, tokensOfMember, ih]

theorem writeItems_eq_map (layout : Layout) (level : Nat) (items : List Json) :
    writeItems layout level items =
      items.map fun item => layout.lineBreak level ++ item.write layout level := by
  induction items with
  | nil => rfl
  | cons item rest ih => simp [writeItems, ih]

theorem writeMembers_eq_map (layout : Layout) (level : Nat) (members : List (String × Json)) :
    writeMembers layout level members = members.map fun member =>
      layout.lineBreak level ++ quote member.1 ++ layout.colon ++ member.2.write layout level := by
  induction members with
  | nil => rfl
  | cons member rest ih => simp [writeMembers, ih]

theorem scansAs_member {layout : Layout} {level : Nat} {member : String × Json}
    (h : ScansAs (member.2.write layout level) member.2.tokens) :
    ScansAs (layout.lineBreak level ++ quote member.1 ++ layout.colon ++
      member.2.write layout level) (tokensOfMember member) :=
  (((scansAs_lineBreak layout level).append (scansAs_quote _)).append (scansAs_colon _)).append h

/-- The text of a value scans as its tokens. -/
theorem scansAs_write {j : Json} (h : j.NumberFree) (layout : Layout) (level : Nat) :
    ScansAs (j.write layout level) j.tokens := by
  induction j generalizing level with
  | null => exact fun rest => by simp [write, tokens, scan]
  | bool value => cases value <;> exact fun rest => by simp [write, tokens, scan]
  | number value => cases h
  | string value => simpa [write, tokens] using scansAs_quote value
  | array items ih =>
    cases h with
    | array h =>
      cases items with
      | nil => exact fun rest => by simp [write, tokens, scan, Function.comp_def]
      | cons item rest =>
        have hopen : ScansAs "[" [.openBracket] := fun rest => by simp [scan]
        have hclose : ScansAs "]" [.closeBracket] := fun rest => by simp [scan]
        have hitems : ∀ x ∈ item :: rest,
            ScansAs (layout.lineBreak (level + 1) ++ x.write layout (level + 1)) x.tokens :=
          fun x hx => (scansAs_lineBreak layout _).append (ih x hx (h x hx) _)
        have := ((hopen.append (scansAs_intercalate hitems)).append
          (scansAs_lineBreak layout level)).append hclose
        simpa [write, writeItems_eq_map, tokens, tokensOfItems_eq_flatMap] using this
  | object members ih =>
    cases h with
    | object h =>
      cases members with
      | nil => exact fun rest => by simp [write, tokens, scan, Function.comp_def]
      | cons member rest =>
        have hopen : ScansAs "\x7b" [.openBrace] := fun rest => by simp [scan]
        have hclose : ScansAs "\x7d" [.closeBrace] := fun rest => by simp [scan]
        have hmembers : ∀ m ∈ member :: rest, ScansAs (layout.lineBreak (level + 1) ++ quote m.1 ++
            layout.colon ++ m.2.write layout (level + 1)) (tokensOfMember m) :=
          fun m hm => scansAs_member (ih m hm (h m hm) _)
        have := ((hopen.append (scansAs_intercalate hmembers)).append
          (scansAs_lineBreak layout level)).append hclose
        simpa [write, writeMembers_eq_map, tokens, tokensOfMember, tokensOfMembers_eq_flatMap]
          using this

theorem scan_print {j : Json} (h : j.NumberFree) (layout : Layout) :
    scan (j.print layout).toList = some j.tokens := by
  have := scansAs_write h layout 0 []
  simpa [print, scan] using this

end AudienceRouting.Json
