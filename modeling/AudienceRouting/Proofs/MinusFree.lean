/-
  Audience routing — texts and tokens without `-`.

  * `Token.withoutMinus behind ts`: the tokens `ts` with `+!` for each `-` behind an
    operand and `!` for every other `-`; `behind` says whether an operand ends before `ts`.
  * `Text.withoutMinus text`: the same for a text.
  * `Text.MinusApplies`, `Token.MinusApplies`: each `-` stands before a tag or a group.

  `ofText?_withoutMinus`: the tokens of the text without `-` are those of the text, without `-`.
-/
import Mathlib.Data.List.Infix
import AudienceRouting.Proofs.TokensOfText

namespace AudienceRouting

/-! ## Texts and tokens -/

namespace Token

/-- Whether an operand can end with the token. -/
def endsOperand : Token → Bool
  | .tag _ | .closeParen => true
  | _ => false

/-- Whether a tag or a group starts with the token. -/
def startsPrimary : Token → Bool
  | .tag _ | .openParen => true
  | _ => false

/-- What is written for a token, behind an operand or not. -/
def plain (behind : Bool) : Token → List Token
  | .minus => if behind then [.plus, .bang] else [.bang]
  | t => [t]

def withoutMinus (behind : Bool) : List Token → List Token
  | [] => []
  | t :: ts => t.plain behind ++ withoutMinus t.endsOperand ts

/-- Each `-` stands before a tag or a group. -/
def MinusApplies (ts : List Token) : Prop :=
  ts.IsChain fun t u => t = .minus → u.startsPrimary = true

end Token

namespace Text

/-- Whether an operand can end with the character. -/
def endsOperand (c : Char) : Bool := isTagChar c || c == ')'

/-- What is written for a character, behind an operand or not. -/
def plainChar (behind : Bool) (c : Char) : List Char :=
  if c = '-' then (if behind then ['+', '!'] else ['!']) else [c]

/-- The characters without `-`; `behind` says whether an operand ends before them, but for white
    space. -/
def plainChars (behind : Bool) : List Char → List Char
  | [] => []
  | c :: rest =>
    plainChar behind c ++ plainChars (if isWhitespace c then behind else endsOperand c) rest

/-- The text with `+!` for each `-` behind a tag or a `)`, and `!` for every other `-`. -/
def withoutMinus (text : String) : String := String.ofList (plainChars false text.toList)

/-- Behind each `-`, and white space at will, there is a tag or a `(`. -/
def MinusApplies (text : List Char) : Prop :=
  ∀ rest ∈ text.tails, rest.head? = some '-' →
    (rest.tail.dropWhile isWhitespace).head?.any (fun c => isTagChar c || c == '(') = true

instance (text : List Char) : Decidable (MinusApplies text) := by
  unfold MinusApplies
  infer_instance

theorem MinusApplies.suffix {text rest : List Char} (h : MinusApplies text)
    (hsuffix : rest <:+ text) : MinusApplies rest := by
  intro part hpart
  exact h part ((List.mem_tails _ _).2 (((List.mem_tails _ _).1 hpart).trans hsuffix))

end Text

/-! ## The tokens of the text without `-` -/

open Text (plainChar plainChars)

theorem plainChar_of_ne {c : Char} (h : c ≠ '-') (behind : Bool) : plainChar behind c = [c] :=
  if_neg h

theorem ne_minus_of_white {c : Char} (h : Text.isWhitespace c = true) : c ≠ '-' := by
  rintro rfl
  exact absurd h (by decide)

theorem ne_minus_of_tagChar {c : Char} (h : isTagChar c = true) : c ≠ '-' := by
  rintro rfl
  exact absurd h (by decide)

theorem plainChars_white {c : Char} (h : Text.isWhitespace c = true) (behind : Bool)
    (rest : List Char) : plainChars behind (c :: rest) = c :: plainChars behind rest := by
  rw [plainChars, plainChar_of_ne (ne_minus_of_white h), if_pos h, List.singleton_append]

theorem plainChars_tagChar {c : Char} (h : isTagChar c = true) (behind : Bool)
    (rest : List Char) : plainChars behind (c :: rest) = c :: plainChars true rest := by
  have hends : Text.endsOperand c = true := by simp [Text.endsOperand, h]
  rw [plainChars, plainChar_of_ne (ne_minus_of_tagChar h), (Token.isTagChar_eq h).2, hends,
    List.singleton_append]
  rfl

/-- Inside of a tag nothing changes. -/
theorem plainChars_append_tag {more : List Char} (h : ∀ c ∈ more, isTagChar c = true)
    (rest : List Char) : plainChars true (more ++ rest) = more ++ plainChars true rest := by
  induction more with
  | nil => rfl
  | cons c more ih =>
    obtain ⟨hc, hmore⟩ := List.forall_mem_cons.1 h
    rw [List.cons_append, plainChars_tagChar hc, ih hmore, List.cons_append]

/-- Where a tag ends, it ends without `-` as well. -/
theorem head_plainChars {behind : Bool} {rest : List Char}
    (h : ∀ c ∈ rest.head?, isTagChar c = false) :
    ∀ c ∈ (plainChars behind rest).head?, isTagChar c = false := by
  cases rest with
  | nil => simp [plainChars]
  | cons d rest =>
    intro c hc
    by_cases hd : d = '-'
    · subst hd
      cases behind with
      | true =>
        obtain rfl : '+' = c := by simpa [plainChars, plainChar] using hc
        decide
      | false =>
        obtain rfl : '!' = c := by simpa [plainChars, plainChar] using hc
        decide
    · obtain rfl : d = c := by simpa [plainChars, plainChar_of_ne hd] using hc
      exact h d rfl

namespace Token

/-- A reserved character other than `-` stays, and ends an operand as its token does. -/
theorem plain_of_ofReserved? {c : Char} {t : Token} (h : ofReserved? c = some t) (hc : c ≠ '-')
    (behind : Bool) : t.plain behind = [t] ∧ Text.endsOperand c = t.endsOperand := by
  unfold ofReserved? at h
  split at h <;> cases h
  case h_4 => exact absurd rfl hc
  all_goals exact ⟨rfl, by decide⟩

/-- **The tokens of the text without `-`** are those of the text, without `-`. -/
theorem ofText?_withoutMinus (behind : Bool) (text : List Char) :
    ofText? (plainChars behind text) = (ofText? text).map (withoutMinus behind) := by
  induction text using textInduct generalizing behind with
  | nil => simp [plainChars, ofText?_nil, withoutMinus, plain]
  | white c rest hc ih => rw [plainChars_white hc, ofText?_white hc, ofText?_white hc, ih]
  | reserved c rest t ht ih =>
    rw [ofText?_reserved ht, Option.map_map, plainChars,
      if_neg (by simp [isWhitespace_of_ofReserved? ht])]
    by_cases hc : c = '-'
    · -- one character for `!`, or two for `+!`
      subst hc
      obtain rfl : Token.minus = t := Option.some.inj ht
      cases behind with
      | true =>
        simp only [plainChar, if_true, List.cons_append, List.nil_append]
        rw [ofText?_reserved (t := .plus) rfl, ofText?_reserved (t := .bang) rfl, ih,
          Option.map_map, Option.map_map]
        rfl
      | false =>
        simp only [plainChar, if_true, Bool.false_eq_true, if_false, List.cons_append,
          List.nil_append]
        rw [ofText?_reserved (t := .bang) rfl, ih, Option.map_map]
        rfl
    · obtain ⟨hplain, hends⟩ := plain_of_ofReserved? ht hc behind
      rw [plainChar_of_ne hc, List.singleton_append, ofText?_reserved ht, ih, Option.map_map, hends]
      congr 1
      funext ts
      simp [withoutMinus, hplain]
  | tagChar c rest hc ih =>
    have hmore : ∀ d ∈ rest.takeWhile isTagChar, isTagChar d = true :=
      List.all_eq_true.1 List.all_takeWhile
    have hend : ∀ d ∈ (plainChars true (rest.dropWhile isTagChar)).head?, isTagChar d = false :=
      head_plainChars fun d hd => by
        have hnot := List.head?_dropWhile_not isTagChar rest
        rw [Option.mem_def.1 hd] at hnot
        simpa using hnot
    have hplain : plainChars behind (c :: rest) = c :: (rest.takeWhile isTagChar ++
        plainChars true (rest.dropWhile isTagChar)) := by
      rw [plainChars_tagChar hc, ← plainChars_append_tag hmore, List.takeWhile_append_dropWhile]
    rw [hplain, ofText?_tag hc hmore hend, ih, ofText?_tagChar hc, Option.map_map, Option.map_map]
    rfl
  | stray c rest hc hr ht =>
    have hne : c ≠ '-' := by
      rintro rfl
      cases hr
    rw [plainChars, plainChar_of_ne hne, List.singleton_append, ofText?_stray hc hr ht,
      ofText?_stray hc hr ht]
    rfl

/-- The first token of a text that starts, behind white space, with a tag or a `(`. -/
theorem startsPrimary_of_ofText? {text : List Char} {t : Token} {ts : List Token}
    (h : ofText? text = some (t :: ts))
    (hfirst : (text.dropWhile Text.isWhitespace).head?.any
      (fun c => isTagChar c || c == '(') = true) : t.startsPrimary = true := by
  rw [← ofText?_dropWhile] at h
  cases hrest : text.dropWhile Text.isWhitespace with
  | nil => simp [hrest] at hfirst
  | cons c rest =>
    have hc : isTagChar c = true ∨ c = '(' := by simpa [hrest] using hfirst
    rw [hrest] at h
    rcases hc with hc | rfl
    · rw [ofText?_tagChar hc] at h
      obtain ⟨_, -, hts⟩ := Option.map_eq_some_iff.1 h
      cases hts
      rfl
    · rw [ofText?_reserved (t := .openParen) rfl] at h
      obtain ⟨_, -, hts⟩ := Option.map_eq_some_iff.1 h
      cases hts
      rfl

theorem minusApplies_cons {t : Token} {ts : List Token} (ht : t ≠ .minus) :
    MinusApplies (t :: ts) ↔ MinusApplies ts := by
  rw [MinusApplies, List.isChain_cons]
  exact and_iff_right fun _ _ h => absurd h ht

theorem minusApplies_of_ofText? {text : List Char} {ts : List Token}
    (h : ofText? text = some ts) (htext : Text.MinusApplies text) : MinusApplies ts := by
  induction text using textInduct generalizing ts with
  | nil =>
    obtain rfl : [Token.endOfText] = ts := by simpa [ofText?_nil] using h
    exact .singleton _
  | white c rest hc ih =>
    rw [ofText?_white hc] at h
    exact ih h (htext.suffix (List.suffix_cons c rest))
  | reserved c rest t ht ih =>
    rw [ofText?_reserved ht] at h
    obtain ⟨us, hus, rfl⟩ := Option.map_eq_some_iff.1 h
    have hrest := ih hus (htext.suffix (List.suffix_cons c rest))
    refine List.isChain_cons.2 ⟨fun u hu hminus => ?_, hrest⟩
    subst hminus
    obtain ⟨us, rfl⟩ := List.head?_eq_some_iff.1 hu
    have hc : c = '-' := by
      unfold ofReserved? at ht
      split at ht <;> cases ht
      rfl
    exact startsPrimary_of_ofText? hus
      (htext (c :: rest) ((List.mem_tails _ _).2 List.suffix_rfl) (by rw [hc]; rfl))
  | tagChar c rest hc ih =>
    rw [ofText?_tagChar hc] at h
    obtain ⟨us, hus, rfl⟩ := Option.map_eq_some_iff.1 h
    have hsuffix : rest.dropWhile isTagChar <:+ c :: rest :=
      (List.dropWhile_suffix _).trans (List.suffix_cons c rest)
    exact (minusApplies_cons (by simp)).2 (ih hus (htext.suffix hsuffix))
  | stray c rest hc hr ht =>
    rw [ofText?_stray hc hr ht] at h
    cases h

end Token

theorem Text.isBlank_withoutMinus (text : String) :
    isBlank (withoutMinus text) = isBlank text := by
  have hchars : ∀ (behind : Bool) (chars : List Char),
      (plainChars behind chars).all isWhitespace = chars.all isWhitespace := by
    intro behind chars
    induction chars generalizing behind with
    | nil => rfl
    | cons c rest ih =>
      by_cases hc : c = '-'
      · subst hc
        cases behind <;> rfl
      · rw [plainChars, plainChar_of_ne hc, List.singleton_append, List.all_cons, List.all_cons, ih]
  simpa [isBlank, withoutMinus] using hchars false text.toList

end AudienceRouting
