/-
  Audience routing — how a text is split into tokens.

  * `Text.isStray c`: the control characters that are not white space.
  * `Token.EndsBefore t rest`: in front of `rest` the token `t` cannot be longer.
  * `Token.Splits offset text lexemes`: the lexemes stand in a text that starts at
    `offset`, one behind the other, with nothing but white space around them, and the
    last one stands for the end.

  A text with a stray character is refused at the first one (`scanFrom_error_iff`), and any
  other text is scanned as the only lexemes into which it splits (`scanFrom_ok_iff`).
-/
import AudienceRouting.Proofs.Diagnosis

namespace AudienceRouting

/-- A character that no token has and that is not skipped. -/
def Text.isStray (c : Char) : Bool := isControl c && !isWhitespace c

/-- The place right behind a token. -/
def Lexeme.stop (x : Lexeme) : Nat := x.offset + x.token.chars.length

namespace Token

/-! ## Characters that are refused -/

theorem isTagChar_eq_not_isStray {c : Char} (hc : Text.isWhitespace c = false)
    (hr : ofReserved? c = none) : isTagChar c = !Text.isStray c := by
  have hreserved : isReserved c = false := by rw [← ofReserved?_isSome, hr]; rfl
  simp [isTagChar, Text.isStray, hc, hreserved]

theorem isStray_of_isTagChar {c : Char} (hc : isTagChar c = true) : Text.isStray c = false := by
  have hstray := isTagChar_eq_not_isStray (isTagChar_eq hc).2 (ofReserved?_of_isTagChar hc)
  simpa [hc] using hstray.symm

theorem isStray_of_ofReserved? {c : Char} {t : Token} (h : ofReserved? c = some t) :
    Text.isStray c = false := by
  unfold ofReserved? at h
  split at h <;> first | decide | cases h

theorem Written.isStray_of_mem {c : Char} {t : Token} (h : t.Written) (hc : c ∈ t.chars) :
    Text.isStray c = false := by
  cases t with
  | tag value => exact isStray_of_isTagChar (h.2 c hc)
  | endOfText => exact h.elim
  | _ =>
    obtain rfl := List.mem_singleton.1 hc
    decide

/-- The scanner stops at the first stray character. -/
theorem scanFrom_error_iff {offset place : Nat} {text : List Char} :
    scanFrom offset text = .error place ↔
      (text.findIdx? Text.isStray).map (offset + ·) = some place := by
  fun_induction scanFrom offset text with
  | case1 => simp
  | case2 offset c rest hc ih =>
    have hstray : Text.isStray c = false := by simp [Text.isStray, hc]
    rw [ih, List.findIdx?_cons, hstray]
    simp [Function.comp_def, Nat.add_assoc, Nat.add_comm 1]
  | case3 offset c rest hc t ht ih =>
    rw [map_eq_error_iff, ih, List.findIdx?_cons, isStray_of_ofReserved? ht]
    simp [Function.comp_def, Nat.add_assoc, Nat.add_comm 1]
  | case4 offset c rest hc hr hct more =>
    rename_i ih
    have hmore : (c :: more).findIdx? Text.isStray = none := by
      refine List.findIdx?_eq_none_iff.2 (List.forall_mem_cons.2 ⟨isStray_of_isTagChar hct, ?_⟩)
      exact fun d hd => isStray_of_isTagChar (List.all_eq_true.1 List.all_takeWhile d hd)
    have hsplit : c :: rest = (c :: more) ++ rest.dropWhile isTagChar := by
      rw [List.cons_append, List.takeWhile_append_dropWhile]
    rw [map_eq_error_iff, ih, hsplit, List.findIdx?_append, hmore]
    simp [Function.comp_def, Nat.add_comm, Nat.add_left_comm]
  | case5 offset c rest hc hr hct =>
    have hstray : Text.isStray c = true := by
      simpa [hct] using isTagChar_eq_not_isStray (by simpa using hc) hr
    rw [List.findIdx?_cons, hstray]
    simp

/-! ## Tokens in front of a text -/

def EndsBefore (t : Token) (rest : List Char) : Prop :=
  ∀ value, t = .tag value → ∀ c ∈ rest.head?, isTagChar c = false

variable {t u : Token} {rest rest' : List Char}

theorem EndsBefore.takeWhile {value : String} (h : (Token.tag value).EndsBefore rest)
    (hw : (Token.tag value).Written) :
    (value.toList ++ rest).takeWhile isTagChar = value.toList := by
  rw [List.takeWhile_append_of_pos hw.2]
  cases rest with
  | nil => simp
  | cons c rest => simp [h value rfl c rfl]

theorem Written.tag_or_reserved (h : t.Written) :
    (∃ value, t = .tag value) ∨ ∃ c, ofReserved? c = some t := by
  cases t with
  | tag value => exact Or.inl ⟨value, rfl⟩
  | endOfText => exact h.elim
  | plus => exact Or.inr ⟨'+', rfl⟩
  | bar => exact Or.inr ⟨'|', rfl⟩
  | bang => exact Or.inr ⟨'!', rfl⟩
  | minus => exact Or.inr ⟨'-', rfl⟩
  | openParen => exact Or.inr ⟨'(', rfl⟩
  | closeParen => exact Or.inr ⟨')', rfl⟩

theorem Written.mem_of_cons_eq {c : Char} {cs : List Char} (h : t.Written)
    (hc : c :: cs = t.chars ++ rest) : c ∈ t.chars := by
  obtain ⟨d, ds, hd⟩ := List.exists_cons_of_ne_nil h.chars_ne_nil
  rw [hd, List.cons_append] at hc
  obtain ⟨rfl, -⟩ := List.cons.inj hc
  exact hd ▸ List.mem_cons_self

/-- A text starts with one token at most. -/
theorem eq_of_chars_append (ht : t.Written) (hu : u.Written) (htends : t.EndsBefore rest)
    (huends : u.EndsBefore rest') (h : t.chars ++ rest = u.chars ++ rest') : t = u := by
  have hhead : t.chars.head? = u.chars.head? := by
    rw [← List.head?_append_of_ne_nil _ ht.chars_ne_nil, h,
      List.head?_append_of_ne_nil _ hu.chars_ne_nil]
  rcases ht.tag_or_reserved with ⟨v, rfl⟩ | ⟨c, hc⟩
  · rcases hu.tag_or_reserved with ⟨w, rfl⟩ | ⟨c, hc⟩
    · have hvalues : v.toList = w.toList := by
        rw [← htends.takeWhile ht, ← huends.takeWhile hu]
        exact congrArg (List.takeWhile isTagChar) h
      rw [String.toList_injective hvalues]
    · rw [chars_of_ofReserved? hc] at hhead
      exact (head?_chars_iff hc ht).1 hhead
  · rw [chars_of_ofReserved? hc] at hhead
    exact ((head?_chars_iff hc hu).1 hhead.symm).symm

/-! ## Splitting -/

structure Splits (offset : Nat) (text : List Char) (lexemes : List Lexeme) : Prop where
  /-- one lexeme for the end, behind those of the tokens -/
  ends : ∃ read, lexemes = read ++ [⟨.endOfText, offset + text.length⟩] ∧
    ∀ x ∈ read, x.token.Written
  inOrder : InOrder offset lexemes
  apart : lexemes.Pairwise (·.stop ≤ ·.offset)
  stands : ∀ x ∈ lexemes, ∃ front rest, text = front ++ (x.token.chars ++ rest) ∧
    x.offset = offset + front.length ∧ x.token.EndsBefore rest
  between : ∀ (i : Nat) (c : Char), text[i]? = some c →
    (∀ x ∈ lexemes, offset + i < x.offset ∨ x.stop ≤ offset + i) → Text.isWhitespace c = true

variable {offset : Nat} {text front : List Char} {before lexemes : List Lexeme} {x : Lexeme}

/-- The empty text has the end alone. -/
theorem splits_nil_iff : Splits offset [] lexemes ↔ lexemes = [⟨.endOfText, offset⟩] := by
  constructor
  · intro h
    obtain ⟨read, rfl, hwritten⟩ := h.ends
    cases read with
    | nil => rfl
    | cons x read =>
      obtain ⟨front, rest, htext, -⟩ := h.stands x (by simp)
      simp [(hwritten x (by simp)).chars_ne_nil] at htext
  · rintro rfl
    exact ⟨⟨[], rfl, by simp⟩, by simp [InOrder], by simp,
      by simp [chars, EndsBefore], by simp⟩

/-- The characters `front` of a text, with the lexemes in them, can be left out. -/
theorem Splits.behind (h : Splits offset (front ++ rest) (before ++ lexemes))
    (hbefore : ∀ x ∈ before, x.token.Written ∧ x.stop ≤ offset + front.length)
    (hlexemes : ∀ x ∈ lexemes, offset + front.length ≤ x.offset) :
    Splits (offset + front.length) rest lexemes where
  ends := by
    obtain ⟨read, hread, hwritten⟩ := h.ends
    rcases List.eq_nil_or_concat lexemes with rfl | ⟨more, last, rfl⟩
    · -- the end cannot be one of the tokens in front
      have hlast : (⟨.endOfText, offset + (front ++ rest).length⟩ : Lexeme) ∈ before := by
        rw [List.append_nil] at hread
        simp [hread]
      exact (hbefore _ hlast).1.elim
    · rw [List.concat_eq_append, ← List.append_assoc] at hread
      obtain ⟨rfl, rfl⟩ := List.append_singleton_inj.1 hread
      refine ⟨more, by simp [Nat.add_assoc], fun x hx => hwritten x (by simp [hx])⟩
  inOrder := ⟨hlexemes, (List.pairwise_append.1 h.inOrder.2).2.1⟩
  apart := (List.pairwise_append.1 h.apart).2.1
  stands x hx := by
    obtain ⟨skipped, more, htext, hoffset, hends⟩ := h.stands x (List.mem_append_right _ hx)
    have hle := hlexemes x hx
    obtain ⟨skipped', rfl⟩ : front <+: skipped :=
      List.prefix_of_prefix_length_le (htext ▸ List.prefix_append _ _) (List.prefix_append _ _)
        (by omega)
    rw [List.append_assoc] at htext
    rw [List.length_append] at hoffset
    exact ⟨skipped', more, List.append_cancel_left htext, by omega, hends⟩
  between i c hc houtside := by
    refine h.between (front.length + i) c ?_ fun x hx => ?_
    · rw [List.getElem?_append_right (Nat.le_add_right _ _), Nat.add_sub_cancel_left, hc]
    · rw [← Nat.add_assoc]
      rcases List.mem_append.1 hx with hx | hx
      · exact Or.inr ((hbefore x hx).2.trans (Nat.le_add_right _ _))
      · exact houtside x hx

theorem Splits.written_or_end (h : Splits offset text lexemes) (hx : x ∈ lexemes) :
    x.token.Written ∨ x = ⟨.endOfText, offset + text.length⟩ := by
  obtain ⟨read, rfl, hwritten⟩ := h.ends
  rcases List.mem_append.1 hx with hx | hx
  · exact Or.inl (hwritten x hx)
  · exact Or.inr (List.mem_singleton.1 hx)

/-- With more characters in front, a token stands where it did. -/
theorem Splits.stands_append (h : Splits (offset + front.length) rest lexemes) (hx : x ∈ lexemes) :
    ∃ skipped more, front ++ rest = skipped ++ (x.token.chars ++ more) ∧
      x.offset = offset + skipped.length ∧ x.token.EndsBefore more := by
  obtain ⟨skipped, more, rfl, hoffset, hends⟩ := h.stands x hx
  refine ⟨front ++ skipped, more, (List.append_assoc _ _ _).symm, ?_, hends⟩
  rw [hoffset, List.length_append, Nat.add_assoc]

section

variable {c : Char}

/-- Where a text starts with a visible character, a token stands. -/
theorem Splits.first (h : Splits offset (c :: rest) lexemes) (hc : Text.isWhitespace c = false) :
    ∃ (t : Token) (more : List Char) (others : List Lexeme), lexemes = ⟨t, offset⟩ :: others ∧
      t.Written ∧ c :: rest = t.chars ++ more ∧ t.EndsBefore more := by
  -- else the character would be outside of all tokens
  obtain ⟨x, hx, hoffset, hstop⟩ : ∃ x ∈ lexemes, x.offset ≤ offset ∧ offset < x.stop := by
    by_contra hnone
    push Not at hnone
    have hwhite := h.between 0 c rfl fun x hx => by
      rw [Nat.add_zero]
      exact (Nat.lt_or_ge offset x.offset).imp_right (hnone x hx)
    simp [hc] at hwhite
  have hle := h.inOrder.1
  obtain rfl : x.offset = offset := Nat.le_antisymm hoffset (hle x hx)
  have hwritten : x.token.Written := by
    refine (h.written_or_end hx).resolve_right fun he => ?_
    have := congrArg Lexeme.offset he
    simp at this
  obtain ⟨skipped, more, htext, hlength, hends⟩ := h.stands x hx
  obtain rfl : skipped = [] := List.length_eq_zero_iff.1 (by omega)
  obtain ⟨y, others, rfl⟩ := List.exists_cons_of_ne_nil (List.ne_nil_of_mem hx)
  rcases List.mem_cons.1 hx with rfl | hx
  · exact ⟨x.token, more, others, rfl, hwritten, htext, hends⟩
  · have hlt := (List.pairwise_cons.1 h.inOrder.2).1 x hx
    have := hle y List.mem_cons_self
    omega

theorem splits_white_iff (hc : Text.isWhitespace c = true) :
    Splits offset (c :: rest) lexemes ↔ Splits (offset + 1) rest lexemes := by
  constructor
  · intro h
    have hsplit : Splits offset ([c] ++ rest) ([] ++ lexemes) := h
    refine hsplit.behind (by simp) fun x hx => ?_
    refine Nat.lt_of_le_of_ne (h.inOrder.1 x hx) fun he => ?_
    rcases h.written_or_end hx with hwritten | rfl
    · obtain ⟨skipped, more, htext, hlength, -⟩ := h.stands x hx
      obtain rfl : skipped = [] := List.length_eq_zero_iff.1 (by omega)
      have hvisible := hwritten.visible_of_mem (hwritten.mem_of_cons_eq htext)
      simp [hc] at hvisible
    · simp at he
  · intro h
    have hfront : Splits (offset + [c].length) rest lexemes := h
    obtain ⟨hle, hincreasing⟩ := h.inOrder
    refine ⟨?_, ⟨fun x hx => Nat.le_of_succ_le (hle x hx), hincreasing⟩, h.apart,
      fun x hx => hfront.stands_append hx, fun i d hd houtside => ?_⟩
    · obtain ⟨read, hread, hwritten⟩ := h.ends
      exact ⟨read, by rw [hread, List.length_cons, Nat.add_right_comm, Nat.add_assoc], hwritten⟩
    · cases i with
      | zero =>
        obtain rfl : c = d := by simpa using hd
        exact hc
      | succ i =>
        refine h.between i d (by simpa using hd) fun x hx => ?_
        simpa [Nat.add_right_comm, ← Nat.add_assoc] using houtside x hx

/-- One more token in front. -/
theorem Splits.token (h : Splits (offset + t.chars.length) rest lexemes) (ht : t.Written)
    (hends : t.EndsBefore rest) : Splits offset (t.chars ++ rest) (⟨t, offset⟩ :: lexemes) where
  ends := by
    obtain ⟨read, hread, hwritten⟩ := h.ends
    refine ⟨⟨t, offset⟩ :: read, ?_, List.forall_mem_cons.2 ⟨ht, hwritten⟩⟩
    rw [hread, List.length_append, Nat.add_assoc]
    rfl
  inOrder := h.inOrder.cons (by have := List.length_pos_iff.2 ht.chars_ne_nil; omega) t
  apart := List.pairwise_cons.2 ⟨h.inOrder.1, h.apart⟩
  stands := by
    refine List.forall_mem_cons.2 ⟨⟨[], rest, rfl, rfl, hends⟩, fun x hx => ?_⟩
    exact h.stands_append hx
  between i c hc houtside := by
    obtain ⟨hfirst, hothers⟩ := List.forall_mem_cons.1 houtside
    have hle : t.chars.length ≤ i := by
      change offset + i < offset ∨ offset + t.chars.length ≤ offset + i at hfirst
      omega
    obtain ⟨j, rfl⟩ := Nat.exists_eq_add_of_le hle
    rw [List.getElem?_append_right hle, Nat.add_sub_cancel_left] at hc
    refine h.between j c hc fun x hx => ?_
    rw [Nat.add_assoc]
    exact hothers x hx

theorem splits_token_iff (ht : t.Written) (hends : t.EndsBefore rest) :
    Splits offset (t.chars ++ rest) lexemes ↔
      ∃ others, Splits (offset + t.chars.length) rest others ∧ ⟨t, offset⟩ :: others = lexemes := by
  constructor
  · intro h
    obtain ⟨c, cs, hc⟩ := List.exists_cons_of_ne_nil ht.chars_ne_nil
    have hvisible := ht.visible_of_mem (c := c) (by simp [hc])
    rw [hc, List.cons_append] at h
    obtain ⟨u, more, others, rfl, hu, htext, huends⟩ := h.first hvisible
    rw [← List.cons_append, ← hc] at h htext
    obtain rfl := eq_of_chars_append ht hu hends huends htext
    have hsplit : Splits offset (t.chars ++ rest) ([⟨t, offset⟩] ++ others) := h
    refine ⟨others, hsplit.behind ?_ ?_, rfl⟩
    · simpa using ⟨ht, Nat.le_refl _⟩
    · exact (List.pairwise_cons.1 h.apart).1
  · rintro ⟨others, h, rfl⟩
    exact h.token ht hends

end

/-- Scanning finds the only lexemes into which a text splits. -/
theorem scanFrom_ok_iff {offset : Nat} {text : List Char} {lexemes : List Lexeme} :
    scanFrom offset text = .ok lexemes ↔ Splits offset text lexemes := by
  fun_induction scanFrom offset text generalizing lexemes with
  | case1 offset => rw [splits_nil_iff, Except.ok.injEq, eq_comm]
  | case2 offset c rest hc ih => rw [ih, splits_white_iff hc]
  | case3 offset c rest hc t ht ih =>
    have hchars : t.chars = [c] := chars_of_ofReserved? ht
    have hends : t.EndsBefore rest :=
      fun value hv => absurd hv.symm (ne_tag_of_ofReserved? ht value)
    have hiff : Splits offset (t.chars ++ rest) lexemes ↔ _ :=
      splits_token_iff (written_of_ofReserved? ht) hends
    rw [hchars] at hiff
    simp only [map_eq_ok_iff, ih]
    exact hiff.symm
  | case4 offset c rest hc hr hct more =>
    rename_i ih
    have hmore : ∀ d ∈ c :: more, isTagChar d = true := List.forall_mem_cons.2
      ⟨hct, fun d hd => List.all_eq_true.1 List.all_takeWhile d hd⟩
    have hchars : (Token.tag (String.ofList (c :: more))).chars = c :: more := by simp [chars]
    have hends : (Token.tag (String.ofList (c :: more))).EndsBefore (rest.dropWhile isTagChar) := by
      intro value _ d hd
      have hnot := List.head?_dropWhile_not isTagChar rest
      rwa [Option.mem_def.1 hd] at hnot
    have hwritten : (Token.tag (String.ofList (c :: more))).Written :=
      ⟨by simp, by simpa using hmore⟩
    have hiff : Splits offset _ lexemes ↔ _ := splits_token_iff hwritten hends
    rw [hchars, List.cons_append, List.takeWhile_append_dropWhile, List.length_cons,
      ← Nat.add_assoc, Nat.add_right_comm] at hiff
    simp only [map_eq_ok_iff, ih]
    exact hiff.symm
  | case5 offset c rest hc hr hct =>
    refine iff_of_false (by simp) fun h => ?_
    have hc : Text.isWhitespace c = false := by simpa using hc
    obtain ⟨t, more, others, -, ht, htext, -⟩ := h.first hc
    have htag := isTagChar_eq_not_isStray hc hr
    rw [ht.isStray_of_mem (ht.mem_of_cons_eq htext)] at htag
    exact hct htag

/-! ## Neighbours -/

/-- Any two tags that follow each other have white space between them, and nothing else. -/
def Separated (text : List Char) (lexemes : List Lexeme) : Prop :=
  ∀ before after x y v w, lexemes = before ++ x :: y :: after → x.token = .tag v →
    y.token = .tag w → x.stop < y.offset ∧
      ∀ i, x.stop ≤ i → i < y.offset → ∃ c, text[i]? = some c ∧ Text.isWhitespace c = true

section

variable {after : List Lexeme} {y : Lexeme}

/-- What is between two neighbours is outside of all tokens. -/
theorem Splits.white_between (h : Splits 0 text (before ++ x :: y :: after)) {i : Nat}
    (hx : x.stop ≤ i) (hy : i < y.offset) :
    ∃ c, text[i]? = some c ∧ Text.isWhitespace c = true := by
  obtain ⟨skipped, more, htext, hoffset, -⟩ := h.stands y (by simp)
  have hlength : i < text.length := by
    rw [htext, List.length_append]
    omega
  refine ⟨text[i], List.getElem?_eq_getElem hlength, ?_⟩
  refine h.between i _ (List.getElem?_eq_getElem hlength) fun z hz => ?_
  obtain ⟨-, hafter, hbefore⟩ := List.pairwise_append.1 h.apart
  have hincreasing := (List.pairwise_append.1 h.inOrder.2).2.1
  rw [Nat.zero_add]
  rcases List.mem_append.1 hz with hz | hz
  · have hstop : z.stop ≤ x.offset := hbefore z hz x List.mem_cons_self
    have hle : x.offset ≤ x.stop := Nat.le_add_right _ _
    exact Or.inr (by omega)
  rcases List.mem_cons.1 hz with rfl | hz
  · exact Or.inr hx
  rcases List.mem_cons.1 hz with rfl | hz
  · exact Or.inl hy
  · have hlt := (List.pairwise_cons.1 (List.pairwise_cons.1 hincreasing).2).1 z hz
    exact Or.inl (by omega)

/-- A tag that follows right behind another one would have been part of it. -/
theorem Splits.separated (h : Splits 0 text lexemes) : Separated text lexemes := by
  rintro before after x y v w rfl hv hw
  refine ⟨?_, fun i hx hy => h.white_between hx hy⟩
  have hle : x.stop ≤ y.offset :=
    (List.pairwise_cons.1 (List.pairwise_append.1 h.apart).2.1).1 y List.mem_cons_self
  refine Nat.lt_of_le_of_ne hle fun he => ?_
  obtain ⟨front, rest, htext, hx, hends⟩ := h.stands x (by simp)
  obtain ⟨skipped, more, htext', hy, -⟩ := h.stands y (by simp)
  rw [htext, ← List.append_assoc] at htext'
  have hlength : (front ++ x.token.chars).length = skipped.length := by
    rw [Lexeme.stop] at he
    rw [List.length_append]
    omega
  obtain ⟨-, rfl⟩ := List.append_inj htext' hlength
  have hwritten : y.token.Written := by
    refine (h.written_or_end (by simp)).resolve_right ?_
    rintro rfl
    cases hw
  rw [hw] at hwritten hends
  obtain ⟨d, ds, hd⟩ := List.exists_cons_of_ne_nil hwritten.1
  have hnot := hends v hv d (by simp [chars, hd])
  rw [hwritten.2 d (by simp [hd])] at hnot
  cases hnot

end

end Token

/-! ## Texts with stray characters -/

/-- The scanner alone speaks of invalid characters. -/
theorem scan_error_of_refused {text : String} {p : Problem} (h : Refused text p)
    (hp : p.fault.kind = .invalidCharacter) : Token.scan text = .error p.offset := by
  cases h with
  | stray hscan => exact hscan
  | stopped _ _ hstops => cases hstops <;> cases hp
  | atEnd _ _ _ hfault => rcases hfault with hfault | hfault <;> rw [hfault] at hp <;> cases hp

theorem invalidCharacter_iff {text : String} {i : Nat} :
    (∃ e, Expr.read text = .error e ∧ e.kind = .invalidCharacter ∧ e.offset = i) ↔
      Token.scan text = .error i := by
  constructor
  · rintro ⟨e, h, hkind, rfl⟩
    exact scan_error_of_refused (refused_of_read h).2 hkind
  · intro hscan
    have hb : Text.isBlank text = false := by
      cases hb : Text.isBlank text with
      | false => rfl
      | true =>
        obtain ⟨last, hlast⟩ := Token.scan_of_blank hb
        rw [hscan] at hlast
        cases hlast
    refine ⟨⟨⟨.strayCharacter, i⟩, text⟩, ?_, rfl, rfl⟩
    rw [read_of_not_blank hb, Expr.readTokens, hscan]
    rfl

/-- **How texts are split into tokens.**  A text is refused if and only if it has a control
    character that is not white space, and then its first one is reported as an invalid character.
    Any other text is scanned as the only lexemes that stand in it one behind the other, each with
    the characters of its token at its offset, with nothing but white space around them, with tags
    that are as long as can be, and with one lexeme for the end behind the last character. -/
theorem scan_iff_splits (text : String) :
    ((∃ i, Token.scan text = .error i) ↔
      ∃ c ∈ text.toList, Text.isControl c = true ∧ Text.isWhitespace c = false) ∧
    (∀ i, Token.scan text = .error i ↔ text.toList.findIdx? Text.isStray = some i) ∧
    (∀ i, Token.scan text = .error i ↔
      ∃ e, Expr.read text = .error e ∧ e.kind = .invalidCharacter ∧ e.offset = i) ∧
    ∀ lexemes, Token.scan text = .ok lexemes ↔
      Token.Splits 0 text.toList lexemes ∧ Token.Separated text.toList lexemes := by
  have hfirst : ∀ i, Token.scan text = .error i ↔ text.toList.findIdx? Text.isStray = some i := by
    intro i
    rw [Token.scan, Token.scanFrom_error_iff]
    simp
  refine ⟨?_, hfirst, fun i => invalidCharacter_iff.symm, fun lexemes => ?_⟩
  · simp only [hfirst, ← Option.isSome_iff_exists, List.findIdx?_isSome, List.any_eq_true]
    simp [Text.isStray]
  · rw [Token.scan, Token.scanFrom_ok_iff]
    exact ⟨fun h => ⟨h, h.separated⟩, And.left⟩

/-- A tab is skipped, and a bell is not. -/
example : Token.scan "é\t-b" = .ok [⟨.tag "é", 0⟩, ⟨.minus, 2⟩, ⟨.tag "b", 3⟩, ⟨.endOfText, 4⟩] ∧
    Token.scan "é\t-b\x07" = .error 4 := by
  decide +kernel

end AudienceRouting
