/-
  Audience routing — where tokens stand in a text.

  * `visible text`: the characters of a text that are not white space.
  * `Stands offset text before x`: in a text that starts at `offset`, the token `x`
    stands at its offset, and the visible characters before it are those of the
    tokens `before`.
  * `InOrder offset lexemes`: the offsets increase from `offset` on.

  `stands_of_scanFrom`, `inOrder_of_scanFrom`: so stand all tokens that are scanned.  What
  holds of the tokens before a place can be said of the characters before it: how often a
  reserved character occurs (`count_chars`), and which ones are the last (`suffix_chars_iff`).
-/
import AudienceRouting.Proofs.Scanning

namespace AudienceRouting

/-- The characters that are not white space. -/
def Text.visible (text : List Char) : List Char := text.filter (!Text.isWhitespace ·)

namespace Token

open Text (visible)

/-! ## Reserved characters -/

theorem chars_of_ofReserved? {c : Char} {t : Token} (h : ofReserved? c = some t) :
    t.chars = [c] := by
  unfold ofReserved? at h
  split at h <;> cases h <;> rfl

theorem Written.chars_ne_nil {t : Token} (h : t.Written) : t.chars ≠ [] := by
  cases t with
  | tag value => exact h.1
  | endOfText => exact h.elim
  | _ => simp [chars]

theorem Written.visible_of_mem {t : Token} (h : t.Written) {c : Char} (hc : c ∈ t.chars) :
    Text.isWhitespace c = false := by
  cases t with
  | tag value => exact (isTagChar_eq (h.2 c hc)).2
  | endOfText => exact h.elim
  | _ =>
    obtain rfl := List.mem_singleton.1 hc
    decide

theorem not_mem_of_ofReserved? {c : Char} {t : Token} (h : ofReserved? c = some t)
    {value : String} (hvalue : IsTag value) : c ∉ value.toList := fun hc => by
  rw [ofReserved?_of_isTagChar (hvalue.2 c hc)] at h
  cases h

theorem ne_tag_of_ofReserved? {c : Char} {t : Token} (h : ofReserved? c = some t)
    (value : String) : .tag value ≠ t := by
  rintro rfl
  unfold ofReserved? at h
  split at h <;> cases h

/-- A written token that starts with a reserved character is that character. -/
theorem head?_chars_iff {c : Char} {t u : Token} (h : ofReserved? c = some t) (hu : u.Written) :
    u.chars.head? = some c ↔ u = t := by
  constructor
  · intro hc
    cases u with
    | tag value => exact absurd (List.mem_of_head? hc) (not_mem_of_ofReserved? h hu)
    | endOfText => exact hu.elim
    | _ =>
      obtain rfl : _ = c := Option.some.inj hc
      exact Option.some.inj h
  · rintro rfl
    rw [chars_of_ofReserved? h]
    rfl

/-- A written token is a reserved character if it ends with one. -/
theorem getLast?_chars_iff {c : Char} {t u : Token} (h : ofReserved? c = some t)
    (hu : u.Written) : u.chars.getLast? = some c ↔ u = t := by
  cases u with
  | tag value =>
    exact iff_of_false (fun hc => not_mem_of_ofReserved? h hu (List.mem_of_getLast? hc))
      (ne_tag_of_ofReserved? h value)
  | endOfText => exact hu.elim
  | _ => exact head?_chars_iff h hu

theorem count_chars_singleton {c : Char} {t u : Token} (h : ofReserved? c = some t)
    (hu : u.Written) : u.chars.count c = [u].count t := by
  cases u with
  | tag value =>
    rw [chars, List.count_eq_zero_of_not_mem (not_mem_of_ofReserved? h hu), List.count_singleton,
      beq_false_of_ne (ne_tag_of_ofReserved? h value)]
    rfl
  | endOfText => exact hu.elim
  | _ =>
    have hiff := head?_chars_iff h hu
    simp only [chars, List.head?_cons, Option.some.injEq] at hiff
    simp [chars, List.count_singleton, hiff]

/-- A reserved character occurs as often as its token. -/
theorem count_chars {c : Char} {t : Token} (h : ofReserved? c = some t) {ts : List Token}
    (hts : ∀ u ∈ ts, u.Written) : (ts.flatMap chars).count c = ts.count t := by
  induction ts with
  | nil => rfl
  | cons u ts ih =>
    have ⟨hu, hts⟩ := List.forall_mem_cons.1 hts
    rw [List.flatMap_cons, List.count_append, count_chars_singleton h hu, ih hts,
      ← List.count_append, List.singleton_append]

/-- A reserved character is the last one where its token is the last. -/
theorem chars_eq_concat_iff {c : Char} {t : Token} (h : ofReserved? c = some t) {ts : List Token}
    (hts : ∀ u ∈ ts, u.Written) {front : List Char} :
    ts.flatMap chars = front ++ [c] ↔ ∃ us, ts = us ++ [t] ∧ us.flatMap chars = front := by
  constructor
  · intro hc
    rcases List.eq_nil_or_concat ts with rfl | ⟨us, u, rfl⟩
    · simp at hc
    rw [List.concat_eq_append] at hts hc ⊢
    have hlast : (us.flatMap chars ++ u.chars).getLast? = some c := by
      simpa using congrArg List.getLast? hc
    have hu : u.Written := hts u (by simp)
    rw [List.getLast?_append_of_ne_nil _ hu.chars_ne_nil] at hlast
    obtain rfl := (getLast?_chars_iff h hu).1 hlast
    refine ⟨us, rfl, ?_⟩
    simpa [chars_of_ofReserved? h] using hc
  · rintro ⟨us, rfl, rfl⟩
    simp [chars_of_ofReserved? h]

/-- Reserved characters are the last ones where their tokens are. -/
theorem suffix_chars_iff (us : List Token) {ts : List Token}
    (hus : ∀ u ∈ us, ∃ c, ofReserved? c = some u) (hts : ∀ t ∈ ts, t.Written) :
    us.flatMap chars <:+ ts.flatMap chars ↔ us <:+ ts := by
  constructor
  · intro h
    induction us using List.reverseRecOn generalizing ts with
    | nil => exact List.nil_suffix
    | append_singleton us u ih =>
      obtain ⟨c, hc⟩ := hus u (by simp)
      obtain ⟨front, hfront⟩ := h
      rw [List.flatMap_append, List.flatMap_singleton, chars_of_ofReserved? hc,
        ← List.append_assoc] at hfront
      obtain ⟨vs, rfl, hvs⟩ := (chars_eq_concat_iff hc hts).1 hfront.symm
      obtain ⟨ws, rfl⟩ := ih (fun u hu => hus u (by simp [hu])) (fun t ht => hts t (by simp [ht]))
        ⟨front, hvs.symm⟩
      exact ⟨ws, by simp⟩
  · rintro ⟨vs, rfl⟩
    rw [List.flatMap_append]
    exact List.suffix_append _ _

/-! ## Places of tokens -/

def Stands (offset : Nat) (text : List Char) (before : List Lexeme) (x : Lexeme) : Prop :=
  ∃ front rest, text = front ++ (x.token.chars ++ rest) ∧ x.offset = offset + front.length ∧
    visible front = before.flatMap (·.token.chars) ∧ (x.token = .endOfText → rest = [])

/-- More characters in front, with the tokens `skipped`. -/
theorem Stands.append {offset : Nat} {cs text : List Char} {before : List Lexeme} {x : Lexeme}
    (h : Stands (offset + cs.length) text before x) (skipped : List Lexeme)
    (hcs : visible cs = skipped.flatMap (·.token.chars)) :
    Stands offset (cs ++ text) (skipped ++ before) x := by
  obtain ⟨front, rest, rfl, hoffset, hfront, hend⟩ := h
  refine ⟨cs ++ front, rest, by simp, ?_, ?_, hend⟩
  · rw [hoffset, List.length_append, Nat.add_assoc]
  · rw [visible, List.filter_append, List.flatMap_append, ← hcs, ← hfront]
    rfl

/-- The first of several tokens, or one behind it. -/
theorem stands_cons {offset : Nat} {text rest : List Char} {y x : Lexeme}
    {more before after : List Lexeme} (hy : y.offset = offset) (hne : y.token ≠ .endOfText)
    (htext : text = y.token.chars ++ rest) (hvisible : visible y.token.chars = y.token.chars)
    (hmore : ∀ before after, more = before ++ x :: after →
      Stands (offset + y.token.chars.length) rest before x)
    (h : y :: more = before ++ x :: after) : Stands offset text before x := by
  subst htext
  cases before with
  | nil =>
    obtain ⟨rfl, rfl⟩ := List.cons.inj h
    exact ⟨[], rest, rfl, by simpa using hy, rfl, fun he => absurd he hne⟩
  | cons z before =>
    obtain ⟨rfl, hrest⟩ := List.cons.inj h
    exact (hmore before after hrest).append [y] (by simpa using hvisible)

theorem visible_eq_self {cs : List Char} (h : ∀ c ∈ cs, Text.isWhitespace c = false) :
    visible cs = cs :=
  List.filter_eq_self.2 fun c hc => by simp [h c hc]

/-- Every token that is scanned stands at its offset. -/
theorem stands_of_scanFrom {offset : Nat} {text : List Char} {before after : List Lexeme}
    {x : Lexeme} (h : scanFrom offset text = .ok (before ++ x :: after)) :
    Stands offset text before x := by
  fun_induction scanFrom offset text generalizing before after with
  | case1 offset =>
    cases before with
    | nil =>
      obtain ⟨rfl, -⟩ := List.cons.inj (Except.ok.inj h)
      exact ⟨[], [], rfl, rfl, rfl, fun _ => rfl⟩
    | cons y before => simp at h
  | case2 offset c rest hc ih =>
    have hskip : visible [c] = [] := by simp [visible, hc]
    exact Stands.append (ih h) [] hskip
  | case3 offset c rest hc token ht ih =>
    obtain ⟨more, hmore, h⟩ := map_eq_ok_iff.1 h
    have hchars : token.chars = [c] := chars_of_ofReserved? ht
    have hwritten := written_of_ofReserved? ht
    refine stands_cons rfl ?_ (by rw [hchars]; rfl) ?_ ?_ h
    · rintro rfl
      exact hwritten
    · exact visible_eq_self (by simpa [hchars] using hc)
    · intro before after hsplit
      rw [hchars]
      exact ih (hsplit ▸ hmore)
  | case4 offset c rest hc hr hct more =>
    rename_i ih
    obtain ⟨others, hothers, h⟩ := map_eq_ok_iff.1 h
    have hmore : ∀ d ∈ c :: more, isTagChar d = true := List.forall_mem_cons.2
      ⟨hct, fun d hd => List.all_eq_true.1 List.all_takeWhile d hd⟩
    have hchars : (Token.tag (String.ofList (c :: more))).chars = c :: more := by simp [chars]
    have hsplit : c :: rest = (Token.tag (String.ofList (c :: more))).chars ++
        rest.dropWhile isTagChar := by
      rw [hchars, List.cons_append, List.takeWhile_append_dropWhile]
    refine stands_cons rfl (by simp) hsplit ?_ ?_ h
    · rw [hchars]
      exact visible_eq_self fun d hd => (isTagChar_eq (hmore d hd)).2
    · intro before after hsplit
      rw [hchars, List.length_cons, ← Nat.add_assoc, Nat.add_right_comm]
      exact ih (hsplit ▸ hothers)
  | case5 => cases h

/-- Where scanning stops there is a character that no token has and that is not white space. -/
theorem char_of_scanFrom_error {offset place : Nat} {text : List Char}
    (h : scanFrom offset text = .error place) :
    ∃ front c rest, text = front ++ c :: rest ∧ place = offset + front.length ∧
      Text.isWhitespace c = false ∧ isReserved c = false ∧ isTagChar c = false := by
  fun_induction scanFrom offset text with
  | case1 => cases h
  | case2 offset c rest hc ih =>
    obtain ⟨front, d, more, rfl, hplace, hd⟩ := ih h
    exact ⟨c :: front, d, more, rfl, by rw [hplace, List.length_cons]; omega, hd⟩
  | case3 offset c rest hc token ht ih =>
    obtain ⟨front, d, more, rfl, hplace, hd⟩ := ih (map_eq_error_iff.1 h)
    exact ⟨c :: front, d, more, rfl, by rw [hplace, List.length_cons]; omega, hd⟩
  | case4 offset c rest hc hr hct more =>
    rename_i ih
    obtain ⟨front, d, others, hrest, hplace, hd⟩ := ih (map_eq_error_iff.1 h)
    refine ⟨c :: (more ++ front), d, others, ?_, ?_, hd⟩
    · rw [List.cons_append, List.append_assoc, ← hrest, List.takeWhile_append_dropWhile]
    · rw [hplace, List.length_cons, List.length_append]
      omega
  | case5 offset c rest hc hr hct =>
    obtain rfl := Except.error.inj h
    have hreserved : isReserved c = false := by rw [← ofReserved?_isSome, hr]; rfl
    exact ⟨[], c, rest, rfl, rfl, by simpa using hc, hreserved, by simpa using hct⟩

/-- The tokens stand one behind the other, none before `offset`. -/
def InOrder (offset : Nat) (lexemes : List Lexeme) : Prop :=
  (∀ x ∈ lexemes, offset ≤ x.offset) ∧ lexemes.Pairwise (·.offset < ·.offset)

theorem InOrder.cons {offset next : Nat} {lexemes : List Lexeme} (h : InOrder next lexemes)
    (hnext : offset < next) (t : Token) : InOrder offset (⟨t, offset⟩ :: lexemes) := by
  obtain ⟨hle, hpairwise⟩ := h
  constructor
  · refine List.forall_mem_cons.2 ⟨Nat.le_refl _, fun x hx => ?_⟩
    exact Nat.le_trans (Nat.le_of_lt hnext) (hle x hx)
  · exact List.pairwise_cons.2 ⟨fun x hx => Nat.lt_of_lt_of_le hnext (hle x hx), hpairwise⟩

theorem inOrder_of_scanFrom {offset : Nat} {text : List Char} {lexemes : List Lexeme}
    (h : scanFrom offset text = .ok lexemes) : InOrder offset lexemes := by
  fun_induction scanFrom offset text generalizing lexemes with
  | case1 offset =>
    cases h
    simp [InOrder]
  | case2 offset c rest hc ih =>
    obtain ⟨hle, hpairwise⟩ := ih h
    exact ⟨fun x hx => Nat.le_of_succ_le (hle x hx), hpairwise⟩
  | case3 offset c rest hc token ht ih =>
    obtain ⟨more, hmore, rfl⟩ := map_eq_ok_iff.1 h
    exact (ih hmore).cons (Nat.lt_succ_self _) token
  | case4 offset c rest hc hr hct more =>
    rename_i ih
    obtain ⟨others, hothers, rfl⟩ := map_eq_ok_iff.1 h
    exact (ih hothers).cons (by omega) _
  | case5 => cases h

/-! ## Places in a whole text -/

section Scan

variable {text : String} {lexemes before after : List Lexeme} {x : Lexeme}

/-- The visible characters before a token are those of the tokens before it. -/
theorem visible_take (h : scan text = .ok (before ++ x :: after)) :
    visible (text.toList.take x.offset) = before.flatMap (·.token.chars) := by
  obtain ⟨front, rest, htext, hoffset, hfront, -⟩ := stands_of_scanFrom h
  rw [htext, hoffset, Nat.zero_add, List.take_left, hfront]

/-- Only the last token is the end. -/
theorem scan_split (h : scan text = .ok (before ++ x :: after)) :
    (∀ y ∈ before, y.token.Written) ∧ (x.token.Written ∨ x.token = .endOfText ∧ after = []) := by
  obtain ⟨read, last, hread, hwritten⟩ := scan_ok h
  rcases List.eq_nil_or_concat after with rfl | ⟨more, z, rfl⟩
  · obtain ⟨rfl, rfl⟩ := List.append_singleton_inj.1 hread
    exact ⟨hwritten, Or.inr ⟨rfl, rfl⟩⟩
  · rw [List.concat_eq_append, ← List.cons_append, ← List.append_assoc] at hread
    obtain ⟨rfl, -⟩ := List.append_singleton_inj.1 hread
    exact ⟨fun y hy => hwritten y (by simp [hy]), Or.inl (hwritten x (by simp))⟩

/-- The tokens before a place, and these with the one there. -/
theorem filter_offset (h : scan text = .ok (before ++ x :: after)) :
    (before ++ x :: after).filter (·.offset < x.offset) = before ∧
      (before ++ x :: after).filter (·.offset ≤ x.offset) = before ++ [x] := by
  obtain ⟨-, hafter, hbefore⟩ := List.pairwise_append.1 (inOrder_of_scanFrom h).2
  have hlt : ∀ y ∈ before, y.offset < x.offset := fun y hy => hbefore y hy x List.mem_cons_self
  have hgt : ∀ y ∈ after, x.offset < y.offset := (List.pairwise_cons.1 hafter).1
  constructor
  · have hfront : before.filter (·.offset < x.offset) = before :=
      List.filter_eq_self.2 fun y hy => by simpa using hlt y hy
    have hrest : after.filter (·.offset < x.offset) = [] :=
      List.filter_eq_nil_iff.2 fun y hy => by simpa using Nat.le_of_lt (hgt y hy)
    simp [hfront, hrest]
  · have hfront : before.filter (·.offset ≤ x.offset) = before :=
      List.filter_eq_self.2 fun y hy => by simpa using Nat.le_of_lt (hlt y hy)
    have hrest : after.filter (·.offset ≤ x.offset) = [] :=
      List.filter_eq_nil_iff.2 fun y hy => by simpa using hgt y hy
    simp [hfront, hrest]

/-- A text without tokens is blank. -/
theorem blank_of_scan (h : scan text = .ok (x :: after)) (hx : x.token = .endOfText) :
    Text.isBlank text = true := by
  have hstands : Stands 0 text.toList [] x := stands_of_scanFrom h
  obtain ⟨front, rest, htext, -, hfront, hend⟩ := hstands
  obtain rfl := hend hx
  have hvisible : visible text.toList = [] := by simpa [htext, hx, chars] using hfront
  simpa [visible, List.filter_eq_nil_iff, Text.isBlank] using hvisible

/-- A token stands where it says. -/
theorem getElem?_offset (h : scan text = .ok lexemes) (hx : x ∈ lexemes) :
    ∃ rest, text.toList[x.offset]? = (x.token.chars ++ rest).head? ∧
      (x.token.Written ∨ x.token = .endOfText ∧ rest = []) := by
  obtain ⟨before, after, rfl⟩ := List.append_of_mem hx
  obtain ⟨front, rest, htext, hoffset, -, hend⟩ := stands_of_scanFrom h
  refine ⟨rest, ?_, (scan_split h).2.imp_right fun hx => ⟨hx.1, hend hx.1⟩⟩
  rw [htext, hoffset, Nat.zero_add, List.getElem?_append_right (Nat.le_refl _), Nat.sub_self,
    List.head?_eq_getElem?]

/-- A reserved character stands where its token does. -/
theorem getElem?_offset_iff (h : scan text = .ok lexemes) (hx : x ∈ lexemes) {c : Char} {t : Token}
    (ht : ofReserved? c = some t) : text.toList[x.offset]? = some c ↔ x.token = t := by
  obtain ⟨rest, hhead, hw | ⟨hx, rfl⟩⟩ := getElem?_offset h hx
  · rw [hhead, List.head?_append_of_ne_nil _ hw.chars_ne_nil]
    exact head?_chars_iff ht hw
  · have hne : Token.endOfText ≠ t := by
      rintro rfl
      exact written_of_ofReserved? ht
    rw [hhead, hx]
    simp [chars, hne]

/-- A written token starts with a visible character. -/
theorem visible_at_offset (h : scan text = .ok lexemes) (hx : x ∈ lexemes)
    (hw : x.token.Written) :
    ∃ c, text.toList[x.offset]? = some c ∧ Text.isWhitespace c = false := by
  obtain ⟨rest, hhead, -⟩ := getElem?_offset h hx
  obtain ⟨c, more, hc⟩ := List.exists_cons_of_ne_nil hw.chars_ne_nil
  refine ⟨c, by rw [hhead, hc]; rfl, hw.visible_of_mem (hc ▸ List.mem_cons_self)⟩

end Scan

end Token

end AudienceRouting
