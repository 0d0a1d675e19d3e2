/-
  Audience routing — what ignoring case loses.

  A capital sigma has two lowercase forms, and which one it has depends on the letters
  around it.  A literal that is a category or a pattern matches tags in which other text
  follows it, or stands for its stars; a sigma of the literal can then have another form
  in the tag than in the literal.

  * `Text.endsWord before rest`: a capital sigma between them ends a word.
  * `Glob.StarDecides before rest`: whether it does is up to the text in place of a star.
  * `LiteralKind.Unsettled kind literal`: some capital sigma of the literal has a form
    that depends on the tag.

  Where no star decides, the lowercase form of a value fills the lowercase form of the
  pattern (`Fills.lowercaseAfter`).  Where one does, there is a run that costs the value
  a letter of the pattern when it stands in place of each star (`Glob.Depletes`).  So
  ignoring case keeps all matches of exactly the literals without such a sigma
  (`ignoring_case_keeps_iff`).
-/
import AudienceRouting.Proofs.Lowercasing
import AudienceRouting.Proofs.Satisfaction
import AudienceRouting.Proofs.Wildcards

namespace AudienceRouting

/-! ## The letter behind characters that case ignores -/

namespace Text

variable {c : Char} {before rest front back : List Char}

/-- Whether the first character that case does not ignore is of some class. -/
def meets (p : Char → Bool) (text : List Char) : Bool :=
  match text.dropWhile isCaseIgnorable with
  | [] => false
  | c :: _ => p c

theorem meets_cons (p : Char → Bool) (c : Char) (text : List Char) :
    meets p (c :: text) = if isCaseIgnorable c then meets p text else p c := by
  unfold meets
  rw [List.dropWhile_cons]
  by_cases hc : isCaseIgnorable c = true
  · rw [if_pos hc, if_pos hc]
  · rw [if_neg hc, if_neg hc]

theorem meetsCased_cons (c : Char) (text : List Char) :
    meetsCased (c :: text) = if isCaseIgnorable c then meetsCased text else isCased c :=
  meets_cons isCased c text

theorem meetsCased_append_of_ignorable (h : ∀ c ∈ front, isCaseIgnorable c = true) :
    meetsCased (front ++ back) = meetsCased back := by
  induction front with
  | nil => rfl
  | cons c front ih =>
    obtain ⟨hc, hfront⟩ := List.forall_mem_cons.1 h
    rw [List.cons_append, meetsCased_cons, if_pos hc, ih hfront]

theorem meetsCased_append_of_not_ignorable (h : ¬ ∀ c ∈ front, isCaseIgnorable c = true)
    (back : List Char) : meetsCased (front ++ back) = meetsCased front := by
  induction front with
  | nil => exact absurd (by simp) h
  | cons c front ih =>
    rw [List.cons_append, meetsCased_cons, meetsCased_cons]
    by_cases hc : isCaseIgnorable c = true
    · rw [if_pos hc, if_pos hc]
      exact ih fun hfront => h (List.forall_mem_cons.2 ⟨hc, hfront⟩)
    · rw [if_neg hc, if_neg hc]

theorem meetsCased_of_ignorable (h : ∀ c ∈ front, isCaseIgnorable c = true) :
    meetsCased front = false := by
  rw [← List.append_nil front, meetsCased_append_of_ignorable h]
  rfl

def endsWord (before rest : List Char) : Bool := meetsCased before && !meetsCased rest

theorem form_sigma (before rest : List Char) :
    form before 'Σ' rest = if endsWord before rest then ['ς'] else ['σ'] :=
  if_pos rfl

theorem form_congr {before' rest' : List Char}
    (h : c = 'Σ' → endsWord before' rest' = endsWord before rest) :
    form before' c rest' = form before c rest := by
  by_cases hc : c = 'Σ'
  · subst hc
    rw [form_sigma, form_sigma, h rfl]
  · rw [form_of_ne hc, form_of_ne hc]

/-- What stands in front of a character that case does not ignore has the same form whatever
    follows it. -/
theorem exists_lowercaseAfter_append_cons (hc : isCaseIgnorable c = false)
    (before front : List Char) :
    ∃ forms, ∀ rest, lowercaseAfter before (front ++ c :: rest) =
      forms ++ lowercaseAfter (front.reverse ++ before) (c :: rest) := by
  induction front generalizing before with
  | nil => exact ⟨[], fun _ => rfl⟩
  | cons d front ih =>
    obtain ⟨forms, hforms⟩ := ih (d :: before)
    refine ⟨form before d (front ++ [c]) ++ forms, fun rest => ?_⟩
    have hnot : ¬ ∀ x ∈ front ++ [c], isCaseIgnorable x = true := by
      intro h
      rw [h c (List.mem_append_right front (List.mem_singleton_self c))] at hc
      cases hc
    have hform : form before d (front ++ c :: rest) = form before d (front ++ [c]) := by
      refine form_congr fun _ => ?_
      rw [endsWord, endsWord, ← meetsCased_append_of_not_ignorable hnot rest,
        List.append_assoc, List.singleton_append]
    rw [List.cons_append, lowercaseAfter_cons, hform, hforms, List.append_assoc,
      List.reverse_cons, List.append_assoc, List.singleton_append]

/-! ## Texts that more text follows -/

/-- The last word of the text ends in a capital sigma. -/
def EndsInSigma (text : List Char) : Prop :=
  ∃ front back, text = front ++ 'Σ' :: back ∧ meetsCased front.reverse = true ∧
    ∀ c ∈ back, isCaseIgnorable c = true

theorem lowercaseAfter_prefix_append {text : List Char} (more : List Char)
    (h : ∀ front back, text = front ++ 'Σ' :: back → meetsCased (front.reverse ++ before) = true →
      ¬ ∀ c ∈ back, isCaseIgnorable c = true) :
    lowercaseAfter before text <+: lowercaseAfter before (text ++ more) := by
  induction text generalizing before with
  | nil => exact List.nil_prefix
  | cons c text ih =>
    have hform : form before c (text ++ more) = form before c text := by
      refine form_congr ?_
      rintro rfl
      cases hbefore : meetsCased before with
      | false => rw [endsWord, endsWord, hbefore, Bool.false_and, Bool.false_and]
      | true =>
        rw [endsWord, endsWord, meetsCased_append_of_not_ignorable (h [] text rfl hbefore)]
    rw [List.cons_append, lowercaseAfter_cons, lowercaseAfter_cons, hform,
      List.prefix_append_right_inj]
    refine ih fun front back htext hfront => h (c :: front) back (by rw [htext]; rfl) ?_
    rwa [List.reverse_cons, List.append_assoc]

/-- A letter behind a text that ends in a sigma makes another form of the sigma. -/
theorem not_lowercaseAfter_prefix_append {text : List Char} (h : EndsInSigma text) :
    ¬ lowercaseAfter [] text <+: lowercaseAfter [] (text ++ ['a']) := by
  obtain ⟨front, back, rfl, hfront, hback⟩ := h
  obtain ⟨forms, hforms⟩ :=
    exists_lowercaseAfter_append_cons (c := 'Σ') (by decide +kernel) [] front
  have hends : endsWord (front.reverse ++ []) back = true := by
    rw [endsWord, List.append_nil, hfront, meetsCased_of_ignorable hback]
    rfl
  have hgoes : endsWord (front.reverse ++ []) (back ++ ['a']) = false := by
    rw [endsWord, meetsCased_append_of_ignorable hback]
    have ha : meetsCased ['a'] = true := by decide +kernel
    rw [ha, Bool.not_true, Bool.and_false]
  rw [List.append_assoc, List.cons_append, hforms, hforms, List.prefix_append_right_inj,
    lowercaseAfter_cons, lowercaseAfter_cons, form_sigma, form_sigma, if_pos hends, hgoes]
  intro hprefix
  have hhead := (List.cons_prefix_cons.1 hprefix).1
  exact absurd hhead (by decide)

end Text

/-! ## Patterns -/

namespace Glob

open Text

variable {pattern value before before' rest rest' run : List Char} {x : Char}

/-- Whether the first character that case does not ignore is a star. -/
def meetsStar (text : List Char) : Bool := meets (· == '*') text

theorem meetsStar_cons (c : Char) (text : List Char) :
    meetsStar (c :: text) = if isCaseIgnorable c then meetsStar text else c == '*' :=
  meets_cons (· == '*') c text

/-- Case does not ignore a star. -/
theorem not_isCaseIgnorable_star : isCaseIgnorable '*' = false := by
  decide +kernel

theorem meetsStar_star (text : List Char) : meetsStar ('*' :: text) = true := by
  rw [meetsStar_cons, not_isCaseIgnorable_star]
  rfl

/-- A star is no letter. -/
theorem meetsCased_star (text : List Char) : meetsCased ('*' :: text) = false := by
  have hletter : isCased '*' = false := by decide +kernel
  rw [meetsCased_cons, not_isCaseIgnorable_star, hletter]
  rfl

theorem meetsCased_of_meetsStar {text : List Char} (h : meetsStar text = true) :
    meetsCased text = false := by
  induction text with
  | nil => cases h
  | cons c text ih =>
    rw [meetsStar_cons] at h
    by_cases hc : isCaseIgnorable c = true
    · rw [if_pos hc] at h
      rw [meetsCased_cons, if_pos hc, ih h]
    · rw [if_neg hc, beq_iff_eq] at h
      subst h
      exact meetsCased_star text

/-- The text in place of a star decides whether a capital sigma between `before`, in reverse, and
    `rest` ends a word: a star follows a word that ends in it, or a star is in front of it and no
    letter follows. -/
def StarDecides (before rest : List Char) : Prop :=
  meetsCased before = true ∧ meetsStar rest = true ∨
    meetsStar before = true ∧ meetsCased rest = false

/-- A capital sigma has a form that is up to the text in place of a star. -/
def HasOpenSigma (pattern : List Char) : Prop :=
  ∃ front back, pattern = front ++ 'Σ' :: back ∧ StarDecides front.reverse back

/-! ### Patterns in which no star decides -/

theorem meetsCased_of_fills (h : Fills pattern value) (hstar : meetsStar pattern = false) :
    meetsCased value = meetsCased pattern := by
  induction h with
  | nil => rfl
  | @star run pattern =>
    rw [meetsStar_star] at hstar
    cases hstar
  | @char c _ pattern value _ ih =>
    rw [meetsStar_cons] at hstar
    rw [meetsCased_cons, meetsCased_cons]
    by_cases hc : isCaseIgnorable c = true
    · rw [if_pos hc] at hstar
      rw [if_pos hc, if_pos hc, ih hstar]
    · rw [if_neg hc, if_neg hc]

theorem endsWord_of_fills (hbefore : Fills before before') (hrest : Fills rest rest')
    (h : ¬ StarDecides before rest) : endsWord before' rest' = endsWord before rest := by
  obtain ⟨hbehind, hfront⟩ := not_or.1 h
  cases hb : meetsStar before with
  | true =>
    have hletter : meetsCased rest = true := eq_true_of_ne_false fun hr => hfront ⟨hb, hr⟩
    have hstar : meetsStar rest = false := by
      refine eq_false_of_ne_true fun hs => ?_
      rw [meetsCased_of_meetsStar hs] at hletter
      cases hletter
    rw [endsWord, endsWord, meetsCased_of_fills hrest hstar, hletter, Bool.not_true,
      Bool.and_false, Bool.and_false]
  | false =>
    rw [endsWord, endsWord, meetsCased_of_fills hbefore hb]
    cases hr : meetsStar rest with
    | false => rw [meetsCased_of_fills hrest hr]
    | true =>
      have hnone : meetsCased before = false := eq_false_of_ne_true fun hc => hbehind ⟨hc, hr⟩
      rw [hnone, Bool.false_and, Bool.false_and]

theorem Fills.lowercaseAfter (hbefore : Fills before before') (h : Fills pattern value)
    (hopen : ∀ front back, pattern = front ++ 'Σ' :: back →
      ¬ StarDecides (front.reverse ++ before) back) :
    Fills (lowercaseAfter before pattern) (lowercaseAfter before' value) := by
  induction h generalizing before before' with
  | nil => exact .nil
  | @star run pattern value _ ih =>
    obtain ⟨forms, hforms⟩ := exists_lowercaseAfter_append before' run value
    rw [lowercaseAfter_cons, form_of_isSign (by decide), hforms]
    refine .star forms (ih (.star run.reverse hbefore) fun front back hpattern => ?_)
    have hsplit := hopen ('*' :: front) back (by rw [hpattern]; rfl)
    rwa [List.reverse_cons, List.append_assoc] at hsplit
  | @char c hc pattern value h ih =>
    have hform : form before' c value = form before c pattern := by
      refine form_congr ?_
      rintro rfl
      exact endsWord_of_fills hbefore h (hopen [] pattern rfl)
    have hstar : '*' ∉ form before c pattern := by
      rw [mem_form_iff (by decide)]
      exact Ne.symm hc
    rw [lowercaseAfter_cons, lowercaseAfter_cons, hform]
    refine .append_left hstar (ih (.char hc hbefore) fun front back hpattern => ?_)
    have hsplit := hopen (c :: front) back (by rw [hpattern]; rfl)
    rwa [List.reverse_cons, List.append_assoc] at hsplit

/-! ### Patterns in which a star decides -/

/-- Behind characters that case ignores stands a letter, or a star whose run has one there. -/
theorem meetsCased_fillAll (hrun : ¬ ∀ c ∈ run, isCaseIgnorable c = true) (text : List Char) :
    meetsCased (fillAll run text) = (meetsCased text || meetsStar text && meetsCased run) := by
  induction text with
  | nil => rfl
  | cons c text ih =>
    by_cases hc : c = '*'
    · subst hc
      rw [fillAll_star, meetsCased_append_of_not_ignorable hrun, meetsCased_star, meetsStar_star]
      rfl
    · rw [fillAll_char hc, meetsCased_cons, meetsCased_cons, meetsStar_cons, ih]
      by_cases hi : isCaseIgnorable c = true
      · rw [if_pos hi, if_pos hi, if_pos hi]
      · rw [if_neg hi, if_neg hi, if_neg hi, beq_false_of_ne hc, Bool.false_and, Bool.or_false]

/-- Around a sigma, what a star stands for counts where the star is the first that case does not
    ignore. -/
theorem endsWord_fillAll (hrun : run.all isCaseIgnorable = false) (before rest : List Char) :
    endsWord (fillAll run.reverse before) (fillAll run rest) =
      ((meetsCased before || meetsStar before && meetsCased run.reverse) &&
        !(meetsCased rest || meetsStar rest && meetsCased run)) := by
  have hforward : ¬ ∀ c ∈ run, isCaseIgnorable c = true := by
    rw [← List.all_eq_true, hrun]
    exact Bool.false_ne_true
  have hback : ¬ ∀ c ∈ run.reverse, isCaseIgnorable c = true :=
    fun h => hforward fun c hc => h c (List.mem_reverse.2 hc)
  rw [endsWord, meetsCased_fillAll hback, meetsCased_fillAll hforward]

/-- In place of each star of a pattern the run adds no `x` to the lowercase form, and turns no
    other form of a capital sigma into `x`. -/
structure Depletes (run : List Char) (x : Char) : Prop where
  ne_star : x ≠ '*'
  absent : ∀ c ∈ run, c ≠ 'Σ' ∧ x ∉ lowercaseChar c
  sigma : ∀ before rest, (form (fillAll run.reverse before) 'Σ' (fillAll run rest)).count x ≤
    (form before 'Σ' rest).count x

namespace Depletes

theorem count_run (h : Depletes run x) (before rest : List Char) :
    (lowercaseAfter before (run ++ rest)).count x =
      (lowercaseAfter (run.reverse ++ before) rest).count x := by
  have habsent := h.absent
  clear h
  induction run generalizing before with
  | nil => rfl
  | cons c run ih =>
    obtain ⟨⟨hc, hx⟩, hrun⟩ := List.forall_mem_cons.1 habsent
    rw [List.cons_append, lowercaseAfter_cons, List.count_append, form_of_ne hc,
      List.count_eq_zero.2 hx, Nat.zero_add, ih _ hrun, List.reverse_cons, List.append_assoc,
      List.singleton_append]

theorem form_le (h : Depletes run x) (before : List Char) (c : Char) (rest : List Char) :
    (form (fillAll run.reverse before) c (fillAll run rest)).count x ≤
      (form before c rest).count x := by
  by_cases hc : c = 'Σ'
  · subst hc
    exact h.sigma before rest
  · have hsame : form (fillAll run.reverse before) c (fillAll run rest) = form before c rest := by
      rw [form_of_ne hc, form_of_ne hc]
    exact Nat.le_of_eq (congrArg (List.count x) hsame)

theorem count_le (h : Depletes run x) (before pattern : List Char) :
    (lowercaseAfter (fillAll run.reverse before) (fillAll run pattern)).count x ≤
      (lowercaseAfter before pattern).count x := by
  induction pattern generalizing before with
  | nil => exact Nat.le_refl _
  | cons c pattern ih =>
    have hih := ih (c :: before)
    by_cases hc : c = '*'
    · subst hc
      rw [fillAll_star, h.count_run, lowercaseAfter_cons, List.count_append]
      exact Nat.le_trans hih (Nat.le_add_left _ _)
    · rw [fillAll_char hc] at hih
      rw [fillAll_char hc, lowercaseAfter_cons, lowercaseAfter_cons, List.count_append,
        List.count_append]
      exact Nat.add_le_add (h.form_le before c pattern) hih

/-- A sigma that is no `x` any more makes a difference. -/
theorem count_lt (h : Depletes run x) (before front back : List Char)
    (hlost : (form (fillAll run.reverse (front.reverse ++ before)) 'Σ' (fillAll run back)).count x <
      (form (front.reverse ++ before) 'Σ' back).count x) :
    (lowercaseAfter (fillAll run.reverse before) (fillAll run (front ++ 'Σ' :: back))).count x <
      (lowercaseAfter before (front ++ 'Σ' :: back)).count x := by
  induction front generalizing before with
  | nil =>
    have hback := h.count_le ('Σ' :: before) back
    rw [fillAll_char (by decide)] at hback
    rw [List.nil_append, fillAll_char (by decide), lowercaseAfter_cons, lowercaseAfter_cons,
      List.count_append, List.count_append]
    exact Nat.add_lt_add_of_lt_of_le hlost hback
  | cons c front ih =>
    rw [List.reverse_cons, List.append_assoc, List.singleton_append] at hlost
    have hih := ih _ hlost
    by_cases hc : c = '*'
    · subst hc
      rw [List.cons_append, fillAll_star, h.count_run, lowercaseAfter_cons, List.count_append]
      exact Nat.lt_of_lt_of_le hih (Nat.le_add_left _ _)
    · rw [fillAll_char hc] at hih
      rw [List.cons_append, fillAll_char hc, lowercaseAfter_cons, lowercaseAfter_cons,
        List.count_append, List.count_append]
      exact Nat.add_lt_add_of_le_of_lt (h.form_le before c _) hih

end Depletes

theorem count_form_sigma (before rest : List Char) (x : Char) :
    (form before 'Σ' rest).count x =
      if endsWord before rest then ['ς'].count x else ['σ'].count x := by
  rw [form_sigma]
  exact apply_ite (List.count x) _ _ _

/-- A run that starts with a letter: no sigma in front of it ends a word. -/
theorem endsWord_fillAll_letter (before rest : List Char) :
    endsWord (fillAll ['a', '1'].reverse before) (fillAll ['a', '1'] rest) =
      (meetsCased before && !(meetsCased rest || meetsStar rest)) := by
  have hfront : meetsCased ['a', '1'] = true := by decide +kernel
  have hback : meetsCased ['a', '1'].reverse = false := by decide +kernel
  rw [endsWord_fillAll (by decide +kernel), hfront, hback, Bool.and_false, Bool.or_false,
    Bool.and_true]

/-- A run that ends in a letter: every sigma behind it that no letter follows ends a word. -/
theorem endsWord_fillAll_digit (before rest : List Char) :
    endsWord (fillAll ['1', 'a'].reverse before) (fillAll ['1', 'a'] rest) =
      ((meetsCased before || meetsStar before) && !meetsCased rest) := by
  have hfront : meetsCased ['1', 'a'] = false := by decide +kernel
  have hback : meetsCased ['1', 'a'].reverse = true := by decide +kernel
  rw [endsWord_fillAll (by decide +kernel), hfront, hback, Bool.and_true, Bool.and_false,
    Bool.or_false]

theorem depletes_letter : Depletes ['a', '1'] 'ς' where
  ne_star := by decide
  absent := List.forall_mem_cons.2
    ⟨by decide +kernel, List.forall_mem_singleton.2 (by decide +kernel)⟩
  sigma before rest := by
    rw [count_form_sigma, count_form_sigma, endsWord_fillAll_letter, endsWord]
    cases meetsCased before <;> cases meetsCased rest <;> cases meetsStar rest <;> decide

theorem depletes_digit : Depletes ['1', 'a'] 'σ' where
  ne_star := by decide
  absent := List.forall_mem_cons.2
    ⟨by decide +kernel, List.forall_mem_singleton.2 (by decide +kernel)⟩
  sigma before rest := by
    rw [count_form_sigma, count_form_sigma, endsWord_fillAll_digit, endsWord]
    cases meetsCased before <;> cases meetsStar before <;> cases meetsCased rest <;> decide

/-- A value of the pattern whose lowercase form does not fill that of the pattern. -/
theorem exists_not_fills_lowercaseAfter (h : HasOpenSigma pattern) :
    ∃ value, Fills pattern value ∧
      ¬ Fills (Text.lowercaseAfter [] pattern) (Text.lowercaseAfter [] value) := by
  obtain ⟨front, back, rfl, ⟨hletter, hstar⟩ | ⟨hstar, hnone⟩⟩ := h
  · refine ⟨_, fills_fillAll ['a', '1'] _, fun hfills => ?_⟩
    have hlt := depletes_letter.count_lt [] front back (by
      rw [count_form_sigma, count_form_sigma, endsWord_fillAll_letter, endsWord, List.append_nil,
        hletter, hstar, meetsCased_of_meetsStar hstar]
      decide)
    exact absurd (hfills.count_le depletes_letter.ne_star) (Nat.not_le.2 hlt)
  · refine ⟨_, fills_fillAll ['1', 'a'] _, fun hfills => ?_⟩
    have hlt := depletes_digit.count_lt [] front back (by
      rw [count_form_sigma, count_form_sigma, endsWord_fillAll_digit, endsWord, List.append_nil,
        hstar, hnone, meetsCased_of_meetsStar hstar]
      decide)
    exact absurd (hfills.count_le depletes_digit.ne_star) (Nat.not_le.2 hlt)

end Glob

/-! ## Literals -/

namespace LiteralKind

variable {kind : LiteralKind} {literal tag : String}

def Unsettled (kind : LiteralKind) (literal : String) : Prop :=
  match kind with
  | .category => Text.EndsInSigma literal.toList
  | .glob => Glob.HasOpenSigma literal.toList
  | .exact | .everything => False

theorem accepts_lowercase (h : ¬ kind.Unsettled literal) (ha : kind.accepts literal tag = true) :
    kind.accepts (Text.lowercase literal) (Text.lowercase tag) = true := by
  cases kind with
  | everything => rfl
  | exact =>
    obtain rfl := eq_of_beq ha
    exact beq_self_eq_true _
  | category =>
    obtain ⟨more, hmore⟩ := List.isPrefixOf_iff_prefix.1 ha
    refine List.isPrefixOf_iff_prefix.2 ?_
    rw [Text.toList_lowercase, Text.toList_lowercase, ← hmore]
    refine Text.lowercaseAfter_prefix_append more fun front back hsplit hfront hback => ?_
    rw [List.append_nil] at hfront
    exact h ⟨front, back, hsplit, hfront, hback⟩
  | glob =>
    refine Glob.covers_iff_fills.2 ?_
    rw [Text.toList_lowercase, Text.toList_lowercase]
    refine Glob.Fills.lowercaseAfter .nil (Glob.covers_iff_fills.1 ha)
      fun front back hsplit hdecides => ?_
    rw [List.append_nil] at hdecides
    exact h ⟨front, back, hsplit, hdecides⟩

theorem exists_accepts_not_lowercase (h : kind.Unsettled literal) :
    ∃ tag, kind.accepts literal tag = true ∧
      ¬ kind.accepts (Text.lowercase literal) (Text.lowercase tag) = true := by
  cases kind with
  | everything | exact => exact h.elim
  | category =>
    refine ⟨String.ofList (literal.toList ++ ['a']), ?_, fun ha => ?_⟩
    · rw [accepts, String.toList_ofList]
      exact List.isPrefixOf_iff_prefix.2 (List.prefix_append _ _)
    · have hprefix := List.isPrefixOf_iff_prefix.1 ha
      rw [Text.toList_lowercase, Text.toList_lowercase, String.toList_ofList] at hprefix
      exact Text.not_lowercaseAfter_prefix_append h hprefix
  | glob =>
    obtain ⟨value, hfills, hnot⟩ := Glob.exists_not_fills_lowercaseAfter h
    refine ⟨String.ofList value, ?_, fun ha => hnot ?_⟩
    · rw [accepts, String.toList_ofList]
      exact Glob.covers_iff_fills.2 hfills
    · have hcovers := Glob.covers_iff_fills.1 ha
      rwa [Text.toList_lowercase, Text.toList_lowercase, String.toList_ofList] at hcovers

end LiteralKind

/-- **What ignoring case loses.**  A literal that some tag satisfies where case counts is satisfied
    also where case is ignored, for all sets of tags, exactly if no capital sigma of the literal
    has a form that depends on the tag: a category must not end in one, and in a pattern no star
    may decide on one. -/
theorem ignoring_case_keeps_iff (literal : String) (options : MatchOptions) :
    (∀ tags : TagSet, tags.satisfies literal { options with caseSensitive := true } = true →
      tags.satisfies literal { options with caseSensitive := false } = true) ↔
    ¬ (LiteralKind.of literal options).Unsettled literal := by
  constructor
  · intro hkeeps hunsettled
    obtain ⟨tag, hcase, hlost⟩ := LiteralKind.exists_accepts_not_lowercase hunsettled
    have hkept := hkeeps (.ofList [tag]) (by rw [TagSet.satisfies_singleton]; exact hcase)
    rw [TagSet.satisfies_singleton] at hkept
    exact hlost hkept
  · intro hsettled tags hcase
    by_cases he : LiteralKind.of literal options = .everything
    · exact TagSet.satisfies_of_everything he
    · have hkind (caseSensitive : Bool) :
          LiteralKind.of literal { options with caseSensitive := caseSensitive } ≠ .everything := he
      rw [TagSet.satisfies_eq_any (hkind true), List.any_eq_true] at hcase
      rw [TagSet.satisfies_eq_any (hkind false), List.any_eq_true]
      obtain ⟨tag, htag, ha⟩ := hcase
      exact ⟨tag, htag, LiteralKind.accepts_lowercase hsettled ha⟩

/-- The sigma ends a word in the category, and none in a tag of the category. -/
theorem category_lost_ignoring_case :
    (TagSet.ofList ["ΑΣ:Β"]).satisfies "ΑΣ:" { caseSensitive := true, categoryMode := true } =
      true ∧
    (TagSet.ofList ["ΑΣ:Β"]).satisfies "ΑΣ:" { caseSensitive := false, categoryMode := true } =
      false := by
  decide +kernel

end AudienceRouting
