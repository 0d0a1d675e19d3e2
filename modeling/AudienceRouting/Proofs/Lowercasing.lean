/-
  Audience routing — lowercase forms, character by character.

  * `Text.form before c rest`: what a character becomes between `before`, in reverse,
    and `rest`.  The lowercase form of a text is that of its characters, one after the
    other (`lowercaseAfter_cons`).
  * `Text.IsSign`: the characters that ASCII has in front of its letters, such as `*`
    and `:`.

  A sign is its own form, and stands in the form of no other character
  (`mem_form_iff`).  So a text and its lowercase form have the same signs
  (`mem_lowercase_iff`), end in the same one (`getLast?_lowercase_iff`), and are the
  same one alone (`lowercase_eq_singleton_iff`).
-/
import AudienceRouting.Text.Lowercase

namespace AudienceRouting.Text

variable {c m : Char} {before rest text : List Char}

/-! ## Forms of characters -/

def form (before : List Char) (c : Char) (rest : List Char) : List Char :=
  if c = 'Σ' then
    if meetsCased before && !meetsCased rest then ['ς'] else ['σ']
  else lowercaseChar c

theorem lowercaseAfter_cons (before : List Char) (c : Char) (rest : List Char) :
    lowercaseAfter before (c :: rest) = form before c rest ++ lowercaseAfter (c :: before) rest :=
  rfl

/-- What stands around any other letter makes no difference. -/
theorem form_of_ne (hc : c ≠ 'Σ') : form before c rest = lowercaseChar c :=
  if_neg hc

theorem lowercaseChar_ne_nil (c : Char) : lowercaseChar c ≠ [] := by
  unfold lowercaseChar
  dsimp only
  split
  · exact List.cons_ne_nil _ _
  split
  · exact List.cons_ne_nil _ _
  split <;> exact List.cons_ne_nil _ _

theorem form_ne_nil (before : List Char) (c : Char) (rest : List Char) :
    form before c rest ≠ [] := by
  unfold form
  split
  · split <;> exact List.cons_ne_nil _ _
  · exact lowercaseChar_ne_nil c

/-! ## Signs -/

def IsSign (c : Char) : Prop := 0 < c.toNat ∧ c.toNat < 0x41

instance : DecidablePred IsSign :=
  fun c => inferInstanceAs (Decidable (0 < c.toNat ∧ c.toNat < 0x41))

theorem IsSign.ne_sigma (h : IsSign m) : m ≠ 'Σ' := by
  rintro rfl
  exact absurd h (by decide)

/-- The number of a code point, unless it is that of no character. -/
theorem toNat_ofNat (n : Nat) : (Char.ofNat n).toNat = n ∨ (Char.ofNat n).toNat = 0 := by
  by_cases h : n.isValidChar
  · exact Or.inl (congrArg Char.toNat (dif_pos h))
  · exact Or.inr (congrArg Char.toNat (dif_neg h))

theorem not_isSign_ofNat {n : Nat} (h : 0x41 ≤ n) : ¬ IsSign (Char.ofNat n) := by
  rintro ⟨hpos, hlt⟩
  rcases toNat_ofNat n with hn | hn <;> omega

/-- No letter outside of ASCII has a sign for its form. -/
theorem image_ge : ∀ run ∈ lowercaseRuns, 0x41 ≤ run.image := by
  decide +kernel

theorem lowercaseChar_of_isSign (h : IsSign m) : lowercaseChar m = [m] := by
  obtain ⟨-, hlt⟩ := h
  unfold lowercaseChar
  dsimp only
  rw [if_pos (by omega), if_neg (by simp; omega)]

theorem mem_lowercaseChar_iff (h : IsSign m) : m ∈ lowercaseChar c ↔ m = c := by
  constructor
  · unfold lowercaseChar
    dsimp only
    split
    · split
      · intro hm
        obtain rfl := List.mem_singleton.1 hm
        rename_i hupper
        simp only [Bool.and_eq_true, decide_eq_true_eq] at hupper
        exact absurd h (not_isSign_ofNat (by omega))
      · exact List.mem_singleton.1
    split
    · intro hm
      rcases List.mem_cons.1 hm with rfl | hm
      · exact absurd h (by decide)
      · obtain rfl := List.mem_singleton.1 hm
        exact absurd h (by decide)
    split
    · rename_i image himage
      intro hm
      obtain rfl := List.mem_singleton.1 hm
      obtain ⟨run, hrun, hof⟩ := List.exists_of_findSome?_eq_some himage
      unfold LowercaseRun.image? at hof
      split at hof
      · obtain rfl := Option.some.inj hof
        have hge := image_ge run hrun
        exact absurd h (not_isSign_ofNat (by omega))
      · cases hof
    · exact List.mem_singleton.1
  · rintro rfl
    rw [lowercaseChar_of_isSign h]
    exact List.mem_singleton_self m

theorem form_of_isSign (h : IsSign m) : form before m rest = [m] := by
  rw [form_of_ne h.ne_sigma, lowercaseChar_of_isSign h]

theorem mem_form_iff (h : IsSign m) : m ∈ form before c rest ↔ m = c := by
  by_cases hc : c = 'Σ'
  · subst hc
    refine iff_of_false ?_ h.ne_sigma
    unfold form
    rw [if_pos rfl]
    split
    · rintro hm
      obtain rfl := List.mem_singleton.1 hm
      exact absurd h (by decide)
    · rintro hm
      obtain rfl := List.mem_singleton.1 hm
      exact absurd h (by decide)
  · rw [form_of_ne hc, mem_lowercaseChar_iff h]

/-! ## Forms of texts -/

theorem lowercaseAfter_eq_nil_iff : lowercaseAfter before text = [] ↔ text = [] := by
  cases text with
  | nil => exact iff_of_true rfl rfl
  | cons c rest =>
    refine iff_of_false (fun h => ?_) (List.cons_ne_nil c rest)
    rw [lowercaseAfter_cons, List.append_eq_nil_iff] at h
    exact form_ne_nil before c rest h.1

theorem mem_lowercaseAfter_iff (h : IsSign m) : m ∈ lowercaseAfter before text ↔ m ∈ text := by
  induction text generalizing before with
  | nil => exact Iff.rfl
  | cons c rest ih => rw [lowercaseAfter_cons, List.mem_append, List.mem_cons, mem_form_iff h, ih]

/-- If a sign is the last character of a form, it is the whole form. -/
theorem getLast?_form_iff (h : IsSign m) : (form before c rest).getLast? = some m ↔ c = m := by
  constructor
  · intro hlast
    exact ((mem_form_iff h).1 (List.mem_of_getLast? hlast)).symm
  · rintro rfl
    rw [form_of_isSign h]
    rfl

theorem getLast?_lowercaseAfter_iff (h : IsSign m) :
    (lowercaseAfter before text).getLast? = some m ↔ text.getLast? = some m := by
  induction text generalizing before with
  | nil => exact Iff.rfl
  | cons c rest ih =>
    rw [lowercaseAfter_cons, List.getLast?_append]
    cases rest with
    | nil => exact (getLast?_form_iff h).trans (by simp)
    | cons d rest =>
      have hne : lowercaseAfter (c :: before) (d :: rest) ≠ [] :=
        fun hnil => List.cons_ne_nil d rest (lowercaseAfter_eq_nil_iff.1 hnil)
      rw [List.getLast?_cons_cons, ← @ih (c :: before), List.getLast?_eq_some_getLast hne,
        Option.some_or]

theorem lowercaseAfter_eq_singleton_iff (h : IsSign m) :
    lowercaseAfter before text = [m] ↔ text = [m] := by
  constructor
  · intro heq
    cases text with
    | nil => cases heq
    | cons c rest =>
      rw [lowercaseAfter_cons, List.append_eq_singleton_iff] at heq
      rcases heq with ⟨hnil, -⟩ | ⟨hform, hrest⟩
      · exact absurd hnil (form_ne_nil before c rest)
      · obtain rfl := (mem_form_iff h).1 (hform ▸ List.mem_singleton_self m)
        rw [lowercaseAfter_eq_nil_iff.1 hrest]
  · rintro rfl
    rw [lowercaseAfter_cons, form_of_isSign h]
    rfl

/-- The form of what stands behind a part of a text has a place of its own. -/
theorem exists_lowercaseAfter_append (before front back : List Char) :
    ∃ forms, lowercaseAfter before (front ++ back) =
      forms ++ lowercaseAfter (front.reverse ++ before) back := by
  induction front generalizing before with
  | nil => exact ⟨[], rfl⟩
  | cons c front ih =>
    obtain ⟨forms, hforms⟩ := ih (c :: before)
    refine ⟨form before c (front ++ back) ++ forms, ?_⟩
    rw [List.cons_append, lowercaseAfter_cons, hforms, List.append_assoc, List.reverse_cons,
      List.append_assoc, List.singleton_append]

theorem toList_lowercase (s : String) : (lowercase s).toList = lowercaseAfter [] s.toList :=
  String.toList_ofList

theorem mem_lowercase_iff (h : IsSign m) (s : String) :
    m ∈ (lowercase s).toList ↔ m ∈ s.toList := by
  rw [toList_lowercase, mem_lowercaseAfter_iff h]

theorem getLast?_lowercase_iff (h : IsSign m) (s : String) :
    (lowercase s).toList.getLast? = some m ↔ s.toList.getLast? = some m := by
  rw [toList_lowercase, getLast?_lowercaseAfter_iff h]

theorem lowercase_eq_singleton_iff (h : IsSign m) (s : String) :
    lowercase s = String.singleton m ↔ s = String.singleton m := by
  rw [← String.toList_inj, ← String.toList_inj, toList_lowercase, String.toList_singleton,
    lowercaseAfter_eq_singleton_iff h]

end AudienceRouting.Text
