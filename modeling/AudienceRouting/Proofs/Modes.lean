/-
  Audience routing — what category mode and wildcards add.

  A tag that satisfies a literal exactly also satisfies it in any other way
  (`LiteralKind.accepts_of_exact`).  So a mode that is turned on loses nothing of a
  literal that was exact, and of one that it leaves as it is
  (`TagSet.satisfies_of_kinds`).

  Wildcards leave categories as they are (`LiteralKind.of_wildcards`).  Category mode
  leaves a pattern as it is unless the pattern ends in `:`
  (`LiteralKind.of_categoryMode`); such a pattern becomes a category, whose tags have
  the stars themselves, and loses every tag without a star (`modes_widen`).
-/
import AudienceRouting.Proofs.FinalSigma
import AudienceRouting.Proofs.Folding

namespace AudienceRouting

variable {literal tag : String} {options options' : MatchOptions} {tags : TagSet}

/-! ## Kinds under two options -/

namespace LiteralKind

theorem accepts_of_exact {pattern : String} (h : exact.accepts pattern tag = true)
    (kind : LiteralKind) : kind.accepts pattern tag = true := by
  obtain rfl := eq_of_beq h
  cases kind with
  | exact => exact h
  | category => exact List.isPrefixOf_iff_prefix.2 List.prefix_rfl
  | glob => exact Glob.covers_iff_fills.2 (Glob.fills_self _)
  | everything => rfl

/-- What ends in `:` is not the bare star. -/
theorem ne_star_of_colon (h : literal.toList.getLast? = some ':') : (literal == "*") = false := by
  refine beq_false_of_ne ?_
  rintro rfl
  exact absurd h (by decide)

/-- A literal that is not exact without wildcards is a category, and stays one. -/
theorem of_wildcards (literal : String) (options : MatchOptions) :
    of literal { options with wildcards := false } = .exact ∨
      of literal { options with wildcards := true } =
        of literal { options with wildcards := false } := by
  by_cases hcategory : (options.categoryMode && literal.toList.getLast? == some ':') = true
  · right
    have hcolon : literal.toList.getLast? = some ':' :=
      beq_iff_eq.1 (Bool.and_eq_true_iff.1 hcategory).2
    simp only [of, ne_star_of_colon hcolon, hcategory, Bool.and_false, Bool.false_eq_true,
      if_false, if_true]
  · left
    simp only [of, hcategory, Bool.false_and, Bool.false_eq_true, if_false]

/-- Category mode is about literals that end in `:`. -/
theorem of_categoryMode_of_ne (h : literal.toList.getLast? ≠ some ':') (options : MatchOptions) :
    of literal { options with categoryMode := true } =
      of literal { options with categoryMode := false } := by
  have hcolon : (literal.toList.getLast? == some ':') = false := beq_false_of_ne h
  simp only [of, hcolon, Bool.and_false]

theorem of_categoryMode (h : ¬ (options.wildcards = true ∧ '*' ∈ literal.toList ∧
    literal.toList.getLast? = some ':')) :
    of literal { options with categoryMode := false } = .exact ∨
      of literal { options with categoryMode := true } =
        of literal { options with categoryMode := false } := by
  by_cases hcolon : literal.toList.getLast? = some ':'
  · left
    have hnot : ¬ (options.wildcards = true ∧ '*' ∈ literal.toList) :=
      fun ⟨hwild, hstar⟩ => h ⟨hwild, hstar, hcolon⟩
    have hpattern : (options.wildcards && literal.toList.contains '*') = false := by
      rw [Bool.eq_false_iff, ne_eq, Bool.and_eq_true, List.contains_iff_mem]
      exact hnot
    have hbare : (options.wildcards && literal == "*") = false := by
      rw [Bool.eq_false_iff, ne_eq, Bool.and_eq_true, beq_iff_eq]
      rintro ⟨hwild, rfl⟩
      exact hnot ⟨hwild, by decide⟩
    simp only [of, hbare, hpattern, Bool.false_and, Bool.false_eq_true, if_false]
  · exact Or.inr (of_categoryMode_of_ne hcolon options)

/-- With both modes a pattern that ends in `:` is a category, without category mode a pattern. -/
theorem of_star_colon (hwild : options.wildcards = true) (hstar : '*' ∈ literal.toList)
    (hcolon : literal.toList.getLast? = some ':') :
    of literal { options with categoryMode := true } = .category ∧
      of literal { options with categoryMode := false } = .glob := by
  have hne := ne_star_of_colon hcolon
  have hstar' : literal.toList.contains '*' = true := List.contains_iff_mem.2 hstar
  constructor
  · simp only [of, hne, hcolon, Bool.and_false, beq_self_eq_true, Bool.and_true,
      Bool.false_eq_true, if_false, if_true]
  · simp only [of, hne, hwild, hstar', Bool.and_false, Bool.false_and, Bool.and_true,
      Bool.false_eq_true, if_false, if_true]

end LiteralKind

/-- Options under which a literal is of the same kind, or is no longer exact, lose nothing. -/
theorem TagSet.satisfies_of_kinds (hcase : options'.caseSensitive = options.caseSensitive)
    (hkind : LiteralKind.of literal options = .exact ∨
      LiteralKind.of literal options' = LiteralKind.of literal options)
    (h : tags.satisfies literal options = true) : tags.satisfies literal options' = true := by
  have hfold : options'.fold = options.fold := by
    funext s
    rw [MatchOptions.fold, MatchOptions.fold, hcase]
  by_cases he' : LiteralKind.of literal options' = .everything
  · exact satisfies_of_everything he'
  have he : LiteralKind.of literal options ≠ .everything := by
    intro he
    rcases hkind with hexact | hsame
    · rw [he] at hexact
      cases hexact
    · exact he' (hsame.trans he)
  rw [satisfies_eq_any he, List.any_eq_true] at h
  obtain ⟨tag, htag, ha⟩ := h
  rw [satisfies_eq_any he', List.any_eq_true]
  refine ⟨tag, htag, ?_⟩
  rw [MatchOptions.admits] at ha
  rw [MatchOptions.admits, hfold]
  rcases hkind with hexact | hsame
  · rw [hexact] at ha
    exact LiteralKind.accepts_of_exact ha _
  · rwa [hsame]

/-! ## A digit in place of each star -/

namespace Glob

open Text

/-- A digit changes the form of a sigma as little as the star in its place. -/
theorem endsWord_fillAll_one (before rest : List Char) :
    endsWord (fillAll ['1'] before) (fillAll ['1'] rest) = endsWord before rest := by
  have hrun : ['1'].all isCaseIgnorable = false := by decide +kernel
  have hdigit : meetsCased ['1'] = false := by decide +kernel
  have hends := endsWord_fillAll hrun before rest
  rw [List.reverse_singleton] at hends
  rw [hends, hdigit, Bool.and_false, Bool.and_false, Bool.or_false, Bool.or_false, endsWord]

theorem lowercaseAfter_fillAll_one (before pattern : List Char) :
    lowercaseAfter (fillAll ['1'] before) (fillAll ['1'] pattern) =
      fillAll ['1'] (lowercaseAfter before pattern) := by
  induction pattern generalizing before with
  | nil => rfl
  | cons c pattern ih =>
    have hih := ih (c :: before)
    by_cases hc : c = '*'
    · subst hc
      rw [fillAll_star, List.singleton_append] at hih
      rw [fillAll_star, List.singleton_append, lowercaseAfter_cons, lowercaseAfter_cons, hih,
        form_of_isSign (by decide), form_of_isSign (by decide), fillAll_append]
      rfl
    · have hform : form (fillAll ['1'] before) c (fillAll ['1'] pattern) = form before c pattern :=
        form_congr fun _ => endsWord_fillAll_one before pattern
      have hstar : '*' ∉ form before c pattern := by
        rw [mem_form_iff (by decide)]
        exact Ne.symm hc
      rw [fillAll_char hc] at hih
      rw [fillAll_char hc, lowercaseAfter_cons, lowercaseAfter_cons, hih, hform, fillAll_append,
        fillAll_of_not_mem hstar]

end Glob

theorem MatchOptions.fold_fillAll_one (options : MatchOptions) (literal : String) :
    (options.fold (String.ofList (Glob.fillAll ['1'] literal.toList))).toList =
      Glob.fillAll ['1'] (options.fold literal).toList := by
  cases hcase : options.caseSensitive with
  | true => rw [fold_of_caseSensitive hcase, fold_of_caseSensitive hcase, String.toList_ofList]
  | false =>
    rw [fold_of_ignoring hcase, fold_of_ignoring hcase, Text.toList_lowercase,
      Text.toList_lowercase, String.toList_ofList]
    exact Glob.lowercaseAfter_fillAll_one [] literal.toList

theorem MatchOptions.mem_fold_iff (options : MatchOptions) (literal : String) :
    '*' ∈ (options.fold literal).toList ↔ '*' ∈ literal.toList := by
  cases hcase : options.caseSensitive with
  | true => rw [fold_of_caseSensitive hcase]
  | false => rw [fold_of_ignoring hcase, Text.mem_lowercase_iff (by decide)]

/-- A tag of a pattern that is no tag of the category of the same spelling. -/
theorem LiteralKind.exists_glob_not_category (hstar : '*' ∈ literal.toList)
    (options : MatchOptions) :
    ∃ tag, glob.accepts (options.fold literal) (options.fold tag) = true ∧
      ¬ category.accepts (options.fold literal) (options.fold tag) = true := by
  refine ⟨String.ofList (Glob.fillAll ['1'] literal.toList), ?_, fun ha => ?_⟩
  · rw [accepts, MatchOptions.fold_fillAll_one]
    exact Glob.covers_iff_fills.2 (Glob.fills_fillAll _ _)
  · have hprefix := List.isPrefixOf_iff_prefix.1 ha
    rw [MatchOptions.fold_fillAll_one] at hprefix
    have hmem := hprefix.subset ((MatchOptions.mem_fold_iff options literal).2 hstar)
    exact Glob.not_mem_fillAll (by decide) _ hmem

/-- **What the modes add.**  A literal that is satisfied without wildcards is satisfied with them.
    One that is satisfied without category mode is satisfied with it, for all sets of tags, exactly
    if it is no pattern that ends in `:`; and one that does not end in `:` is satisfied by the same
    sets. -/
theorem modes_widen (literal : String) (options : MatchOptions) :
    (∀ tags : TagSet, tags.satisfies literal { options with wildcards := false } = true →
      tags.satisfies literal { options with wildcards := true } = true) ∧
    ((∀ tags : TagSet, tags.satisfies literal { options with categoryMode := false } = true →
      tags.satisfies literal { options with categoryMode := true } = true) ↔
      ¬ (options.wildcards = true ∧ '*' ∈ literal.toList ∧
        literal.toList.getLast? = some ':')) ∧
    (literal.toList.getLast? ≠ some ':' → ∀ tags : TagSet,
      tags.satisfies literal { options with categoryMode := true } =
        tags.satisfies literal { options with categoryMode := false }) := by
  refine ⟨?wildcards, ⟨?lost, ?kept⟩, ?same⟩
  case wildcards =>
    exact fun tags => TagSet.satisfies_of_kinds rfl (LiteralKind.of_wildcards literal options)
  case lost =>
    rintro hwidens ⟨hwild, hstar, hcolon⟩
    obtain ⟨hcategory, hglob⟩ := LiteralKind.of_star_colon hwild hstar hcolon
    obtain ⟨tag, hcovered, hlost⟩ := LiteralKind.exists_glob_not_category hstar options
    have hwithout := hwidens (.ofList [tag]) (by
      rw [TagSet.satisfies_singleton, MatchOptions.admits, hglob]
      exact hcovered)
    rw [TagSet.satisfies_singleton, MatchOptions.admits, hcategory] at hwithout
    exact hlost hwithout
  case kept =>
    exact fun h tags => TagSet.satisfies_of_kinds rfl (LiteralKind.of_categoryMode h)
  case same =>
    intro hcolon tags
    have hkind := LiteralKind.of_categoryMode_of_ne hcolon options
    rw [Bool.eq_iff_iff]
    constructor
    · exact TagSet.satisfies_of_kinds rfl (Or.inr hkind.symm)
    · exact TagSet.satisfies_of_kinds rfl (Or.inr hkind)

/-- As a category the pattern asks for the star itself. -/
theorem glob_lost_in_category_mode :
    (TagSet.ofList ["user:john:"]).satisfies "user:*:"
      { categoryMode := false, wildcards := true } = true ∧
    (TagSet.ofList ["user:john:"]).satisfies "user:*:"
      { categoryMode := true, wildcards := true } = false := by
  decide +kernel

end AudienceRouting
