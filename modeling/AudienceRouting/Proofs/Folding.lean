/-
  Audience routing — expressions whose case is ignored.

  * `Expr.mapTags f e`, `TagSet.map f tags`: a tree and a set with `f` applied to each
    of their tags.

  A literal and its lowercase form match in the same way (`LiteralKind.of_lowercase`),
  because it is the signs `*` and `:` that decide on it.  So to ignore case is to write
  everything in lowercase and to let case count (`Expr.holds_mapTags_lowercase`), and
  nothing but the lowercase forms is seen (`holds_of_same_lowercase`).
-/
import AudienceRouting.Proofs.Lowercasing
import AudienceRouting.Proofs.Satisfaction

namespace AudienceRouting

variable {literal tag : String} {options : MatchOptions} {tags : TagSet}

/-! ## Kinds of literals -/

theorem LiteralKind.of_lowercase (literal : String) (options : MatchOptions) :
    of (Text.lowercase literal) options = of literal options := by
  have hstar : (Text.lowercase literal == "*") = (literal == "*") := by
    rw [Bool.eq_iff_iff, beq_iff_eq, beq_iff_eq]
    exact Text.lowercase_eq_singleton_iff (m := '*') (by decide) literal
  have hcolon : ((Text.lowercase literal).toList.getLast? == some ':') =
      (literal.toList.getLast? == some ':') := by
    rw [Bool.eq_iff_iff, beq_iff_eq, beq_iff_eq]
    exact Text.getLast?_lowercase_iff (by decide) literal
  have hstars : (Text.lowercase literal).toList.contains '*' = literal.toList.contains '*' := by
    rw [Bool.eq_iff_iff, List.contains_iff_mem, List.contains_iff_mem]
    exact Text.mem_lowercase_iff (by decide) literal
  rw [of, hstar, hcolon, hstars, of]

theorem MatchOptions.fold_of_ignoring (h : options.caseSensitive = false) (s : String) :
    options.fold s = Text.lowercase s := by
  rw [fold, h]
  rfl

/-! ## Lowercase everything -/

namespace TagSet

theorem toList_inj {tags tags' : TagSet} : tags.toList = tags'.toList ↔ tags = tags' := by
  constructor
  · obtain ⟨xs, hxs⟩ := tags
    obtain ⟨ys, hys⟩ := tags'
    rintro rfl
    rfl
  · rintro rfl
    rfl

def map (f : String → String) (tags : TagSet) : TagSet :=
  .ofList (tags.toList.map f)

theorem mem_map {f : String → String} : tag ∈ tags.map f ↔ ∃ x ∈ tags, f x = tag :=
  mem_ofList.trans List.mem_map

theorem any_map (f : String → String) (tags : TagSet) (p : String → Bool) :
    (tags.map f).toList.any p = tags.toList.any (p ∘ f) := by
  rw [Bool.eq_iff_iff, List.any_eq_true, List.any_eq_true]
  constructor
  · rintro ⟨tag, htag, hp⟩
    obtain ⟨x, hx, rfl⟩ := mem_map.1 htag
    exact ⟨x, hx, hp⟩
  · rintro ⟨x, hx, hp⟩
    exact ⟨f x, mem_map.2 ⟨x, hx, rfl⟩, hp⟩

end TagSet

theorem MatchOptions.admits_lowercase (h : options.caseSensitive = false) (literal tag : String) :
    { options with caseSensitive := true }.admits (Text.lowercase literal) (Text.lowercase tag) =
      options.admits literal tag := by
  have hcounts (s : String) : { options with caseSensitive := true }.fold s = s := rfl
  rw [admits, admits, LiteralKind.of_lowercase, hcounts, hcounts, fold_of_ignoring h,
    fold_of_ignoring h]
  rfl

theorem TagSet.satisfies_map_lowercase (h : options.caseSensitive = false) (literal : String)
    (tags : TagSet) : (tags.map Text.lowercase).satisfies (Text.lowercase literal)
      { options with caseSensitive := true } = tags.satisfies literal options := by
  have hkind : LiteralKind.of (Text.lowercase literal) { options with caseSensitive := true } =
      LiteralKind.of literal options := LiteralKind.of_lowercase literal options
  by_cases he : LiteralKind.of literal options = .everything
  · rw [satisfies_of_everything he, satisfies_of_everything (hkind.trans he)]
  · rw [satisfies_eq_any he, satisfies_eq_any (fun h' => he (hkind.symm.trans h')), any_map]
    exact congrArg tags.toList.any (funext fun tag => MatchOptions.admits_lowercase h literal tag)

namespace Expr

mutual

def mapTags (f : String → String) : Expr → Expr
  | .always => .always
  | .tag value => .tag (f value)
  | .not child => .not (mapTags f child)
  | .chain c operands => .chain c (mapTagsAll f operands)

def mapTagsAll (f : String → String) : List Expr → List Expr
  | [] => []
  | e :: es => mapTags f e :: mapTagsAll f es

end

theorem mapTagsAll_eq_map (f : String → String) (es : List Expr) :
    mapTagsAll f es = es.map (mapTags f) := by
  induction es with
  | nil => rfl
  | cons e es ih => rw [mapTagsAll, ih, List.map_cons]

/-- To ignore case is to write tree and tags in lowercase and to let case count. -/
theorem holds_mapTags_lowercase (h : options.caseSensitive = false) (e : Expr) (tags : TagSet) :
    (e.mapTags Text.lowercase).holds (tags.map Text.lowercase)
      { options with caseSensitive := true } = e.holds tags options := by
  induction e with
  | always => rfl
  | tag value => exact TagSet.satisfies_map_lowercase h value tags
  | not child ih => rw [mapTags, holds, ih, holds]
  | chain c es ih =>
    cases c with
    | and =>
      rw [mapTags, holds, allHold_eq_all, mapTagsAll_eq_map, List.all_map, holds, allHold_eq_all,
        Bool.eq_iff_iff, List.all_eq_true, List.all_eq_true]
      exact forall₂_congr fun e he => by rw [Function.comp_apply, ih e he]
    | or =>
      rw [mapTags, holds, someHolds_eq_any, mapTagsAll_eq_map, List.any_map, holds,
        someHolds_eq_any, Bool.eq_iff_iff, List.any_eq_true, List.any_eq_true]
      exact exists_congr fun e => and_congr_right fun he => by rw [Function.comp_apply, ih e he]

end Expr

/-- **Ignoring case, only lowercase forms count.**  Whether an expression holds is the same for
    trees that differ in the case of their tags only, and for sets of tags that have the same
    lowercase forms. -/
theorem holds_of_same_lowercase {e e' : Expr} {tags tags' : TagSet} {options : MatchOptions}
    (hcase : options.caseSensitive = false)
    (htree : e.mapTags Text.lowercase = e'.mapTags Text.lowercase)
    (htags : tags.map Text.lowercase = tags'.map Text.lowercase) :
    e.holds tags options = e'.holds tags' options := by
  rw [← Expr.holds_mapTags_lowercase hcase e, ← Expr.holds_mapTags_lowercase hcase e', htree,
    htags]

/-- A category, a pattern with a final sigma, and sets of two and of three tags. -/
theorem holds_of_same_lowercase_spellings :
    (Expr.all [.tag "ÜBER:", .not (.tag "*ΟΣ")]).mapTags Text.lowercase =
      (Expr.all [.tag "über:", .not (.tag "*Ος")]).mapTags Text.lowercase ∧
    (TagSet.ofList ["ÜBER:\u212a", "İ"]).map Text.lowercase =
      (TagSet.ofList ["über:k", "Über:K", "i\u0307"]).map Text.lowercase ∧
    (Expr.all [.tag "ÜBER:", .not (.tag "*ΟΣ")]).holds (.ofList ["ÜBER:\u212a", "İ"])
        { caseSensitive := false, categoryMode := true, wildcards := true } =
      (Expr.all [.tag "über:", .not (.tag "*Ος")]).holds (.ofList ["über:k", "Über:K", "i\u0307"])
        { caseSensitive := false, categoryMode := true, wildcards := true } := by
  have htree : (Expr.all [.tag "ÜBER:", .not (.tag "*ΟΣ")]).mapTags Text.lowercase =
      (Expr.all [.tag "über:", .not (.tag "*Ος")]).mapTags Text.lowercase := by
    decide +kernel
  have htags : (TagSet.ofList ["ÜBER:\u212a", "İ"]).map Text.lowercase =
      (TagSet.ofList ["über:k", "Über:K", "i\u0307"]).map Text.lowercase :=
    TagSet.toList_inj.1 (by decide +kernel)
  exact ⟨htree, htags, holds_of_same_lowercase rfl htree htags⟩

end AudienceRouting
