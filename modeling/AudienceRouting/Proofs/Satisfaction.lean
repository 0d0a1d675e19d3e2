/-
  Audience routing — which tags satisfy a tag of an expression.

  * `MatchOptions.admits options literal tag`: one tag satisfies the literal, in the
    way that its kind and the options ask for.
  * `TagSet.satisfies` and `TagSet.satisfying` are the decision and the evidence.

  The decision looks an exact literal up where case counts, and scans the tags
  otherwise; the look-up finds what a scan finds (`contains_eq_any`).  So both the
  decision and the evidence are those of a scan for tags that are admitted
  (`satisfies_eq_any`, `satisfying_eq_filter`), but for the bare `*`, which needs no
  tag (`evidence_of_satisfies`).
-/
import AudienceRouting.Evaluation

namespace AudienceRouting

variable {literal tag : String} {options : MatchOptions}

/-! ## One tag -/

theorem LiteralKind.of_eq_everything_iff :
    LiteralKind.of literal options = .everything ↔ options.wildcards = true ∧ literal = "*" := by
  unfold LiteralKind.of
  split
  · rename_i h
    simpa using h
  · rename_i h
    refine iff_of_false ?_ (by simpa using h)
    split
    · simp
    · split <;> simp

/-- Where case counts, texts are compared as they are. -/
theorem MatchOptions.fold_of_caseSensitive (h : options.caseSensitive = true) (s : String) :
    options.fold s = s :=
  if_pos h

def MatchOptions.admits (options : MatchOptions) (literal tag : String) : Bool :=
  (LiteralKind.of literal options).accepts (options.fold literal) (options.fold tag)

theorem MatchOptions.admits_of_everything (h : LiteralKind.of literal options = .everything)
    (tag : String) : options.admits literal tag = true := by
  rw [admits, h]
  rfl

namespace TagSet

variable {tags : TagSet}

/-! ## Decision and evidence as scans -/

/-- The look-up finds what a scan finds. -/
theorem contains_eq_any : tags.contains literal = tags.toList.any (· == literal) := by
  rw [Bool.eq_iff_iff, contains_iff, List.any_eq_true]
  constructor
  · intro h
    exact ⟨literal, h, beq_self_eq_true literal⟩
  · rintro ⟨tag, htag, heq⟩
    obtain rfl := eq_of_beq heq
    exact htag

theorem satisfies_of_everything (h : LiteralKind.of literal options = .everything) :
    tags.satisfies literal options = true := by
  unfold satisfies
  rw [h]

theorem satisfies_eq_any (h : LiteralKind.of literal options ≠ .everything) :
    tags.satisfies literal options = tags.toList.any (options.admits literal) := by
  unfold satisfies MatchOptions.admits
  cases hkind : LiteralKind.of literal options with
  | everything => exact absurd hkind h
  | category => rfl
  | glob => rfl
  | exact =>
    cases hcase : options.caseSensitive with
    | false => rfl
    | true =>
      simp only [MatchOptions.fold_of_caseSensitive hcase]
      exact contains_eq_any

theorem satisfying_eq_filter :
    tags.satisfying literal options = tags.toList.filter (options.admits literal) := by
  cases hkind : LiteralKind.of literal options with
  | everything =>
    have hall : tags.toList.filter (options.admits literal) = tags.toList :=
      List.filter_eq_self.2 fun tag _ => MatchOptions.admits_of_everything hkind tag
    rw [hall, satisfying, hkind]
  | exact | category | glob =>
    unfold satisfying MatchOptions.admits
    rw [hkind]

theorem mem_satisfying : tag ∈ tags.satisfying literal options ↔
    tag ∈ tags ∧ options.admits literal tag = true := by
  rw [satisfying_eq_filter, List.mem_filter]
  rfl

theorem satisfies_singleton (literal tag : String) (options : MatchOptions) :
    (ofList [tag]).satisfies literal options = options.admits literal tag := by
  by_cases h : LiteralKind.of literal options = .everything
  · rw [satisfies_of_everything h, MatchOptions.admits_of_everything h]
  · rw [satisfies_eq_any h]
    exact Bool.or_false _

theorem satisfying_ne_nil_iff : tags.satisfying literal options ≠ [] ↔
    tags.toList.any (options.admits literal) = true := by
  rw [satisfying_eq_filter, ne_eq, List.filter_eq_nil_iff, List.any_eq_true]
  simp

end TagSet

/-- **Decision and evidence agree.**  The tags that are given as evidence are, in ascending order,
    those tags of the set that satisfy the literal on their own.  The literal holds exactly if
    there are any, or if it is the bare `*`, which as a wildcard holds of every set.  The look-up
    of an exact literal finds what a scan finds. -/
theorem evidence_of_satisfies (literal : String) (tags : TagSet) (options : MatchOptions) :
    (tags.satisfying literal options).Pairwise (· < ·) ∧
    (∀ tag, tag ∈ tags.satisfying literal options ↔
      tag ∈ tags ∧ (Expr.tag literal).holds (.ofList [tag]) options = true) ∧
    ((Expr.tag literal).holds tags options = true ↔
      tags.satisfying literal options ≠ [] ∨ options.wildcards = true ∧ literal = "*") ∧
    (LiteralKind.of literal options = .exact → options.caseSensitive = true →
      tags.contains literal = tags.toList.any fun tag =>
        LiteralKind.exact.accepts (options.fold literal) (options.fold tag)) := by
  refine ⟨?ascending, ?evidence, ?decision, ?lookUp⟩
  case ascending =>
    rw [TagSet.satisfying_eq_filter]
    exact tags.ascending.filter _
  case evidence =>
    intro tag
    rw [TagSet.mem_satisfying, Expr.holds, TagSet.satisfies_singleton]
  case decision =>
    rw [Expr.holds, TagSet.satisfying_ne_nil_iff, ← LiteralKind.of_eq_everything_iff]
    by_cases h : LiteralKind.of literal options = .everything
    · exact iff_of_true (TagSet.satisfies_of_everything h) (Or.inr h)
    · rw [TagSet.satisfies_eq_any h, or_iff_left h]
  case lookUp =>
    intro _ hcase
    simp only [MatchOptions.fold_of_caseSensitive hcase]
    exact TagSet.contains_eq_any

/-- In whatever case, two of the tags are in a category; the bare `*` needs none; and where case
    counts, one of the tags is looked up. -/
theorem evidence_of_satisfies_category :
    (TagSet.ofList ["user:john", "area:home", "User:Jane"]).satisfying "USER:"
      { caseSensitive := false, categoryMode := true } = ["User:Jane", "user:john"] ∧
    (Expr.tag "USER:").holds (.ofList ["user:john", "area:home", "User:Jane"])
      { caseSensitive := false, categoryMode := true } = true ∧
    (Expr.tag "*").holds (.ofList []) { wildcards := true } = true ∧
    LiteralKind.of "user:john" {} = .exact ∧
    (TagSet.ofList ["user:john", "area:home", "User:Jane"]).contains "user:john" =
      (TagSet.ofList ["user:john", "area:home", "User:Jane"]).toList.any fun tag =>
        LiteralKind.exact.accepts (MatchOptions.fold {} "user:john")
          (MatchOptions.fold {} tag) := by
  have hevidence : (TagSet.ofList ["user:john", "area:home", "User:Jane"]).satisfying "USER:"
      { caseSensitive := false, categoryMode := true } = ["User:Jane", "user:john"] := by
    decide +kernel
  have hkind : LiteralKind.of "user:john" {} = .exact := by decide +kernel
  refine ⟨hevidence, ?_, ?_, hkind, (evidence_of_satisfies _ _ _).2.2.2 hkind rfl⟩
  · refine (evidence_of_satisfies _ _ _).2.2.1.2 (Or.inl ?_)
    rw [hevidence]
    exact List.cons_ne_nil _ _
  · exact (evidence_of_satisfies _ _ _).2.2.1.2 (Or.inr ⟨rfl, rfl⟩)

end AudienceRouting
