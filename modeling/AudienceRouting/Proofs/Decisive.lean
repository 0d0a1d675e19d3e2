/-
  Audience routing — the decisive literals of an explanation.

  The decisive literals of a chain are those of the operands that decide it
  (`decisiveLiterals_chain`).  Operands that decide a chain and keep their results
  keep the result of the chain (`holds_chain_of_decides`), and every chain has
  one (`exists_decides`); so the decisive literals determine the result of a
  tree, and there are some.
-/
import AudienceRouting.Explanation
import AudienceRouting.Proofs.Language

namespace AudienceRouting

/-! ## Marks -/

namespace Annotated

theorem markOperands_eq_map (c : Connective) (matched decisive : Bool) (as : List Annotated) :
    markOperands c matched decisive as =
      as.map fun a => mark (decisive && decidedBy c matched a.matched) a := by
  induction as with
  | nil => rfl
  | cons a as ih => simp [markOperands, ih]

theorem decisiveLiteralsOfAll_eq_flatMap (as : List Annotated) :
    decisiveLiteralsOfAll as = as.flatMap decisiveLiterals := by
  induction as with
  | nil => rfl
  | cons a as ih => simp [decisiveLiteralsOfAll, ih]

/-- Below a node that is not decisive nothing is. -/
theorem decisiveLiterals_mark_false (a : Annotated) : (mark false a).decisiveLiterals = [] := by
  cases a <;> simp [mark, decisiveLiterals]

/-- An operand that does not decide its chain has no decisive literals. -/
theorem decisiveLiterals_mark (decides : Bool) (a : Annotated) :
    (mark decides a).decisiveLiterals = if decides then (mark true a).decisiveLiterals else [] := by
  cases decides with
  | false => simp [decisiveLiterals_mark_false]
  | true => rfl

end Annotated

namespace Expr

variable (tags : TagSet) (options : MatchOptions)

theorem annotateAll_eq_map (es : List Expr) :
    annotateAll tags options es = es.map (annotate tags options) := by
  induction es with
  | nil => rfl
  | cons e es ih => simp [annotateAll, ih]

/-- Each node is annotated with its own result. -/
theorem matched_annotate (e : Expr) :
    (e.annotate tags options).matched = e.holds tags options := by
  induction e with
  | always => rfl
  | tag value => rfl
  | not child ih => simp [annotate, Annotated.matched, Annotated.verdict, holds, ← ih]
  | chain c es ih =>
    cases c with
    | and =>
      simp only [annotate, Annotated.matched, Annotated.verdict, annotateAll_eq_map, holds,
        allHold_eq_all, List.all_map]
      rw [Bool.eq_iff_iff, List.all_eq_true, List.all_eq_true]
      exact forall₂_congr fun e he => by rw [← ih e he]; rfl
    | or =>
      simp only [annotate, Annotated.matched, Annotated.verdict, annotateAll_eq_map, holds,
        someHolds_eq_any, List.any_map]
      rw [Bool.eq_iff_iff, List.any_eq_true, List.any_eq_true]
      exact exists_congr fun e => and_congr_right fun he => by rw [← ih e he]; rfl

theorem annotate_chain (c : Connective) (es : List Expr) : annotate tags options (chain c es) =
    .chain ⟨(chain c es).holds tags options, false⟩ c (es.map (annotate tags options)) := by
  rw [← matched_annotate, ← annotateAll_eq_map]
  rfl

/-- Whether an operand decides the result of its chain. -/
def decides (c : Connective) (es : List Expr) (e : Expr) : Bool :=
  Annotated.decidedBy c ((chain c es).holds tags options) (e.holds tags options)

/-! ## Decisive literals, structurally -/

theorem decisiveLiterals_tag (value : String) :
    ((tag value).explain tags options).decisiveLiterals = [value] :=
  rfl

theorem decisiveLiterals_not (child : Expr) :
    ((not child).explain tags options).decisiveLiterals =
      (child.explain tags options).decisiveLiterals :=
  rfl

/-- The decisive literals of a chain are those of the operands that decide it. -/
theorem decisiveLiterals_chain (c : Connective) (es : List Expr) :
    ((chain c es).explain tags options).decisiveLiterals = es.flatMap fun e =>
      if decides tags options c es e then (e.explain tags options).decisiveLiterals else [] := by
  simp only [Explanation.decisiveLiterals, explain, annotate_chain, Annotated.mark,
    Annotated.decisiveLiterals, Annotated.markOperands_eq_map, Bool.true_and, if_true,
    Annotated.decisiveLiteralsOfAll_eq_flatMap, List.flatMap_map, matched_annotate]
  exact congrArg (es.flatMap ·) (funext fun e => Annotated.decisiveLiterals_mark _ _)

/-! ## Operands that decide -/

theorem holds_and {es : List Expr} : (chain .and es).holds tags options = true ↔
    ∀ e ∈ es, e.holds tags options = true := by
  rw [holds, allHold_eq_all, List.all_eq_true]

theorem holds_or {es : List Expr} : (chain .or es).holds tags options = true ↔
    ∃ e ∈ es, e.holds tags options = true := by
  rw [holds, someHolds_eq_any, List.any_eq_true]

theorem exists_of_and_false {es : List Expr} (h : (chain .and es).holds tags options = false) :
    ∃ e ∈ es, e.holds tags options = false := by
  by_contra hne
  have hall : (chain .and es).holds tags options = true :=
    (holds_and tags options).2 fun e he => eq_true_of_ne_false fun hf => hne ⟨e, he, hf⟩
  simp [h] at hall

/-- Every chain has an operand that decides its result. -/
theorem exists_decides (c : Connective) {es : List Expr} (hne : es ≠ []) :
    ∃ e ∈ es, decides tags options c es e = true := by
  obtain ⟨first, hfirst⟩ := List.exists_mem_of_ne_nil es hne
  cases hm : (chain c es).holds tags options with
  | true =>
    cases c with
    | and => exact ⟨first, hfirst, by simp [decides, hm, Annotated.decidedBy]⟩
    | or =>
      obtain ⟨e, he, hh⟩ := (holds_or tags options).1 hm
      exact ⟨e, he, by simp [decides, hm, Annotated.decidedBy, hh]⟩
  | false =>
    cases c with
    | and =>
      obtain ⟨e, he, hh⟩ := exists_of_and_false tags options hm
      exact ⟨e, he, by simp [decides, hm, Annotated.decidedBy, hh]⟩
    | or => exact ⟨first, hfirst, by simp [decides, hm, Annotated.decidedBy]⟩

variable {tags options}

/-- A chain keeps its result if the operands that decide it keep theirs. -/
theorem holds_chain_of_decides {c : Connective} {es : List Expr} {tags' : TagSet}
    {options' : MatchOptions} (h : ∀ e ∈ es, decides tags options c es e = true →
      e.holds tags' options' = e.holds tags options) :
    (chain c es).holds tags' options' = (chain c es).holds tags options := by
  cases hm : (chain c es).holds tags options with
  | true =>
    cases c with
    | and =>
      refine (holds_and tags' options').2 fun e he => ?_
      rw [h e he (by simp [decides, hm, Annotated.decidedBy])]
      exact (holds_and tags options).1 hm e he
    | or =>
      obtain ⟨e, he, hh⟩ := (holds_or tags options).1 hm
      refine (holds_or tags' options').2 ⟨e, he, ?_⟩
      rw [h e he (by simp [decides, hm, Annotated.decidedBy, hh]), hh]
  | false =>
    rw [Bool.eq_false_iff]
    intro hm'
    cases c with
    | and =>
      obtain ⟨e, he, hh⟩ := exists_of_and_false tags options hm
      have := (holds_and tags' options').1 hm' e he
      rw [h e he (by simp [decides, hm, Annotated.decidedBy, hh]), hh] at this
      cases this
    | or =>
      obtain ⟨e, he, hh⟩ := (holds_or tags' options').1 hm'
      rw [h e he (by simp [decides, hm, Annotated.decidedBy])] at hh
      have := (holds_or tags options).2 ⟨e, he, hh⟩
      simp [hm] at this

/-! ## The decisive literals determine the result -/

theorem holds_of_decisiveLiterals {e : Expr} {tags' : TagSet} {options' : MatchOptions}
    (h : ∀ value ∈ (e.explain tags options).decisiveLiterals,
      tags'.satisfies value options' = tags.satisfies value options) :
    e.holds tags' options' = e.holds tags options := by
  induction e with
  | always => rfl
  | tag value => exact h value (by simp [decisiveLiterals_tag])
  | not child ih =>
    rw [decisiveLiterals_not] at h
    rw [holds, holds, ih h]
  | chain c es ih =>
    refine holds_chain_of_decides fun e he hd => ih e he fun value hvalue => h value ?_
    rw [decisiveLiterals_chain]
    exact List.mem_flatMap.2 ⟨e, he, by simpa [hd] using hvalue⟩

theorem decisiveLiterals_ne_nil {e : Expr} (hf : e.Flat) (hs : e.Spellable) :
    (e.explain tags options).decisiveLiterals ≠ [] := by
  refine Flat.induct ?_ ?_ ?_ hf hs
  · intro value _
    simp [decisiveLiterals_tag]
  · intro child ih
    rwa [decisiveLiterals_not]
  · intro c es hf ih
    have hne : es ≠ [] := by
      rintro rfl
      exact absurd hf.two_le_length (by simp)
    obtain ⟨e, he, hd⟩ := exists_decides tags options c hne
    obtain ⟨value, hvalue⟩ := List.exists_mem_of_ne_nil _ (ih e he)
    rw [decisiveLiterals_chain]
    exact List.ne_nil_of_mem (List.mem_flatMap.2 ⟨e, he, by simpa [hd] using hvalue⟩)

end Expr

/-- **The decisive literals determine the result.**  An expression keeps its result under all tags
    and options under which its decisive literals keep theirs, and an expression that was read has
    decisive literals unless it is empty. -/
theorem decisiveLiterals_determine :
    (∀ (e : Expr) (tags tags' : TagSet) (options options' : MatchOptions),
      (∀ value ∈ (e.explain tags options).decisiveLiterals,
        tags'.satisfies value options' = tags.satisfies value options) →
      e.holds tags' options' = e.holds tags options) ∧
    ∀ (text : String) (e : Expr), Expr.read text = .ok e → e ≠ .always →
      ∀ (tags : TagSet) (options : MatchOptions),
        (e.explain tags options).decisiveLiterals ≠ [] := by
  refine ⟨fun e tags tags' options options' => Expr.holds_of_decisiveLiterals, ?_⟩
  intro text e h hne tags options
  rcases wellFormed_of_read h with rfl | ⟨hf, hs, -⟩
  · exact absurd rfl hne
  · exact Expr.decisiveLiterals_ne_nil hf hs

/-- Of `a|b` only `a` is decisive where there is no `b`, and without options `b` changes nothing. -/
theorem decisiveLiterals_determine_any :
    ((Expr.any [.tag "a", .tag "b"]).explain (.ofList ["a"]) {}).decisiveLiterals = ["a"] ∧
    (Expr.any [.tag "a", .tag "b"]).holds (.ofList ["b", "a"]) {} =
      (Expr.any [.tag "a", .tag "b"]).holds (.ofList ["a"]) {} ∧
    Expr.read "a|b" = .ok (.any [.tag "a", .tag "b"]) ∧
    ((Expr.any [.tag "a", .tag "b"]).explain (.ofList []) {}).decisiveLiterals ≠ [] := by
  have hread : Expr.read "a|b" = .ok (.any [.tag "a", .tag "b"]) := by decide +kernel
  have hd : ((Expr.any [.tag "a", .tag "b"]).explain (.ofList ["a"]) {}).decisiveLiterals =
      ["a"] := by decide +kernel
  refine ⟨hd, decisiveLiterals_determine.1 _ _ _ _ _ ?_, hread,
    decisiveLiterals_determine.2 _ _ hread (by decide) _ _⟩
  rw [hd]
  decide +kernel

end AudienceRouting
