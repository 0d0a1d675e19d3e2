/-
  Audience routing — what more tags change.

  * `Expr.leavesUnder e`: the leaves of the tree (`Expr.map_fst_leavesUnder`), each with
    the number of negations that it stands under.
  * `Expr.Untouched k options tags tags' e`: what `tags'` has beyond `tags` satisfies no
    tag of the tree under a number of negations that is `k` modulo 2.

  More tags satisfy more literals, whatever their kind (`TagSet.satisfies_of_subset`).
  A negation turns this around, so a tree is followed in both directions at once
  (`Expr.holds_of_untouched`).  Without negations only the first direction is left: an
  entity with more tags stays in its audiences (`more_tags_by_polarity`).
-/
import AudienceRouting.Proofs.Decisive
import AudienceRouting.Proofs.Occurrence
import AudienceRouting.Proofs.Routing
import AudienceRouting.Proofs.Satisfaction

namespace AudienceRouting

variable {options : MatchOptions} {tags tags' : TagSet} {literal : String}

/-! ## Literals -/

namespace TagSet

theorem satisfies_of_subset (hsub : ∀ tag ∈ tags, tag ∈ tags')
    (h : tags.satisfies literal options = true) : tags'.satisfies literal options = true := by
  by_cases he : LiteralKind.of literal options = .everything
  · exact satisfies_of_everything he
  · rw [satisfies_eq_any he, List.any_eq_true] at h ⊢
    obtain ⟨tag, htag, ha⟩ := h
    exact ⟨tag, hsub tag htag, ha⟩

theorem satisfies_of_new
    (hnew : ∀ tag ∈ tags', tag ∉ tags → (ofList [tag]).satisfies literal options = false)
    (h : tags'.satisfies literal options = true) : tags.satisfies literal options = true := by
  by_cases he : LiteralKind.of literal options = .everything
  · exact satisfies_of_everything he
  · rw [satisfies_eq_any he, List.any_eq_true] at h ⊢
    obtain ⟨tag, htag, ha⟩ := h
    refine ⟨tag, ?_, ha⟩
    by_contra hold
    have hmiss := hnew tag htag hold
    rw [satisfies_singleton, ha] at hmiss
    cases hmiss

end TagSet

/-! ## Literals under negations -/

namespace Expr

mutual

/-- The tags from left to right, each with the number of negations that it stands under. -/
def leavesUnder : Expr → List (String × Nat)
  | .always => []
  | .tag value => [(value, 0)]
  | .not child => (leavesUnder child).map fun (value, n) => (value, n + 1)
  | .chain _ operands => leavesUnderAll operands

def leavesUnderAll : List Expr → List (String × Nat)
  | [] => []
  | e :: es => leavesUnder e ++ leavesUnderAll es

end

theorem leavesUnderAll_eq_flatMap (es : List Expr) :
    leavesUnderAll es = es.flatMap leavesUnder := by
  induction es with
  | nil => rfl
  | cons e es ih => rw [leavesUnderAll, ih, List.flatMap_cons]

theorem map_fst_leavesUnder (e : Expr) : e.leavesUnder.map (·.1) = e.leaves := by
  induction e with
  | always | tag => rfl
  | not child ih =>
    rw [leavesUnder, List.map_map, leaves, ← ih]
    rfl
  | chain c es ih =>
    rw [leavesUnder, leavesUnderAll_eq_flatMap, List.map_flatMap, leaves, leavesAll_eq_flatMap]
    exact List.flatMap_congr ih

/-- The new tags satisfy no tag of the tree under a number of negations that is `k` modulo 2. -/
def Untouched (k : Nat) (options : MatchOptions) (tags tags' : TagSet) (e : Expr) : Prop :=
  ∀ literal n, (literal, n) ∈ e.leavesUnder → n % 2 = k →
    ∀ tag ∈ tags', tag ∉ tags → (Expr.tag literal).holds (.ofList [tag]) options = false

variable {k k' : Nat} {e : Expr} {c : Connective} {es : List Expr}

instance : Decidable (e.Untouched k options tags tags') :=
  decidable_of_iff (∀ x ∈ e.leavesUnder, x.2 % 2 = k → ∀ tag ∈ tags'.toList, tag ∉ tags.toList →
      (Expr.tag x.1).holds (.ofList [tag]) options = false)
    ⟨fun h literal n hmem => h (literal, n) hmem, fun h x hmem => h x.1 x.2 hmem⟩

theorem Untouched.child {child : Expr} (hk : k + k' = 1)
    (h : (Expr.not child).Untouched k options tags tags') :
    child.Untouched k' options tags tags' := by
  intro literal n hmem hn
  refine h literal (n + 1) ?_ (by omega)
  exact List.mem_map.2 ⟨(literal, n), hmem, rfl⟩

theorem Untouched.operand (h : (chain c es).Untouched k options tags tags') (he : e ∈ es) :
    e.Untouched k options tags tags' := by
  intro literal n hmem
  refine h literal n ?_
  rw [leavesUnder, leavesUnderAll_eq_flatMap]
  exact List.mem_flatMap.2 ⟨e, he, hmem⟩

theorem holds_chain_of_operands (c : Connective)
    (hop : ∀ e ∈ es, e.holds tags options = true → e.holds tags' options = true)
    (h : (chain c es).holds tags options = true) : (chain c es).holds tags' options = true := by
  cases c with
  | and =>
    rw [holds_and] at h ⊢
    exact fun e he => hop e he (h e he)
  | or =>
    rw [holds_or] at h ⊢
    obtain ⟨e, he, hholds⟩ := h
    exact ⟨e, he, hop e he hholds⟩

/-- Both directions together, because each of them is the other one below a negation. -/
theorem holds_of_untouched (hsub : ∀ tag ∈ tags, tag ∈ tags') (e : Expr) :
    (e.Untouched 1 options tags tags' →
      e.holds tags options = true → e.holds tags' options = true) ∧
    (e.Untouched 0 options tags tags' →
      e.holds tags' options = true → e.holds tags options = true) := by
  induction e with
  | always => exact ⟨fun _ h => h, fun _ h => h⟩
  | tag literal =>
    constructor
    · exact fun _ => TagSet.satisfies_of_subset hsub
    · exact fun h => TagSet.satisfies_of_new (h literal 0 (List.mem_singleton.2 rfl) rfl)
  | not child ih =>
    obtain ⟨hmore, hfewer⟩ := ih
    simp only [holds, Bool.not_eq_true', ← Bool.not_eq_true]
    constructor
    · exact fun h hnot hholds => hnot (hfewer (h.child rfl) hholds)
    · exact fun h hnot hholds => hnot (hmore (h.child rfl) hholds)
  | chain c es ih =>
    constructor
    · exact fun h => holds_chain_of_operands c fun e he => (ih e he).1 (h.operand he)
    · exact fun h => holds_chain_of_operands c fun e he => (ih e he).2 (h.operand he)

theorem leavesUnder_of_no_negation (h : ∀ child, ¬ Occurs (.not child) e) :
    ∀ x ∈ e.leavesUnder, x.2 = 0 := by
  induction e with
  | always => exact fun x hx => absurd hx List.not_mem_nil
  | tag value => simp [leavesUnder]
  | not child => exact absurd .here (h child)
  | chain c es ih =>
    intro x hx
    rw [leavesUnder, leavesUnderAll_eq_flatMap] at hx
    obtain ⟨e, he, hx⟩ := List.mem_flatMap.1 hx
    exact ih e he (fun child hp => h child (.within he hp)) x hx

/-- A tree without negations keeps what it holds of. -/
theorem holds_of_no_negation (hsub : ∀ tag ∈ tags, tag ∈ tags')
    (h : ∀ child, ¬ Occurs (.not child) e) (hholds : e.holds tags options = true) :
    e.holds tags' options = true := by
  refine (holds_of_untouched hsub e).1 (fun literal n hmem hn => ?_) hholds
  have hzero : n = 0 := leavesUnder_of_no_negation h _ hmem
  omega

end Expr

/-- **Polarity.**  New tags that satisfy no literal under an odd number of negations leave true
    what was true, and new tags that satisfy none under an even number make nothing true.  So an
    entity that gets more tags is still found for an audience, and still reached through it, if the
    expression of the audience has no negation. -/
theorem more_tags_by_polarity (options : MatchOptions) {tags tags' : TagSet}
    (hsub : ∀ tag ∈ tags, tag ∈ tags') :
    (∀ e : Expr, e.Untouched 1 options tags tags' →
      e.holds tags options = true → e.holds tags' options = true) ∧
    (∀ e : Expr, e.Untouched 0 options tags tags' →
      e.holds tags' options = true → e.holds tags options = true) ∧
    ∀ (t : RoutingTable) (severity : Option String), ∀ a ∈ t.audiences,
      (∀ child, ¬ Expr.Occurs (.not child) a.tree) →
      (a ∈ (t.audiencesFor tags severity options).1 →
        a ∈ (t.audiencesFor tags' severity options).1) ∧
      ∀ (registry registry' : Registry) (id : String),
        registry.tagsOf? id = some tags → registry'.tagsOf? id = some tags' →
        id ∈ (t.routeTo registry severity options a).1.entities →
        id ∈ (t.routeTo registry' severity options a).1.entities := by
  refine ⟨fun e => (Expr.holds_of_untouched hsub e).1, fun e => (Expr.holds_of_untouched hsub e).2,
    fun t severity a ha hpositive => ?_⟩
  have hfound : a ∈ (t.audiencesFor tags severity options).1 →
      a ∈ (t.audiencesFor tags' severity options).1 := by
    rw [RoutingTable.mem_audiencesFor, RoutingTable.mem_audiencesFor]
    rintro ⟨-, hadmits, hholds⟩
    exact ⟨ha, hadmits, Expr.holds_of_no_negation hsub hpositive hholds⟩
  refine ⟨hfound, fun registry registry' id htags htags' hid => ?_⟩
  refine ((RoutingTable.delivers_routeTo ha).entities id tags' htags').2 (hfound ?_)
  exact ((RoutingTable.delivers_routeTo ha).entities id tags htags).1 hid

/-- The new tag satisfies one literal only, which is under one negation of the second tree. -/
theorem more_tags_by_polarity_category :
    (∀ tag ∈ TagSet.ofList ["area:home"], tag ∈ TagSet.ofList ["area:home", "user:jane"]) ∧
    (Expr.all [.tag "area:*", .not (.tag "device:")]).holds
      (.ofList ["area:home", "user:jane"]) { categoryMode := true, wildcards := true } = true ∧
    (Expr.not (Expr.all [.tag "user:", .not (.tag "area:*")])).holds
      (.ofList ["area:home"]) { categoryMode := true, wildcards := true } = true ∧
    "porch" ∈ (RoutingTable.routeTo ⟨[⟨"home", "area:home", .tag "area:home", [], none⟩], default⟩
      (.ofList [("porch", .ofList ["area:home", "user:jane"])]) none
      { categoryMode := true, wildcards := true }
      ⟨"home", "area:home", .tag "area:home", [], none⟩).1.entities := by
  have hsub : ∀ tag ∈ TagSet.ofList ["area:home"],
      tag ∈ TagSet.ofList ["area:home", "user:jane"] := by
    simp [TagSet.mem_ofList]
  obtain ⟨hmore, hfewer, haudiences⟩ :=
    more_tags_by_polarity { categoryMode := true, wildcards := true } hsub
  have hpositive : ∀ child, ¬ Expr.Occurs (.not child) (.tag "area:home") := by
    rintro child (_ | ⟨hmem, -⟩)
    cases hmem
  refine ⟨hsub, hmore _ (by decide +kernel) (by decide +kernel),
    hfewer _ (by decide +kernel) (by decide +kernel), ?_⟩
  exact (haudiences _ none _ (List.mem_singleton.2 rfl) hpositive).2
    (.ofList [("porch", .ofList ["area:home"])]) _ "porch" (by rfl) (by rfl) (by decide +kernel)

end AudienceRouting
