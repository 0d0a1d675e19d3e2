/-
  Audience routing — joins of joins.

  A join merges one level, and a single operand stays as it is.  So what it contributes to a chain
  of the same connective is what its operands contribute, unless that is one chain of the
  connective, which is opened once more (`operandsFor_join_iff`).  Where no group does that, trees
  can be joined in groups (`join_map_join`); flat trees never do.

  `joining_regroups`: a join of any trees means what its operands mean together, and joins of flat
  trees can be joined.
-/
import AudienceRouting.Proofs.Merging

namespace AudienceRouting.Expr

/-! ## What a join contributes -/

theorem ne_singleton_chain (c : Connective) (es : List Expr) : es ≠ [chain c es] := by
  intro h
  have hsizes : sizes es = sizes es + 1 := congrArg sizes h
  omega

/-- A join gives all that its operands contribute, but for a single chain that they contribute:
    the join is that chain, which gives its own operands. -/
theorem operandsFor_join_iff (c : Connective) (es : List Expr) :
    (join c es).operandsFor c = es.flatMap (operandsFor c) ↔
      ∀ inner, es.flatMap (operandsFor c) ≠ [chain c inner] := by
  rcases join_cases c es with he | ⟨hmerged, hj⟩
  · -- one tree is left; if it is a chain of `c`, a chain around the join opens it once more
    rw [he]
    rcases operandsFor_cases c (join c es) with ⟨hc, ho⟩ | ⟨inner, hj, ho⟩
    · refine iff_of_true ho fun inner h => ?_
      rw [List.singleton_inj.1 h] at hc
      simp [isChainOf] at hc
    · rw [ho, hj]
      exact iff_of_false (ne_singleton_chain c inner) fun h => h inner rfl
  · rw [hj]
    exact iff_of_true (by simp [operandsFor]) fun inner => hmerged (chain c inner)

/-- Flat trees never contribute a chain of the connective that they are joined by. -/
theorem flatMap_operandsFor_ne {c : Connective} {es : List Expr} (h : ∀ e ∈ es, Flat e)
    (inner : List Expr) : es.flatMap (operandsFor c) ≠ [chain c inner] := by
  intro he
  have hc := (mem_flatMap_operandsFor (c := c) h (chain c inner) (by simp [he])).2
  simp [isChainOf] at hc

/-! ## Joining in groups -/

/-- A join depends on what its operands contribute only. -/
theorem join_congr (c : Connective) {xs ys : List Expr}
    (h : xs.flatMap (operandsFor c) = ys.flatMap (operandsFor c)) : join c xs = join c ys := by
  unfold join
  rw [h]

/-- **Trees can be joined in groups**, as many as there are and empty ones too, if no group
    contributes a single chain of the connective. -/
theorem join_map_join (c : Connective) {groups : List (List Expr)}
    (h : ∀ es ∈ groups, ∀ inner, es.flatMap (operandsFor c) ≠ [chain c inner]) :
    join c (groups.map (join c)) = join c groups.flatten := by
  refine join_congr c ?_
  calc (groups.map (join c)).flatMap (operandsFor c)
      = groups.flatMap fun es => (join c es).operandsFor c := by rw [List.flatMap_map]
    _ = groups.flatMap fun es => es.flatMap (operandsFor c) :=
        List.flatMap_congr fun es hes => (operandsFor_join_iff c es).2 (h es hes)
    _ = groups.flatten.flatMap (operandsFor c) := by
        rw [List.flatten_eq_flatMap, List.flatMap_assoc]
        rfl

theorem join_append (c : Connective) {xs ys : List Expr} (hx : ∀ e ∈ xs, Flat e)
    (hy : ∀ e ∈ ys, Flat e) : join c [join c xs, join c ys] = join c (xs ++ ys) := by
  have hgroups : ∀ es ∈ [xs, ys], ∀ inner, es.flatMap (operandsFor c) ≠ [chain c inner] := by
    simpa using ⟨flatMap_operandsFor_ne hx, flatMap_operandsFor_ne hy⟩
  simpa using join_map_join c hgroups

theorem flat_join_iff {c : Connective} {es : List Expr} (h : ∀ e ∈ es, Flat e) :
    (join c es).Flat ↔ es ≠ [] := by
  constructor
  · rintro hflat rfl
    have h2 : 2 ≤ ([] : List Expr).length := Flat.two_le_length hflat
    simp at h2
  · exact Flat.join h

/-! ## The meaning of a join -/

section
variable (tags : TagSet) (options : MatchOptions)

theorem holds_all (es : List Expr) :
    (all es).holds tags options = es.all (holds tags options) := by
  rw [all, holds_join, holds, allHold_eq_all]

theorem holds_any (es : List Expr) :
    (any es).holds tags options = es.any (holds tags options) := by
  rw [any, holds_join, holds, someHolds_eq_any]

theorem holds_all_pair (a b : Expr) : (all [a, b]).holds tags options =
    (a.holds tags options && b.holds tags options) := by
  simp [holds_all]

theorem holds_any_pair (a b : Expr) : (any [a, b]).holds tags options =
    (a.holds tags options || b.holds tags options) := by
  simp [holds_any]

end

/-- **Joining keeps the meaning, and joins can be joined.**  Whatever the trees are, `all` is their
    conjunction and `any` their disjunction, whichever operands are merged.  If the trees are flat,
    joining the joins of two lists is joining both lists at once, and the join is flat again unless
    there is nothing to join. -/
theorem joining_regroups :
    (∀ (es : List Expr) (tags : TagSet) (options : MatchOptions),
      (all es).holds tags options = es.all (·.holds tags options) ∧
      (any es).holds tags options = es.any (·.holds tags options)) ∧
    ∀ xs ys : List Expr, (∀ e ∈ xs ++ ys, e.Flat) →
      all [all xs, all ys] = all (xs ++ ys) ∧
      any [any xs, any ys] = any (xs ++ ys) ∧
      ((all (xs ++ ys)).Flat ↔ xs ++ ys ≠ []) ∧
      ((any (xs ++ ys)).Flat ↔ xs ++ ys ≠ []) := by
  refine ⟨fun es tags options => ⟨holds_all tags options es, holds_any tags options es⟩, ?_⟩
  intro xs ys h
  obtain ⟨hx, hy⟩ := List.forall_mem_append.1 h
  exact ⟨join_append .and hx hy, join_append .or hx hy, flat_join_iff h, flat_join_iff h⟩

/-- Chains of either kind are regrouped, and beside an empty group a chain stays as it is. -/
theorem joining_regroups_mixed :
    (∀ e ∈ [all [.tag "a", .tag "b"], any [.tag "c", all [.tag "a", .tag "d"]]] ++
      [all [.tag "c", .not (.tag "b")]], e.Flat) ∧
    all [all [all [.tag "a", .tag "b"], any [.tag "c", all [.tag "a", .tag "d"]]],
        all [all [.tag "c", .not (.tag "b")]]] =
      .chain .and [.tag "a", .tag "b",
        .chain .or [.tag "c", .chain .and [.tag "a", .tag "d"]], .tag "c", .not (.tag "b")] ∧
    any [any [all [.tag "a", .tag "b"], any [.tag "c", all [.tag "a", .tag "d"]]],
        any [all [.tag "c", .not (.tag "b")]]] =
      .chain .or [.chain .and [.tag "a", .tag "b"], .tag "c", .chain .and [.tag "a", .tag "d"],
        .chain .and [.tag "c", .not (.tag "b")]] ∧
    all [all [all [.tag "a", .tag "b"]], all []] = .chain .and [.tag "a", .tag "b"] := by
  have hpair : ∀ v w, (all [.tag v, .tag w]).Flat := fun v w =>
    .join (by simp [Flat.tag]) (by simp)
  have hany : (any [.tag "c", all [.tag "a", .tag "d"]]).Flat :=
    .join (by simpa [Flat.tag] using hpair "a" "d") (by simp)
  have hnot : (all [.tag "c", .not (.tag "b")]).Flat :=
    .join (by simpa [Flat.tag] using Flat.not (.tag "b")) (by simp)
  have hflat : ∀ e ∈ [all [.tag "a", .tag "b"], any [.tag "c", all [.tag "a", .tag "d"]]] ++
      [all [.tag "c", .not (.tag "b")]], e.Flat := by
    simpa using ⟨hpair "a" "b", hany, hnot⟩
  have hsingle : ∀ e ∈ [all [.tag "a", .tag "b"]] ++ [], e.Flat := by
    simpa using hpair "a" "b"
  refine ⟨hflat, ?_, ?_, ?_⟩
  · rw [(joining_regroups.2 _ _ hflat).1]
    rfl
  · rw [(joining_regroups.2 _ _ hflat).2.1]
    rfl
  · rw [(joining_regroups.2 [_] [] hsingle).1]
    rfl

/-- A chain whose one operand is a chain of the same connective is opened once by the inner join
    and once more by the outer one. -/
example : all [all [.chain .and [.chain .and [.tag "a", .tag "b"]]], all [.tag "c"]] =
      .chain .and [.tag "a", .tag "b", .tag "c"] ∧
    all ([.chain .and [.chain .and [.tag "a", .tag "b"]]] ++ [.tag "c"]) =
      .chain .and [.chain .and [.tag "a", .tag "b"], .tag "c"] :=
  ⟨rfl, rfl⟩

end AudienceRouting.Expr
