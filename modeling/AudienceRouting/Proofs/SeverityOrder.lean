/-
  Audience routing — more severe notifications reach more.

  * `SeverityLevels.rank?_eq_some_iff`: the rank of a level is its position, because no
    level is repeated.
  * `RoutingTable.Bounded`: every minimum that is set is a level, as in a compiled table.
  * `AudienceRoute.Extends`: a route that reaches whatever another one reaches.

  `reaches_more_of_severe`: a notification reaches whatever a less severe one reaches.
  The most severe level passes every gate, as no severity does, the least severe one
  those without another minimum, and what is no level passes none.
-/
import AudienceRouting.Proofs.Routing

namespace AudienceRouting

/-! ## Ranks -/

namespace SeverityLevels

variable {levels : SeverityLevels} {name : String} {i : Nat}

/-- No level is repeated, so its rank is where it stands. -/
theorem rank?_eq_some_iff : levels.rank? name = some i ↔ levels.names[i]? = some name := by
  rw [rank?, List.findIdx?_eq_some_iff_getElem, List.getElem?_eq_some_iff]
  constructor
  · rintro ⟨hi, hname, -⟩
    exact ⟨hi, by simpa using hname⟩
  · rintro ⟨hi, rfl⟩
    refine ⟨hi, by simp, fun j hj he => ?_⟩
    have hsame : j = i := levels.nodup.getElem_inj_iff.1 (by simpa using he)
    omega

theorem rank?_eq_none_iff : levels.rank? name = none ↔ name ∉ levels.names := by
  rw [rank?, List.findIdx?_eq_none_iff]
  simp [List.forall_mem_ne']

theorem contains_iff_mem : levels.contains name = true ↔ name ∈ levels.names := by
  rw [contains, Option.isSome_iff_ne_none, ne_eq, rank?_eq_none_iff, not_not]

theorem names_of_ofNames {names : List String} (h : ofNames names = .ok levels) :
    levels.names = names := by
  unfold ofNames at h
  split at h
  · cases h
  · split at h
    · cases h
    · cases h
      rfl

end SeverityLevels

namespace RoutingTable

variable {t : RoutingTable} {a : Audience} {s s₁ s₂ : String} {i j : Nat}

/-! ## Gates -/

/-- Every minimum that is set is a level. -/
def Bounded (t : RoutingTable) : Prop :=
  ∀ a ∈ t.audiences, ∀ minimum ∈ a.minSeverity, minimum ∈ t.levels.names

theorem bounded_of_compile {config : AudiencesConfig} {notes : List Event}
    (h : compile config = .ok (t, notes)) : t.Bounded := by
  obtain ⟨-, hall, -⟩ := compile_ok_iff.1 h
  intro a ha minimum hminimum
  obtain ⟨c, hc⟩ := exists_rel_of_mem (R := fun a c => AudienceConfig.CompilesTo t.levels c a)
    hall.flip ha
  rw [hc.minSeverity] at hminimum
  exact SeverityLevels.contains_iff_mem.1 (hc.minimum minimum hminimum)

theorem admits_of_le (h₁ : t.levels.rank? s₁ = some i) (h₂ : t.levels.rank? s₂ = some j)
    (hij : i ≤ j) (h : t.Admits (some s₁) a) : t.Admits (some s₂) a := by
  obtain ⟨minimum, rank, hminimum, hrank, hle⟩ := h s₁ rfl
  obtain rfl : i = rank := Option.some.inj (h₁.symm.trans hrank)
  intro s hs
  obtain rfl : s₂ = s := Option.some.inj hs
  exact ⟨minimum, j, hminimum, h₂, hle.trans hij⟩

/-- The most severe level passes every gate. -/
theorem admits_highest (hbounded : t.Bounded) (ha : a ∈ t.audiences)
    (h : t.levels.names.getLast? = some s) : t.Admits (some s) a := by
  have hlevel : a.minSeverity.getD t.levels.lowest ∈ t.levels.names := by
    cases hm : a.minSeverity with
    | none => exact List.head_mem _
    | some minimum => exact hbounded a ha minimum hm
  obtain ⟨minimum, hminimum⟩ := List.mem_iff_getElem?.1 hlevel
  have hlt := (List.getElem?_eq_some_iff.1 hminimum).1
  intro s' hs
  obtain rfl : s = s' := Option.some.inj hs
  rw [List.getLast?_eq_getElem?] at h
  exact ⟨minimum, _, SeverityLevels.rank?_eq_some_iff.2 hminimum,
    SeverityLevels.rank?_eq_some_iff.2 h, by omega⟩

/-- What is no level passes no gate. -/
theorem not_admits_unknown (h : s ∉ t.levels.names) : ¬ t.Admits (some s) a := by
  intro hadmits
  obtain ⟨_, rank, -, hrank, -⟩ := hadmits s rfl
  rw [SeverityLevels.rank?_eq_none_iff.2 h] at hrank
  cases hrank

/-- The least severe level passes the gates without a minimum and those whose minimum it is. -/
theorem admits_lowest_iff (h : t.levels.names.head? = some s) :
    t.Admits (some s) a ↔ a.minSeverity = none ∨ a.minSeverity = some s := by
  obtain rfl : t.levels.lowest = s := by
    rw [List.head?_eq_some_head t.levels.nonempty] at h
    exact Option.some.inj h
  have hzero : ∀ name, t.levels.rank? name = some 0 ↔ name = t.levels.lowest := by
    intro name
    rw [SeverityLevels.rank?_eq_some_iff, ← List.head?_eq_getElem?, h, Option.some_inj, eq_comm]
  have hgate : t.Admits (some t.levels.lowest) a ↔
      a.minSeverity.getD t.levels.lowest = t.levels.lowest := by
    rw [← hzero]
    constructor
    · intro hadmits
      obtain ⟨minimum, rank, hminimum, hrank, hle⟩ := hadmits _ rfl
      obtain rfl : 0 = rank := Option.some.inj (((hzero _).2 rfl).symm.trans hrank)
      rwa [Nat.le_zero.1 hle] at hminimum
    · rintro hminimum s hs
      obtain rfl : t.levels.lowest = s := Option.some.inj hs
      exact ⟨0, 0, hminimum, (hzero _).2 rfl, Nat.le_refl 0⟩
  rw [hgate]
  cases a.minSeverity <;> simp

/-! ## Routes -/

variable {registry : Registry} {options : MatchOptions} {severity severity' : Option String}

theorem routeTo_of_admits (h : t.Admits severity a) :
    t.routeTo registry severity options a =
      (⟨a.name, a.services, registry.resolve a.tree options, false⟩,
        if (registry.resolve a.tree options).isEmpty then [.reachesNone a.name] else []) :=
  if_pos (passes_iff.2 h)

theorem routeTo_of_not_admits (h : ¬ t.Admits severity a) :
    t.routeTo registry severity options a =
      (⟨a.name, [], [], true⟩, [.belowMinimum (severity.getD "") a.name]) :=
  if_neg fun hpasses => h (passes_iff.1 hpasses)

/-- Where two severities pass the same gates and neither is unknown, nothing tells them apart. -/
theorem route_congr (hall : ∀ a ∈ t.audiences, t.Admits severity a ∧ t.Admits severity' a)
    (hwarn : t.severityWarnings severity = t.severityWarnings severity') :
    t.route registry severity options = t.route registry severity' options := by
  have hroutes : t.audiences.map (t.routeTo registry severity options) =
      t.audiences.map (t.routeTo registry severity' options) := by
    refine List.map_congr_left fun a ha => ?_
    obtain ⟨h, h'⟩ := hall a ha
    rw [routeTo_of_admits h, routeTo_of_admits h']
  rw [route, route, hroutes, hwarn]

theorem audiencesFor_congr {tags : TagSet}
    (hall : ∀ a ∈ t.audiences, t.Admits severity a ∧ t.Admits severity' a)
    (hwarn : t.severityWarnings severity = t.severityWarnings severity') :
    t.audiencesFor tags severity options = t.audiencesFor tags severity' options := by
  rw [audiencesFor, audiencesFor, hwarn]
  refine Prod.ext (List.filter_congr fun a ha => ?_) rfl
  obtain ⟨h, h'⟩ := hall a ha
  rw [passes_iff.2 h, passes_iff.2 h']

theorem severityWarnings_of_mem (h : s ∈ t.levels.names) : t.severityWarnings (some s) = [] := by
  have hfilter : (some s).filter (!t.levels.contains ·) = none := by
    simp [SeverityLevels.contains_iff_mem.2 h]
  rw [severityWarnings, hfilter]

end RoutingTable

/-- One route reaches whatever another one for the same audience reaches. -/
structure AudienceRoute.Extends (r r' : AudienceRoute) : Prop where
  audience : r.audience = r'.audience
  reached : r'.belowMinimum = false → r.belowMinimum = false
  services : ∀ service ∈ r'.services, service ∈ r.services
  entities : ∀ id ∈ r'.entities, id ∈ r.entities

namespace RoutingTable

variable {t : RoutingTable} {a : Audience} {registry : Registry} {options : MatchOptions}
  {severity severity' : Option String}

theorem extends_routeTo (h : t.Admits severity a → t.Admits severity' a) :
    (t.routeTo registry severity' options a).1.Extends
      (t.routeTo registry severity options a).1 := by
  by_cases hadmits : t.Admits severity a
  · rw [routeTo_of_admits hadmits, routeTo_of_admits (h hadmits)]
    exact ⟨rfl, id, fun _ => id, fun _ => id⟩
  · rw [routeTo_of_not_admits hadmits]
    refine ⟨?_, nofun, nofun, nofun⟩
    by_cases hadmits' : t.Admits severity' a
    · rw [routeTo_of_admits hadmits']
    · rw [routeTo_of_not_admits hadmits']

/-- A notification reaches what one reaches that passes fewer gates. -/
theorem reaches_of_admits (h : ∀ a, t.Admits severity a → t.Admits severity' a) :
    (∀ tags, (t.audiencesFor tags severity options).1.Sublist
      (t.audiencesFor tags severity' options).1) ∧
    List.Forall₂ AudienceRoute.Extends (t.route registry severity' options).1
      (t.route registry severity options).1 := by
  constructor
  · intro tags
    refine List.monotone_filter_right _ fun a ha => ?_
    rw [Bool.and_eq_true] at ha ⊢
    exact ha.imp_left fun hpasses => passes_iff.2 (h a (passes_iff.1 hpasses))
  · rw [route, route, List.map_map, List.map_map, List.forall₂_map_left_iff,
      List.forall₂_map_right_iff, List.forall₂_same]
    exact fun a _ => extends_routeTo (h a)

/-- Where no gate is passed, nobody is reached. -/
theorem reaches_none (h : ∀ a, ¬ t.Admits severity a) :
    (∀ tags, (t.audiencesFor tags severity options).1 = []) ∧
    ∀ r ∈ (t.route registry severity options).1,
      r.belowMinimum = true ∧ r.services = [] ∧ r.entities = [] := by
  constructor
  · intro tags
    refine List.filter_eq_nil_iff.2 fun a _ hpasses => ?_
    exact h a (passes_iff.1 (Bool.and_eq_true _ _ ▸ hpasses).1)
  · intro r hr
    rw [route, List.map_map] at hr
    obtain ⟨a, -, rfl⟩ := List.mem_map.1 hr
    rw [Function.comp_apply, routeTo_of_not_admits (h a)]
    exact ⟨rfl, rfl, rfl⟩

end RoutingTable

/-- **More severe notifications reach more.**  In a compiled table a notification reaches all
    audiences, and all their entities, that one with the same or an earlier level reaches.  Without
    a severity it reaches what the last level reaches, with a name that is no level nobody, and with
    the first level it passes the gates of the audiences without another minimum. -/
theorem reaches_more_of_severe {config : AudiencesConfig} {t : RoutingTable} {notes : List Event}
    (h : RoutingTable.compile config = .ok (t, notes)) (registry : Registry)
    (options : MatchOptions) :
    (∀ (i j : Nat) (s₁ s₂ : String), config.severityLevels[i]? = some s₁ →
      config.severityLevels[j]? = some s₂ → i ≤ j →
      (∀ tags, (t.audiencesFor tags (some s₁) options).1.Sublist
        (t.audiencesFor tags (some s₂) options).1) ∧
      List.Forall₂ AudienceRoute.Extends (t.route registry (some s₂) options).1
        (t.route registry (some s₁) options).1) ∧
    (∀ s, config.severityLevels.getLast? = some s →
      (∀ tags, t.audiencesFor tags none options = t.audiencesFor tags (some s) options) ∧
      t.route registry none options = t.route registry (some s) options) ∧
    (∀ s, s ∉ config.severityLevels →
      (∀ tags, (t.audiencesFor tags (some s) options).1 = []) ∧
      ∀ r ∈ (t.route registry (some s) options).1,
        r.belowMinimum = true ∧ r.services = [] ∧ r.entities = []) ∧
    (∀ s, config.severityLevels.head? = some s → ∀ a ∈ t.audiences,
      t.passes (some s) a = true ↔ a.minSeverity = none ∨ a.minSeverity = some s) := by
  obtain ⟨hlevels, -⟩ := RoutingTable.compile_ok_iff.1 h
  rw [← SeverityLevels.names_of_ofNames hlevels]
  refine ⟨fun i j s₁ s₂ h₁ h₂ hij => ?_, fun s hs => ?_, fun s hs => ?_, fun s hs a _ => ?_⟩
  · exact RoutingTable.reaches_of_admits fun a => RoutingTable.admits_of_le
      (SeverityLevels.rank?_eq_some_iff.2 h₁) (SeverityLevels.rank?_eq_some_iff.2 h₂) hij
  · have hall : ∀ a ∈ t.audiences, t.Admits none a ∧ t.Admits (some s) a := fun a ha =>
      ⟨nofun, RoutingTable.admits_highest (RoutingTable.bounded_of_compile h) ha hs⟩
    have hwarn : t.severityWarnings none = t.severityWarnings (some s) :=
      (RoutingTable.severityWarnings_of_mem (List.mem_of_getLast? hs)).symm
    exact ⟨fun tags => RoutingTable.audiencesFor_congr hall hwarn,
      RoutingTable.route_congr hall hwarn⟩
  · exact RoutingTable.reaches_none fun a => RoutingTable.not_admits_unknown hs
  · exact RoutingTable.passes_iff.trans (RoutingTable.admits_lowest_iff hs)

/-- An audience with the minimum `high` is not reached by `medium`, but without a severity. -/
theorem reaches_more_of_severe_high :
    ∃ t notes, RoutingTable.compile { audiences :=
        [{ name := "ops", expression := "user:jane", minSeverity := some "high" }] } =
      .ok (t, notes) ∧
    (t.route (.ofList [("phone", .ofList ["user:jane"])]) (some "medium") {}).1 =
      [⟨"ops", [], [], true⟩] ∧
    (t.route (.ofList [("phone", .ofList ["user:jane"])]) none {}).1 =
      [⟨"ops", [], ["phone"], false⟩] ∧
    List.Forall₂ AudienceRoute.Extends
      (t.route (.ofList [("phone", .ofList ["user:jane"])]) (some "emergency") {}).1
      (t.route (.ofList [("phone", .ofList ["user:jane"])]) (some "medium") {}).1 ∧
    t.route (.ofList [("phone", .ofList ["user:jane"])]) none {} =
      t.route (.ofList [("phone", .ofList ["user:jane"])]) (some "emergency") {} := by
  have hcompile : RoutingTable.compile { audiences :=
      [{ name := "ops", expression := "user:jane", minSeverity := some "high" }] } =
      .ok (⟨[⟨"ops", "user:jane", .tag "user:jane", [], some "high"⟩], default⟩,
        [.compiled 1]) := by
    refine RoutingTable.compile_ok_iff.2 ⟨rfl, ?_, by decide, rfl⟩
    refine .cons ⟨rfl, rfl, ?_, rfl, rfl, ?_⟩ .nil
    · decide +kernel
    · decide
  obtain ⟨hmore, hnone, -⟩ := reaches_more_of_severe hcompile
    (.ofList [("phone", .ofList ["user:jane"])]) {}
  refine ⟨_, _, hcompile, ?_, ?_, (hmore 1 3 "medium" "emergency" rfl rfl (by decide)).2,
    (hnone "emergency" rfl).2⟩
  · decide +kernel
  · decide +kernel

end AudienceRouting
