/-
  Audience routing — the two views of routing.

  * `Audience.CompilesTo`: the audience that a configured one becomes.
  * `RoutingTable.Admits`: the severity gate of an audience.
  * `RoutingTable.Delivers`: what one audience gets of a notification, in terms of
    what reaches each entity.

  `route_agrees_with_audiencesFor`: the routes of a compiled table, one for each
  audience, list the entities that the audience is found for, and nothing else.
-/
import Mathlib.Data.List.Forall2
import AudienceRouting.Proofs.Outcome
import AudienceRouting.Proofs.Resolution
import AudienceRouting.RoutingTable

namespace AudienceRouting

/-! ## Compiled audiences -/

/-- The audience is the configured one with its expression read. -/
structure AudienceConfig.CompilesTo (levels : SeverityLevels) (config : AudienceConfig)
    (a : Audience) : Prop where
  name : a.name = config.name
  expression : a.expression = config.expression
  tree : Expr.read config.expression = .ok a.tree
  services : a.services = config.services
  minSeverity : a.minSeverity = config.minSeverity
  minimum : ∀ s ∈ config.minSeverity, levels.contains s = true

theorem Audience.compile_ok_iff {config : AudienceConfig} {a : Audience} :
    Audience.compile config = .ok a ↔ ∃ tree, Expr.read config.expression = .ok tree ∧
      a = ⟨config.name, config.expression, tree, config.services, config.minSeverity⟩ := by
  unfold Audience.compile
  cases Expr.read config.expression with
  | error cause => simp
  | ok tree => simp [eq_comm]

namespace RoutingTable

variable {levels : SeverityLevels} {names : List String}

theorem compileAudience_ok_iff {config : AudienceConfig} {a : Audience} :
    compileAudience levels names config = .ok a ↔
      config.name ∉ names ∧ config.CompilesTo levels a := by
  unfold compileAudience
  constructor
  · intro h
    split at h
    · cases h
    rename_i hname
    split at h
    · cases h
    rename_i hminimum
    obtain ⟨tree, htree, rfl⟩ := Audience.compile_ok_iff.1 h
    refine ⟨hname, rfl, rfl, htree, rfl, rfl, fun s hs => ?_⟩
    simpa using Option.filter_eq_none_iff.1 hminimum s hs
  · rintro ⟨hname, h⟩
    have hminimum : config.minSeverity.filter (!levels.contains ·) = none :=
      Option.filter_eq_none_iff.2 fun s hs => by simp [h.minimum s hs]
    rw [if_neg hname, hminimum]
    refine Audience.compile_ok_iff.2 ⟨a.tree, h.tree, ?_⟩
    rw [← h.name, ← h.expression, ← h.services, ← h.minSeverity]

/-- A list of audiences compiles one by one, if no name is repeated. -/
theorem compileAll_ok_iff {configs : List AudienceConfig} {audiences : List Audience} :
    compileAll levels names configs = .ok audiences ↔
      List.Forall₂ (AudienceConfig.CompilesTo levels) configs audiences ∧
        (configs.map (·.name)).Nodup ∧ ∀ config ∈ configs, config.name ∉ names := by
  induction configs generalizing names audiences with
  | nil => simp [compileAll, eq_comm]
  | cons config rest ih =>
    rw [compileAll, bind_eq_ok_iff]
    constructor
    · rintro ⟨a, ha, h⟩
      obtain ⟨as, has, h⟩ := bind_eq_ok_iff.1 h
      cases h
      obtain ⟨hname, ha⟩ := compileAudience_ok_iff.1 ha
      obtain ⟨has, hnodup, hnames⟩ := ih.1 has
      refine ⟨.cons ha has, List.nodup_cons.2 ⟨fun hmem => ?_, hnodup⟩,
        List.forall_mem_cons.2 ⟨hname, fun c hc hin => hnames c hc (List.mem_cons_of_mem _ hin)⟩⟩
      obtain ⟨c, hc, he⟩ := List.mem_map.1 hmem
      exact hnames c hc (he ▸ List.mem_cons_self)
    · rintro ⟨hall, hnodup, hnames⟩
      obtain ⟨a, as, ha, has, rfl⟩ := List.forall₂_cons_left_iff.1 hall
      obtain ⟨hname, hnames⟩ := List.forall_mem_cons.1 hnames
      obtain ⟨hfresh, hnodup⟩ := List.nodup_cons.1 hnodup
      refine ⟨a, compileAudience_ok_iff.2 ⟨hname, ha⟩, bind_eq_ok_iff.2 ⟨as, ih.2 ⟨has, hnodup,
        fun c hc hin => ?_⟩, rfl⟩⟩
      rcases List.mem_cons.1 hin with he | hin
      · exact hfresh (List.mem_map.2 ⟨c, hc, he⟩)
      · exact hnames c hc hin

/-- **What a compiled table holds.** -/
theorem compile_ok_iff {config : AudiencesConfig} {t : RoutingTable} {notes : List Event} :
    compile config = .ok (t, notes) ↔ SeverityLevels.ofNames config.severityLevels = .ok t.levels ∧
      List.Forall₂ (AudienceConfig.CompilesTo t.levels) config.audiences t.audiences ∧
      (config.audiences.map (·.name)).Nodup ∧ notes = [.compiled t.audiences.length] := by
  unfold compile
  constructor
  · intro h
    obtain ⟨levels, hlevels, h⟩ := bind_eq_ok_iff.1 h
    obtain ⟨audiences, haudiences, h⟩ := bind_eq_ok_iff.1 h
    cases h
    obtain ⟨hall, hnodup, -⟩ := compileAll_ok_iff.1 haudiences
    exact ⟨mapError_eq_ok_iff.1 hlevels, hall, hnodup, rfl⟩
  · rintro ⟨hlevels, hall, hnodup, rfl⟩
    exact bind_eq_ok_iff.2 ⟨t.levels, mapError_eq_ok_iff.2 hlevels, bind_eq_ok_iff.2
      ⟨t.audiences, compileAll_ok_iff.2 ⟨hall, hnodup, by simp⟩, rfl⟩⟩

theorem map_name_eq {configs : List AudienceConfig} {audiences : List Audience}
    (h : List.Forall₂ (AudienceConfig.CompilesTo levels) configs audiences) :
    audiences.map (·.name) = configs.map (·.name) := by
  induction h with
  | nil => rfl
  | cons ha _ ih => rw [List.map_cons, List.map_cons, ha.name, ih]

/-- In lists that are related one by one every member is related to one. -/
theorem exists_rel_of_mem {α β : Type} {R : α → β → Prop} {xs : List α} {ys : List β}
    (h : List.Forall₂ R xs ys) {x : α} (hx : x ∈ xs) : ∃ y, R x y := by
  induction h with
  | nil => cases hx
  | cons hfirst _ ih =>
    rcases List.mem_cons.1 hx with rfl | hx
    · exact ⟨_, hfirst⟩
    · exact ih hx

/-! ## The severity gate -/

/-- Without a severity the gate is open, and else for levels that rank at least as high as the
    minimum of the audience, which is the lowest level unless there is another. -/
def Admits (t : RoutingTable) (severity : Option String) (a : Audience) : Prop :=
  ∀ s ∈ severity, ∃ minimum rank,
    t.levels.rank? (a.minSeverity.getD t.levels.lowest) = some minimum ∧
      t.levels.rank? s = some rank ∧ minimum ≤ rank

theorem passes_iff {t : RoutingTable} {severity : Option String} {a : Audience} :
    t.passes severity a = true ↔ t.Admits severity a := by
  cases severity with
  | none => simp [passes, Admits]
  | some s =>
    simp only [passes, Admits, Audience.accepts, SeverityLevels.isAtLeast, Option.mem_some_iff,
      forall_eq']
    generalize t.levels.rank? s = rank
    generalize t.levels.rank? (a.minSeverity.getD t.levels.lowest) = minimum
    cases rank <;> cases minimum <;> simp

/-! ## Routes -/

variable {t : RoutingTable} {registry : Registry} {severity : Option String}
  {options : MatchOptions} {a : Audience}

/-- An audience is found for an entity if the gate is passed and its expression holds. -/
theorem mem_audiencesFor {tags : TagSet} : a ∈ (t.audiencesFor tags severity options).1 ↔
    a ∈ t.audiences ∧ t.Admits severity a ∧ a.tree.holds tags options = true := by
  rw [audiencesFor, List.mem_filter, Bool.and_eq_true, passes_iff]
  rfl

structure Delivers (t : RoutingTable) (registry : Registry) (severity : Option String)
    (options : MatchOptions) (a : Audience) (route : AudienceRoute) : Prop where
  audience : route.audience = a.name
  /-- the view from each entity -/
  entities : ∀ id tags, registry.tagsOf? id = some tags →
    (id ∈ route.entities ↔ a ∈ (t.audiencesFor tags severity options).1)
  registered : ∀ id ∈ route.entities, ∃ tags, registry.tagsOf? id = some tags
  ascending : route.entities.Pairwise (· < ·)
  belowMinimum : route.belowMinimum = true ↔ ¬ t.Admits severity a
  withheld : route.belowMinimum = true → route.services = [] ∧ route.entities = []
  services : route.belowMinimum = false → route.services = a.services
  /-- the order in which the matches of a large registry come in makes no difference -/
  anyOrder : route.belowMinimum = false → ∀ delivery,
    Registry.resolveWith delivery a.tree registry options = route.entities

/-- A gate that is passed: the audience gets the entities of which its expression holds. -/
theorem delivers_of_admits (ha : a ∈ t.audiences) (h : t.Admits severity a) :
    t.Delivers registry severity options a
      ⟨a.name, a.services, registry.resolve a.tree options, false⟩ where
  audience := rfl
  entities id tags hfound := by
    rw [Registry.mem_resolve, mem_audiencesFor]
    constructor
    · rintro ⟨tags', hfound', hholds⟩
      obtain rfl : tags = tags' := Option.some.inj (hfound.symm.trans hfound')
      exact ⟨ha, h, hholds⟩
    · rintro ⟨-, -, hholds⟩
      exact ⟨tags, hfound, hholds⟩
  registered id hid := by
    obtain ⟨tags, hfound, -⟩ := (Registry.mem_resolve _ _ _).1 hid
    exact ⟨tags, hfound⟩
  ascending := Registry.pairwise_resolve _ _ _
  belowMinimum := by simp [h]
  withheld hbelow := by cases hbelow
  services _ := rfl
  anyOrder _ delivery := by
    rw [Registry.resolve, Registry.resolveWith_eq_scan, Registry.resolveWith_eq_scan]

/-- A gate that is not passed: no entity finds the audience, which gets nothing. -/
theorem delivers_of_not_admits (h : ¬ t.Admits severity a) :
    t.Delivers registry severity options a ⟨a.name, [], [], true⟩ where
  audience := rfl
  entities id tags _ := by
    rw [mem_audiencesFor]
    exact iff_of_false List.not_mem_nil fun hmem => h hmem.2.1
  registered id hid := by cases hid
  ascending := .nil
  belowMinimum := by simp [h]
  withheld _ := ⟨rfl, rfl⟩
  services hpassed := by cases hpassed
  anyOrder hpassed := by cases hpassed

theorem delivers_routeTo (ha : a ∈ t.audiences) :
    t.Delivers registry severity options a (t.routeTo registry severity options a).1 := by
  unfold routeTo
  by_cases h : t.passes severity a = true
  · rw [if_pos h]
    exact delivers_of_admits ha (passes_iff.1 h)
  · rw [if_neg h]
    exact delivers_of_not_admits fun hadmits => h (passes_iff.2 hadmits)

/-- One route for each audience, in the order of the table. -/
theorem forall₂_delivers_route :
    List.Forall₂ (t.Delivers registry severity options) t.audiences
      (t.route registry severity options).1 := by
  rw [route, List.map_map, List.forall₂_map_right_iff, List.forall₂_same]
  exact fun a ha => delivers_routeTo ha

end RoutingTable

/-- **The two views of routing agree.**  A compiled table has the configured audiences, in their
    order and with distinct names, and a notification is routed to each of them, in this order: to
    the entities that the audience is found for, in ascending order, or, below its minimum severity,
    to nobody and through no service. -/
theorem route_agrees_with_audiencesFor {config : AudiencesConfig} {t : RoutingTable}
    {notes : List Event} (h : RoutingTable.compile config = .ok (t, notes)) (registry : Registry)
    (severity : Option String) (options : MatchOptions) :
    List.Forall₂ (AudienceConfig.CompilesTo t.levels) config.audiences t.audiences ∧
    (t.audiences.map (·.name)).Nodup ∧
    List.Forall₂ (t.Delivers registry severity options) t.audiences
      (t.route registry severity options).1 := by
  obtain ⟨-, hall, hnodup, -⟩ := RoutingTable.compile_ok_iff.1 h
  refine ⟨hall, ?_, RoutingTable.forall₂_delivers_route⟩
  rwa [RoutingTable.map_name_eq hall]

/-- Of two audiences the second one has a minimum that the notification does not reach. -/
theorem route_agrees_with_audiencesFor_pair :
    ∃ t notes, RoutingTable.compile { audiences := [
        { name := "home", expression := "area:home-user:jane", services := ["push"] },
        { name := "ops", expression := "user:jane", minSeverity := some "high" }] } =
      .ok (t, notes) ∧
    (t.route (.ofList [("phone", .ofList ["user:jane"]), ("speaker", .ofList ["area:home"])])
        (some "medium") {}).1 =
      [⟨"home", ["push"], ["speaker"], false⟩, ⟨"ops", [], [], true⟩] ∧
    List.Forall₂ (t.Delivers
        (.ofList [("phone", .ofList ["user:jane"]), ("speaker", .ofList ["area:home"])])
        (some "medium") {}) t.audiences
      (t.route (.ofList [("phone", .ofList ["user:jane"]), ("speaker", .ofList ["area:home"])])
        (some "medium") {}).1 := by
  have hcompile : RoutingTable.compile { audiences := [
      { name := "home", expression := "area:home-user:jane", services := ["push"] },
      { name := "ops", expression := "user:jane", minSeverity := some "high" }] } =
      .ok (⟨[⟨"home", "area:home-user:jane", .all [.tag "area:home", .not (.tag "user:jane")],
          ["push"], none⟩, ⟨"ops", "user:jane", .tag "user:jane", [], some "high"⟩], default⟩,
        [.compiled 2]) := by
    refine RoutingTable.compile_ok_iff.2 ⟨rfl, ?_, by decide, rfl⟩
    refine .cons ⟨rfl, rfl, ?_, rfl, rfl, by simp⟩ (.cons ⟨rfl, rfl, ?_, rfl, rfl, ?_⟩ .nil)
    · decide +kernel
    · decide +kernel
    · decide
  refine ⟨_, _, hcompile, ?_, (route_agrees_with_audiencesFor hcompile _ _ _).2.2⟩
  decide +kernel

end AudienceRouting
