/-
  Audience routing — audiences to which nothing is delivered.

  * `RoutingTable.Warns t severity warnings`: what is noted about a severity itself,
    which is a warning if it is given and is no level.
  * `undelivered audiences routes`: the audiences that reach no entity, with their routes.
  * `RoutingTable.Accounts t severity a r e`: the event `e` says why the audience `a`
    with the route `r` reaches no entity.

  `events_account_for_undelivered`: what is noted about a notification is what there is
  to say about its severity, and behind it one event for each audience that reaches no
  entity, in the order of the table.
-/
import AudienceRouting.Proofs.SeverityOrder

namespace AudienceRouting

/-- The audiences whose routes have no entity, with these routes. -/
def undelivered (audiences : List Audience) (routes : List AudienceRoute) :
    List (Audience × AudienceRoute) :=
  (audiences.zip routes).filter (·.2.entities.isEmpty)

namespace RoutingTable

/-! ## The severity -/

inductive Warns (t : RoutingTable) : Option String → List Event → Prop
  | unknown {s : String} (h : s ∉ t.levels.names) : Warns t (some s) [.unknownSeverity s]
  | known {s : String} (h : s ∈ t.levels.names) : Warns t (some s) []
  | without : Warns t none []

variable {t : RoutingTable} {a : Audience} {registry : Registry} {options : MatchOptions}
  {severity : Option String}

theorem severityWarnings_of_not_mem {s : String} (h : s ∉ t.levels.names) :
    t.severityWarnings (some s) = [.unknownSeverity s] := by
  have hcontains : t.levels.contains s = false := by
    rw [← Bool.not_eq_true, SeverityLevels.contains_iff_mem]
    exact h
  have hfilter : (some s).filter (!t.levels.contains ·) = some s := by
    simp [hcontains]
  rw [severityWarnings, hfilter]

theorem warns_severityWarnings (t : RoutingTable) (severity : Option String) :
    t.Warns severity (t.severityWarnings severity) := by
  cases severity with
  | none => exact .without
  | some s =>
    by_cases h : s ∈ t.levels.names
    · rw [severityWarnings_of_mem h]
      exact .known h
    · rw [severityWarnings_of_not_mem h]
      exact .unknown h

theorem Warns.isWarning {warnings : List Event} (h : t.Warns severity warnings) :
    ∀ e ∈ warnings, e.isWarning = true := by
  cases h with
  | unknown => exact List.forall_mem_singleton.2 rfl
  | known | without => exact List.forall_mem_nil _

/-! ## The audiences -/

structure Accounts (t : RoutingTable) (severity : Option String) (a : Audience)
    (r : AudienceRoute) (e : Event) : Prop where
  audience : r.audience = a.name
  /-- no warning where the gate is not passed, which takes a severity -/
  shut : ¬ t.Admits severity a → r.belowMinimum = true ∧ e.isWarning = false ∧
    ∃ s, severity = some s ∧ e = .belowMinimum s a.name
  /-- a warning where the gate is passed and nothing matches -/
  passed : t.Admits severity a → r.belowMinimum = false ∧ e.isWarning = true ∧
    e = .reachesNone a.name

/-- A gate that is not passed. -/
theorem accounts_belowMinimum (h : ¬ t.Admits severity a) :
    t.Accounts severity a ⟨a.name, [], [], true⟩ (.belowMinimum (severity.getD "") a.name) where
  audience := rfl
  shut _ := by
    cases severity with
    | none => exact absurd nofun h
    | some s => exact ⟨rfl, rfl, s, rfl, rfl⟩
  passed hadmits := absurd hadmits h

/-- A gate that is passed by a notification for nobody. -/
theorem accounts_reachesNone (h : t.Admits severity a) :
    t.Accounts severity a ⟨a.name, a.services, [], false⟩ (.reachesNone a.name) where
  audience := rfl
  shut hshut := absurd h hshut
  passed _ := ⟨rfl, rfl, rfl⟩

/-- The step lemma: an audience reaches an entity and nothing is noted, or it reaches none and one
    event is noted that says why. -/
theorem routeTo_cases (t : RoutingTable) (registry : Registry) (severity : Option String)
    (options : MatchOptions) (a : Audience) :
    (t.routeTo registry severity options a).1.entities ≠ [] ∧
        (t.routeTo registry severity options a).2 = [] ∨
      (t.routeTo registry severity options a).1.entities = [] ∧
        ∃ e, (t.routeTo registry severity options a).2 = [e] ∧
          t.Accounts severity a (t.routeTo registry severity options a).1 e := by
  by_cases hadmits : t.Admits severity a
  · rw [routeTo_of_admits hadmits]
    cases hreached : registry.resolve a.tree options with
    | nil => exact Or.inr ⟨rfl, _, rfl, accounts_reachesNone hadmits⟩
    | cons id more => exact Or.inl ⟨by simp, rfl⟩
  · rw [routeTo_of_not_admits hadmits]
    exact Or.inr ⟨rfl, _, rfl, accounts_belowMinimum hadmits⟩

/-- The run lemma: the events of any audiences account, one by one, for those that reach none. -/
theorem forall₂_accounts (t : RoutingTable) (registry : Registry) (severity : Option String)
    (options : MatchOptions) (audiences : List Audience) :
    List.Forall₂ (fun x e => t.Accounts severity x.1 x.2 e)
      (undelivered audiences
        (audiences.map fun a => (t.routeTo registry severity options a).1))
      (audiences.flatMap fun a => (t.routeTo registry severity options a).2) := by
  induction audiences with
  | nil => exact .nil
  | cons a rest ih =>
    rw [undelivered, List.map_cons, List.zip_cons_cons, List.flatMap_cons]
    rcases t.routeTo_cases registry severity options a with ⟨hreaches, hevents⟩ |
      ⟨hnone, e, hevents, haccounts⟩
    · rw [List.filter_cons_of_neg (by simpa using hreaches), hevents, List.nil_append]
      exact ih
    · rw [List.filter_cons_of_pos (by simpa using hnone), hevents, List.singleton_append]
      exact .cons haccounts ih

end RoutingTable

/-- **The events account for every audience that reaches no entity.**  What is noted about a
    notification is a warning, if its severity is no level, and then exactly one event for each
    audience whose entities are none, in the order of the table and with its name: an info if the
    severity is below its minimum, and a warning if its gate is passed.  Nothing else is noted. -/
theorem events_account_for_undelivered (t : RoutingTable) (registry : Registry)
    (severity : Option String) (options : MatchOptions) :
    (t.route registry severity options).1.length = t.audiences.length ∧
    ∃ warnings notes, (t.route registry severity options).2 = warnings ++ notes ∧
      t.Warns severity warnings ∧ (∀ e ∈ warnings, e.isWarning = true) ∧
      List.Forall₂ (fun x e => t.Accounts severity x.1 x.2 e)
        (undelivered t.audiences (t.route registry severity options).1) notes := by
  have hroutes : (t.route registry severity options).1 =
      t.audiences.map fun a => (t.routeTo registry severity options a).1 := by
    rw [RoutingTable.route, List.map_map]
    rfl
  have hevents : (t.route registry severity options).2 = t.severityWarnings severity ++
      t.audiences.flatMap fun a => (t.routeTo registry severity options a).2 := by
    rw [RoutingTable.route, List.flatMap_map]
  have hwarns := t.warns_severityWarnings severity
  rw [hroutes, hevents]
  exact ⟨List.length_map _, _, _, rfl, hwarns, hwarns.isWarning,
    t.forall₂_accounts registry severity options t.audiences⟩

/-- With a severity that is no level, no gate is passed. -/
example : ((RoutingTable.mk
        [⟨"home", "", .always, [], none⟩, ⟨"ops", "a", .tag "a", [], some "high"⟩] default).route
      (.ofList [("phone", .ofList ["a"])]) (some "urgent") {}).2.map Event.logLine =
    ["WARN Unknown severity level 'urgent'; no audience will be reached",
      "INFO Severity 'urgent' below minimum for audience 'home'",
      "INFO Severity 'urgent' below minimum for audience 'ops'"] := by
  decide +kernel

end AudienceRouting
