/-
  Audience routing — which configurations compile, and what the others fail with.

  * `AudienceConfig.Breaks levels names config error`: the first rule that an audience
    breaks, in the order in which the rules are tried, `names` being those of the
    audiences before it.
  * `BreaksAt levels names configs i error`: the audience at a place breaks a rule,
    `names` being those that were taken before the list.
  * `SeverityLevels.Refuses names cause`: why names are no severity levels.
  * `AudiencesConfig.Valid`: no rule is broken.  `AudiencesConfig.Blames config error`:
    the first fault of the configuration.

  Audiences are compiled in order, and the first one that breaks a rule is what this
  fails with (`compileAll_error_iff`).  `compile_finds_first_fault` adds the severity
  levels, which come before the audiences, and the valid configurations.
-/
import AudienceRouting.Proofs.Failing
import AudienceRouting.Proofs.SeverityOrder

namespace AudienceRouting

/-! ## Severity levels -/

/-- What is found is repeated, and nothing before it is. -/
theorem firstRepeated_eq_some_iff {seen xs : List String} {x : String} :
    firstRepeated seen xs = some x ↔ ∃ before after, xs = before ++ x :: after ∧
      (x ∈ seen ∨ x ∈ before) ∧ before.Nodup ∧ ∀ y ∈ before, y ∉ seen := by
  induction xs generalizing seen with
  | nil => simp [firstRepeated]
  | cons first rest ih =>
    unfold firstRepeated
    by_cases hfirst : first ∈ seen
    · rw [if_pos hfirst]
      constructor
      · rintro ⟨⟩
        exact ⟨[], rest, rfl, Or.inl hfirst, .nil, by simp⟩
      · rintro ⟨before, after, heq, -, -, hfresh⟩
        cases before with
        | nil => rw [(List.cons.inj heq).1]
        | cons y before =>
          obtain rfl := (List.cons.inj heq).1
          exact absurd hfirst (hfresh first List.mem_cons_self)
    · rw [if_neg hfirst, ih]
      constructor
      · rintro ⟨before, after, rfl, hx, hnodup, hfresh⟩
        refine ⟨first :: before, after, rfl, ?_, List.nodup_cons.2 ⟨?_, hnodup⟩, ?_⟩
        · rw [List.mem_cons] at hx ⊢
          exact or_left_comm.1 (or_assoc.1 hx)
        · exact fun hmem => hfresh first hmem List.mem_cons_self
        · exact List.forall_mem_cons.2 ⟨hfirst, fun y hy hin => hfresh y hy (.tail _ hin)⟩
      · rintro ⟨before, after, heq, hx, hnodup, hfresh⟩
        cases before with
        | nil =>
          obtain rfl := (List.cons.inj heq).1
          exact absurd (hx.resolve_right List.not_mem_nil) hfirst
        | cons y before =>
          obtain ⟨rfl, rfl⟩ := List.cons.inj heq
          obtain ⟨hnew, hnodup⟩ := List.nodup_cons.1 hnodup
          rw [List.mem_cons] at hx
          refine ⟨before, after, rfl, ?_, hnodup, fun z hz hin => ?_⟩
          · rw [List.mem_cons]
            exact or_assoc.2 (or_left_comm.1 hx)
          · rcases List.mem_cons.1 hin with rfl | hin
            · exact hnew hz
            · exact hfresh z (.tail _ hz) hin

namespace SeverityLevels

variable {names : List String} {cause : SeverityError}

inductive Refuses : (names : List String) → SeverityError → Prop
  | empty : Refuses [] .empty
  | duplicate {before after : List String} {name : String} (hnodup : before.Nodup)
      (h : name ∈ before) : Refuses (before ++ name :: after) (.duplicate name)

theorem ofNames_error_iff : ofNames names = .error cause ↔ Refuses names cause := by
  unfold ofNames
  constructor
  · intro h
    split at h
    · rename_i hempty
      cases h
      subst hempty
      exact .empty
    · split at h
      · rename_i name hrepeated
        cases h
        obtain ⟨before, after, rfl, hname, hnodup, -⟩ := firstRepeated_eq_some_iff.1 hrepeated
        exact .duplicate hnodup (hname.resolve_left List.not_mem_nil)
      · cases h
  · rintro (_ | @⟨before, after, name, hnodup, hname⟩)
    · rfl
    · have hrepeated : firstRepeated [] (before ++ name :: after) = some name :=
        firstRepeated_eq_some_iff.2 ⟨before, after, rfl, Or.inr hname, hnodup, by simp⟩
      rw [dif_neg (by simp)]
      split
      · rename_i name' hrepeated'
        rw [Option.some.inj (hrepeated.symm.trans hrepeated')]
      · rename_i hnone
        rw [hrepeated] at hnone
        cases hnone

theorem exists_ofNames_iff : (∃ levels, ofNames names = .ok levels) ↔ names ≠ [] ∧ names.Nodup := by
  constructor
  · rintro ⟨levels, h⟩
    rw [← names_of_ofNames h]
    exact ⟨levels.nonempty, levels.nodup⟩
  · rintro ⟨hne, hnodup⟩
    cases h : ofNames names with
    | ok levels => exact ⟨levels, rfl⟩
    | error cause =>
      cases ofNames_error_iff.1 h with
      | empty => exact absurd rfl hne
      | duplicate _ hname =>
        exact absurd rfl ((List.nodup_append.1 hnodup).2.2 _ hname _ List.mem_cons_self)

end SeverityLevels

/-! ## Audiences -/

inductive AudienceConfig.Breaks (levels names : List String) (config : AudienceConfig) :
    CompileError → Prop
  | duplicateName (hname : config.name ∈ names) :
      Breaks levels names config (.duplicateName config.name)
  | unknownMinSeverity (hname : config.name ∉ names) {minimum : String}
      (hminimum : config.minSeverity = some minimum) (h : minimum ∉ levels) :
      Breaks levels names config (.unknownMinSeverity config.name minimum)
  | expression (hname : config.name ∉ names)
      (hminimum : ∀ minimum ∈ config.minSeverity, minimum ∈ levels) {cause : SyntaxError}
      (h : Expr.read config.expression = .error cause) :
      Breaks levels names config (.expression config.name cause)

/-- Only whether its own name is taken matters to an audience. -/
theorem AudienceConfig.Breaks.congr {levels names names' : List String} {config : AudienceConfig}
    {error : CompileError} (hnames : config.name ∈ names ↔ config.name ∈ names')
    (h : config.Breaks levels names error) : config.Breaks levels names' error := by
  cases h with
  | duplicateName hname => exact .duplicateName (hnames.1 hname)
  | unknownMinSeverity hname hminimum h =>
    exact .unknownMinSeverity (mt hnames.2 hname) hminimum h
  | expression hname hminimum h => exact .expression (mt hnames.2 hname) hminimum h

def BreaksAt (levels names : List String) (configs : List AudienceConfig) (i : Nat)
    (error : CompileError) : Prop :=
  ∃ config, configs[i]? = some config ∧
    config.Breaks levels (names ++ (configs.take i).map (·.name)) error

section Places

variable {levels names : List String} {config : AudienceConfig} {rest : List AudienceConfig}
  {i : Nat} {error : CompileError}

theorem not_breaksAt_nil : ¬ BreaksAt levels names [] i error := by
  rintro ⟨config, h, -⟩
  cases h

theorem breaksAt_zero_iff :
    BreaksAt levels names (config :: rest) 0 error ↔ config.Breaks levels names error := by
  simp [BreaksAt]

/-- Behind an audience its name is taken. -/
theorem breaksAt_succ_iff : BreaksAt levels names (config :: rest) (i + 1) error ↔
    BreaksAt levels (config.name :: names) rest i error := by
  unfold BreaksAt
  rw [List.getElem?_cons_succ, List.take_succ_cons, List.map_cons]
  refine exists_congr fun c => and_congr_right fun _ => ?_
  have hnames : c.name ∈ names ++ config.name :: (rest.take i).map (·.name) ↔
      c.name ∈ config.name :: names ++ (rest.take i).map (·.name) := by
    simp only [List.mem_append, List.mem_cons, List.cons_append]
    exact or_left_comm
  exact ⟨.congr hnames, .congr hnames.symm⟩

end Places

theorem Audience.compile_error_iff {config : AudienceConfig} {error : CompileError} :
    Audience.compile config = .error error ↔
      ∃ cause, Expr.read config.expression = .error cause ∧
        error = .expression config.name cause := by
  unfold Audience.compile
  cases Expr.read config.expression with
  | error cause => simp [eq_comm]
  | ok tree => simp

namespace RoutingTable

variable {levels : SeverityLevels} {names : List String} {error : CompileError}

theorem compileAudience_error_iff {config : AudienceConfig} :
    compileAudience levels names config = .error error ↔
      config.Breaks levels.names names error := by
  unfold compileAudience
  constructor
  · intro h
    split at h
    · rename_i hname
      cases h
      exact .duplicateName hname
    rename_i hname
    split at h
    · rename_i minimum hunknown
      cases h
      obtain ⟨hminimum, hunknown⟩ := Option.filter_eq_some_iff.1 hunknown
      refine .unknownMinSeverity hname hminimum fun hmem => ?_
      simp [SeverityLevels.contains_iff_mem.2 hmem] at hunknown
    · rename_i hknown
      obtain ⟨cause, hread, rfl⟩ := Audience.compile_error_iff.1 h
      refine .expression hname (fun minimum hminimum => ?_) hread
      have hcontains := Option.filter_eq_none_iff.1 hknown minimum hminimum
      exact SeverityLevels.contains_iff_mem.1 (by simpa using hcontains)
  · intro h
    cases h with
    | duplicateName hname => rw [if_pos hname]
    | @unknownMinSeverity hname minimum hminimum h =>
      have hunknown : config.minSeverity.filter (!levels.contains ·) = some minimum := by
        rw [hminimum, Option.filter_eq_some_iff]
        exact ⟨rfl, by simpa [← SeverityLevels.contains_iff_mem] using h⟩
      rw [if_neg hname, hunknown]
    | expression hname hminimum h =>
      have hknown : config.minSeverity.filter (!levels.contains ·) = none :=
        Option.filter_eq_none_iff.2 fun minimum hmem => by
          simp [SeverityLevels.contains_iff_mem.2 (hminimum minimum hmem)]
      rw [if_neg hname, hknown]
      exact Audience.compile_error_iff.2 ⟨_, h, rfl⟩

/-- Audiences fail to compile with the first rule that the first offender breaks. -/
theorem compileAll_error_iff {configs : List AudienceConfig} :
    compileAll levels names configs = .error error ↔
      ∃ i, BreaksAt levels.names names configs i error ∧
        ∀ j < i, ∀ error', ¬ BreaksAt levels.names names configs j error' := by
  -- the names of the audiences that are compiled are carried along
  induction configs generalizing names with
  | nil => simp [compileAll, not_breaksAt_nil]
  | cons config rest ih =>
    rw [compileAll, bind_eq_error_iff, compileAudience_error_iff]
    constructor
    · rintro (hfirst | ⟨audience, hfirst, hrest⟩)
      · exact ⟨0, breaksAt_zero_iff.2 hfirst, fun j hj => absurd hj (Nat.not_lt_zero j)⟩
      · have hrest := (bind_eq_error_iff.1 hrest).resolve_right (by rintro ⟨_, _, ⟨⟩⟩)
        obtain ⟨i, hi, hbefore⟩ := ih.1 hrest
        refine ⟨i + 1, breaksAt_succ_iff.2 hi, fun j hj error' hbreaks => ?_⟩
        cases j with
        | zero =>
          have herror := compileAudience_error_iff.2 (breaksAt_zero_iff.1 hbreaks)
          cases hfirst.symm.trans herror
        | succ j =>
          exact hbefore j (Nat.lt_of_succ_lt_succ hj) error' (breaksAt_succ_iff.1 hbreaks)
    · rintro ⟨i, hi, hbefore⟩
      cases i with
      | zero => exact Or.inl (breaksAt_zero_iff.1 hi)
      | succ i =>
        refine Or.inr ?_
        cases hfirst : compileAudience levels names config with
        | error error' =>
          have hbreaks : BreaksAt levels.names names (config :: rest) 0 error' :=
            breaksAt_zero_iff.2 (compileAudience_error_iff.1 hfirst)
          exact absurd hbreaks (hbefore 0 (Nat.succ_pos i) error')
        | ok audience =>
          have hi := breaksAt_succ_iff.1 hi
          refine ⟨audience, rfl, bind_eq_error_iff.2 (Or.inl (ih.2 ⟨i, hi, ?_⟩))⟩
          intro j hj error' hbreaks
          exact hbefore (j + 1) (Nat.succ_lt_succ hj) error' (breaksAt_succ_iff.2 hbreaks)

end RoutingTable

/-! ## Configurations -/

namespace AudiencesConfig

structure Valid (config : AudiencesConfig) : Prop where
  levels_ne_nil : config.severityLevels ≠ []
  levels_nodup : config.severityLevels.Nodup
  names_nodup : (config.audiences.map (·.name)).Nodup
  minimum : ∀ a ∈ config.audiences, ∀ s ∈ a.minSeverity, s ∈ config.severityLevels
  expression : ∀ a ∈ config.audiences, ∃ tree, Expr.read a.expression = .ok tree

/-- What is to blame: the severity levels, or else the first audience that breaks a rule. -/
inductive Blames (config : AudiencesConfig) : CompileError → Prop
  | levels {cause : SeverityError} (h : SeverityLevels.Refuses config.severityLevels cause) :
      Blames config (.severity cause)
  | audience (hne : config.severityLevels ≠ []) (hnodup : config.severityLevels.Nodup) {i : Nat}
      {error : CompileError} (h : BreaksAt config.severityLevels [] config.audiences i error)
      (hfirst : ∀ j < i, ∀ error', ¬ BreaksAt config.severityLevels [] config.audiences j error') :
      Blames config error

variable {config : AudiencesConfig} {error : CompileError}

/-- Nobody is to blame for a valid configuration. -/
theorem Valid.not_blames (hvalid : config.Valid) : ¬ config.Blames error := by
  intro h
  cases h with
  | levels h =>
    obtain ⟨levels, hlevels⟩ :=
      SeverityLevels.exists_ofNames_iff.2 ⟨hvalid.levels_ne_nil, hvalid.levels_nodup⟩
    cases hlevels.symm.trans (SeverityLevels.ofNames_error_iff.2 h)
  | @audience _ _ i _ h _ =>
    obtain ⟨a, ha, hbreaks⟩ := h
    have hmem := List.mem_of_getElem? ha
    cases hbreaks with
    | duplicateName hname =>
      -- the name stands in front of the audience and at its place
      have hnodup := hvalid.names_nodup
      rw [← List.take_append_drop i config.audiences, List.map_append] at hnodup
      obtain ⟨hi, rfl⟩ := List.getElem?_eq_some_iff.1 ha
      refine (List.nodup_append.1 hnodup).2.2 _ hname _ ?_ rfl
      rw [List.drop_eq_getElem_cons hi]
      exact List.mem_cons_self
    | unknownMinSeverity _ hminimum h => exact h (hvalid.minimum a hmem _ hminimum)
    | expression _ _ h =>
      obtain ⟨tree, htree⟩ := hvalid.expression a hmem
      cases htree.symm.trans h

end AudiencesConfig

namespace RoutingTable

variable {config : AudiencesConfig} {error : CompileError}

theorem compile_error_iff : compile config = .error error ↔ config.Blames error := by
  unfold compile
  rw [bind_eq_error_iff, mapError_eq_error_iff]
  constructor
  · rintro (⟨cause, hlevels, rfl⟩ | ⟨levels, hlevels, h⟩)
    · exact .levels (SeverityLevels.ofNames_error_iff.1 hlevels)
    · have hlevels := mapError_eq_ok_iff.1 hlevels
      have h := (bind_eq_error_iff.1 h).resolve_right (by rintro ⟨_, _, ⟨⟩⟩)
      obtain ⟨i, hi, hfirst⟩ := compileAll_error_iff.1 h
      obtain ⟨hne, hnodup⟩ := SeverityLevels.exists_ofNames_iff.1 ⟨levels, hlevels⟩
      rw [SeverityLevels.names_of_ofNames hlevels] at hi hfirst
      exact .audience hne hnodup hi hfirst
  · intro h
    cases h with
    | levels h => exact Or.inl ⟨_, SeverityLevels.ofNames_error_iff.2 h, rfl⟩
    | audience hne hnodup h hfirst =>
      obtain ⟨levels, hlevels⟩ := SeverityLevels.exists_ofNames_iff.2 ⟨hne, hnodup⟩
      rw [← SeverityLevels.names_of_ofNames hlevels] at h hfirst
      exact Or.inr ⟨levels, mapError_eq_ok_iff.2 hlevels,
        bind_eq_error_iff.2 (Or.inl (compileAll_error_iff.2 ⟨_, h, hfirst⟩))⟩

/-- Nothing else than a valid configuration compiles. -/
theorem exists_compile_iff : (∃ t notes, compile config = .ok (t, notes)) ↔ config.Valid := by
  constructor
  · rintro ⟨t, notes, h⟩
    obtain ⟨hlevels, hall, hnodup, -⟩ := compile_ok_iff.1 h
    have hvalid := SeverityLevels.exists_ofNames_iff.1 ⟨_, hlevels⟩
    refine ⟨hvalid.1, hvalid.2, hnodup, fun a ha s hs => ?_, fun a ha => ?_⟩
    · obtain ⟨audience, haudience⟩ := exists_rel_of_mem hall ha
      rw [← SeverityLevels.names_of_ofNames hlevels]
      exact SeverityLevels.contains_iff_mem.1 (haudience.minimum s hs)
    · obtain ⟨audience, haudience⟩ := exists_rel_of_mem hall ha
      exact ⟨audience.tree, haudience.tree⟩
  · intro hvalid
    cases h : compile config with
    | ok compiled => exact ⟨compiled.1, compiled.2, rfl⟩
    | error error => exact absurd (compile_error_iff.1 h) hvalid.not_blames

end RoutingTable

/-- **The first fault of a configuration is found.**  The valid configurations are those that
    compile: to one audience for each configured one, in their order, with its expression read, and
    this is noted.  Any other fails with the first fault, and a run that meets it notes nothing. -/
theorem compile_finds_first_fault (config : AudiencesConfig) :
    ((∃ t notes, RoutingTable.compile config = .ok (t, notes)) ↔ config.Valid) ∧
    (∀ t notes, RoutingTable.compile config = .ok (t, notes) →
      t.levels.names = config.severityLevels ∧
      List.Forall₂ (AudienceConfig.CompilesTo t.levels) config.audiences t.audiences ∧
      notes = [.compiled t.audiences.length]) ∧
    (∀ error, RoutingTable.compile config = .error error ↔ config.Blames error) ∧
    ∀ error, RoutingTable.compile config = .error error → ∀ files path,
      AudiencesConfig.load files path = .ok config → ∀ engine entities severity flags pretty before,
        ((Command.route path entities severity flags pretty).run files engine).run.run before =
          (.error (.compile error), before) := by
  refine ⟨RoutingTable.exists_compile_iff, ?_, fun _ => RoutingTable.compile_error_iff, ?_⟩
  · intro t notes h
    obtain ⟨hlevels, hall, -, hnotes⟩ := RoutingTable.compile_ok_iff.1 h
    exact ⟨SeverityLevels.names_of_ofNames hlevels, hall, hnotes⟩
  · intro error h files path hload engine entities severity flags pretty before
    exact Command.fails_route_of_compile hload h entities severity flags pretty

/-- The second audience breaks two rules, the third one another. -/
def faultyAudiences : AudiencesConfig where
  audiences := [{ name := "all" }, { name := "ops", expression := "+", minSeverity := some "top" },
    { name := "all" }]

def faultyFiles : Files := .ofList [("a.json", "\x7b\"audiences\":[\x7b\"name\":\"all\"\x7d," ++
  "\x7b\"name\":\"ops\",\"expression\":\"+\",\"min_severity\":\"top\"\x7d," ++
  "\x7b\"name\":\"all\"\x7d]\x7d")]

/-- The minimum severity of the second audience is the first fault. -/
theorem compile_finds_first_fault_minimum :
    (∃ t notes, RoutingTable.compile { audiences := [{ name := "all" }] } = .ok (t, notes) ∧
      t.levels.names = SeverityLevels.defaultNames ∧ t.audiences.map (·.name) = ["all"]) ∧
    RoutingTable.compile faultyAudiences = .error (.unknownMinSeverity "ops" "top") ∧
    AudiencesConfig.load faultyFiles "a.json" = .ok faultyAudiences ∧
    ((Command.route "a.json" "e.json" none {} false).run faultyFiles {}).run.run {} =
      (.error (.compile (.unknownMinSeverity "ops" "top")), {}) := by
  have hreads : Expr.read "" = .ok .always := by decide +kernel
  have hload : AudiencesConfig.load faultyFiles "a.json" = .ok faultyAudiences := by
    decide +kernel
  have hblames : faultyAudiences.Blames (.unknownMinSeverity "ops" "top") := by
    refine .audience (i := 1) (by decide) (by decide)
      ⟨_, rfl, .unknownMinSeverity (by decide) rfl (by decide)⟩ ?_
    intro j hj error hbreaks
    obtain rfl : j = 0 := by omega
    cases breaksAt_zero_iff.1 hbreaks with
    | duplicateName hname => cases hname
    | unknownMinSeverity _ hminimum => cases hminimum
    | expression _ _ h => cases hreads.symm.trans h
  have herror := ((compile_finds_first_fault faultyAudiences).2.2.1 _).2 hblames
  refine ⟨?_, herror, hload,
    (compile_finds_first_fault faultyAudiences).2.2.2 _ herror _ _ hload _ _ _ _ _ _⟩
  have hvalid : AudiencesConfig.Valid { audiences := [{ name := "all" }] } :=
    ⟨by decide, by decide, by decide, by simp, by simpa using ⟨.always, hreads⟩⟩
  obtain ⟨t, notes, h⟩ := (compile_finds_first_fault _).1.2 hvalid
  obtain ⟨hlevels, hall, -⟩ := (compile_finds_first_fault _).2.1 t notes h
  exact ⟨t, notes, h, hlevels, RoutingTable.map_name_eq hall⟩

end AudienceRouting
