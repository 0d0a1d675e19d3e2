/-
  Audience routing — where the configuration of an engine comes from.

  * `EngineSetting`: a setting of an engine, with its table and its name in it.
  * `EngineSetting.value? s entries env`: its value in the environment, else in a file with these
    entries.
  * `Setting.Decides read default given a`: `a` is the value that is given, as `read` converts it,
    or the default if none is given.
  * `EngineConfig.Layered entries env config`: each setting of the configuration is decided by its
    own value, whatever else there is.
  * `CommandLine.MatchesUnder files env path flags options`: all commands with these flags match
    under the options.

  A layer leaves each setting at what is said last about it (`Setting.Shows.layer`).  Lists and
  tables convert to no setting, so a configuration that loads has what is given.
-/
import AudienceRouting.Proofs.Commands
import AudienceRouting.Proofs.Layering
import AudienceRouting.Proofs.Outcome

namespace AudienceRouting

/-! ## The settings of an engine -/

inductive EngineSetting where
  | caseSensitive
  | categoryMode
  | wildcards
  | capacity
  deriving DecidableEq, Repr, Inhabited

namespace EngineSetting

def all : List EngineSetting := [caseSensitive, categoryMode, wildcards, capacity]

def table : EngineSetting → String
  | capacity => "cache"
  | _ => "matching"

/-- The name in the table. -/
def name : EngineSetting → String
  | caseSensitive => "case_sensitive"
  | categoryMode => "category_mode"
  | wildcards => "wildcards"
  | capacity => "capacity"

def path (s : EngineSetting) : String := s.table ++ "." ++ s.name

/-- The name of its variable in lowercase. -/
def variableName (s : EngineSetting) : String := "tagroute_" ++ s.table ++ "__" ++ s.name

/-- The value in a file with these entries. -/
def inFile? (s : EngineSetting) (entries : List (String × Setting)) : Option Setting :=
  Setting.givenBy? s.table s.name entries

/-- The value of the variable with the path of the setting; of several the last one counts. -/
def inEnvironment? (s : EngineSetting) (env : Environment) : Option Setting :=
  env.reverse.findSome? fun v =>
    if Environment.path? v.1 = some s.path then
      some (.scalar (some .environment) (Environment.readValue v.2))
    else none

def value? (s : EngineSetting) (entries : List (String × Setting)) (env : Environment) :
    Option Setting :=
  (s.inEnvironment? env).or (s.inFile? entries)

theorem inEnvironment?_cons (s : EngineSetting) (v : String × String) (env : Environment) :
    s.inEnvironment? (v :: env) = (s.inEnvironment? env).or
      (if Environment.path? v.1 = some s.path then
        some (.scalar (some .environment) (Environment.readValue v.2))
      else none) := by
  rw [inEnvironment?, List.reverse_cons, List.findSome?_append, List.findSome?_singleton]
  rfl

theorem mem_all (s : EngineSetting) : s ∈ all := by
  cases s <;> decide

theorem pathOf_path (s : EngineSetting) : Setting.pathOf s.path = [.key s.table, .key s.name] := by
  cases s <;> decide

theorem eq_of_table_name {s s' : EngineSetting} (htable : s.table = s'.table)
    (hname : s.name = s'.name) : s = s' := by
  revert htable hname
  cases s <;> cases s' <;> decide

theorem eq_of_path {s s' : EngineSetting} (h : s.path = s'.path) : s = s' := by
  revert h
  cases s <;> cases s' <;> decide

/-- A variable may be written in any case. -/
theorem path?_of_lowercase {s : EngineSetting} {name : String}
    (h : Text.lowercase name = s.variableName) : Environment.path? name = some s.path := by
  unfold Environment.path?
  rw [h]
  cases s <;> decide

end EngineSetting

/-! ## What the environment says -/

namespace Environment

variable {env : Environment}

/-- A variable that gives a setting at all gives one of an engine, or one outside of its tables. -/
def Apart (env : Environment) : Prop :=
  ∀ v ∈ env, ∀ path ∈ path? v.1,
    (∃ s ∈ EngineSetting.all, path = s.path) ∨
    ∀ s ∈ EngineSetting.all, (Setting.pathOf path).head? ≠ some (.key s.table)

instance (env : Environment) : Decidable env.Apart := by
  unfold Apart
  infer_instance

theorem Apart.keeps (h : env.Apart) (s : EngineSetting) :
    ∀ entry ∈ env.settings, Setting.Keeps s.table entry := by
  intro entry hentry
  obtain ⟨v, hv, hsome⟩ := List.mem_filterMap.1 hentry
  obtain ⟨path, hpath, rfl⟩ := Option.map_eq_some_iff.1 hsome
  rcases h v hv path hpath with ⟨s', -, rfl⟩ | hother
  · simp only [Setting.Keeps, s'.pathOf_path]
  · have hhead := hother s s.mem_all
    unfold Setting.Keeps
    split <;> simp_all

/-- A variable says something about a setting only by its path. -/
theorem Apart.said?_eq (h : env.Apart) {v : String × String} (hv : v ∈ env) {path : String}
    (hpath : path? v.1 = some path) (s : EngineSetting) (value : Setting) :
    Setting.said? s.table s.name (path, value) = if path = s.path then some value else none := by
  rcases h v hv path hpath with ⟨s', -, rfl⟩ | hother
  · simp only [Setting.said?, s'.pathOf_path]
    by_cases hs : s' = s
    · simp [hs]
    · rw [if_neg fun heq => hs (EngineSetting.eq_of_path heq),
        if_neg fun heq => hs (EngineSetting.eq_of_table_name heq.1 heq.2)]
  · have hhead := hother s s.mem_all
    have hne : path ≠ s.path := by
      rintro rfl
      exact hhead (by rw [s.pathOf_path, List.head?_cons])
    rw [if_neg hne]
    unfold Setting.said?
    split <;> simp_all

theorem Apart.givenBy?_settings (h : env.Apart) (s : EngineSetting) :
    Setting.givenBy? s.table s.name env.settings = s.inEnvironment? env := by
  induction env with
  | nil => rfl
  | cons v env ih =>
    have hrest : Apart env := fun w hw => h w (List.mem_cons_of_mem v hw)
    rw [EngineSetting.inEnvironment?_cons, ← ih hrest]
    cases hpath : path? v.1 with
    | none => simp [settings, hpath]
    | some path =>
      have hsettings : settings (v :: env) =
          (path, .scalar (some .environment) (readValue v.2)) :: settings env := by
        simp [settings, hpath]
      rw [hsettings, Setting.givenBy?_cons, h.said?_eq List.mem_cons_self hpath]
      simp only [Option.some.injEq]

end Environment

/-! ## What is read of the settings -/

namespace Setting

variable {α : Type}

def Decides (read : Setting → Except SettingError α) (default : α) (given : Option Setting)
    (a : α) : Prop :=
  match given with
  | some s => read s = .ok a
  | none => a = default

/-- Reading fails on lists and tables. -/
def ReadsScalars (read : Setting → Except SettingError α) : Prop :=
  ∀ s a, read s = .ok a → s.isContainer = false

theorem readsScalars_toBool : ReadsScalars toBool
  | .scalar .., _, _ => rfl

theorem readsScalars_toWord : ReadsScalars toWord
  | .scalar .., _, _ => rfl

variable {read : Setting → Except SettingError α} {default a : α}

/-- Lists and tables do not read, so what is read is what is given. -/
theorem Decides.of_agrees {given found : Option Setting} (hread : ReadsScalars read)
    (h : Decides read default found a) (hagrees : Agrees given found) :
    Decides read default given a := by
  rcases hagrees with rfl | ⟨s, rfl, hcontainer⟩
  · exact h
  · rw [hread s a h] at hcontainer
    exact nomatch hcontainer

/-- What a field of a table gives. -/
theorem decides_of_field {members : List (String × Setting)} {name : String} {position : Nat}
    (h : dialect.field (.byName members) name position read default = .ok a) :
    Decides read default (find? name members) a := by
  simp only [Dialect.field, Dialect.field?] at h
  unfold find?
  cases hfind : members.find? (·.1 = name) with
  | none =>
    rw [hfind] at h
    exact (Except.ok.inj h).symm
  | some m =>
    rw [hfind] at h
    exact mapError_eq_ok_iff.1 h

end Setting

open Setting

/-- What a configuration has is decided by a value for each setting. -/
structure EngineConfig.DecidedBy (value? : EngineSetting → Option Setting) (config : EngineConfig) :
    Prop where
  caseSensitive : Decides toBool true (value? .caseSensitive) config.matching.caseSensitive
  categoryMode : Decides toBool false (value? .categoryMode) config.matching.categoryMode
  wildcards : Decides toBool false (value? .wildcards) config.matching.wildcards
  capacity : Decides toWord ExpressionCache.defaultCapacity (value? .capacity) config.cache.capacity

theorem EngineConfig.DecidedBy.of_agrees {given found : EngineSetting → Option Setting}
    {config : EngineConfig} (h : config.DecidedBy found)
    (hagrees : ∀ s, Agrees (given s) (found s)) : config.DecidedBy given where
  caseSensitive := h.caseSensitive.of_agrees readsScalars_toBool (hagrees _)
  categoryMode := h.categoryMode.of_agrees readsScalars_toBool (hagrees _)
  wildcards := h.wildcards.of_agrees readsScalars_toBool (hagrees _)
  capacity := h.capacity.of_agrees readsScalars_toWord (hagrees _)

/-- The options are read of a table, if there is one. -/
theorem MatchOptions.decides_of_decode {found : Option Setting}
    (hfound : ∀ t, found = some t → t.isTable) {options : MatchOptions}
    (h : Decides (MatchOptions.decode dialect) {} found options) :
    Decides toBool true (found.bind fun t => find? "case_sensitive" t.members)
      options.caseSensitive ∧
    Decides toBool false (found.bind fun t => find? "category_mode" t.members)
      options.categoryMode ∧
    Decides toBool false (found.bind fun t => find? "wildcards" t.members) options.wildcards := by
  match found with
  | none =>
    cases h
    exact ⟨rfl, rfl, rfl⟩
  | some (.scalar ..) | some (.list ..) => exact nomatch hfound _ rfl
  | some (.table origin members) =>
    obtain ⟨r, hr, h⟩ := bind_eq_ok_iff.1 h
    cases hr
    obtain ⟨-, -, h⟩ := bind_eq_ok_iff.1 h
    obtain ⟨caseSensitive, hcase, h⟩ := bind_eq_ok_iff.1 h
    obtain ⟨categoryMode, hcategory, h⟩ := bind_eq_ok_iff.1 h
    obtain ⟨wildcards, hwildcards, h⟩ := bind_eq_ok_iff.1 h
    cases h
    exact ⟨decides_of_field hcase, decides_of_field hcategory, decides_of_field hwildcards⟩

theorem CacheConfig.decides_of_decode {found : Option Setting}
    (hfound : ∀ t, found = some t → t.isTable) {cache : CacheConfig}
    (h : Decides (CacheConfig.decode dialect) {} found cache) :
    Decides toWord ExpressionCache.defaultCapacity
      (found.bind fun t => find? "capacity" t.members) cache.capacity := by
  match found with
  | none =>
    cases h
    rfl
  | some (.scalar ..) | some (.list ..) => exact nomatch hfound _ rfl
  | some (.table origin members) =>
    obtain ⟨r, hr, h⟩ := bind_eq_ok_iff.1 h
    cases hr
    obtain ⟨-, -, h⟩ := bind_eq_ok_iff.1 h
    obtain ⟨capacity, hcapacity, h⟩ := bind_eq_ok_iff.1 h
    cases h
    exact decides_of_field hcapacity

/-- A configuration that is read of tables has what is found in them. -/
theorem EngineConfig.decidedBy_of_decode {s : Setting} (hs : s.isTable)
    (htables : ∀ setting : EngineSetting, ∀ t, find? setting.table s.members = some t → t.isTable)
    {config : EngineConfig} (h : EngineConfig.decode dialect s = .ok config) :
    config.DecidedBy fun setting => s.member? setting.table setting.name := by
  match s with
  | .table origin members =>
    obtain ⟨r, hr, h⟩ := bind_eq_ok_iff.1 h
    cases hr
    obtain ⟨-, -, h⟩ := bind_eq_ok_iff.1 h
    obtain ⟨matching, hmatching, h⟩ := bind_eq_ok_iff.1 h
    obtain ⟨cache, hcache, h⟩ := bind_eq_ok_iff.1 h
    cases h
    obtain ⟨hcase, hcategory, hwildcards⟩ :=
      MatchOptions.decides_of_decode (htables .wildcards) (decides_of_field hmatching)
    exact ⟨hcase, hcategory, hwildcards,
      CacheConfig.decides_of_decode (htables .capacity) (decides_of_field hcache)⟩

/-! ## Loading -/

/-- The entries of the file at a path; none without a path. -/
def EngineConfig.fileEntries? (files : Files) : Option String → Option (List (String × Setting))
  | none => some []
  | some path => files.settings? path

/-- What is read is the environment on top of the file on top of nothing. -/
theorem EngineConfig.entries_of_load {files : Files} {env : Environment} {path : Option String}
    {config : EngineConfig} (h : load files env path = .ok config) :
    ∃ entries, fileEntries? files path = some entries ∧
      EngineConfig.decode dialect ((empty.layer entries).layer env.settings) = .ok config := by
  unfold load at h
  match path with
  | none => exact ⟨[], rfl, mapError_eq_ok_iff.1 h⟩
  | some path =>
    cases hentries : files.settings? path with
    | none => simp [hentries, bind, Except.bind] at h
    | some entries =>
      simp only [hentries] at h
      exact ⟨entries, hentries, mapError_eq_ok_iff.1 h⟩

/-- A configuration has the settings of the environment, else those of the file. -/
theorem EngineConfig.decidedBy_layers {entries : List (String × Setting)} {env : Environment}
    {config : EngineConfig}
    (hentries : ∀ entry ∈ entries, ∀ s ∈ EngineSetting.all, Keeps s.table entry) (henv : env.Apart)
    (h : EngineConfig.decode dialect ((empty.layer entries).layer env.settings) = .ok config) :
    config.DecidedBy fun s => s.value? entries env := by
  have hshows (s : EngineSetting) : Shows s.table s.name
      ((empty.layer entries).layer env.settings) (s.value? entries env) := by
    have hempty : Shows s.table s.name empty none := shows_empty
    have hfile := hempty.layer fun entry hentry => hentries entry hentry s s.mem_all
    have hboth := hfile.layer (henv.keeps s)
    rwa [henv.givenBy?_settings, Option.or_none] at hboth
  have hfound := EngineConfig.decidedBy_of_decode (hshows .capacity).isTable
    (fun s => (hshows s).inner) h
  exact hfound.of_agrees fun s => (hshows s).agrees

/-! ## Commands with flags -/

/-- What the commands print with these flags is what the matching options say. -/
structure CommandLine.MatchesUnder (files : Files) (env : Environment) (path : Option String)
    (flags : MatchFlags) (options : MatchOptions) : Prop where
  eval : ∀ expression e, Expr.read expression = .ok e → ∀ tags verbose,
    Prints files env ⟨.eval expression tags flags, path, verbose⟩
      (if e.holds (.ofList tags) options then 0 else 1)
      (toString (e.holds (.ofList tags) options) ++ "\n")
  explain : ∀ expression e, Expr.read expression = .ok e → ∀ tags pretty verbose,
    Prints files env ⟨.explain expression tags flags pretty, path, verbose⟩ 0
      ((e.explain (.ofList tags) options).toJson.print (Run.layout pretty) ++ "\n")
  resolve : ∀ expression e, Expr.read expression = .ok e → ∀ entities registry loaded,
    Registry.load files entities = .ok (registry, loaded) → ∀ verbose,
    Prints files env ⟨.resolve expression entities flags, path, verbose⟩ 0
      (Run.lines (registry.resolve e options))
  route : ∀ audiences routing, AudiencesConfig.load files audiences = .ok routing →
    ∀ table compiled, RoutingTable.compile routing = .ok (table, compiled) →
    ∀ entities registry loaded, Registry.load files entities = .ok (registry, loaded) →
    ∀ severity pretty verbose,
    Prints files env ⟨.route audiences entities severity flags pretty, path, verbose⟩ 0
      ((Json.array ((table.route registry severity options).1.map AudienceRoute.toJson)).print
        (Run.layout pretty) ++ "\n")

theorem CommandLine.matchesUnder_flags {files : Files} {env : Environment} {path : Option String}
    {config : EngineConfig} (hload : EngineConfig.load files env path = .ok config)
    (flags : MatchFlags) : MatchesUnder files env path flags (flags.onto config.matching) where
  eval _ _ he tags := prints_of_gives hload (Command.gives_eval he flags tags)
  explain _ _ he tags pretty := prints_of_gives hload (Command.gives_explain he flags tags pretty)
  resolve _ _ he _ _ _ hregistry := by
    obtain ⟨events, hgives⟩ := Command.gives_resolve he flags hregistry
    exact prints_of_gives hload hgives
  route _ _ hrouting _ _ htable _ _ _ hregistry severity pretty := by
    obtain ⟨events, hgives⟩ :=
      Command.gives_route_of_compile hrouting htable hregistry severity flags pretty
    exact prints_of_gives hload hgives

/-- **Configurations come in layers, setting by setting.**  Where the tables of the engine are
    tables in the file, and the variables that give settings give settings of the engine or
    something outside of its tables, each setting of a configuration that loads is the converted
    value of its variable, else the converted value in the file, else its default.  A variable names
    its setting in any case.  With flags the commands ignore case also if `--ignore-case` says so,
    and take categories and wildcards also if their flags say so. -/
theorem configuration_by_layers {files : Files} {env : Environment} {path : Option String}
    {config : EngineConfig} (hload : EngineConfig.load files env path = .ok config)
    (hfile : ∀ entries ∈ EngineConfig.fileEntries? files path, ∀ entry ∈ entries,
      ∀ s ∈ EngineSetting.all, Keeps s.table entry)
    (henv : env.Apart) :
    (∃ entries, EngineConfig.fileEntries? files path = some entries ∧
      config.DecidedBy fun s => s.value? entries env) ∧
    (∀ (s : EngineSetting) name, Text.lowercase name = s.variableName →
      Environment.path? name = some s.path) ∧
    ∀ flags : MatchFlags, CommandLine.MatchesUnder files env path flags
      ⟨config.matching.caseSensitive && !flags.ignoreCase,
        config.matching.categoryMode || flags.categoryMode,
        config.matching.wildcards || flags.wildcards⟩ := by
  refine ⟨?decided, fun s name => EngineSetting.path?_of_lowercase,
    CommandLine.matchesUnder_flags hload⟩
  case decided =>
    obtain ⟨entries, hentries, hdecode⟩ := EngineConfig.entries_of_load hload
    exact ⟨entries, hentries, EngineConfig.decidedBy_layers (hfile entries hentries) henv hdecode⟩

/-- A file that ignores case and has wildcards, and something that is not for an engine. -/
def partialFiles : Files := .ofList [("engine.json",
  "\x7b\"matching\": \x7b\"case_sensitive\": \"no\", \"wildcards\": true\x7d, \"owner\": 7\x7d")]

/-- Variables that turn wildcards off and bound the cache. -/
def partialEnvironment : Environment :=
  [("HOME", "/root"), ("TAGROUTE_CONFIG", "engine.json"), ("TagRoute_Matching__Wildcards", "0"),
    ("TAGROUTE_CACHE__CAPACITY", "12")]

/-- The variable turns the wildcards of the file off, and the file still ignores case.  A flag turns
    the wildcards on again. -/
theorem configuration_by_layers_partial :
    (∃ entries, EngineConfig.fileEntries? partialFiles (some "engine.json") = some entries ∧
      EngineConfig.DecidedBy (fun s => s.value? entries partialEnvironment)
        ⟨⟨false, false, false⟩, ⟨12⟩⟩) ∧
    CommandLine.Prints partialFiles partialEnvironment
      ⟨.eval "User:*" ["user:Jane"] {}, some "engine.json", false⟩ 1 "false\n" ∧
    CommandLine.Prints partialFiles partialEnvironment
      ⟨.eval "User:*" ["user:Jane"] { wildcards := true }, some "engine.json", false⟩
      0 "true\n" := by
  have hload : EngineConfig.load partialFiles partialEnvironment (some "engine.json") =
      .ok ⟨⟨false, false, false⟩, ⟨12⟩⟩ := by decide +kernel
  have hread : Expr.read "User:*" = .ok (.tag "User:*") := by decide +kernel
  obtain ⟨hdecided, -, hunder⟩ :=
    configuration_by_layers hload (by decide +kernel) (by decide +kernel)
  have hoff : (Expr.tag "User:*").holds (.ofList ["user:Jane"]) ⟨false, false, false⟩ = false := by
    decide +kernel
  have hon : (Expr.tag "User:*").holds (.ofList ["user:Jane"]) ⟨false, false, true⟩ = true := by
    decide +kernel
  refine ⟨hdecided, ?off, ?on⟩
  case off =>
    have hprints := (hunder {}).eval "User:*" _ hread ["user:Jane"] false
    simp only [Bool.not_false, Bool.and_true, Bool.or_false, hoff] at hprints
    exact hprints
  case on =>
    have hprints := (hunder { wildcards := true }).eval "User:*" _ hread ["user:Jane"] false
    simp only [Bool.not_false, Bool.and_true, Bool.or_false, Bool.or_true, hon] at hprints
    exact hprints

end AudienceRouting
