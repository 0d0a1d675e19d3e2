/-
  Audience routing — the commands agree with each other.

  * `Run.Gives x t a t'`: the step `x`, after `t`, succeeds with `a` and leaves `t'` behind.
  * `CommandLine.Prints files env line status output`: the run of `line` succeeds with the exit
    status and prints the output.

  Steps that succeed are put together by `Gives.bind`.  There is one lemma `gives_*` for each
  command, which says what it prints for an expression that reads.  They all come down to whether
  the tree of the expression holds of the tags of an entity, under the options of the
  configuration with the flags on top (`commands_agree`).
-/
import AudienceRouting.CommandLine.Run
import AudienceRouting.Proofs.Explaining
import AudienceRouting.Proofs.Routing
import AudienceRouting.Proofs.TreeEncoding

namespace AudienceRouting

/-! ## Steps that succeed -/

namespace Run

variable {α β : Type}

def Gives (x : Run α) (t : Transcript) (a : α) (t' : Transcript) : Prop :=
  x.run.run t = (.ok a, t')

variable {x : Run α} {t t' t'' : Transcript} {a : α} {b : β}

theorem Gives.bind {f : α → Run β} (hx : x.Gives t a t') (hf : (f a).Gives t' b t'') :
    (x >>= f).Gives t b t'' := by
  rw [Gives, ExceptT.run_bind, StateT.run_bind, hx]
  exact hf

theorem gives_pure : (pure a : Run α).Gives t a t := rfl

theorem gives_orFail {ε : Type} {wrap : ε → RunError} {r : Except ε α} (h : r = .ok a) :
    (orFail wrap r).Gives t a t := by
  subst h
  rfl

theorem gives_note (events : List Event) :
    (note events).Gives t () { t with events := t.events ++ events } := rfl

theorem gives_printLine (line : String) :
    (printLine line).Gives t () { t with output := t.output ++ line ++ "\n" } := rfl

/-- What is printed for lines one after the other. -/
def lines (items : List String) : String := String.join (items.map (· ++ "\n"))

theorem lines_nil : lines [] = "" := rfl

theorem lines_cons (item : String) (items : List String) :
    lines (item :: items) = item ++ "\n" ++ lines items :=
  String.join_cons

theorem gives_forM_printLine (items : List String) :
    (items.forM printLine).Gives t () { t with output := t.output ++ lines items } := by
  induction items generalizing t with
  | nil =>
    rw [lines_nil, String.append_empty]
    rfl
  | cons item items ih =>
    have hcons : ((item :: items).forM printLine).Gives t () _ := (gives_printLine item).bind ih
    have hlines : t.output ++ item ++ "\n" ++ lines items = t.output ++ lines (item :: items) := by
      simp only [lines_cons, String.append_assoc]
    rwa [hlines] at hcons

/-- The layout of what is printed as JSON. -/
def layout (pretty : Bool) : Json.Layout := if pretty then .indented else .compact

theorem gives_printJson (pretty : Bool) (j : Json) : (printJson pretty j).Gives t ()
    { t with output := t.output ++ j.print (layout pretty) ++ "\n" } :=
  rfl

theorem gives_loadRegistry {files : Files} {path : String} {registry : Registry} {loaded : Event}
    (h : Registry.load files path = .ok (registry, loaded)) :
    (loadRegistry files path).Gives t registry { t with events := t.events ++ [loaded] } :=
  (gives_orFail h).bind ((gives_note [loaded]).bind gives_pure)

end Run

/-! ## What the commands print -/

/-- What a new engine makes of the outcome of reading an expression. -/
theorem Engine.map_compile_ofConfig {α : Type} {text : String} {result : Except SyntaxError Expr}
    (h : Expr.read text = result) (config : EngineConfig) (f : Expr → α) :
    ((ofConfig config).compile text).1.map f = result.map f := by
  rw [compile_ofConfig, h]

namespace Command

variable {files : Files} {config : EngineConfig}

theorem gives_route_of_compile {audiences entities : String} {routing : AudiencesConfig}
    (hrouting : AudiencesConfig.load files audiences = .ok routing) {table : RoutingTable}
    {compiled : List Event} (htable : RoutingTable.compile routing = .ok (table, compiled))
    {registry : Registry} {loaded : Event}
    (hregistry : Registry.load files entities = .ok (registry, loaded)) (severity : Option String)
    (flags : MatchFlags) (pretty : Bool) : ∃ events,
    ((route audiences entities severity flags pretty).run files config).Gives {} 0
      ⟨(Json.array ((table.route registry severity (flags.onto config.matching)).1.map
        AudienceRoute.toJson)).print (Run.layout pretty) ++ "\n", events⟩ :=
  ⟨_, (Run.gives_orFail hrouting).bind ((Run.gives_orFail htable).bind
    ((Run.gives_note _).bind ((Run.gives_loadRegistry hregistry).bind ((Run.gives_note _).bind
      ((Run.gives_printJson pretty _).bind Run.gives_pure)))))⟩

variable {expression : String} {e : Expr} (h : Expr.read expression = .ok e) (flags : MatchFlags)

include h

theorem gives_eval (given : List String) :
    ((eval expression given flags).run files config).Gives {}
      (if e.holds (.ofList given) (flags.onto config.matching) then 0 else 1)
      { output := toString (e.holds (.ofList given) (flags.onto config.matching)) ++ "\n" } := by
  have hresult := Engine.map_compile_ofConfig h
    { config with matching := flags.onto config.matching }
    (·.holds (.ofList given) (flags.onto config.matching))
  exact (Run.gives_orFail hresult).bind ((Run.gives_printLine _).bind Run.gives_pure)

theorem gives_explain (given : List String) (pretty : Bool) :
    ((explain expression given flags pretty).run files config).Gives {} 0
      { output := (e.explain (.ofList given) (flags.onto config.matching)).toJson.print
          (Run.layout pretty) ++ "\n" } := by
  have hresult := Engine.map_compile_ofConfig h
    { config with matching := flags.onto config.matching }
    (·.explain (.ofList given) (flags.onto config.matching))
  exact (Run.gives_orFail hresult).bind ((Run.gives_printJson pretty _).bind Run.gives_pure)

variable {entities : String} {registry : Registry} {loaded : Event}
  (hregistry : Registry.load files entities = .ok (registry, loaded))

include hregistry

theorem gives_resolve : ∃ events,
    ((resolve expression entities flags).run files config).Gives {} 0
      ⟨Run.lines (registry.resolve e (flags.onto config.matching)), events⟩ := by
  have hresult := Engine.map_compile_ofConfig h
    { config with matching := flags.onto config.matching } fun tree =>
      (registry.resolve tree (flags.onto config.matching), [Event.resolved expression
        (registry.resolve tree (flags.onto config.matching)).length registry.size])
  exact ⟨_, (Run.gives_loadRegistry hregistry).bind ((Run.gives_orFail hresult).bind
    ((Run.gives_note _).bind ((Run.gives_forM_printLine _).bind Run.gives_pure)))⟩

/-- Without a severity the only audience gets the entities of which its expression holds. -/
theorem gives_route {audiences : String} {routing : AudiencesConfig} {a : AudienceConfig}
    (hrouting : AudiencesConfig.load files audiences = .ok routing)
    (honly : routing.audiences = [a]) (ha : a.expression = expression)
    (hminimum : a.minSeverity = none) {levels : SeverityLevels}
    (hlevels : SeverityLevels.ofNames routing.severityLevels = .ok levels) (pretty : Bool) :
    ∃ events, ((route audiences entities none flags pretty).run files config).Gives {} 0
      ⟨(Json.array [AudienceRoute.toJson ⟨a.name, a.services,
        registry.resolve e (flags.onto config.matching), false⟩]).print (Run.layout pretty) ++ "\n",
        events⟩ := by
  subst ha
  have hcompiles : a.CompilesTo levels ⟨a.name, a.expression, e, a.services, a.minSeverity⟩ :=
    ⟨rfl, rfl, h, rfl, rfl, by simp [hminimum]⟩
  have htable : RoutingTable.compile routing = .ok
      (⟨[⟨a.name, a.expression, e, a.services, a.minSeverity⟩], levels⟩, [.compiled 1]) := by
    refine RoutingTable.compile_ok_iff.2 ⟨hlevels, ?_, ?_, rfl⟩
    · rw [honly]
      exact .cons hcompiles .nil
    · simp [honly]
  exact gives_route_of_compile hrouting htable hregistry none flags pretty

end Command

/-! ## Runs of command lines -/

namespace CommandLine

/-- The run succeeds with the exit status, and prints the output. -/
def Prints (files : Files) (env : Environment) (line : CommandLine) (status : Nat)
    (output : String) : Prop :=
  ∃ events, line.outcome files env = (.ok status, ⟨output, events⟩)

variable {files : Files} {env : Environment} {path : Option String}

/-- A command line runs its command with the configuration that it loads. -/
theorem prints_of_gives {config : EngineConfig}
    (hconfig : EngineConfig.load files env path = .ok config) {command : Command} {status : Nat}
    {t : Transcript} (h : (command.run files config).Gives {} status t) (verbose : Bool) :
    Prints files env ⟨command, path, verbose⟩ status t.output :=
  ⟨t.events, (Run.gives_orFail hconfig).bind h⟩

/-- A run has one outcome. -/
theorem Prints.unique {line : CommandLine} {status status' : Nat} {output output' : String}
    (h : line.Prints files env status output) (h' : line.Prints files env status' output') :
    status = status' ∧ output = output' := by
  obtain ⟨events, h⟩ := h
  obtain ⟨events', h'⟩ := h'
  obtain ⟨hstatus, htranscript⟩ := Prod.mk.inj (h.symm.trans h')
  exact ⟨Except.ok.inj hstatus, congrArg Transcript.output htranscript⟩

/-- All commands tell of the same entities `ids` that the expression holds of them.  The flags and
    the path of the configuration are the same for all of them. -/
structure Agree (files : Files) (env : Environment) (path : Option String) (flags : MatchFlags)
    (expression entities : String) (registry : Registry) (ids : List String) : Prop where
  ascending : ids.Pairwise (· < ·)
  registered : ∀ id ∈ ids, ∃ tags, registry.tagsOf? id = some tags
  given : ∀ id tags, registry.tagsOf? id = some tags → ∃ given, tags = TagSet.ofList given
  resolve : ∀ verbose, Prints files env ⟨.resolve expression entities flags, path, verbose⟩ 0
    (Run.lines ids)
  eval : ∀ id given, registry.tagsOf? id = some (.ofList given) → ∀ verbose,
    (id ∈ ids ↔ Prints files env ⟨.eval expression given flags, path, verbose⟩ 0 "true\n") ∧
    (id ∉ ids ↔ Prints files env ⟨.eval expression given flags, path, verbose⟩ 1 "false\n")
  explain : ∀ id given, registry.tagsOf? id = some (.ofList given) →
    ∃ x : Explanation, (∀ pretty verbose, Prints files env
      ⟨.explain expression given flags pretty, path, verbose⟩ 0
        (x.toJson.print (Run.layout pretty) ++ "\n")) ∧
    x.toJson.member? "matched" = some (.bool x.root.matched) ∧
    (id ∈ ids ↔ x.root.matched = true)
  /-- the audiences file is valid and has one audience, which needs no severity -/
  route : ∀ audiences routing a levels, AudiencesConfig.load files audiences = .ok routing →
    routing.audiences = [a] → a.expression = expression → a.minSeverity = none →
    SeverityLevels.ofNames routing.severityLevels = .ok levels → ∀ pretty verbose,
    Prints files env ⟨.route audiences entities none flags pretty, path, verbose⟩ 0
      ((Json.array [AudienceRoute.toJson ⟨a.name, a.services, ids, false⟩]).print
        (Run.layout pretty) ++ "\n")

end CommandLine

/-! ## Agreement -/

theorem Registry.mem_resolve_iff_holds {registry : Registry} {id : String} {tags : TagSet}
    (hfound : registry.tagsOf? id = some tags) (e : Expr) (options : MatchOptions) :
    id ∈ registry.resolve e options ↔ e.holds tags options = true := by
  rw [mem_resolve]
  constructor
  · rintro ⟨tags', hfound', hholds⟩
    rwa [Option.some.inj (hfound.symm.trans hfound')]
  · exact fun hholds => ⟨tags, hfound, hholds⟩

theorem Expr.matched_explain (e : Expr) (tags : TagSet) (options : MatchOptions) :
    (e.explain tags options).root.matched = e.holds tags options := by
  rw [explain, Annotated.matched_mark, matched_annotate]

/-- **The commands agree.**  For a configuration, a registry and an expression that can be loaded
    and read, there are entities that `resolve` lists in ascending order, a line for each, that
    `route` lists for an audience with this expression, and for whose tags, and no others of the
    registry, `eval` prints `true` and `explain` says that the root matches. -/
theorem commands_agree {files : Files} {env : Environment} {path : Option String}
    {config : EngineConfig} (hconfig : EngineConfig.load files env path = .ok config)
    {expression : String} {e : Expr} (he : Expr.read expression = .ok e) {entities : String}
    {registry : Registry} {loaded : Event}
    (hregistry : Registry.load files entities = .ok (registry, loaded)) (flags : MatchFlags) :
    ∃ ids, CommandLine.Agree files env path flags expression entities registry ids := by
  refine ⟨registry.resolve e (flags.onto config.matching), Registry.pairwise_resolve _ _ _,
    ?registered, ?given, ?resolve, ?eval, ?explain, ?route⟩
  case registered =>
    intro id hid
    obtain ⟨tags, hfound, -⟩ := (Registry.mem_resolve _ _ _).1 hid
    exact ⟨tags, hfound⟩
  case given =>
    intro _ tags _
    exact ⟨tags.toList, tags.ofList_toList.symm⟩
  case resolve =>
    obtain ⟨events, hgives⟩ := Command.gives_resolve he flags hregistry
    exact CommandLine.prints_of_gives hconfig hgives
  case eval =>
    intro id given hfound verbose
    have hprints := CommandLine.prints_of_gives hconfig (Command.gives_eval he flags given) verbose
    rw [Registry.mem_resolve_iff_holds hfound]
    -- a run has one outcome, so printing one answer rules the other one out
    cases hholds : e.holds (.ofList given) (flags.onto config.matching) with
    | true =>
      rw [hholds] at hprints
      refine ⟨iff_of_true rfl hprints, iff_of_false (by simp) fun h => ?_⟩
      exact absurd (hprints.unique h).1 (by decide)
    | false =>
      rw [hholds] at hprints
      refine ⟨iff_of_false (by simp) fun h => ?_, iff_of_true (by simp) hprints⟩
      exact absurd (hprints.unique h).1 (by decide)
  case explain =>
    intro id given hfound
    refine ⟨_, fun pretty =>
      CommandLine.prints_of_gives hconfig (Command.gives_explain he flags given pretty),
      (Annotated.written_members _ _).matched, ?_⟩
    rw [Registry.mem_resolve_iff_holds hfound, Expr.matched_explain]
  case route =>
    intro audiences routing a levels hrouting honly ha hminimum hlevels pretty
    obtain ⟨events, hgives⟩ :=
      Command.gives_route he flags hregistry hrouting honly ha hminimum hlevels pretty
    exact CommandLine.prints_of_gives hconfig hgives

/-- A phone and a speaker, and an audience for the tag `user:jane`. -/
def homeFiles : Files := .ofList [
  ("home.json",
    "\x7b\"phone\": [\"user:Jane\", \"area:home\"], \"speaker\": [\"area:home\"]\x7d"),
  ("audiences.json",
    "\x7b\"audiences\": [\x7b\"name\": \"jane\", \"expression\": \"user:jane\"\x7d]\x7d")]

/-- Where the environment says that case is ignored, all commands find the phone. -/
theorem commands_agree_home : ∃ ids : List String, "phone" ∈ ids ∧
    CommandLine.Prints homeFiles [("TAGROUTE_MATCHING__CASE_SENSITIVE", "false")]
      ⟨.resolve "user:jane" "home.json" {}, none, false⟩ 0 (Run.lines ids) ∧
    CommandLine.Prints homeFiles [("TAGROUTE_MATCHING__CASE_SENSITIVE", "false")]
      ⟨.route "audiences.json" "home.json" none {} false, none, false⟩ 0
      ((Json.array [AudienceRoute.toJson ⟨"jane", [], ids, false⟩]).print .compact ++ "\n") := by
  have hconfig : EngineConfig.load homeFiles [("TAGROUTE_MATCHING__CASE_SENSITIVE", "false")] none =
      .ok { matching := { caseSensitive := false } } := by decide +kernel
  have hread : Expr.read "user:jane" = .ok (.tag "user:jane") := by decide +kernel
  have hrouting : AudiencesConfig.load homeFiles "audiences.json" =
      .ok { audiences := [{ name := "jane", expression := "user:jane" }] } := by decide +kernel
  have hhome : ((Registry.load homeFiles "home.json").toOption.bind fun r =>
      (r.1.tagsOf? "phone").map (·.toList)) = some ["area:home", "user:Jane"] := by decide +kernel
  cases hload : Registry.load homeFiles "home.json" with
  | error cause =>
    rw [hload] at hhome
    cases hhome
  | ok loaded =>
    rw [hload] at hhome
    obtain ⟨tags, hfound, htags⟩ := Option.map_eq_some_iff.1 hhome
    rw [← tags.ofList_toList, htags] at hfound
    obtain ⟨ids, h⟩ := commands_agree hconfig hread hload {}
    have hprints := CommandLine.prints_of_gives hconfig
      (Command.gives_eval hread {} ["area:home", "user:Jane"]) false
    have hholds : (Expr.tag "user:jane").holds (.ofList ["area:home", "user:Jane"])
        (({} : MatchFlags).onto { caseSensitive := false }) = true := by decide +kernel
    rw [hholds] at hprints
    exact ⟨ids, (h.eval "phone" _ hfound false).1.2 hprints, h.resolve false,
      h.route _ _ _ default hrouting rfl rfl rfl rfl false false⟩

end AudienceRouting
