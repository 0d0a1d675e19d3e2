/-
  Audience routing — runs that fail print nothing.

  * `Run.Fails x t cause t'`: the step `x`, after `t`, fails with `cause` and leaves
    `t'` behind.
  * `Command.FailsWith`, `CommandLine.FailsWith`: why a run fails.  Each of its cases
    is one of the steps that can fail, the steps before it being successful.
  * `CommandLine.Mismatches`: the command is to evaluate an expression, which does not
    hold.

  A command line either has a reason to fail, and then it fails with this reason
  before it prints (`FailsWith.outcome`), or it succeeds (`failsWith_or_succeeds`).
  `output_of_outcome` says what is printed in both cases, and with which exit status.
-/
import AudienceRouting.Proofs.Commands

namespace AudienceRouting

/-! ## Steps that fail -/

namespace Run

variable {α β : Type}

def Fails (x : Run α) (t : Transcript) (cause : RunError) (t' : Transcript) : Prop :=
  x.run.run t = (.error cause, t')

variable {x : Run α} {t t' t'' : Transcript} {a : α} {cause : RunError} {f : α → Run β}

/-- A step that fails is the last one. -/
theorem Fails.bind (hx : x.Fails t cause t') : (x >>= f).Fails t cause t' := by
  rw [Fails, ExceptT.run_bind, StateT.run_bind, hx]
  rfl

theorem Gives.bind_fails (hx : x.Gives t a t') (hf : (f a).Fails t' cause t'') :
    (x >>= f).Fails t cause t'' := by
  rw [Fails, ExceptT.run_bind, StateT.run_bind, hx]
  exact hf

theorem fails_orFail {ε : Type} {wrap : ε → RunError} {r : Except ε α} {e : ε}
    (h : r = .error e) : (orFail wrap r).Fails t (wrap e) t := by
  subst h
  rfl

theorem fails_loadRegistry {files : Files} {path : String} {e : LoadError}
    (h : Registry.load files path = .error e) : (loadRegistry files path).Fails t (.load e) t :=
  (fails_orFail h).bind

end Run

/-! ## Commands -/

namespace Command

/-- The file of audiences that a command loads. -/
def audiences? : Command → Option String
  | .route audiences .. => some audiences
  | .parse .. | .eval .. | .explain .. | .resolve .. => none

/-- The file of entities that a command loads. -/
def entities? : Command → Option String
  | .resolve _ entities _ | .route _ entities .. => some entities
  | .parse .. | .eval .. | .explain .. => none

/-- The expression that a command reads. -/
def expression? : Command → Option String
  | .parse expression _ | .eval expression .. | .explain expression .. | .resolve expression .. =>
    some expression
  | .route .. => none

inductive FailsWith (files : Files) (command : Command) : RunError → Prop
  | audiences {path : String} (hpath : command.audiences? = some path) {cause : LoadError}
      (h : AudiencesConfig.load files path = .error cause) : FailsWith files command (.load cause)
  | table {path : String} (hpath : command.audiences? = some path) {routing : AudiencesConfig}
      (hrouting : AudiencesConfig.load files path = .ok routing) {cause : CompileError}
      (h : RoutingTable.compile routing = .error cause) : FailsWith files command (.compile cause)
  | entities {path : String} (hpath : command.entities? = some path)
      (htable : ∀ path ∈ command.audiences?, ∃ routing compiled,
        AudiencesConfig.load files path = .ok routing ∧
          RoutingTable.compile routing = .ok compiled)
      {cause : LoadError} (h : Registry.load files path = .error cause) :
      FailsWith files command (.load cause)
  | expression {text : String} (htext : command.expression? = some text)
      (hentities : ∀ path ∈ command.entities?, ∃ loaded, Registry.load files path = .ok loaded)
      {cause : SyntaxError} (h : Expr.read text = .error cause) :
      FailsWith files command (.expression cause)

variable {files : Files} {config : EngineConfig} {command : Command} {cause : RunError}
  {t : Transcript}

/-- Nothing is noted before a table is compiled. -/
theorem fails_route_of_compile {audiences : String} {routing : AudiencesConfig}
    (hrouting : AudiencesConfig.load files audiences = .ok routing) {cause : CompileError}
    (h : RoutingTable.compile routing = .error cause) (entities : String)
    (severity : Option String) (flags : MatchFlags) (pretty : Bool) :
    ((route audiences entities severity flags pretty).run files config).Fails t
      (.compile cause) t :=
  (Run.gives_orFail hrouting).bind_fails (Run.fails_orFail h).bind

/-- An expression that does not read is what a command fails with if its files can be loaded. -/
theorem fails_of_read {text : String} (htext : command.expression? = some text)
    (hentities : ∀ path ∈ command.entities?, ∃ loaded, Registry.load files path = .ok loaded)
    {cause : SyntaxError} (h : Expr.read text = .error cause) (config : EngineConfig) :
    ∃ events, (command.run files config).Fails t (.expression cause) ⟨t.output, events⟩ := by
  cases command with
  | parse expression pretty =>
    obtain rfl := Option.some.inj htext
    have hresult := (Engine.compile_ofConfig config expression).trans h
    exact ⟨_, (Run.fails_orFail hresult).bind⟩
  | eval expression given flags =>
    obtain rfl := Option.some.inj htext
    have hresult := Engine.map_compile_ofConfig h
      { config with matching := flags.onto config.matching }
      (·.holds (.ofList given) (flags.onto config.matching))
    exact ⟨_, (Run.fails_orFail hresult).bind⟩
  | explain expression given flags pretty =>
    obtain rfl := Option.some.inj htext
    have hresult := Engine.map_compile_ofConfig h
      { config with matching := flags.onto config.matching }
      (·.explain (.ofList given) (flags.onto config.matching))
    exact ⟨_, (Run.fails_orFail hresult).bind⟩
  | resolve expression entities flags =>
    obtain rfl := Option.some.inj htext
    obtain ⟨⟨registry, loaded⟩, hregistry⟩ := hentities entities rfl
    have hresult := Engine.map_compile_ofConfig h
      { config with matching := flags.onto config.matching } fun tree =>
        (registry.resolve tree (flags.onto config.matching), [Event.resolved expression
          (registry.resolve tree (flags.onto config.matching)).length registry.size])
    exact ⟨_, (Run.gives_loadRegistry hregistry).bind_fails (Run.fails_orFail hresult).bind⟩
  | route => cases htext

/-- A registry that cannot be loaded is what a command fails with if its table is compiled. -/
theorem fails_of_load {path : String} (hpath : command.entities? = some path)
    (htable : ∀ path ∈ command.audiences?, ∃ routing compiled,
      AudiencesConfig.load files path = .ok routing ∧ RoutingTable.compile routing = .ok compiled)
    {cause : LoadError} (h : Registry.load files path = .error cause) (config : EngineConfig) :
    ∃ events, (command.run files config).Fails t (.load cause) ⟨t.output, events⟩ := by
  cases command with
  | parse | eval | explain => cases hpath
  | resolve expression entities flags =>
    obtain rfl := Option.some.inj hpath
    exact ⟨_, (Run.fails_loadRegistry h).bind⟩
  | route audiences entities severity flags pretty =>
    obtain rfl := Option.some.inj hpath
    obtain ⟨routing, ⟨table, compiled⟩, hrouting, hcompile⟩ := htable audiences rfl
    exact ⟨_, (Run.gives_orFail hrouting).bind_fails ((Run.gives_orFail hcompile).bind_fails
      ((Run.gives_note _).bind_fails (Run.fails_loadRegistry h).bind))⟩

/-- A command with a reason to fail fails with this reason, before it prints. -/
theorem FailsWith.fails (h : command.FailsWith files cause) (config : EngineConfig)
    (t : Transcript) : ∃ events, (command.run files config).Fails t cause ⟨t.output, events⟩ := by
  cases h with
  | audiences hpath h =>
    cases command with
    | parse | eval | explain | resolve => cases hpath
    | route =>
      obtain rfl := Option.some.inj hpath
      exact ⟨_, (Run.fails_orFail h).bind⟩
  | table hpath hrouting h =>
    cases command with
    | parse | eval | explain | resolve => cases hpath
    | route audiences entities severity flags pretty =>
      obtain rfl := Option.some.inj hpath
      exact ⟨_, fails_route_of_compile hrouting h entities severity flags pretty⟩
  | entities hpath htable h => exact fails_of_load hpath htable h config
  | expression htext hentities h => exact fails_of_read htext hentities h config

/-- The command evaluates an expression that reads and does not hold of the given tags. -/
def Mismatches (config : EngineConfig) (command : Command) : Prop :=
  ∃ expression given flags e, command = .eval expression given flags ∧
    Expr.read expression = .ok e ∧
      e.holds (.ofList given) (flags.onto config.matching) = false

theorem Mismatches.gives (h : command.Mismatches config) (files : Files) :
    (command.run files config).Gives {} 1 { output := "false\n" } := by
  obtain ⟨expression, given, flags, e, rfl, hread, hholds⟩ := h
  have hgives : ((eval expression given flags).run files config).Gives {} _ _ :=
    gives_eval hread flags given
  rw [hholds] at hgives
  exact hgives

/-- A command without a reason to fail succeeds, with exit status 0 unless it mismatches. -/
theorem failsWith_or_gives (files : Files) (config : EngineConfig) (command : Command) :
    (∃ cause, command.FailsWith files cause) ∨ command.Mismatches config ∨
      ∃ t, (command.run files config).Gives {} 0 t := by
  cases command with
  | parse expression pretty =>
    cases hread : Expr.read expression with
    | error cause => exact Or.inl ⟨_, .expression rfl (by rintro path ⟨⟩) hread⟩
    | ok e => exact Or.inr (Or.inr ⟨_, run_parse hread files config pretty⟩)
  | eval expression given flags =>
    cases hread : Expr.read expression with
    | error cause => exact Or.inl ⟨_, .expression rfl (by rintro path ⟨⟩) hread⟩
    | ok e =>
      refine Or.inr ?_
      cases hholds : e.holds (.ofList given) (flags.onto config.matching) with
      | false => exact Or.inl ⟨expression, given, flags, e, rfl, hread, hholds⟩
      | true =>
        have hgives : ((eval expression given flags).run files config).Gives {} _ _ :=
          gives_eval hread flags given
        rw [hholds] at hgives
        exact Or.inr ⟨_, hgives⟩
  | explain expression given flags pretty =>
    cases hread : Expr.read expression with
    | error cause => exact Or.inl ⟨_, .expression rfl (by rintro path ⟨⟩) hread⟩
    | ok e => exact Or.inr (Or.inr ⟨_, gives_explain hread flags given pretty⟩)
  | resolve expression entities flags =>
    cases hregistry : Registry.load files entities with
    | error cause => exact Or.inl ⟨_, .entities rfl (by rintro path ⟨⟩) hregistry⟩
    | ok loaded =>
      cases hread : Expr.read expression with
      | error cause =>
        refine Or.inl ⟨_, .expression rfl ?_ hread⟩
        rintro path ⟨⟩
        exact ⟨loaded, hregistry⟩
      | ok e =>
        obtain ⟨events, hgives⟩ := gives_resolve hread flags hregistry
        exact Or.inr (Or.inr ⟨_, hgives⟩)
  | route audiences entities severity flags pretty =>
    cases hrouting : AudiencesConfig.load files audiences with
    | error cause => exact Or.inl ⟨_, .audiences rfl hrouting⟩
    | ok routing =>
      cases htable : RoutingTable.compile routing with
      | error cause => exact Or.inl ⟨_, .table rfl hrouting htable⟩
      | ok compiled =>
        cases hregistry : Registry.load files entities with
        | error cause =>
          refine Or.inl ⟨_, .entities rfl ?_ hregistry⟩
          rintro path ⟨⟩
          exact ⟨routing, compiled, hrouting, htable⟩
        | ok loaded =>
          obtain ⟨events, hgives⟩ :=
            gives_route_of_compile hrouting htable hregistry severity flags pretty
          exact Or.inr (Or.inr ⟨_, hgives⟩)

end Command

/-! ## Command lines -/

namespace CommandLine

inductive FailsWith (files : Files) (env : Environment) (line : CommandLine) : RunError → Prop
  | configuration {cause : LoadError} (h : EngineConfig.load files env line.config = .error cause) :
      FailsWith files env line (.load cause)
  | command {config : EngineConfig} (hconfig : EngineConfig.load files env line.config = .ok config)
      {cause : RunError} (h : line.command.FailsWith files cause) :
      FailsWith files env line cause

def Mismatches (files : Files) (env : Environment) (line : CommandLine) : Prop :=
  ∃ config, EngineConfig.load files env line.config = .ok config ∧ line.command.Mismatches config

variable {files : Files} {env : Environment} {line : CommandLine} {cause : RunError}

theorem FailsWith.outcome (h : line.FailsWith files env cause) :
    ∃ events, line.outcome files env = (.error cause, ⟨"", events⟩) := by
  cases h with
  | configuration h => exact ⟨[], (Run.fails_orFail h).bind⟩
  | command hconfig h =>
    obtain ⟨events, hfails⟩ := h.fails _ {}
    exact ⟨events, (Run.gives_orFail hconfig).bind_fails hfails⟩

theorem Mismatches.outcome (h : line.Mismatches files env) :
    line.outcome files env = (.ok 1, { output := "false\n" }) := by
  obtain ⟨config, hconfig, h⟩ := h
  exact (Run.gives_orFail hconfig).bind (h.gives files)

/-- A command line without a reason to fail succeeds, with exit status 0 unless it mismatches. -/
theorem failsWith_or_succeeds (files : Files) (env : Environment) (line : CommandLine) :
    (∃ cause, line.FailsWith files env cause) ∨ line.Mismatches files env ∨
      ∃ t, line.outcome files env = (.ok 0, t) := by
  cases hconfig : EngineConfig.load files env line.config with
  | error cause => exact Or.inl ⟨_, .configuration hconfig⟩
  | ok config =>
    rcases line.command.failsWith_or_gives files config with ⟨cause, h⟩ | h | ⟨t, h⟩
    · exact Or.inl ⟨cause, .command hconfig h⟩
    · exact Or.inr (Or.inl ⟨config, hconfig, h⟩)
    · exact Or.inr (Or.inr ⟨t, (Run.gives_orFail hconfig).bind h⟩)

end CommandLine

/-- **A run that fails prints nothing.**  A run fails exactly if one of its steps fails, with what
    the first one of them fails with, and then has printed nothing.  An evaluation that does not
    hold prints `false` and exits with 1; all else that succeeds exits with 0. -/
theorem output_of_outcome (files : Files) (env : Environment) (line : CommandLine) :
    (∀ cause, (∃ t, line.outcome files env = (.error cause, t)) ↔
      line.FailsWith files env cause) ∧
    (∀ cause t, line.outcome files env = (.error cause, t) → t.output = "") ∧
    (line.Mismatches files env → line.outcome files env = (.ok 1, { output := "false\n" })) ∧
    ∀ status t, line.outcome files env = (.ok status, t) →
      ¬ line.Mismatches files env → status = 0 := by
  have hfails : ∀ cause t, line.outcome files env = (.error cause, t) →
      line.FailsWith files env cause ∧ t.output = "" := by
    intro cause t hrun
    rcases CommandLine.failsWith_or_succeeds files env line with ⟨cause', h⟩ | h | ⟨t', h⟩
    · obtain ⟨events, houtcome⟩ := h.outcome
      cases hrun.symm.trans houtcome
      exact ⟨h, rfl⟩
    · cases hrun.symm.trans h.outcome
    · cases hrun.symm.trans h
  refine ⟨fun cause => ⟨?_, ?_⟩, fun cause t hrun => (hfails cause t hrun).2, ?_, ?_⟩
  · rintro ⟨t, hrun⟩
    exact (hfails cause t hrun).1
  · intro h
    obtain ⟨events, houtcome⟩ := h.outcome
    exact ⟨_, houtcome⟩
  · exact fun h => h.outcome
  · intro status t hrun hmatches
    rcases CommandLine.failsWith_or_succeeds files env line with ⟨cause, h⟩ | h | ⟨t', h⟩
    · obtain ⟨events, houtcome⟩ := h.outcome
      cases hrun.symm.trans houtcome
    · exact absurd h hmatches
    · cases hrun.symm.trans h
      rfl

/-- With the files of a home: an expression that does not read is noticed only after the entities
    are loaded, and nothing is printed; of two evaluations one does not hold. -/
theorem output_of_outcome_home :
    (∃ t, CommandLine.outcome homeFiles [] ⟨.resolve "user:jane+" "home.json" {}, none, false⟩ =
      (.error (.expression ⟨⟨.unfinished, 9⟩, "user:jane+"⟩), t) ∧ t.output = "") ∧
    CommandLine.outcome homeFiles [] ⟨.eval "user:jane" ["area:home"] {}, none, false⟩ =
      (.ok 1, { output := "false\n" }) ∧
    ∃ status t, CommandLine.outcome homeFiles [] ⟨.eval "user:jane" ["user:jane"] {}, none, false⟩ =
      (.ok status, t) ∧ status = 0 := by
  have hconfig : EngineConfig.load homeFiles [] none = .ok {} := by decide +kernel
  have hread : Expr.read "user:jane" = .ok (.tag "user:jane") := by decide +kernel
  refine ⟨?_, ?_, ?_⟩
  · have hunfinished : Expr.read "user:jane+" = .error ⟨⟨.unfinished, 9⟩, "user:jane+"⟩ := by
      decide +kernel
    have hhome : (Registry.load homeFiles "home.json").toOption.isSome = true := by decide +kernel
    have hentities : ∃ loaded, Registry.load homeFiles "home.json" = .ok loaded := by
      cases hload : Registry.load homeFiles "home.json" with
      | error cause =>
        rw [hload] at hhome
        cases hhome
      | ok loaded => exact ⟨loaded, rfl⟩
    obtain ⟨t, hrun⟩ := ((output_of_outcome homeFiles []
      ⟨.resolve "user:jane+" "home.json" {}, none, false⟩).1 _).2
        (.command hconfig (.expression rfl (by rintro path ⟨⟩; exact hentities) hunfinished))
    exact ⟨t, hrun, (output_of_outcome _ _ _).2.1 _ _ hrun⟩
  · refine (output_of_outcome _ _ _).2.2.1 ⟨{}, hconfig, _, _, _, _, rfl, hread, ?_⟩
    decide +kernel
  · have hholds : (Expr.tag "user:jane").holds (.ofList ["user:jane"])
        (({} : MatchFlags).onto {}) = true := by decide +kernel
    obtain ⟨events, hrun⟩ := CommandLine.prints_of_gives hconfig
      (Command.gives_eval hread {} ["user:jane"]) false
    refine ⟨_, _, hrun, (output_of_outcome _ _ _).2.2.2 _ _ hrun ?_⟩
    rintro ⟨config, hconfig', expression, given, flags, e, ⟨⟩, hread', hmismatch⟩
    cases hconfig.symm.trans hconfig'
    cases hread.symm.trans hread'
    rw [hholds] at hmismatch
    cases hmismatch

end AudienceRouting
