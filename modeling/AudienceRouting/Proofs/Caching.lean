/-
  Audience routing — the cache of an engine does not show in its answers.

  * `Engine.Call`: what can be asked of an engine; `Call.fresh?` is the answer of
    somebody who reads the expression anew.
  * `Session`: an engine with all that was ever stored in its cache.
  * `Session.Step`: an engine answers a call, with any rule of eviction, or the cache
    changes by itself.  Of the cache it is only relied on that it holds what was
    stored in it: it may lose any entry, at any time, or hold a lost one again.
  * `Session.Run`: any number of steps, with the calls and their answers.

  `Session.Sound` holds before the first step and is preserved by every step; from it
  `answers_of_run`.
-/
import Mathlib.Data.List.Induction
import AudienceRouting.Engine

namespace AudienceRouting

/-! ## The cache -/

namespace ExpressionCache

variable {cache : ExpressionCache} {text : String} {tree : Expr}

/-- Every tree is kept for the text that it is read from. -/
def Faithful (cache : ExpressionCache) : Prop := ∀ p ∈ cache.entries, Expr.read p.1 = .ok p.2

theorem faithful_empty (capacity : Nat) : (empty capacity).Faithful := List.forall_mem_nil _

theorem mem_of_find? (h : cache.find? text = some tree) : (text, tree) ∈ cache.entries := by
  unfold find? at h
  obtain ⟨p, hp, rfl⟩ := Option.map_eq_some_iff.1 h
  have htext : p.1 = text := by simpa using List.find?_some hp
  rw [← htext]
  exact List.mem_of_find?_eq_some hp

/-- A faithful cache gives what reading gives. -/
theorem getOrRead_fst (h : cache.Faithful) (eviction : Eviction) (text : String) :
    (cache.getOrRead eviction text).1 = Expr.read text := by
  unfold getOrRead
  cases hfind : cache.find? text with
  | some tree => exact (h _ (mem_of_find? hfind)).symm
  | none => cases hread : Expr.read text <;> rfl

/-- What a look-up stores: the tree of a text that was not found and reads, unless the cache is
    turned off. -/
def stores (cache : ExpressionCache) (text : String) : List (String × Expr) :=
  if cache.isEnabled ∧ cache.find? text = none then
    match Expr.read text with
    | .ok tree => [(text, tree)]
    | .error _ => []
  else []

theorem read_of_mem_stores {p : String × Expr} (h : p ∈ cache.stores text) :
    Expr.read p.1 = .ok p.2 := by
  unfold stores at h
  split at h
  · split at h
    · rename_i hread
      rw [List.mem_singleton.1 h]
      exact hread
    · cases h
  · cases h

/-- Behind a look-up the cache holds what it held before and what was stored, if at all. -/
theorem mem_getOrRead {eviction : Eviction} {p : String × Expr}
    (h : p ∈ (cache.getOrRead eviction text).2.entries) :
    p ∈ cache.stores text ∨ p ∈ cache.entries := by
  unfold getOrRead at h
  cases hfind : cache.find? text with
  | some tree =>
    simp only [hfind] at h
    exact Or.inr h
  | none =>
    simp only [hfind] at h
    cases hread : Expr.read text with
    | error e =>
      simp only [hread] at h
      exact Or.inr h
    | ok tree =>
      simp only [hread] at h
      have henabled : cache.isEnabled = true := by
        -- a cache of capacity 0 keeps nothing
        have hle := eviction.length_le cache.capacity ((text, tree) :: cache.entries)
        have hpos := List.length_pos_of_mem h
        simpa [isEnabled] using Nat.lt_of_lt_of_le hpos hle
      have hstores : cache.stores text = [(text, tree)] := by
        simp [stores, henabled, hfind, hread]
      rw [hstores]
      exact List.mem_append.1 ((eviction.sublist _ _).mem h)

end ExpressionCache

/-! ## Calls -/

namespace Engine

inductive Call where
  | compile (expression : String)
  | holds (expression : String) (tags : TagSet)
  | explain (expression : String) (tags : TagSet)
  | resolve (expression : String) (registry : Registry)
  | contains (expression : String)
  | size
  | clear
  deriving Inhabited

inductive Answer where
  | tree (result : Except SyntaxError Expr)
  | verdict (result : Except SyntaxError Bool)
  | explanation (result : Except SyntaxError Explanation)
  | entities (result : Except SyntaxError (List String × List Event))
  | found (result : Bool)
  | size (result : Nat)
  | cleared
  deriving Repr, Inhabited

/-- The answer to a call, and the engine after it. -/
def serve (engine : Engine) (eviction : Eviction) : Call → Answer × Engine
  | .compile expression =>
    let (tree, engine) := engine.compile expression eviction
    (.tree tree, engine)
  | .holds expression tags =>
    let (verdict, engine) := engine.holds expression tags eviction
    (.verdict verdict, engine)
  | .explain expression tags =>
    let (explanation, engine) := engine.explain expression tags eviction
    (.explanation explanation, engine)
  | .resolve expression registry =>
    let (entities, engine) := engine.resolve expression registry eviction
    (.entities entities, engine)
  | .contains expression => (.found (engine.cache.contains expression), engine)
  | .size => (.size engine.cache.size, engine)
  | .clear => (.cleared, { engine with cache := engine.cache.clear })

/-- The expression that a call looks up. -/
def Call.expression? : Call → Option String
  | .compile expression | .holds expression _ | .explain expression _ | .resolve expression _ =>
    some expression
  | .contains _ | .size | .clear => none

/-- The answer of a fresh reading under `options`; calls that ask about the cache have none. -/
def Call.fresh? (options : MatchOptions) : Call → Option Answer
  | .compile expression => some (.tree (Expr.read expression))
  | .holds expression tags =>
    some (.verdict ((Expr.read expression).map (·.holds tags options)))
  | .explain expression tags =>
    some (.explanation ((Expr.read expression).map (·.explain tags options)))
  | .resolve expression registry =>
    some (.entities ((Expr.read expression).map fun tree =>
      (registry.resolve tree options,
        [.resolved expression (registry.resolve tree options).length registry.size])))
  | .contains _ | .size | .clear => none

/-- What a call stores in the cache. -/
def stores (engine : Engine) (call : Call) : List (String × Expr) :=
  match call.expression? with
  | some expression => engine.cache.stores expression
  | none => []

variable {engine : Engine} {eviction : Eviction} {call : Call}

theorem compile_fst (h : engine.cache.Faithful) (eviction : Eviction) (expression : String) :
    (engine.compile expression eviction).1 = Expr.read expression :=
  ExpressionCache.getOrRead_fst h eviction expression

theorem options_serve : (engine.serve eviction call).2.options = engine.options := by
  cases call <;> rfl

/-- A faithful cache does not show. -/
theorem serve_fst (h : engine.cache.Faithful) {answer : Answer}
    (hfresh : call.fresh? engine.options = some answer) :
    (engine.serve eviction call).1 = answer := by
  cases call with
  | compile expression =>
    cases hfresh
    exact congrArg Answer.tree (compile_fst h eviction expression)
  | holds expression tags =>
    cases hfresh
    rw [← compile_fst h eviction expression]
    rfl
  | explain expression tags =>
    cases hfresh
    rw [← compile_fst h eviction expression]
    rfl
  | resolve expression registry =>
    cases hfresh
    rw [← compile_fst h eviction expression]
    rfl
  | contains | size | clear => cases hfresh

theorem mem_serve {p : String × Expr} (h : p ∈ (engine.serve eviction call).2.cache.entries) :
    p ∈ engine.stores call ∨ p ∈ engine.cache.entries := by
  cases call with
  | compile | holds | explain | resolve => exact ExpressionCache.mem_getOrRead h
  | contains | size => exact Or.inr h
  | clear => cases h

theorem read_of_mem_stores {p : String × Expr} (h : p ∈ engine.stores call) :
    Expr.read p.1 = .ok p.2 := by
  unfold stores at h
  split at h
  · exact ExpressionCache.read_of_mem_stores h
  · cases h

end Engine

/-! ## Sessions -/

/-- An engine, and all pairs of a text and a tree that were ever stored in its cache. -/
structure Session where
  engine : Engine
  stored : List (String × Expr)
  deriving Repr, Inhabited

namespace Session

open Engine (Call Answer)

/-- A new engine. -/
def start (config : EngineConfig) : Session := ⟨.ofConfig config, []⟩

/-- The session after a call. -/
def served (s : Session) (eviction : Eviction) (call : Call) : Session :=
  ⟨(s.engine.serve eviction call).2, s.engine.stores call ++ s.stored⟩

/-- The session in which the cache holds other entries. -/
def holding (s : Session) (entries : List (String × Expr)) : Session :=
  { s with engine := { s.engine with cache := { s.engine.cache with entries } } }

/-- One step, with the call that is answered in it. -/
inductive Step (s : Session) : List (Call × Answer) → Session → Prop
  | call (eviction : Eviction) (call : Call) :
      Step s [(call, (s.engine.serve eviction call).1)] (s.served eviction call)
  /-- the cache changes by itself, and holds only what was once stored in it -/
  | cache {entries : List (String × Expr)} (h : ∀ p ∈ entries, p ∈ s.stored) :
      Step s [] (s.holding entries)

/-- Steps one after the other, with the calls that are answered in them. -/
inductive Run (s : Session) : List (Call × Answer) → Session → Prop
  | refl : Run s [] s
  | step {log log' : List (Call × Answer)} {s' s'' : Session} (h : Run s log s')
      (h' : Step s' log' s'') : Run s (log ++ log') s''

/-- What a session of an engine with `options` preserves. -/
structure Sound (options : MatchOptions) (s : Session) : Prop where
  options_eq : s.engine.options = options
  mem_stored : ∀ p ∈ s.engine.cache.entries, p ∈ s.stored
  read_stored : ∀ p ∈ s.stored, Expr.read p.1 = .ok p.2

variable {options : MatchOptions} {s s' : Session} {log : List (Call × Answer)}

theorem Sound.faithful (h : s.Sound options) : s.engine.cache.Faithful :=
  fun p hp => h.read_stored p (h.mem_stored p hp)

theorem sound_start (config : EngineConfig) : (start config).Sound config.matching where
  options_eq := rfl
  mem_stored := nofun
  read_stored := nofun

theorem Sound.step (h : s.Sound options) (hstep : Step s log s') : s'.Sound options := by
  cases hstep with
  | call eviction call =>
    refine ⟨Engine.options_serve.trans h.options_eq, fun p hp => ?_, fun p hp => ?_⟩
    · exact List.mem_append.2 ((Engine.mem_serve hp).imp_right (h.mem_stored p))
    · rcases List.mem_append.1 hp with hp | hp
      · exact Engine.read_of_mem_stores hp
      · exact h.read_stored p hp
  | cache hentries => exact ⟨h.options_eq, hentries, h.read_stored⟩

/-- In a sound session every answer is the fresh one. -/
theorem Sound.answer (h : s.Sound options) (hstep : Step s log s') {call : Call}
    {answer fresh : Answer} (hmem : (call, answer) ∈ log)
    (hfresh : call.fresh? options = some fresh) : answer = fresh := by
  cases hstep with
  | call eviction call =>
    cases List.mem_singleton.1 hmem
    exact Engine.serve_fst h.faithful (h.options_eq ▸ hfresh)
  | cache => cases hmem

theorem Sound.run (h : s.Sound options) (hrun : Run s log s') : s'.Sound options := by
  induction hrun with
  | refl => exact h
  | step _ hstep ih => exact ih.step hstep

theorem Sound.answers (h : s.Sound options) (hrun : Run s log s') {call : Call}
    {answer fresh : Answer} (hmem : (call, answer) ∈ log)
    (hfresh : call.fresh? options = some fresh) : answer = fresh := by
  induction hrun with
  | refl => cases hmem
  | step hrun hstep ih =>
    rcases List.mem_append.1 hmem with hmem | hmem
    · exact ih hmem
    · exact (h.run hrun).answer hstep hmem hfresh

/-- Whatever is called next, there is an answer. -/
theorem exists_run (s : Session) (calls : List (Eviction × Call)) :
    ∃ log s', Run s log s' ∧ log.map (·.1) = calls.map (·.2) := by
  induction calls using List.reverseRecOn with
  | nil => exact ⟨[], s, .refl, rfl⟩
  | append_singleton calls c ih =>
    obtain ⟨log, s', hrun, hlog⟩ := ih
    refine ⟨_, _, hrun.step (.call c.1 c.2), ?_⟩
    rw [List.map_append, List.map_append, hlog]
    rfl

/-- Texts that do not read are never kept. -/
theorem read_of_contains {config : EngineConfig} (hrun : Run (start config) log s) {text : String}
    (hc : s.engine.cache.contains text = true) : ∃ tree, Expr.read text = .ok tree := by
  obtain ⟨p, hp, htext⟩ := List.any_eq_true.1 hc
  have hread := ((sound_start config).run hrun).faithful p hp
  rw [of_decide_eq_true htext] at hread
  exact ⟨p.2, hread⟩

end Session

/-- **The cache does not show.**  In every run of an engine, whatever its configuration and
    whatever its cache loses or holds again, each call that reads an expression is answered as by a
    fresh reading under the options of the configuration: by the same tree, verdict, explanation or
    entities, or by the same error.  Every sequence of calls is answered. -/
theorem answers_of_run (config : EngineConfig) :
    (∀ log s, Session.Run (.start config) log s → ∀ call answer fresh, (call, answer) ∈ log →
      call.fresh? config.matching = some fresh → answer = fresh) ∧
    ∀ calls : List (Eviction × Engine.Call), ∃ log s, Session.Run (.start config) log s ∧
      log.map (·.1) = calls.map (·.2) :=
  ⟨fun _ _ hrun _ _ _ hmem hfresh => (Session.sound_start config).answers hrun hmem hfresh,
    fun calls => Session.exists_run _ calls⟩

/-- A cache with room for one tree: that of `a` goes for that of `b`, which `clear` drops, and is
    held again when it is asked for. -/
theorem answers_of_run_evicted :
    ∃ log s, Session.Run (.start { cache := ⟨1⟩ }) log s ∧
      log.map (·.1) = [.compile "a", .compile "b", .clear, .holds "a" (.ofList ["a"])] ∧
      ∀ answer, (.holds "a" (.ofList ["a"]), answer) ∈ log → answer = .verdict (.ok true) := by
  have hstored : ∀ p ∈ [("a", Expr.tag "a")],
      p ∈ ((((Session.start { cache := ⟨1⟩ }).served .oldest (.compile "a")).served .oldest
        (.compile "b")).served .oldest .clear).stored := by
    decide +kernel
  have hrun := ((((Session.Run.refl (s := .start { cache := ⟨1⟩ })).step
    (.call .oldest (.compile "a"))).step (.call .oldest (.compile "b"))).step
      (.call .oldest .clear)).step (.cache hstored)
  have hlast := hrun.step (.call .oldest (.holds "a" (.ofList ["a"])))
  have hfresh : (Engine.Call.holds "a" (.ofList ["a"])).fresh? {} = some (.verdict (.ok true)) := by
    have hread : Expr.read "a" = .ok (.tag "a") := by decide +kernel
    have hholds : (Expr.tag "a").holds (.ofList ["a"]) {} = true := by decide +kernel
    rw [Engine.Call.fresh?, hread, Except.map, hholds]
  exact ⟨_, _, hlast, rfl, fun answer hmem =>
    (answers_of_run { cache := ⟨1⟩ }).1 _ _ hlast _ answer _ hmem hfresh⟩

end AudienceRouting
