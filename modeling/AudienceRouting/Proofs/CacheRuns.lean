/-
  Audience routing — what a cache holds and what it counts.

  * `ExpressionCache.Operation`: what can be asked of a cache; `perform` replies to it.
  * `ExpressionCache.Performed`: an operation with its reply and the cache before and after.
  * `CacheHistory`: a cache, and what was stored in it since it was cleared last.
  * `CacheHistory.Step`: an operation with any rule of eviction, or a change of the cache
    by itself: it loses entries, or, where evictions may come late, still holds some that
    it should have lost.
  * `CacheHistory.Run`: any number of steps, with all operations performed in them.

  `CacheHistory.Inv` holds before the first step and is preserved by every step; from it
  `accounts_of_run`: what a cache holds is right, and its counters tell how often a text
  that was looked up was held.
-/
import AudienceRouting.Proofs.Caching

namespace AudienceRouting

namespace ExpressionCache

variable {cache : ExpressionCache} {eviction : Eviction} {text : String}

/-! ## Looking a text up -/

theorem contains_eq_isSome : cache.contains text = (cache.find? text).isSome := by
  rw [contains, find?, Option.isSome_map, Bool.eq_iff_iff, List.any_eq_true, List.find?_isSome]

theorem contains_iff_mem : cache.contains text = true ↔ text ∈ cache.entries.map (·.1) := by
  simp [contains]

/-- All that a look-up can do: find the text, fail to read it, or read and keep it. -/
theorem getOrRead_cases (cache : ExpressionCache) (eviction : Eviction) (text : String) :
    (∃ tree, cache.find? text = some tree ∧
      cache.getOrRead eviction text = (.ok tree, { cache with hits := cache.hits + 1 })) ∨
    (∃ e, cache.find? text = none ∧ Expr.read text = .error e ∧
      cache.getOrRead eviction text = (.error e, { cache with misses := cache.misses + 1 })) ∨
    ∃ tree, cache.find? text = none ∧ Expr.read text = .ok tree ∧
      cache.getOrRead eviction text = (.ok tree, { cache with
        misses := cache.misses + 1
        entries := eviction.keep cache.capacity ((text, tree) :: cache.entries) }) := by
  unfold getOrRead
  cases hfind : cache.find? text with
  | some tree => exact Or.inl ⟨tree, rfl, rfl⟩
  | none =>
    cases hread : Expr.read text with
    | error e => exact Or.inr (Or.inl ⟨e, rfl, rfl, rfl⟩)
    | ok tree => exact Or.inr (Or.inr ⟨tree, rfl, rfl, rfl⟩)

/-! ## Operations -/

inductive Operation where
  | lookUp (text : String)
  | contains (text : String)
  | size
  | stats
  | clear
  deriving DecidableEq, Repr, Inhabited

/-- The text that is looked up, and read if it is not found. -/
def Operation.lookedUp? : Operation → Option String
  | .lookUp text => some text
  | _ => none

inductive Reply where
  | tree (result : Except SyntaxError Expr)
  | found (result : Bool)
  | size (result : Nat)
  | stats (hits misses : Nat)
  | cleared
  deriving Repr, Inhabited

/-- The cache once the evictions that are due have been made. -/
def settle (cache : ExpressionCache) (eviction : Eviction) : ExpressionCache :=
  { cache with entries := eviction.keep cache.capacity cache.entries }

/-- The reply to an operation, and the cache after it.  Evictions that are due are made before the
    trees are counted. -/
def perform (cache : ExpressionCache) (eviction : Eviction) : Operation → Reply × ExpressionCache
  | .lookUp text =>
    let (tree, cache) := cache.getOrRead eviction text
    (.tree tree, cache)
  | .contains text => (.found (cache.contains text), cache)
  | .size =>
    let settled := cache.settle eviction
    (.size settled.size, settled)
  | .stats => (.stats cache.hits cache.misses, cache)
  | .clear => (.cleared, cache.clear)

/-- An operation with its reply, and the cache before and after it. -/
structure Performed where
  before : ExpressionCache
  operation : Operation
  reply : Reply
  after : ExpressionCache
  deriving Repr, Inhabited

/-- The record of an operation. -/
def record (cache : ExpressionCache) (eviction : Eviction) (operation : Operation) : Performed :=
  ⟨cache, operation, (cache.perform eviction operation).1, (cache.perform eviction operation).2⟩

namespace Performed

def isLookUp (p : Performed) : Bool := p.operation.lookedUp?.isSome

/-- A text was looked up that was held just before. -/
def isHit (p : Performed) : Bool := p.operation.lookedUp?.any p.before.contains

/-- A text was looked up that was not held just before. -/
def isMiss (p : Performed) : Bool := p.operation.lookedUp?.any (!p.before.contains ·)

/-- Every look-up is either a hit or a miss. -/
theorem countP_isLookUp (log : List Performed) :
    log.countP isLookUp = log.countP isHit + log.countP isMiss := by
  induction log with
  | nil => rfl
  | cons p log ih =>
    have hp : (if p.isLookUp then 1 else 0) =
        (if p.isHit then 1 else 0) + if p.isMiss then 1 else 0 := by
      unfold isLookUp isHit isMiss
      cases p.operation.lookedUp? with
      | none => rfl
      | some text => cases h : p.before.contains text <;> simp [h]
    rw [List.countP_cons, List.countP_cons, List.countP_cons, ih, hp]
    omega

end Performed

/-! ## What one operation does -/

variable {operation : Operation}

theorem capacity_perform : (cache.perform eviction operation).2.capacity = cache.capacity := by
  cases operation with
  | lookUp text =>
    rcases getOrRead_cases cache eviction text with ⟨_, -, h⟩ | ⟨_, -, -, h⟩ | ⟨_, -, -, h⟩ <;>
      simp [perform, h]
  | _ => rfl

/-- A hit is counted as one, and so is a miss; nothing else is counted. -/
theorem counters_perform (cache : ExpressionCache) (eviction : Eviction) (operation : Operation) :
    (cache.perform eviction operation).2.hits =
      cache.hits + (if (cache.record eviction operation).isHit then 1 else 0) ∧
    (cache.perform eviction operation).2.misses =
      cache.misses + (if (cache.record eviction operation).isMiss then 1 else 0) := by
  cases operation with
  | lookUp text =>
    rcases getOrRead_cases cache eviction text with
      ⟨_, hfind, h⟩ | ⟨_, hfind, -, h⟩ | ⟨_, hfind, -, h⟩ <;>
      simp [perform, record, Performed.isHit, Performed.isMiss, Operation.lookedUp?,
        contains_eq_isSome, hfind, h]
  | _ => exact ⟨rfl, rfl⟩

/-- How an operation shows in the counters and in what is held. -/
structure Performed.Counted (p : Performed) (capacity : Nat) : Prop where
  hit : ∀ text ∈ p.operation.lookedUp?, p.before.contains text = true →
    p.after.hits = p.before.hits + 1 ∧ p.after.misses = p.before.misses
  miss : ∀ text ∈ p.operation.lookedUp?, p.before.contains text = false →
    p.after.hits = p.before.hits ∧ p.after.misses = p.before.misses + 1
  other : p.operation.lookedUp? = none →
    p.after.hits = p.before.hits ∧ p.after.misses = p.before.misses
  size_le : ∀ n, p.reply = .size n → n ≤ capacity
  cleared : p.operation = .clear → ∀ text, p.after.contains text = false

theorem counted_record : (cache.record eviction operation).Counted cache.capacity where
  hit text htext hcontains := by
    have htext : operation.lookedUp? = some text := htext
    have hcontains : cache.contains text = true := hcontains
    simpa [record, Performed.isHit, Performed.isMiss, htext, hcontains]
      using counters_perform cache eviction operation
  miss text htext hcontains := by
    have htext : operation.lookedUp? = some text := htext
    have hcontains : cache.contains text = false := hcontains
    simpa [record, Performed.isHit, Performed.isMiss, htext, hcontains]
      using counters_perform cache eviction operation
  other hnone := by
    have hnone : operation.lookedUp? = none := hnone
    simpa [record, Performed.isHit, Performed.isMiss, hnone]
      using counters_perform cache eviction operation
  size_le n hn := by
    cases operation with
    | size =>
      cases hn
      exact eviction.length_le _ _
    | _ => cases hn
  cleared hclear text := by
    subst hclear
    rfl

/-- What an operation stores in the cache. -/
def storedBy (cache : ExpressionCache) (operation : Operation) : List (String × Expr) :=
  operation.lookedUp?.elim [] cache.stores

theorem read_of_mem_storedBy {p : String × Expr} (h : p ∈ cache.storedBy operation) :
    Expr.read p.1 = .ok p.2 := by
  unfold storedBy at h
  cases ho : operation.lookedUp? with
  | none => simp [ho] at h
  | some text => exact read_of_mem_stores (by simpa [ho] using h)

theorem storedBy_of_disabled (h : cache.capacity = 0) : cache.storedBy operation = [] := by
  unfold storedBy
  cases operation.lookedUp? with
  | none => rfl
  | some text => simp [stores, isEnabled, h]

/-- A text is stored only if it is not held. -/
theorem stores_cases (cache : ExpressionCache) (text : String) : cache.stores text = [] ∨
    ∃ tree, cache.contains text = false ∧ cache.stores text = [(text, tree)] := by
  unfold stores
  split
  · rename_i h
    cases Expr.read text with
    | error => exact Or.inl rfl
    | ok tree => exact Or.inr ⟨tree, by rw [contains_eq_isSome, h.2]; rfl, rfl⟩
  · exact Or.inl rfl

theorem nodup_storedBy (h : (cache.entries.map (·.1)).Nodup) :
    ((cache.storedBy operation ++ cache.entries).map (·.1)).Nodup := by
  unfold storedBy
  cases operation.lookedUp? with
  | none => exact h
  | some text =>
    change ((cache.stores text ++ cache.entries).map (·.1)).Nodup
    rcases stores_cases cache text with hstores | ⟨tree, hcontains, hstores⟩
    · rwa [hstores]
    · rw [hstores]
      refine List.nodup_cons.2 ⟨fun hmem => ?_, h⟩
      simp [contains_iff_mem.2 hmem] at hcontains

/-- An operation leaves nothing in the cache but what was there and what it stores. -/
theorem entries_perform_sublist :
    (cache.perform eviction operation).2.entries.Sublist
      (cache.storedBy operation ++ cache.entries) := by
  cases operation with
  | lookUp text =>
    rcases getOrRead_cases cache eviction text with
      ⟨_, -, h⟩ | ⟨_, -, -, h⟩ | ⟨tree, hfind, hread, h⟩
    · simp [perform, h]
    · simp [perform, h]
    · simp only [perform, h]
      by_cases henabled : cache.isEnabled = true
      · have hstored : cache.storedBy (.lookUp text) = [(text, tree)] := by
          simp [storedBy, Operation.lookedUp?, stores, henabled, hfind, hread]
        rw [hstored]
        exact eviction.sublist _ _
      · -- a cache of capacity 0 keeps nothing
        have hcapacity : cache.capacity = 0 := by simpa [isEnabled] using henabled
        have hlength := eviction.length_le cache.capacity ((text, tree) :: cache.entries)
        rw [hcapacity] at hlength ⊢
        rw [List.length_eq_zero_iff.1 (Nat.le_zero.1 hlength)]
        exact List.nil_sublist _
  | size => exact eviction.sublist _ _
  | clear => exact List.nil_sublist _
  | contains | stats => exact List.Sublist.refl _

theorem size_perform_le (h : cache.size ≤ cache.capacity) :
    (cache.perform eviction operation).2.size ≤ cache.capacity := by
  cases operation with
  | lookUp text =>
    rcases getOrRead_cases cache eviction text with
      ⟨_, -, he⟩ | ⟨_, -, -, he⟩ | ⟨tree, -, -, he⟩
    · simp only [perform, he]
      exact h
    · simp only [perform, he]
      exact h
    · simp only [perform, he]
      exact eviction.length_le _ _
  | size => exact eviction.length_le _ _
  | clear => exact Nat.zero_le _
  | contains | stats => exact h

end ExpressionCache

/-! ## Histories -/

open ExpressionCache (Operation Performed)

/-- A cache, and all pairs of a text and a tree that were stored in it since it was cleared. -/
structure CacheHistory where
  cache : ExpressionCache
  stored : List (String × Expr)
  deriving Repr, Inhabited

namespace CacheHistory

/-- A new cache. -/
def start (capacity : Nat) : CacheHistory := ⟨.empty capacity, []⟩

/-- The history after an operation. -/
def performed (s : CacheHistory) (eviction : Eviction) (operation : Operation) : CacheHistory where
  cache := (s.cache.perform eviction operation).2
  stored := if operation = .clear then [] else s.cache.storedBy operation ++ s.stored

/-- The history in which the cache holds other entries. -/
def holding (s : CacheHistory) (entries : List (String × Expr)) : CacheHistory :=
  { s with cache := { s.cache with entries } }

/-- One step, with the operation that is performed in it.  `late` says whether evictions may come
    later than they are due. -/
inductive Step (late : Prop) (s : CacheHistory) : List Performed → CacheHistory → Prop
  | operation (eviction : Eviction) (operation : Operation) :
      Step late s [s.cache.record eviction operation] (s.performed eviction operation)
  /-- the cache loses entries by itself -/
  | evicted {entries : List (String × Expr)} (h : entries.Sublist s.cache.entries) :
      Step late s [] (s.holding entries)
  /-- the cache still holds entries that it should have lost -/
  | lingering {entries : List (String × Expr)} (hlate : late) (h : ∀ p ∈ entries, p ∈ s.stored)
      (hkeys : (entries.map (·.1)).Nodup) : Step late s [] (s.holding entries)

/-- Steps one after the other, with the operations that are performed in them. -/
inductive Run (late : Prop) (s : CacheHistory) : List Performed → CacheHistory → Prop
  | refl : Run late s [] s
  | step {log log' : List Performed} {s' s'' : CacheHistory} (h : Run late s log s')
      (h' : Step late s' log' s'') : Run late s (log ++ log') s''

/-- What the history of a cache preserves; `log` holds the operations that were performed. -/
structure Inv (capacity : Nat) (late : Prop) (log : List Performed) (s : CacheHistory) : Prop where
  capacity_eq : s.cache.capacity = capacity
  mem_stored : ∀ p ∈ s.cache.entries, p ∈ s.stored
  read_stored : ∀ p ∈ s.stored, Expr.read p.1 = .ok p.2
  distinct : (s.cache.entries.map (·.1)).Nodup
  /-- nothing is stored in a cache that is turned off -/
  disabled : capacity = 0 → s.stored = []
  size_le : ¬ late → s.cache.size ≤ capacity
  hits : s.cache.hits = log.countP (·.isHit)
  misses : s.cache.misses = log.countP (·.isMiss)

variable {capacity : Nat} {late : Prop} {log log' : List Performed} {s s' : CacheHistory}

theorem inv_start (capacity : Nat) (late : Prop) : Inv capacity late [] (start capacity) where
  capacity_eq := rfl
  mem_stored := nofun
  read_stored := nofun
  distinct := .nil
  disabled _ := rfl
  size_le _ := Nat.zero_le _
  hits := rfl
  misses := rfl

/-- Entries that were stored, with distinct texts, may be held instead of others. -/
theorem Inv.holding (h : Inv capacity late log s) {entries : List (String × Expr)}
    (hstored : ∀ p ∈ entries, p ∈ s.stored) (hkeys : (entries.map (·.1)).Nodup)
    (hsize : ¬ late → entries.length ≤ capacity) : Inv capacity late log (s.holding entries) where
  capacity_eq := h.capacity_eq
  mem_stored := hstored
  read_stored := h.read_stored
  distinct := hkeys
  disabled := h.disabled
  size_le := hsize
  hits := h.hits
  misses := h.misses

theorem Inv.performed (h : Inv capacity late log s) (eviction : Eviction) (operation : Operation) :
    Inv capacity late (log ++ [s.cache.record eviction operation])
      (s.performed eviction operation) where
  capacity_eq := ExpressionCache.capacity_perform.trans h.capacity_eq
  mem_stored p hp := by
    by_cases hclear : operation = .clear
    · subst hclear
      cases hp
    · rw [CacheHistory.performed, if_neg hclear]
      have hmem := ExpressionCache.entries_perform_sublist.mem hp
      exact List.mem_append.2 ((List.mem_append.1 hmem).imp_right (h.mem_stored p))
  read_stored p hp := by
    unfold CacheHistory.performed at hp
    split at hp
    · cases hp
    · rcases List.mem_append.1 hp with hp | hp
      · exact ExpressionCache.read_of_mem_storedBy hp
      · exact h.read_stored p hp
  distinct :=
    (ExpressionCache.nodup_storedBy h.distinct).sublist
      (ExpressionCache.entries_perform_sublist.map _)
  disabled hzero := by
    unfold CacheHistory.performed
    split
    · rfl
    · rw [ExpressionCache.storedBy_of_disabled (h.capacity_eq.trans hzero), h.disabled hzero]
      rfl
  size_le hlate := by
    have hsize := h.size_le hlate
    rw [← h.capacity_eq] at hsize ⊢
    exact ExpressionCache.size_perform_le hsize
  hits := by
    rw [List.countP_append, ← h.hits, List.countP_singleton]
    exact (ExpressionCache.counters_perform s.cache eviction operation).1
  misses := by
    rw [List.countP_append, ← h.misses, List.countP_singleton]
    exact (ExpressionCache.counters_perform s.cache eviction operation).2

theorem Inv.step (h : Inv capacity late log s) (hstep : Step late s log' s') :
    Inv capacity late (log ++ log') s' := by
  cases hstep with
  | operation eviction operation => exact h.performed eviction operation
  | evicted hsub =>
    rw [List.append_nil]
    exact h.holding (fun p hp => h.mem_stored p (hsub.mem hp)) (h.distinct.sublist (hsub.map _))
      fun hprompt => Nat.le_trans hsub.length_le (h.size_le hprompt)
  | lingering hlate hstored hkeys =>
    rw [List.append_nil]
    exact h.holding hstored hkeys fun hprompt => absurd hlate hprompt

theorem Inv.run (hrun : Run late (start capacity) log s) : Inv capacity late log s := by
  induction hrun with
  | refl => exact inv_start capacity late
  | step _ hstep ih => exact ih.step hstep

theorem counted_of_run (hrun : Run late (start capacity) log s) :
    ∀ p ∈ log, p.Counted capacity := by
  induction hrun with
  | refl => exact List.forall_mem_nil _
  | step hrun hstep ih =>
    refine List.forall_mem_append.2 ⟨ih, ?_⟩
    cases hstep with
    | operation eviction operation =>
      rw [← (Inv.run hrun).capacity_eq]
      exact List.forall_mem_singleton.2 ExpressionCache.counted_record
    | evicted | lingering => exact List.forall_mem_nil _

/-- What is held was stored, so it was read. -/
theorem Inv.read_of_contains (h : Inv capacity late log s) {text : String}
    (hc : s.cache.contains text = true) :
    ∃ tree, s.cache.find? text = some tree ∧ Expr.read text = .ok tree := by
  rw [ExpressionCache.contains_eq_isSome, Option.isSome_iff_exists] at hc
  obtain ⟨tree, hfind⟩ := hc
  have hmem := h.mem_stored _ (ExpressionCache.mem_of_find? hfind)
  exact ⟨tree, hfind, h.read_stored _ hmem⟩

theorem Inv.not_contains (h : Inv capacity late log s) (hzero : capacity = 0) (text : String) :
    s.cache.contains text = false := by
  have hentries : s.cache.entries = [] := by
    refine List.eq_nil_iff_forall_not_mem.2 fun p hp => ?_
    have hstored := h.mem_stored p hp
    rw [h.disabled hzero] at hstored
    cases hstored
  rw [ExpressionCache.contains, hentries]
  rfl

end CacheHistory

/-- **What a cache holds and counts.**  Whatever is asked of a cache and whatever it loses in
    between: it holds each text once, with the tree that the text reads as, and no text that does
    not read; it holds no more trees than its capacity, at the latest when they are counted, and
    none at all if the capacity is zero; and its counters add up to the number of look-ups, a hit
    for each text that was held when it was looked up and a miss for each other one.  Nothing else
    is counted, and nothing is held right after the cache is cleared. -/
theorem accounts_of_run {capacity : Nat} {late : Prop} {log : List Performed} {s : CacheHistory}
    (hrun : CacheHistory.Run late (.start capacity) log s) :
    (∀ text, s.cache.contains text = true →
      ∃ tree, s.cache.find? text = some tree ∧ Expr.read text = .ok tree) ∧
    (s.cache.entries.map (·.1)).Nodup ∧
    (¬ late → s.cache.size ≤ capacity) ∧
    (capacity = 0 → ∀ text, s.cache.contains text = false) ∧
    s.cache.hits = log.countP (·.isHit) ∧ s.cache.misses = log.countP (·.isMiss) ∧
    s.cache.hits + s.cache.misses = log.countP (·.isLookUp) ∧
    ∀ p ∈ log, p.Counted capacity := by
  have hinv := CacheHistory.Inv.run hrun
  refine ⟨fun _ => hinv.read_of_contains, hinv.distinct, hinv.size_le, hinv.not_contains,
    hinv.hits, hinv.misses, ?_, CacheHistory.counted_of_run hrun⟩
  rw [Performed.countP_isLookUp, hinv.hits, hinv.misses]

/-- A cache with room for one tree: `a` lingers beside `b`, so that it is found again, until the
    trees are counted; `(` does not read. -/
theorem accounts_of_run_lingering :
    ∃ log s, CacheHistory.Run True (.start 1) log s ∧
      log.map (·.operation) = [.lookUp "a", .lookUp "(", .lookUp "b", .lookUp "a", .size] ∧
      s.cache.hits = 1 ∧ s.cache.hits + s.cache.misses = 4 ∧ ∀ p ∈ log, p.Counted 1 := by
  let read : CacheHistory := (((CacheHistory.start 1).performed .oldest (.lookUp "a")).performed
    .oldest (.lookUp "(")).performed .oldest (.lookUp "b")
  have hlate : ∀ p ∈ [("a", Expr.tag "a"), ("b", .tag "b")], p ∈ read.stored := by decide +kernel
  have hstart : CacheHistory.Run True (.start 1) [] (.start 1) := .refl
  have hread := ((hstart.step (.operation .oldest (.lookUp "a"))).step
    (.operation .oldest (.lookUp "("))).step (.operation .oldest (.lookUp "b"))
  have hrun := ((hread.step (.lingering trivial hlate (by decide))).step
    (.operation .oldest (.lookUp "a"))).step (.operation .oldest .size)
  obtain ⟨-, -, -, -, hhits, -, hall, hcounted⟩ := accounts_of_run hrun
  refine ⟨_, _, hrun, rfl, hhits.trans ?_, hall.trans ?_, hcounted⟩
  · decide +kernel
  · decide +kernel

end AudienceRouting
