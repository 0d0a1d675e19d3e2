/-
  Audience routing — strictly ascending lists of strings.

  Sets of tags, entity registries and the members of JSON objects are kept in
  the order of their strings, character by character.  `ofList` sorts strings
  and drops repetitions; `ofPairs` does the same for pairs by their first
  component and keeps the last of several pairs with one key.
  `pairwise_ofList`, `pairwise_ofPairs`: the results are strictly ascending;
  `mem_ofList`: nothing else changes.
-/

namespace AudienceRouting.Ascending

variable {α : Type}

/-- Puts a string in its place unless it is there. -/
def insert (x : String) : List String → List String
  | [] => [x]
  | y :: rest =>
    if x < y then x :: y :: rest
    else if y < x then y :: insert x rest
    else y :: rest

/-- The distinct strings in ascending order. -/
def ofList (xs : List String) : List String := xs.foldr insert []

/-- Puts a pair in its place unless there is one with its key. -/
def insertPair (key : String) (value : α) : List (String × α) → List (String × α)
  | [] => [(key, value)]
  | (k, v) :: rest =>
    if key < k then (key, value) :: (k, v) :: rest
    else if k < key then (k, v) :: insertPair key value rest
    else (k, v) :: rest

/-- One pair for each key, the last one, in ascending order of the keys. -/
def ofPairs (pairs : List (String × α)) : List (String × α) :=
  pairs.foldr (fun p rest => insertPair p.1 p.2 rest) []

/-! ## Order and contents -/

theorem not_lt_iff_eq {x y : String} (h : ¬ x < y) (h' : ¬ y < x) : x = y :=
  String.le_antisymm (String.not_lt.1 h') (String.not_lt.1 h)

theorem mem_insert {x y : String} {xs : List String} : y ∈ insert x xs ↔ y = x ∨ y ∈ xs := by
  induction xs with
  | nil => simp [insert]
  | cons z rest ih =>
    unfold insert
    split
    · simp
    · split
      · simp only [List.mem_cons, ih]; exact or_left_comm
      · have := not_lt_iff_eq ‹_› ‹_›
        subst this
        simp only [List.mem_cons]
        exact ⟨Or.inr, fun h => h.elim Or.inl id⟩

theorem mem_ofList {y : String} {xs : List String} : y ∈ ofList xs ↔ y ∈ xs := by
  induction xs with
  | nil => simp [ofList]
  | cons x rest ih => simpa [ofList, mem_insert] using or_congr_right ih

theorem pairwise_insert {x : String} {xs : List String} (h : xs.Pairwise (· < ·)) :
    (insert x xs).Pairwise (· < ·) := by
  induction xs with
  | nil => simp [insert]
  | cons y rest ih =>
    have ⟨hy, hrest⟩ := List.pairwise_cons.1 h
    unfold insert
    split
    · rename_i hxy
      refine List.pairwise_cons.2 ⟨fun z hz => ?_, h⟩
      rcases List.mem_cons.1 hz with rfl | hz
      · exact hxy
      · exact String.lt_trans hxy (hy z hz)
    · split
      · rename_i hyx
        refine List.pairwise_cons.2 ⟨fun z hz => ?_, ih hrest⟩
        rcases mem_insert.1 hz with rfl | hz
        · exact hyx
        · exact hy z hz
      · exact h

theorem pairwise_ofList (xs : List String) : (ofList xs).Pairwise (· < ·) := by
  induction xs with
  | nil => simp [ofList]
  | cons x rest ih => exact pairwise_insert ih

/-- A list that is in order stays as it is. -/
theorem ofList_of_pairwise {xs : List String} (h : xs.Pairwise (· < ·)) : ofList xs = xs := by
  induction xs with
  | nil => rfl
  | cons x rest ih =>
    obtain ⟨hx, hrest⟩ := List.pairwise_cons.1 h
    show insert x (ofList rest) = x :: rest
    rw [ih hrest]
    cases rest with
    | nil => rfl
    | cons y rest => exact if_pos (hx y List.mem_cons_self)

theorem keys_insertPair (key : String) (value : α) (pairs : List (String × α)) :
    (insertPair key value pairs).map (·.1) = insert key (pairs.map (·.1)) := by
  induction pairs with
  | nil => rfl
  | cons p rest ih =>
    obtain ⟨k, v⟩ := p
    simp only [insertPair, insert, List.map_cons]
    split
    · rfl
    · split <;> simp [ih]

theorem keys_ofPairs (pairs : List (String × α)) :
    (ofPairs pairs).map (·.1) = ofList (pairs.map (·.1)) := by
  induction pairs with
  | nil => rfl
  | cons p rest ih =>
    simp only [ofPairs, ofList, List.foldr_cons, List.map_cons, keys_insertPair] at ih ⊢
    rw [ih]

theorem pairwise_ofPairs (pairs : List (String × α)) :
    ((ofPairs pairs).map (·.1)).Pairwise (· < ·) :=
  keys_ofPairs pairs ▸ pairwise_ofList _

end AudienceRouting.Ascending
