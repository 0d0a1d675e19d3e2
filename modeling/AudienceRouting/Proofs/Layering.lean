/-
  Audience routing — layers member by member.

  * `member? table name s`: the member `name` of the table `table` of the settings `s`.
  * `said? table name entry`: what an entry of a layer says about that member.  The entry is the
    table itself, or the member alone under the path `table.name`.
  * `givenBy? table name entries`: what the last entry says that says anything.
  * `Keeps table entry`: the entry leaves the table a table.
  * `Shows table name s given`: `given` is what `s` has for the member.  Where lists and tables are
    involved, what is there is some list or table.

  An entry changes no member but those that it says something about, also where it fills the same
  table (`Shows.ontoAt`).  So a whole layer leaves each member at what is said last about it, and
  those it says nothing about as they were (`Shows.layer`).
-/
import AudienceRouting.Settings

namespace AudienceRouting.Setting

def isTable : Setting → Bool
  | .table .. => true
  | _ => false

/-- Whether a setting is a list or a table. -/
def isContainer : Setting → Bool
  | .scalar .. => false
  | _ => true

/-- A member of a table among settings. -/
def member? (table name : String) (s : Setting) : Option Setting :=
  (find? table s.members).bind fun t => find? name t.members

/-! ## What layers say -/

/-- Of several members with the name the last one counts. -/
def said? (table name : String) (entry : String × Setting) : Option Setting :=
  match pathOf entry.1 with
  | [.key t] => if t = table then find? name entry.2.members.reverse else none
  | [.key t, .key n] => if t = table ∧ n = name then some entry.2 else none
  | _ => none

def givenBy? (table name : String) (entries : List (String × Setting)) : Option Setting :=
  entries.reverse.findSome? (said? table name)

/-- What stands at the path of the table is a table, and no path takes it for a list. -/
def Keeps (table : String) (entry : String × Setting) : Prop :=
  match pathOf entry.1 with
  | [.key t] => t = table → entry.2.isTable
  | .key t :: .index _ :: _ => t ≠ table
  | _ => True

instance (table : String) (entry : String × Setting) : Decidable (Keeps table entry) := by
  unfold Keeps
  split <;> infer_instance

variable {table name : String} {entries : List (String × Setting)}
  {entry : String × Setting}

theorem givenBy?_cons : givenBy? table name (entry :: entries) =
    (givenBy? table name entries).or (said? table name entry) := by
  rw [givenBy?, List.reverse_cons, List.findSome?_append, List.findSome?_singleton]
  rfl

/-- A path starts with a name. -/
theorem exists_pathOf_eq (text : String) : ∃ t rest, pathOf text = .key t :: rest := by
  unfold pathOf
  cases hread : readPath? text with
  | none => exact ⟨text, [], rfl⟩
  | some path =>
    simp only [readPath?] at hread
    split at hread
    · cases hread
    · obtain ⟨rest, -, hpath⟩ := Option.bind_eq_some_iff.1 hread
      exact ⟨_, rest, (Option.some.inj hpath).symm⟩

/-! ## What is put on top of members -/

/-- What is found for a setting is what is given, or some list or table. -/
def Agrees (given found : Option Setting) : Prop :=
  found = given ∨ ∃ s, found = some s ∧ s.isContainer

theorem agrees_onto (below : Option Setting) (top : Setting) :
    Agrees (some top) (some (onto below top)) := by
  cases top with
  | table => exact .inr ⟨_, rfl, rfl⟩
  | scalar | list => exact .inl rfl

theorem isContainer_ontoAt (below : Option Setting) (top : Setting) (step : Step)
    (rest : List Step) : (ontoAt below top (step :: rest)).isContainer := by
  cases step <;> rfl

theorem members_onto (below : Option Setting) (origin : Option Origin)
    (incoming : List (String × Setting)) :
    (onto below (.table origin incoming)).members =
      ontoMembers (below.elim [] members) incoming := by
  match below with
  | none | some (.scalar ..) | some (.list ..) | some (.table ..) => simp [onto, members]

theorem members_ontoAt (below : Option Setting) (top : Setting) (n : String) (rest : List Step) :
    (ontoAt below top (.key n :: rest)).members =
      put n (ontoAt (find? n (below.elim [] members)) top rest) (below.elim [] members) := by
  match below with
  | none | some (.scalar ..) | some (.list ..) | some (.table ..) => rfl

theorem find?_ontoMembers {given : Option Setting} (incoming : List (String × Setting))
    {below : List (String × Setting)} (h : Agrees given (find? name below)) :
    Agrees ((find? name incoming.reverse).or given) (find? name (ontoMembers below incoming)) := by
  -- each member that comes in counts as given to those behind it
  induction incoming generalizing given below with
  | nil => simpa [ontoMembers, find?] using h
  | cons m rest ih =>
    obtain ⟨n, v⟩ := m
    have hstep : Agrees ((if n = name then some v else none).or given)
        (find? name (put n (onto (find? n below) v) below)) := by
      rw [find?_put]
      split
      · exact agrees_onto _ _
      · exact h
    have hlast : find? name ((n, v) :: rest).reverse =
        (find? name rest.reverse).or (if n = name then some v else none) := by
      rw [List.reverse_cons, find?, List.find?_append, Option.map_or]
      exact congrArg _ (find?_cons name n v [])
    rw [hlast, Option.or_assoc, ontoMembers]
    exact ih hstep

/-! ## What a layer leaves -/

structure Shows (table name : String) (s : Setting) (given : Option Setting) : Prop where
  isTable : s.isTable
  /-- the table with the member is one, if it is there -/
  inner : ∀ t, find? table s.members = some t → t.isTable
  agrees : Agrees given (s.member? table name)

theorem shows_empty : Shows table name empty none where
  isTable := rfl
  inner := fun _ h => nomatch h
  agrees := .inl rfl

variable {s : Setting} {given : Option Setting}

theorem member?_eq : s.member? table name =
    find? name ((find? table s.members).elim [] members) := by
  unfold member?
  cases find? table s.members <;> rfl

/-- What an entry at a path into the table leaves of the member. -/
theorem agrees_inner {below : Option Setting} {rest : List Step}
    (h : Agrees given (find? name (below.elim [] members)))
    (hpath : pathOf entry.1 = .key table :: rest) (hkeeps : Keeps table entry) :
    (ontoAt below entry.2 rest).isTable ∧ Agrees ((said? table name entry).or given)
      (find? name (ontoAt below entry.2 rest).members) := by
  match rest with
  | [] =>
    simp only [Keeps, hpath, forall_const] at hkeeps
    simp only [said?, hpath, if_true]
    cases hvalue : entry.2 with
    | scalar | list => simp [hvalue, Setting.isTable] at hkeeps
    | table origin incoming =>
      rw [ontoAt, members_onto]
      exact ⟨by simp [onto, Setting.isTable], find?_ontoMembers incoming h⟩
  | [.key n] =>
    simp only [said?, hpath, true_and]
    rw [members_ontoAt, find?_put]
    refine ⟨rfl, ?_⟩
    split
    · exact agrees_onto _ _
    · exact h
  | .key n :: step :: rest =>
    simp only [said?, hpath, Option.none_or]
    rw [members_ontoAt, find?_put]
    refine ⟨rfl, ?_⟩
    split
    · exact .inr ⟨_, rfl, isContainer_ontoAt _ _ _ _⟩
    · exact h
  | .index position :: rest =>
    -- this would put a list in the place of the table
    simp [Keeps, hpath] at hkeeps

/-- **An entry of a layer** changes the member only if it says something about it. -/
theorem Shows.ontoAt (h : Shows table name s given) (hkeeps : Keeps table entry) :
    Shows table name (ontoAt (some s) entry.2 (pathOf entry.1))
      ((said? table name entry).or given) := by
  obtain ⟨t, rest, hpath⟩ := exists_pathOf_eq entry.1
  have hmembers : (Setting.ontoAt (some s) entry.2 (pathOf entry.1)).members =
      put t (Setting.ontoAt (find? t s.members) entry.2 rest) s.members := by
    rw [hpath]
    exact members_ontoAt _ _ _ _
  have hisTable : (Setting.ontoAt (some s) entry.2 (pathOf entry.1)).isTable := by
    rw [hpath]
    rfl
  by_cases ht : t = table
  · subst ht
    have hagrees := h.agrees
    rw [member?_eq] at hagrees
    obtain ⟨hinner, hfound⟩ := agrees_inner hagrees hpath hkeeps
    refine ⟨hisTable, fun u hu => ?_, ?_⟩
    · rw [hmembers, find?_put, if_pos rfl] at hu
      exact Option.some.inj hu ▸ hinner
    · rwa [member?_eq, hmembers, find?_put, if_pos rfl]
  · have hnothing : said? table name entry = none := by
      unfold said?
      rw [hpath]
      match rest with
      | [] | [.key _] | .key _ :: _ :: _ | .index _ :: _ => simp [ht]
    refine ⟨hisTable, fun u hu => ?_, ?_⟩
    · rw [hmembers, find?_put, if_neg ht] at hu
      exact h.inner u hu
    · rw [hnothing, Option.none_or, member?, hmembers, find?_put, if_neg ht]
      exact h.agrees

/-- **A layer** leaves the member at what its last entry about it says. -/
theorem Shows.layer (h : Shows table name s given) (hkeeps : ∀ entry ∈ entries, Keeps table entry) :
    Shows table name (s.layer entries) ((givenBy? table name entries).or given) := by
  induction entries generalizing s given with
  | nil => exact h
  | cons entry entries ih =>
    rw [List.forall_mem_cons] at hkeeps
    rw [givenBy?_cons, Option.or_assoc]
    exact ih (h.ontoAt hkeeps.1) hkeeps.2

end AudienceRouting.Setting
