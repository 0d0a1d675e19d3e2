/-
  Audience routing — how severe a notification is.

  The levels are names in ascending order of severity.  There is at least one,
  and none of them is repeated.
-/

namespace AudienceRouting

/-- The first string that repeats one before it; `seen` holds those before the list. -/
def firstRepeated (seen : List String) : List String → Option String
  | [] => none
  | x :: rest => if x ∈ seen then some x else firstRepeated (x :: seen) rest

theorem nodup_of_firstRepeated {seen xs : List String} (h : firstRepeated seen xs = none) :
    xs.Nodup ∧ ∀ x ∈ xs, x ∉ seen := by
  induction xs generalizing seen with
  | nil => simp
  | cons x rest ih =>
    unfold firstRepeated at h
    split at h
    · contradiction
    · have ⟨hnodup, hseen⟩ := ih h
      have hx : x ∉ rest := fun hx => hseen x hx List.mem_cons_self
      refine ⟨List.nodup_cons.2 ⟨hx, hnodup⟩, fun y hy => ?_⟩
      rcases List.mem_cons.1 hy with rfl | hy
      · assumption
      · exact fun hmem => hseen y hy (List.mem_cons_of_mem _ hmem)

/-- Names of severities, the least severe first. -/
structure SeverityLevels where
  names : List String
  nonempty : names ≠ []
  nodup : names.Nodup

/-- Why names cannot serve as severity levels. -/
inductive SeverityError where
  | empty
  | duplicate (name : String)
  deriving DecidableEq, Repr, Inhabited

def SeverityError.message : SeverityError → String
  | .empty => "Config: severity_levels must not be empty"
  | .duplicate name => "Config: duplicate severity level '" ++ name ++ "'"

namespace SeverityLevels

/-- The names that are used unless others are configured. -/
def defaultNames : List String := ["low", "medium", "high", "emergency"]

/-- The levels with the given names, the least severe first. -/
def ofNames (names : List String) : Except SeverityError SeverityLevels :=
  if hne : names = [] then .error .empty
  else
    match h : firstRepeated [] names with
    | some name => .error (.duplicate name)
    | none => .ok ⟨names, hne, (nodup_of_firstRepeated h).1⟩

instance : Inhabited SeverityLevels := ⟨defaultNames, by decide, by decide⟩

/-- The position of a level; the higher, the more severe. -/
def rank? (levels : SeverityLevels) (name : String) : Option Nat :=
  levels.names.findIdx? (· == name)

def contains (levels : SeverityLevels) (name : String) : Bool := (levels.rank? name).isSome

/-- The least severe level. -/
def lowest (levels : SeverityLevels) : String := levels.names.head levels.nonempty

/-- Whether both are levels and the first is at least as severe as the second. -/
def isAtLeast (levels : SeverityLevels) (severity minimum : String) : Bool :=
  match levels.rank? severity, levels.rank? minimum with
  | some s, some m => m ≤ s
  | _, _ => false

end SeverityLevels

end AudienceRouting
