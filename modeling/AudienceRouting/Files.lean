/-
  Audience routing — files and their names.

  The parts of a path stand between slashes; a part that is a single dot does not
  count, but at the end it says that the path is one of a directory.  The
  extension is what follows the last dot of the last part, unless that dot is its
  first character.
-/

namespace AudienceRouting

/-- What can be read: the contents of the file at a path, if there is one. -/
structure Files where
  read? : String → Option String

instance : Inhabited Files := ⟨⟨fun _ => none⟩⟩

namespace Path

/-- The parts of a path that count. -/
def parts (path : String) : List String :=
  ((path.toList.splitOn '/').map String.ofList).filter fun part => part ≠ "" && part ≠ "."

/-- The path without what does not count. -/
def plain (path : String) : String :=
  (if path.toList.head? = some '/' then "/" else "") ++ String.intercalate "/" (parts path)

/-- The extension of the file at a path. -/
def extension? (path : String) : Option String :=
  match (parts path).getLast? with
  | none | some ".." => none
  | some name =>
    let reversed := name.toList.reverse
    let extension := reversed.takeWhile (· ≠ '.')
    match reversed.drop extension.length with
    | '.' :: _ :: _ => some (String.ofList extension.reverse)
    | _ => none

/-- Whether a path can be that of a directory only. -/
def isDirectory (path : String) : Bool :=
  match ((path.toList.splitOn '/').map String.ofList).getLast? with
  | some name => name == "" || name == "." || name == ".."
  | none => true

end Path

/-- A directory with nothing but the given files, each with its path and its content. -/
def Files.ofList (contents : List (String × String)) : Files where
  read? path :=
    if Path.isDirectory path then none
    else (contents.find? fun file => Path.plain file.1 = Path.plain path).map (·.2)

end AudienceRouting
