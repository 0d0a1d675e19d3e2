/-
  Audience routing — reading the arguments of the command line.

  Arguments are read one after another.  A switch is known by a long name behind
  two hyphens, or by a letter behind one; several letters may share a hyphen.  A
  switch with a value takes what is attached to it, or else the next argument.
  Behind `--` nothing is a switch any more.

  An expression may begin with a hyphen.  So while a command waits for its
  expression, an argument with a hyphen that does not spell known switches is
  taken as it stands; by the same rule it can be the value of a switch that waits
  for one.
-/
import AudienceRouting.CommandLine

namespace AudienceRouting

/-! ## Switches -/

inductive Switch where
  | config
  | verbose
  | help
  | version
  | pretty
  | tag
  | ignoreCase
  | categoryMode
  | wildcards
  | entities
  | audiences
  | severity
  deriving DecidableEq, Repr, Inhabited

namespace Switch

/-- The name behind two hyphens. -/
def long : Switch → String
  | config => "config"
  | verbose => "verbose"
  | help => "help"
  | version => "version"
  | pretty => "pretty"
  | tag => "tag"
  | ignoreCase => "ignore-case"
  | categoryMode => "category-mode"
  | wildcards => "wildcards"
  | entities => "entities"
  | audiences => "audiences"
  | severity => "severity"

/-- The letter behind one hyphen. -/
def short? : Switch → Option Char
  | config => some 'c'
  | verbose => some 'v'
  | help => some 'h'
  | version => some 'V'
  | tag => some 't'
  | entities => some 'e'
  | audiences => some 'a'
  | severity => some 's'
  | _ => none

def takesValue : Switch → Bool
  | config | tag | entities | audiences | severity => true
  | _ => false

/-- Whether the value is a path, which is not empty. -/
def takesPath : Switch → Bool
  | config | entities | audiences => true
  | _ => false

/-- Whether the switch may be given more than once. -/
def isRepeatable (s : Switch) : Bool := s == tag

/-- Whether the switch asks for a text about the command line, and not for a run. -/
def isInquiry : Switch → Bool
  | help | version => true
  | _ => false

/-- The switches for matching. -/
def matching : List Switch := [ignoreCase, categoryMode, wildcards]

/-- The switches that may stand before and behind the name of the command. -/
def everywhere : List Switch := [config, verbose, help]

end Switch

/-! ## What is given -/

/-- Where arguments stand: what is known there. -/
structure Scope where
  switches : List Switch
  /-- an expression belongs there -/
  takesExpression : Bool
  deriving DecidableEq, Repr, Inhabited

/-- What has been read of the arguments in one scope. -/
structure Given where
  /-- the switches with their values, latest first; a flag has an empty one -/
  switches : List (Switch × String) := []
  expression : Option String := none
  /-- the switch that waits for its value -/
  pending : Option Switch := none
  /-- `--` has been read -/
  closed : Bool := false
  deriving DecidableEq, Repr, Inhabited

namespace Given

def has (g : Given) (s : Switch) : Bool := g.switches.any (·.1 == s)

/-- The values of a switch in order. -/
def values (g : Given) (s : Switch) : List String :=
  (g.switches.reverse.filter (·.1 == s)).map (·.2)

def value? (g : Given) (s : Switch) : Option String := (g.values s).head?

/-- Adds a switch, unless it is not allowed here again or its value is none. -/
def add (g : Given) (s : Switch) (value : String) : Option Given :=
  if s.isInquiry || (g.has s && !s.isRepeatable) || (s.takesPath && value.isEmpty) then none
  else some { g with switches := (s, value) :: g.switches, pending := none }

end Given

namespace Scope

def ofLong? (scope : Scope) (name : String) : Option Switch :=
  scope.switches.find? (·.long == name)

def ofShort? (scope : Scope) (letter : Char) : Option Switch :=
  scope.switches.find? (·.short? == some letter)

/-- Whether the expression of the scope is still to come. -/
def awaitsExpression (scope : Scope) (g : Given) : Bool :=
  scope.takesExpression && g.expression.isNone

/-- Takes an argument that is no switch. -/
def takeWord (scope : Scope) (g : Given) (arg : String) : Option Given :=
  match g.pending with
  | some s => if g.closed then none else g.add s arg
  | none => if scope.awaitsExpression g then some { g with expression := some arg } else none

/-- Takes a switch, with the value that is attached to it. -/
def takeSwitch (g : Given) (s : Switch) (attached : Option String) : Option Given :=
  match g.pending, s.takesValue, attached with
  | none, true, none => some { g with pending := some s }
  | none, true, some value => g.add s value
  | none, false, none => g.add s ""
  | _, _, _ => none

/-- Takes switches that share a hyphen. -/
def takeLetters (scope : Scope) (g : Given) : List Char → Option Given
  | [] => some g
  | c :: rest =>
    match scope.ofShort? c with
    | none => none
    | some s =>
      if s.takesValue then
        match rest with
        | [] => takeSwitch g s none
        | '=' :: value => takeSwitch g s (some (String.ofList value))
        | value => takeSwitch g s (some (String.ofList value))
      else (takeSwitch g s none).bind (scope.takeLetters · rest)

/-- Splits a text at its first equals sign. -/
def splitValue (text : List Char) : String × Option String :=
  let name := text.takeWhile (· != '=')
  (String.ofList name,
    match text.drop name.length with
    | _ :: value => some (String.ofList value)
    | [] => none)

/-- Takes the next argument. -/
def takeArgument (scope : Scope) (g : Given) (arg : String) : Option Given :=
  if g.closed then scope.takeWord g arg
  else
    match arg.toList with
    | ['-', '-'] => some { g with closed := true }
    | '-' :: '-' :: text =>
      let (name, attached) := splitValue text
      match scope.ofLong? name with
      | some s => takeSwitch g s attached
      | none => if scope.awaitsExpression g then scope.takeWord g arg else none
    | '-' :: c :: letters =>
      if scope.awaitsExpression g && (c :: letters).any (fun c => (scope.ofShort? c).isNone) then
        scope.takeWord g arg
      else scope.takeLetters g (c :: letters)
    | _ => scope.takeWord g arg

/-- Takes all arguments; none may be left waiting for its value. -/
def takeAll (scope : Scope) (g : Given) : List String → Option Given
  | [] => if g.pending.isNone then some g else none
  | arg :: rest => (scope.takeArgument g arg).bind (scope.takeAll · rest)

end Scope

/-! ## Commands -/

/-- The names of the commands. -/
inductive CommandName where
  | parse
  | eval
  | explain
  | resolve
  | route
  deriving DecidableEq, Repr, Inhabited

namespace CommandName

def ofText? : String → Option CommandName
  | "parse" => some parse
  | "eval" => some eval
  | "explain" => some explain
  | "resolve" => some resolve
  | "route" => some route
  | _ => none

/-- What is known behind the name. -/
def scope : CommandName → Scope
  | parse => ⟨Switch.everywhere ++ [.pretty], true⟩
  | eval => ⟨Switch.everywhere ++ .tag :: Switch.matching, true⟩
  | explain => ⟨Switch.everywhere ++ .tag :: .pretty :: Switch.matching, true⟩
  | resolve => ⟨Switch.everywhere ++ .entities :: Switch.matching, true⟩
  | route =>
    ⟨Switch.everywhere ++ .audiences :: .entities :: .severity :: .pretty :: Switch.matching, false⟩

end CommandName

/-- The flags for matching that are given. -/
def Given.flags (g : Given) : MatchFlags :=
  ⟨g.has .ignoreCase, g.has .categoryMode, g.has .wildcards⟩

/-- The command with what is given behind its name, if nothing is missing. -/
def CommandName.toCommand? (name : CommandName) (g : Given) : Option Command :=
  match name with
  | parse => do some (.parse (← g.expression) (g.has .pretty))
  | eval => do some (.eval (← g.expression) (g.values .tag) g.flags)
  | explain => do some (.explain (← g.expression) (g.values .tag) g.flags (g.has .pretty))
  | resolve => do some (.resolve (← g.expression) (← g.value? .entities) g.flags)
  | route => do
    some (.route (← g.value? .audiences) (← g.value? .entities) (g.value? .severity) g.flags
      (g.has .pretty))

namespace CommandLine

/-- What is known before the name of the command. -/
def outerScope : Scope := ⟨.version :: Switch.everywhere, false⟩

/-- Takes the arguments up to the name of the command, and says what follows it. -/
def takeOuter (g : Given) : List String → Option (Given × CommandName × List String)
  | [] => none
  | arg :: rest =>
    match (if g.pending.isNone && !g.closed then CommandName.ofText? arg else none) with
    | some name => some (g, name, rest)
    | none => (outerScope.takeArgument g arg).bind (takeOuter · rest)

/-- The path of the configuration: the one behind the name of the command, else the one before
    it, else the one from the environment.  That one may be empty only if it is not looked at. -/
def configPath? (inner outer preset : Option String) : Option (Option String) :=
  if preset = some "" && (inner.isNone || outer.isNone) then none
  else some (inner.or (outer.or preset))

/-- The name of the variable with the path of the configuration. -/
def configVariable : String := "TAGROUTE_CONFIG"

/-- Reads arguments; `preset` is the path of the configuration in the environment. -/
def read? (preset : Option String) (args : List String) : Option CommandLine := do
  let (outer, name, rest) ← takeOuter {} args
  let inner ← name.scope.takeAll {} rest
  let config ← configPath? (inner.value? .config) (outer.value? .config) preset
  some {
    command := ← name.toCommand? inner
    config := config
    verbose := outer.has .verbose || inner.has .verbose }

end CommandLine

end AudienceRouting
