/-
  Audience routing — how a tag in an expression matches the tags of an entity.

  By default a tag matches itself.  The options change that: case can be
  ignored, a tag that ends in `:` can stand for a whole category, and `*` can
  stand for any run of characters.
-/
import AudienceRouting.Glob
import AudienceRouting.TagSet
import AudienceRouting.Text.Lowercase

namespace AudienceRouting

structure MatchOptions where
  /-- compare characters as they are, and not their lowercase forms -/
  caseSensitive : Bool := true
  /-- a tag that ends in `:` matches every tag that starts with it -/
  categoryMode : Bool := false
  /-- a tag with `*` in it is a pattern; `*` alone matches also without any tag -/
  wildcards : Bool := false
  deriving DecidableEq, Repr, Inhabited

/-- The ways in which a tag of an expression matches. -/
inductive LiteralKind where
  | exact
  | category
  | glob
  | everything
  deriving DecidableEq, Repr, Inhabited

namespace LiteralKind

/-- The way in which `literal` matches. -/
def of (literal : String) (options : MatchOptions) : LiteralKind :=
  if options.wildcards && literal == "*" then .everything
  else if options.categoryMode && literal.toList.getLast? == some ':' then .category
  else if options.wildcards && literal.toList.contains '*' then .glob
  else .exact

/-- Whether `pattern` matches one tag. -/
def accepts (kind : LiteralKind) (pattern tag : String) : Bool :=
  match kind with
  | .exact => tag == pattern
  | .category => pattern.toList.isPrefixOf tag.toList
  | .glob => Glob.covers pattern.toList tag.toList
  | .everything => true

end LiteralKind

namespace MatchOptions

/-- The form in which texts are compared. -/
def fold (options : MatchOptions) (s : String) : String :=
  if options.caseSensitive then s else Text.lowercase s

end MatchOptions

namespace TagSet

/-- Whether some tag satisfies a tag of an expression. -/
def satisfies (tags : TagSet) (literal : String) (options : MatchOptions) : Bool :=
  match LiteralKind.of literal options, options.caseSensitive with
  | .everything, _ => true
  | .exact, true => tags.contains literal
  | kind, _ =>
    let pattern := options.fold literal
    tags.toList.any fun tag => kind.accepts pattern (options.fold tag)

/-- The tags that satisfy a tag of an expression, in ascending order. -/
def satisfying (tags : TagSet) (literal : String) (options : MatchOptions) : List String :=
  match LiteralKind.of literal options with
  | .everything => tags.toList
  | kind =>
    let pattern := options.fold literal
    tags.toList.filter fun tag => kind.accepts pattern (options.fold tag)

end TagSet

end AudienceRouting
