/-
  Audience routing — explanations as JSON.

  A node is an object with its kind, its tag, its verdict, the tags that
  satisfied it and its children, in this order.  The root also has the text of
  the expression.  Lists without items are left out.
-/
import AudienceRouting.Explanation
import AudienceRouting.Expr.Kind
import AudienceRouting.Json

namespace AudienceRouting

namespace Annotated

/-- The members that every node has. -/
def headMembers (kind : NodeKind) (expression value : Option String) (v : Verdict) :
    List (String × Json) :=
  [("type", .string kind.name)] ++
    (expression.map fun s => ("expression", Json.string s)).toList ++
    (value.map fun s => ("value", Json.string s)).toList ++
    [("matched", .bool v.matched), ("decisive", .bool v.decisive)]

/-- A member for a list that is not empty. -/
def listMember (name : String) (items : List Json) : List (String × Json) :=
  if items.isEmpty then [] else [(name, .array items)]

mutual

/-- The members of a node, with `expression` among them where it is given. -/
def members (expression : Option String) : Annotated → List (String × Json)
  | .always v => headMembers .always expression none v
  | .tag v value matchedTags =>
    headMembers .tag expression (some value) v ++
      listMember "matched_tags" (matchedTags.map .string)
  | .not v child =>
    headMembers .not expression none v ++
      listMember "children" [.object (members none child)]
  | .chain v c operands =>
    headMembers (.chain c) expression none v ++ listMember "children" (toJsons operands)

def toJsons : List Annotated → List Json
  | [] => []
  | a :: rest => .object (members none a) :: toJsons rest

end

end Annotated

/-- The annotated tree, with the text of the expression at the root. -/
def Explanation.toJson (x : Explanation) : Json :=
  .object (x.root.members (some x.expression))

end AudienceRouting
