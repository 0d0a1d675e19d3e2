/-
  Audience routing — what an explanation says of each node.

  * `nodeAt? children x path`: the node below `x` that a path leads to, each step of which is the
    position of a child.
  * `Annotated.Written a expression j`: the object `j` says of a node what `a` says of it.
  * `Explanation.Agrees x e tags options`: at every path, the explanation says of the node of `e`
    what evaluating that node says.

  The explanation of a tree has at a path the annotated tree that stands there, marked or not, and
  below a node that is not marked nothing is (`exists_nodeAt?_mark`).  In JSON it has the same nodes
  (`nodeAt?_object_members`).  So all explanations agree (`explain_agrees`).
-/
import AudienceRouting.Explanation.Encoding
import AudienceRouting.Proofs.Decisive

namespace AudienceRouting

/-! ## Nodes by their paths -/

section
variable {α β : Type} (children : α → List α)

/-- The node that a path leads to from `x`, unless it leads out of the tree. -/
def nodeAt? (x : α) : List Nat → Option α
  | [] => some x
  | i :: path => (children x)[i]?.bind (nodeAt? · path)

theorem nodeAt?_append (x : α) (path path' : List Nat) :
    nodeAt? children x (path ++ path') =
      (nodeAt? children x path).bind (nodeAt? children · path') := by
  induction path generalizing x with
  | nil => rfl
  | cons i path ih =>
    rw [List.cons_append, nodeAt?, nodeAt?]
    cases (children x)[i]? with
    | none => rfl
    | some child => exact ih child

/-- A function that keeps children keeps what paths lead to. -/
theorem nodeAt?_map {children' : β → List β} {f : α → β}
    (hf : ∀ x, children' (f x) = (children x).map f) (x : α) (path : List Nat) :
    nodeAt? children' (f x) path = (nodeAt? children x path).map f := by
  induction path generalizing x with
  | nil => rfl
  | cons i path ih =>
    rw [nodeAt?, nodeAt?, hf, List.getElem?_map]
    cases (children x)[i]? with
    | none => rfl
    | some child => exact ih child

end

/-- The tag at a leaf. -/
def Expr.value? : Expr → Option String
  | .tag value => some value
  | _ => none

namespace Annotated

def children : Annotated → List Annotated
  | .always _ | .tag _ _ _ => []
  | .not _ child => [child]
  | .chain _ _ operands => operands

/-! ## Annotations that are marked -/

theorem eraseAll_eq_map (as : List Annotated) : eraseAll as = as.map erase := by
  induction as with
  | nil => rfl
  | cons a as ih => simp [eraseAll, ih]

theorem decisive_mark (d : Bool) (a : Annotated) : (mark d a).decisive = d := by
  cases a <;> rfl

theorem matched_mark (d : Bool) (a : Annotated) : (mark d a).matched = a.matched := by
  cases a <;> rfl

end Annotated

namespace Expr

variable (tags : TagSet) (options : MatchOptions)

/-- Annotating and marking change nothing of the tree itself. -/
theorem erase_mark_annotate (d : Bool) (e : Expr) :
    ((e.annotate tags options).mark d).erase = e := by
  induction e generalizing d with
  | always => rfl
  | tag value => rfl
  | not child ih => exact congrArg Expr.not (ih d)
  | chain c es ih =>
    rw [annotate_chain, Annotated.mark, Annotated.markOperands_eq_map, Annotated.erase,
      Annotated.eraseAll_eq_map, List.map_map, List.map_map]
    exact congrArg (Expr.chain c) ((List.map_congr_left fun e he => ih e he _).trans es.map_id)

/-- Each child is marked only below a marked node. -/
theorem exists_children_mark (d : Bool) (e : Expr) : ∃ decides : Expr → Bool,
    ((e.annotate tags options).mark d).children =
      e.children.map fun child => (child.annotate tags options).mark (d && decides child) := by
  cases e with
  | always => exact ⟨fun _ => true, rfl⟩
  | tag value => exact ⟨fun _ => true, rfl⟩
  | not child =>
    exact ⟨fun _ => true, by simp [annotate, Annotated.mark, Annotated.children, children]⟩
  | chain c es =>
    refine ⟨decides tags options c es, ?_⟩
    rw [annotate_chain, Annotated.mark, Annotated.markOperands_eq_map, Annotated.children,
      List.map_map, children]
    refine List.map_congr_left fun e _ => ?_
    rw [Function.comp_apply, matched_annotate]
    rfl

/-- A path leads to the annotated tree that stands there, which is marked only below marked
    nodes. -/
theorem exists_nodeAt?_mark (d : Bool) (e : Expr) (path : List Nat) : ∃ d' : Bool,
    (d' = true → d = true) ∧
    nodeAt? Annotated.children ((e.annotate tags options).mark d) path =
      (nodeAt? children e path).map fun sub => (sub.annotate tags options).mark d' := by
  -- a mark can only get lost on the way down, so each step keeps what is known of the root
  induction path generalizing d e with
  | nil => exact ⟨d, id, rfl⟩
  | cons i path ih =>
    obtain ⟨decides, hchildren⟩ := exists_children_mark tags options d e
    rw [nodeAt?, nodeAt?, hchildren, List.getElem?_map]
    cases e.children[i]? with
    | none => exact ⟨d, id, rfl⟩
    | some child =>
      obtain ⟨d', hd', hnode⟩ := ih (d && decides child) child
      exact ⟨d', fun h => (Bool.and_eq_true _ _ ▸ hd' h).1, hnode⟩

end Expr

/-! ## Explanations as JSON -/

/-- What an object lists as its children. -/
def Json.children (j : Json) : List Json :=
  match j.member? "children" with
  | some (.array items) => items
  | _ => []

namespace Annotated

/-- The object says of a node what the annotation says: its kind, its tag, its verdict, and no
    matched tags unless it is a tag.  It has a text if there is an `expression`. -/
structure Written (a : Annotated) (expression : Option String) (j : Json) : Prop where
  kind : j.member? "type" = some (.string a.erase.kind.name)
  expression : j.member? "expression" = expression.map .string
  value : j.member? "value" = a.erase.value?.map .string
  matched : j.member? "matched" = some (.bool a.matched)
  decisive : j.member? "decisive" = some (.bool a.decisive)
  matchedTags : a.erase.kind ≠ .tag → j.member? "matched_tags" = none

theorem toJsons_eq_map (as : List Annotated) :
    toJsons as = as.map fun a => .object (a.members none) := by
  induction as with
  | nil => rfl
  | cons a as ih => rw [toJsons, ih, List.map_cons]

theorem children_object_members (expression : Option String) (a : Annotated) :
    (Json.object (a.members expression)).children =
      a.children.map fun child => .object (child.members none) := by
  cases a with
  | always v => cases expression <;> rfl
  | tag v value matchedTags => cases expression <;> cases matchedTags <;> rfl
  | not v child => cases expression <;> rfl
  | chain v c operands =>
    rw [members, toJsons_eq_map]
    cases expression <;> cases operands <;> rfl

theorem written_members (expression : Option String) (a : Annotated) :
    a.Written expression (.object (a.members expression)) := by
  cases a with
  | always v => cases expression <;> exact ⟨rfl, rfl, rfl, rfl, rfl, fun _ => rfl⟩
  | tag v value matchedTags =>
    cases expression <;> cases matchedTags <;>
      exact ⟨rfl, rfl, rfl, rfl, rfl, fun h => absurd rfl h⟩
  | not v child => cases expression <;> exact ⟨rfl, rfl, rfl, rfl, rfl, fun _ => rfl⟩
  | chain v c operands =>
    cases expression <;> cases operands <;> exact ⟨rfl, rfl, rfl, rfl, rfl, fun _ => rfl⟩

/-- In JSON a path leads to the same node, which has a text only if it is the root. -/
theorem nodeAt?_object_members (expression : Option String) (a : Annotated) (path : List Nat) :
    nodeAt? Json.children (.object (a.members expression)) path =
      (nodeAt? children a path).map fun b =>
        .object (b.members (if path = [] then expression else none)) := by
  cases path with
  | nil => rfl
  | cons i path =>
    rw [nodeAt?, nodeAt?, children_object_members, List.getElem?_map]
    cases a.children[i]? with
    | none => rfl
    | some child => exact nodeAt?_map children (children_object_members none) child path

end Annotated

/-! ## Agreement at every node -/

/-- The explanation says of every node of `e` what the node evaluates to.  It has the nodes of `e`
    and no others, also as JSON; the root is decisive and has the text, and a node is decisive only
    if its parent is. -/
structure Explanation.Agrees (x : Explanation) (e : Expr) (tags : TagSet)
    (options : MatchOptions) : Prop where
  shape : ∀ path, (nodeAt? Annotated.children x.root path).map Annotated.erase =
    nodeAt? Expr.children e path
  matched : ∀ path a sub, nodeAt? Annotated.children x.root path = some a →
    nodeAt? Expr.children e path = some sub → a.matched = sub.holds tags options
  root_decisive : x.root.decisive = true
  parent_decisive : ∀ path i a b, nodeAt? Annotated.children x.root path = some a →
    nodeAt? Annotated.children x.root (path ++ [i]) = some b → b.decisive = true →
    a.decisive = true
  json_shape : ∀ path, (nodeAt? Json.children x.toJson path).isSome =
    (nodeAt? Expr.children e path).isSome
  json_nodes : ∀ path a j, nodeAt? Annotated.children x.root path = some a →
    nodeAt? Json.children x.toJson path = some j →
    a.Written (if path = [] then some e.text else none) j

/-- **An explanation agrees with evaluation at every node.** -/
theorem explain_agrees (e : Expr) (tags : TagSet) (options : MatchOptions) :
    (e.explain tags options).Agrees e tags options := by
  have hshape : ∀ path, (nodeAt? Annotated.children (e.explain tags options).root path).map
      Annotated.erase = nodeAt? Expr.children e path := by
    intro path
    obtain ⟨d, -, hnode⟩ := e.exists_nodeAt?_mark tags options true path
    rw [Expr.explain, hnode, Option.map_map]
    exact (congrArg (Option.map · _) (funext (Expr.erase_mark_annotate tags options d))).trans
      Option.map_id'
  refine ⟨hshape, ?matched, Annotated.decisive_mark _ _, ?parent, ?json_shape, ?json⟩
  case matched =>
    intro path a sub ha hsub
    obtain ⟨d, -, hnode⟩ := e.exists_nodeAt?_mark tags options true path
    rw [Expr.explain, hnode, hsub] at ha
    obtain rfl := Option.some.inj ha
    rw [Annotated.matched_mark, Expr.matched_annotate]
  case parent =>
    intro path i a b ha hb hdecisive
    obtain ⟨d, -, hnode⟩ := e.exists_nodeAt?_mark tags options true path
    rw [Expr.explain] at ha hb
    rw [nodeAt?_append, ha, Option.bind_some] at hb
    rw [hnode] at ha
    obtain ⟨sub, -, rfl⟩ := Option.map_eq_some_iff.1 ha
    -- one more step, from the node that the path leads to
    obtain ⟨d', hd', hchild⟩ := sub.exists_nodeAt?_mark tags options d [i]
    rw [hchild] at hb
    obtain ⟨child, -, rfl⟩ := Option.map_eq_some_iff.1 hb
    rw [Annotated.decisive_mark] at hdecisive ⊢
    exact hd' hdecisive
  case json_shape =>
    intro path
    rw [Explanation.toJson, Annotated.nodeAt?_object_members, Option.isSome_map, ← hshape,
      Option.isSome_map]
  case json =>
    intro path a j ha hj
    rw [Explanation.toJson, Annotated.nodeAt?_object_members, ha] at hj
    obtain rfl := Option.some.inj hj
    exact Annotated.written_members _ a

/-- In a tree built by hand: a conjunction of nothing matches, and decides the disjunction that it
    is in, whose parent is decisive for that reason. -/
theorem explain_agrees_hand_built :
    ∃ a b, nodeAt? Annotated.children
        ((Expr.not (.chain .or [.chain .and [], .tag "a"])).explain (.ofList []) {}).root [0] =
          some a ∧
      nodeAt? Annotated.children
        ((Expr.not (.chain .or [.chain .and [], .tag "a"])).explain (.ofList []) {}).root [0, 0] =
          some b ∧
      b.matched = true ∧ a.decisive = true := by
  have h := explain_agrees (.not (.chain .or [.chain .and [], .tag "a"])) (.ofList []) {}
  refine ⟨_, _, rfl, rfl, h.matched [0, 0] _ (.chain .and []) rfl rfl, ?_⟩
  exact h.parent_decisive [0] 0 _ _ rfl rfl rfl

end AudienceRouting
