/-
  Audience routing — a tree has what its text has, in the same order.

  * `Token.tag?`, `Token.isNegation`: the tag that a token is, and whether it is one of the
    signs `!` and `-`.
  * `Expr.negations e`: the number of negations in the tree.
  * `Expr.Echo es ts`: the trees have the tags of the tokens in their order, and as many
    negations as there are signs.

  Each way to put trees together goes with one to put tokens together, so every derivation
  echoes its tokens (`Derivation.echo`).
-/
import AudienceRouting.Proofs.Language
import AudienceRouting.Proofs.Merging
import AudienceRouting.Proofs.Queries

namespace AudienceRouting

/-! ## Tags and signs -/

namespace Token

def tag? : Token → Option String
  | .tag text => some text
  | _ => none

def isNegation : Token → Bool
  | .bang | .minus => true
  | _ => false

end Token

namespace Expr

mutual

def negations : Expr → Nat
  | .always | .tag _ => 0
  | .not child => negations child + 1
  | .chain _ operands => negationsAll operands

/-- The number of negations in all trees together. -/
def negationsAll : List Expr → Nat
  | [] => 0
  | e :: es => negations e + negationsAll es

end

variable {c : Connective} {e : Expr} {es es' : List Expr}

theorem negationsAll_append (es es' : List Expr) :
    negationsAll (es ++ es') = negationsAll es + negationsAll es' := by
  induction es with
  | nil => rw [List.nil_append, negationsAll, Nat.zero_add]
  | cons e es ih => rw [List.cons_append, negationsAll, negationsAll, ih, Nat.add_assoc]

theorem negationsAll_singleton (e : Expr) : negationsAll [e] = e.negations := rfl

theorem negationsAll_operandsFor (c : Connective) (e : Expr) :
    negationsAll (e.operandsFor c) = e.negations := by
  rcases operandsFor_cases c e with ⟨-, he⟩ | ⟨es, rfl, he⟩
  · rw [he, negationsAll_singleton]
  · rw [he, negations]

theorem negations_join (c : Connective) (es : List Expr) :
    (join c es).negations = negationsAll es := by
  have hmerged : negationsAll (es.flatMap (operandsFor c)) = negationsAll es := by
    induction es with
    | nil => rfl
    | cons e es ih =>
      rw [List.flatMap_cons, negationsAll_append, negationsAll_operandsFor, ih, negationsAll]
  rcases join_cases c es with he | ⟨-, hj⟩
  · rw [← hmerged, he, negationsAll_singleton]
  · rw [hj, negations, hmerged]

/-! ## Trees that echo tokens -/

structure Echo (es : List Expr) (ts : List Token) : Prop where
  leaves : leavesAll es = ts.filterMap Token.tag?
  negations : negationsAll es = ts.countP Token.isNegation

namespace Echo

variable {t : Token} {ts ts' : List Token}

theorem nil : Echo [] [] := ⟨rfl, rfl⟩

theorem tag (value : String) : Echo [.tag value] [.tag value] := ⟨rfl, rfl⟩

theorem append (h : Echo es ts) (h' : Echo es' ts') : Echo (es ++ es') (ts ++ ts') where
  leaves := by
    have hleaves : leavesAll (es ++ es') = leavesAll es ++ leavesAll es' := by
      simp only [leavesAll_eq_flatMap, List.flatMap_append]
    rw [hleaves, h.leaves, h'.leaves, List.filterMap_append]
  negations := by rw [negationsAll_append, h.negations, h'.negations, List.countP_append]

/-- A token that is neither a tag nor a sign leaves no trace. -/
theorem silent (ht : t.tag? = none) (hn : t.isNegation = false) : Echo [] [t] where
  leaves := by rw [List.filterMap_cons_none ht]; rfl
  negations := by rw [List.countP_cons_of_neg (by simp [hn])]; rfl

theorem not (hn : t.isNegation = true) (h : Echo [e] ts) : Echo [.not e] (t :: ts) where
  leaves := by
    have ht : t.tag? = none := by cases t <;> first | rfl | cases hn
    rw [List.filterMap_cons_none ht, ← h.leaves]
    rfl
  negations := by
    rw [List.countP_cons_of_pos hn, ← h.negations]
    rfl

theorem join (c : Connective) (h : Echo es ts) : Echo [join c es] ts where
  leaves := by rw [← h.leaves, leavesAll, leavesAll, List.append_nil, leaves_join]
  negations := by rw [← h.negations, negationsAll_singleton, negations_join]

end Echo

end Expr

/-! ## Derivations -/

mutual

theorem Derivation.echo : {p : Part} → (d : Derivation p) → Expr.Echo [d.tree] d.tokens
  | _, .tag value => .tag value
  | _, .group inner =>
    .append (.silent rfl rfl : Expr.Echo [] [.openParen])
      (inner.echo.append (.silent rfl rfl : Expr.Echo [] [.closeParen]))
  | _, .plain primary => primary.echo
  | _, .bang operand => operand.echo.not rfl
  | _, .minus operand => operand.echo.not rfl
  | _, .all first rest => .join .and (first.echo.append rest.echo)
  | _, .any first rest => .join .or (first.echo.append rest.echo)

theorem Continuation.echo : {c : Connective} → (k : Continuation c) → Expr.Echo k.trees k.tokens
  | _, .none _ => .nil
  | _, .plus operand rest =>
    .append (.silent rfl rfl : Expr.Echo [] [.plus]) (operand.echo.append rest.echo)
  | _, .minus operand rest => (operand.echo.not rfl).append rest.echo
  | _, .bar operand rest =>
    .append (.silent rfl rfl : Expr.Echo [] [.bar]) (operand.echo.append rest.echo)

end

/-! ## Texts -/

/-- **Reading keeps everything in its place.**  The tags of a tree, from left to right, are those of
    the text that it is read from; the tree has as many negations as the text has signs `!` and `-`;
    and its distinct tags are listed in the order in which they first stand in the text. -/
theorem tags_in_order_of_read {text : String} {e : Expr} (h : Expr.read text = .ok e) :
    ∃ lexemes, Token.scan text = .ok lexemes ∧
      e.leaves = lexemes.filterMap (·.token.tag?) ∧
      e.negations = lexemes.countP (·.token.isNegation) ∧
      e.literals = (lexemes.filterMap (·.token.tag?)).eraseDups := by
  have hecho : ∃ lexemes, Token.scan text = .ok lexemes ∧
      Expr.Echo [e] (lexemes.map (·.token)) := by
    rcases read_ok_iff.1 h with ⟨hblank, rfl⟩ | ⟨d, ⟨lexemes, hscan, htokens⟩, -, rfl⟩
    · obtain ⟨last, hscan⟩ := Token.scan_of_blank hblank
      exact ⟨_, hscan, rfl, rfl⟩
    · refine ⟨lexemes, hscan, ?_⟩
      rw [htokens]
      exact d.echo.append (.silent rfl rfl)
  obtain ⟨lexemes, hscan, htags, hsigns⟩ := hecho
  have hleaves : e.leaves = lexemes.filterMap (·.token.tag?) := by
    rw [List.filterMap_map, Expr.leavesAll, Expr.leavesAll, List.append_nil] at htags
    exact htags
  refine ⟨lexemes, hscan, hleaves, ?_, ?_⟩
  · rw [List.countP_map] at hsigns
    exact hsigns
  · rw [Expr.literals_eq_eraseDups, hleaves]

/-- A group is merged into the chain around it, and `b` is there twice. -/
theorem tags_in_order_of_read_merged : ∃ e, Expr.read "b+(!a-b) | -(c|a)" = .ok e ∧
    e.leaves = ["b", "a", "b", "c", "a"] ∧ e.negations = 3 ∧ e.literals = ["b", "a", "c"] := by
  have hread : Expr.read "b+(!a-b) | -(c|a)" = .ok (.any [.all [.tag "b", .not (.tag "a"),
      .not (.tag "b")], .not (.any [.tag "c", .tag "a"])]) := by decide +kernel
  obtain ⟨lexemes, hscan, hleaves, hnegations, hliterals⟩ := tags_in_order_of_read hread
  have htags : (Token.scan "b+(!a-b) | -(c|a)").map (List.filterMap (·.token.tag?)) =
      .ok ["b", "a", "b", "c", "a"] := by decide +kernel
  have hsigns : (Token.scan "b+(!a-b) | -(c|a)").map (List.countP (·.token.isNegation)) =
      .ok 3 := by decide +kernel
  rw [hscan] at htags hsigns
  refine ⟨_, hread, hleaves.trans (Except.ok.inj htags), hnegations.trans (Except.ok.inj hsigns),
    hliterals.trans ?_⟩
  rw [Except.ok.inj htags]
  decide +kernel

end AudienceRouting
