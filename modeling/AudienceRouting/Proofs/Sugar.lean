/-
  Audience routing — `-` is another way to write `+!` and `!`.

  * `Derivation.withoutMinus d`: the derivation of the tokens of `d` without `-`.

  It has the tree of `d`, and its tokens stand at least as deep (`tree_withoutMinus`,
  `shallow_of_withoutMinus`), since `!` counts as a level of nesting and `-` does not.
  Where each `-` stands before a tag or a group, every derivation of the tokens without `-`
  comes from one of the tokens (`exists_of_withoutMinus`).  So the text without `-` is read as
  the text is, unless it is too deep (`minus_is_sugar`).
-/
import AudienceRouting.Proofs.Language
import AudienceRouting.Proofs.MinusFree
import AudienceRouting.Proofs.Nesting

namespace AudienceRouting

mutual

def Derivation.withoutMinus : {p : Part} → Derivation p → Derivation p
  | _, .tag value => .tag value
  | _, .group inner => .group inner.withoutMinus
  | _, .plain primary => .plain primary.withoutMinus
  | _, .bang operand => .bang operand.withoutMinus
  | _, .minus operand => .bang (.plain operand.withoutMinus)
  | _, .all first rest => .all first.withoutMinus rest.withoutMinus
  | _, .any first rest => .any first.withoutMinus rest.withoutMinus

def Continuation.withoutMinus : {c : Connective} → Continuation c → Continuation c
  | _, .none c => .none c
  | _, .plus operand rest => .plus operand.withoutMinus rest.withoutMinus
  | _, .minus operand rest => .plus (.bang (.plain operand.withoutMinus)) rest.withoutMinus
  | _, .bar operand rest => .bar operand.withoutMinus rest.withoutMinus

end

/-! ## The tree and the tokens -/

mutual

theorem Derivation.tree_withoutMinus : {p : Part} → (d : Derivation p) →
    d.withoutMinus.tree = d.tree
  | _, .tag _ => rfl
  | _, .group inner => inner.tree_withoutMinus
  | _, .plain primary => primary.tree_withoutMinus
  | _, .bang operand => congrArg Expr.not operand.tree_withoutMinus
  | _, .minus operand => congrArg Expr.not operand.tree_withoutMinus
  | _, .all first rest => by
    simp only [Derivation.withoutMinus, Derivation.tree, first.tree_withoutMinus,
      rest.trees_withoutMinus]
  | _, .any first rest => by
    simp only [Derivation.withoutMinus, Derivation.tree, first.tree_withoutMinus,
      rest.trees_withoutMinus]

theorem Continuation.trees_withoutMinus : {c : Connective} → (k : Continuation c) →
    k.withoutMinus.trees = k.trees
  | _, .none _ => rfl
  | _, .plus operand rest => by
    simp only [Continuation.withoutMinus, Continuation.trees, operand.tree_withoutMinus,
      rest.trees_withoutMinus]
  | _, .minus operand rest => by
    simp only [Continuation.withoutMinus, Continuation.trees, Derivation.tree,
      operand.tree_withoutMinus, rest.trees_withoutMinus]
  | _, .bar operand rest => by
    simp only [Continuation.withoutMinus, Continuation.trees, operand.tree_withoutMinus,
      rest.trees_withoutMinus]

end

mutual

/-- The tokens of a part, which no operand ends before, and of what follows it. -/
theorem Derivation.tokens_withoutMinus : {p : Part} → (d : Derivation p) → (rest : List Token) →
    Token.withoutMinus false (d.tokens ++ rest) =
      d.withoutMinus.tokens ++ Token.withoutMinus true rest
  | _, .tag _, _ => rfl
  | _, .group inner, rest => by
    have hinner := inner.tokens_withoutMinus (.closeParen :: rest)
    simp only [Derivation.withoutMinus, Derivation.tokens, List.cons_append, List.append_assoc,
      List.nil_append]
    exact congrArg (Token.openParen :: ·) hinner
  | _, .plain primary, rest => primary.tokens_withoutMinus rest
  | _, .bang operand, rest => congrArg (Token.bang :: ·) (operand.tokens_withoutMinus rest)
  | _, .minus operand, rest => congrArg (Token.bang :: ·) (operand.tokens_withoutMinus rest)
  | _, .all first k, rest => by
    rw [Derivation.tokens, List.append_assoc, first.tokens_withoutMinus, k.tokens_withoutMinus,
      Derivation.withoutMinus, Derivation.tokens, List.append_assoc]
  | _, .any first k, rest => by
    rw [Derivation.tokens, List.append_assoc, first.tokens_withoutMinus, k.tokens_withoutMinus,
      Derivation.withoutMinus, Derivation.tokens, List.append_assoc]

/-- The tokens that continue a chain, behind its last operand, and of what follows them. -/
theorem Continuation.tokens_withoutMinus : {c : Connective} → (k : Continuation c) →
    (rest : List Token) → Token.withoutMinus true (k.tokens ++ rest) =
      k.withoutMinus.tokens ++ Token.withoutMinus true rest
  | _, .none _, _ => rfl
  | _, .plus operand k, rest => by
    have hoperand := operand.tokens_withoutMinus (k.tokens ++ rest)
    rw [k.tokens_withoutMinus, ← List.append_assoc, ← List.append_assoc] at hoperand
    exact congrArg (Token.plus :: ·) hoperand
  | _, .minus operand k, rest => by
    have hoperand := operand.tokens_withoutMinus (k.tokens ++ rest)
    rw [k.tokens_withoutMinus, ← List.append_assoc, ← List.append_assoc] at hoperand
    exact congrArg (Token.plus :: Token.bang :: ·) hoperand
  | _, .bar operand k, rest => by
    have hoperand := operand.tokens_withoutMinus (k.tokens ++ rest)
    rw [k.tokens_withoutMinus, ← List.append_assoc, ← List.append_assoc] at hoperand
    exact congrArg (Token.bar :: ·) hoperand

end

theorem Derivation.Spells.withoutMinus {d : Derivation .or} {text : String} (h : d.Spells text) :
    d.withoutMinus.Spells (Text.withoutMinus text) := by
  rw [Derivation.spells_iff] at h ⊢
  have htokens := Token.ofText?_withoutMinus false text.toList
  rw [h, Option.map_some, d.tokens_withoutMinus] at htokens
  rwa [Text.withoutMinus, String.toList_ofList]

/-! ## Nesting -/

mutual

/-- A `!` nests, and the `-` that it stands for does not. -/
theorem Derivation.shallow_of_withoutMinus (outer : Nat) : {p : Part} → (d : Derivation p) →
    Shallow (d.withoutMinus.levels outer) → Shallow (d.levels outer)
  | _, .tag _, h => h
  | _, .group inner, h => by
    simp only [Derivation.withoutMinus, Derivation.levels, shallow_cons, shallow_append] at h ⊢
    exact ⟨h.1, inner.shallow_of_withoutMinus (outer + 1) h.2.1, h.2.2⟩
  | _, .plain primary, h => primary.shallow_of_withoutMinus outer h
  | _, .bang operand, h => by
    simp only [Derivation.withoutMinus, Derivation.levels, shallow_cons] at h ⊢
    exact ⟨h.1, operand.shallow_of_withoutMinus (outer + 1) h.2⟩
  | _, .minus operand, h => by
    simp only [Derivation.withoutMinus, Derivation.levels, shallow_cons] at h ⊢
    exact ⟨h.1, operand.shallow_of_deeper (operand.shallow_of_withoutMinus (outer + 1) h.2)⟩
  | _, .all first rest, h => by
    simp only [Derivation.withoutMinus, Derivation.levels, shallow_append] at h ⊢
    exact ⟨first.shallow_of_withoutMinus outer h.1, rest.shallow_of_withoutMinus outer h.2⟩
  | _, .any first rest, h => by
    simp only [Derivation.withoutMinus, Derivation.levels, shallow_append] at h ⊢
    exact ⟨first.shallow_of_withoutMinus outer h.1, rest.shallow_of_withoutMinus outer h.2⟩

theorem Continuation.shallow_of_withoutMinus (outer : Nat) : {c : Connective} →
    (k : Continuation c) → Shallow (k.withoutMinus.levels outer) → Shallow (k.levels outer)
  | _, .none _, h => h
  | _, .plus operand rest, h => by
    simp only [Continuation.withoutMinus, Continuation.levels, shallow_cons, shallow_append] at h ⊢
    exact ⟨h.1, operand.shallow_of_withoutMinus outer h.2.1,
      rest.shallow_of_withoutMinus outer h.2.2⟩
  | _, .minus operand rest, h => by
    simp only [Continuation.withoutMinus, Continuation.levels, Derivation.levels, shallow_cons,
      shallow_append] at h ⊢
    exact ⟨h.1, operand.shallow_of_deeper (operand.shallow_of_withoutMinus (outer + 1) h.2.1.2),
      rest.shallow_of_withoutMinus outer h.2.2⟩
  | _, .bar operand rest, h => by
    simp only [Continuation.withoutMinus, Continuation.levels, shallow_cons, shallow_append] at h ⊢
    exact ⟨h.1, operand.shallow_of_withoutMinus outer h.2.1,
      rest.shallow_of_withoutMinus outer h.2.2⟩

end

theorem Derivation.Fits.of_withoutMinus {d : Derivation .or} (h : d.withoutMinus.Fits) : d.Fits :=
  ⟨d.shallow_of_withoutMinus 0 h.1, d.tree_withoutMinus ▸ h.2⟩

/-! ## Back to `-` -/

namespace Token

variable {t : Token} {ts us : List Token}

theorem MinusApplies.tail (h : MinusApplies (t :: ts)) : MinusApplies ts := List.IsChain.tail h

theorem MinusApplies.of_append (h : MinusApplies (us ++ ts)) : MinusApplies ts :=
  List.IsChain.right_of_append h

/-- The first token without `-`.  What a `-` leaves is its `+` behind an operand, before its `!`,
    and else its `!`. -/
theorem withoutMinus_eq_cons {behind : Bool} (h : withoutMinus behind ts = t :: us) : ∃ rest,
    (ts = t :: rest ∧ t ≠ .minus ∧ withoutMinus t.endsOperand rest = us) ∨
      (ts = .minus :: rest ∧ (t = bif behind then .plus else .bang) ∧
        withoutMinus false (bif behind then ts else rest) = us) := by
  cases ts with
  | nil => cases h
  | cons s rest =>
    refine ⟨rest, ?_⟩
    cases s with
    | minus =>
      right
      cases behind <;> (obtain ⟨rfl, hus⟩ := List.cons.inj h; exact ⟨rfl, rfl, hus⟩)
    | _ =>
      left
      obtain ⟨rfl, hus⟩ := List.cons.inj h
      exact ⟨rfl, by simp, hus⟩

theorem withoutMinus_eq_nil {behind : Bool} (h : withoutMinus behind ts = []) : ts = [] := by
  cases ts with
  | nil => rfl
  | cons t rest => cases t <;> cases behind <;> cases h

end Token

/-- A negated part does not start with a tag or a group. -/
theorem Derivation.exists_plain (d : Derivation .not) {t : Token} {ts : List Token}
    (h : d.tokens = t :: ts) (ht : t.startsPrimary = true) :
    ∃ primary : Derivation .primary, d = .plain primary := by
  cases d with
  | plain primary => exact ⟨primary, rfl⟩
  | bang operand =>
    obtain ⟨rfl, -⟩ := List.cons.inj h
    cases ht
  | minus operand =>
    obtain ⟨rfl, -⟩ := List.cons.inj h
    cases ht

/-- Only one production starts with `-`. -/
theorem Derivation.exists_minus (d : Derivation .not) {ts rest : List Token}
    (h : .minus :: ts = d.tokens ++ rest) :
    ∃ primary : Derivation .primary, d = .minus primary := by
  cases d with
  | plain primary =>
    obtain ⟨t, us, ht, -, hminus⟩ := primary.head_primary rest
    rw [Derivation.tokens, ht] at h
    exact absurd (List.cons.inj h).1.symm hminus
  | bang operand => cases h
  | minus operand => exact ⟨operand, rfl⟩

mutual

/-- A part of the tokens without `-`, which no operand ends before, comes from a part of the
    tokens. -/
theorem Derivation.exists_of_withoutMinus : {p : Part} → (d : Derivation p) →
    {ts us : List Token} → Token.MinusApplies ts →
    Token.withoutMinus false ts = d.tokens ++ us →
    ∃ (d' : Derivation p) (rest : List Token), ts = d'.tokens ++ rest ∧ d'.withoutMinus = d ∧
      Token.withoutMinus true rest = us
  | _, .tag value, ts, us, _, h => by
    obtain ⟨rest, ⟨rfl, -, hrest⟩ | ⟨-, hbang, -⟩⟩ := Token.withoutMinus_eq_cons h
    · exact ⟨.tag value, rest, rfl, rfl, hrest⟩
    · cases hbang
  | _, .group inner, ts, us, ha, h => by
    rw [Derivation.tokens, List.cons_append, List.append_assoc] at h
    obtain ⟨more, ⟨rfl, -, hmore⟩ | ⟨-, hbang, -⟩⟩ := Token.withoutMinus_eq_cons h
    · obtain ⟨inner', closing, rfl, hinner, hclosing⟩ :=
        inner.exists_of_withoutMinus ha.tail hmore
      obtain ⟨rest, ⟨rfl, -, hrest⟩ | ⟨-, hplus, -⟩⟩ := Token.withoutMinus_eq_cons hclosing
      · exact ⟨.group inner', rest, by simp [Derivation.tokens], congrArg Derivation.group hinner,
          hrest⟩
      · cases hplus
    · cases hbang
  | _, .plain primary, ts, us, ha, h => by
    obtain ⟨primary', rest, rfl, rfl, hrest⟩ := primary.exists_of_withoutMinus ha h
    exact ⟨.plain primary', rest, rfl, rfl, hrest⟩
  | _, .bang operand, ts, us, ha, h => by
    obtain ⟨more, ⟨rfl, -, hmore⟩ | ⟨rfl, -, hmore⟩⟩ := Token.withoutMinus_eq_cons h
    · obtain ⟨operand', rest, rfl, ho, hrest⟩ :=
        operand.exists_of_withoutMinus ha.tail hmore
      exact ⟨.bang operand', rest, rfl, congrArg Derivation.bang ho, hrest⟩
    · -- the `!` stands for a `-`, and what follows a `-` is no negation
      obtain ⟨operand', rest, rfl, ho, hrest⟩ :=
        operand.exists_of_withoutMinus ha.tail hmore
      obtain ⟨t, ts, hts⟩ := List.exists_cons_of_ne_nil operand'.tokens_ne_nil
      have ht : t.startsPrimary = true := (List.isChain_cons.1 ha).1 t (by simp [hts]) rfl
      obtain ⟨primary, rfl⟩ := operand'.exists_plain hts ht
      exact ⟨.minus primary, rest, rfl, congrArg Derivation.bang ho, hrest⟩
  | _, .minus operand, ts, us, _, h => by
    obtain ⟨_, ⟨-, hne, -⟩ | ⟨-, hbang, -⟩⟩ := Token.withoutMinus_eq_cons h
    · exact absurd rfl hne
    · cases hbang
  | _, .all first k, ts, us, ha, h => by
    rw [Derivation.tokens, List.append_assoc] at h
    obtain ⟨first', more, rfl, rfl, hmore⟩ := first.exists_of_withoutMinus ha h
    obtain ⟨k', rest, rfl, rfl, hrest⟩ := k.exists_of_withoutMinus ha.of_append hmore
    exact ⟨.all first' k', rest, by simp [Derivation.tokens], rfl, hrest⟩
  | _, .any first k, ts, us, ha, h => by
    rw [Derivation.tokens, List.append_assoc] at h
    obtain ⟨first', more, rfl, rfl, hmore⟩ := first.exists_of_withoutMinus ha h
    obtain ⟨k', rest, rfl, rfl, hrest⟩ := k.exists_of_withoutMinus ha.of_append hmore
    exact ⟨.any first' k', rest, by simp [Derivation.tokens], rfl, hrest⟩

/-- What continues a chain without `-`, behind its last operand, comes from what continues it. -/
theorem Continuation.exists_of_withoutMinus : {c : Connective} → (k : Continuation c) →
    {ts us : List Token} → Token.MinusApplies ts →
    Token.withoutMinus true ts = k.tokens ++ us →
    ∃ (k' : Continuation c) (rest : List Token), ts = k'.tokens ++ rest ∧ k'.withoutMinus = k ∧
      Token.withoutMinus true rest = us
  | _, .none c, ts, us, _, h => ⟨.none c, ts, rfl, rfl, h⟩
  | _, .plus operand k, ts, us, ha, h => by
    rw [Continuation.tokens, List.cons_append, List.append_assoc] at h
    obtain ⟨first, ⟨rfl, -, hfirst⟩ | ⟨rfl, -, hfirst⟩⟩ := Token.withoutMinus_eq_cons h
    · obtain ⟨operand', more, rfl, ho, hmore⟩ :=
        operand.exists_of_withoutMinus ha.tail hfirst
      obtain ⟨k', rest, rfl, rfl, hrest⟩ :=
        k.exists_of_withoutMinus ha.tail.of_append hmore
      exact ⟨.plus operand' k', rest, by simp [Continuation.tokens],
        congrArg (Continuation.plus · _) ho, hrest⟩
    · -- the `+` and the `!` behind it stand for a `-`
      obtain ⟨operand', more, hts, ho, hmore⟩ := operand.exists_of_withoutMinus ha hfirst
      obtain ⟨primary, rfl⟩ := operand'.exists_minus hts
      rw [hts] at ha ⊢
      obtain ⟨k', rest, rfl, rfl, hrest⟩ := k.exists_of_withoutMinus ha.of_append hmore
      exact ⟨.minus primary k', rest, by simp [Continuation.tokens, Derivation.tokens],
        congrArg (Continuation.plus · _) ho, hrest⟩
  | _, .minus operand k, ts, us, _, h => by
    obtain ⟨_, ⟨-, hne, -⟩ | ⟨-, hplus, -⟩⟩ := Token.withoutMinus_eq_cons h
    · exact absurd rfl hne
    · cases hplus
  | _, .bar operand k, ts, us, ha, h => by
    rw [Continuation.tokens, List.cons_append, List.append_assoc] at h
    obtain ⟨first, ⟨rfl, -, hfirst⟩ | ⟨-, hplus, -⟩⟩ := Token.withoutMinus_eq_cons h
    · obtain ⟨operand', more, rfl, ho, hmore⟩ :=
        operand.exists_of_withoutMinus ha.tail hfirst
      obtain ⟨k', rest, rfl, rfl, hrest⟩ :=
        k.exists_of_withoutMinus ha.tail.of_append hmore
      exact ⟨.bar operand' k', rest, by simp [Continuation.tokens],
        congrArg (Continuation.bar · _) ho, hrest⟩
    · cases hplus

end

/-- What the text without `-` spells comes from what the text spells. -/
theorem exists_spells_of_withoutMinus {text : String} (ha : Text.MinusApplies text.toList)
    {d : Derivation .or} (h : d.Spells (Text.withoutMinus text)) :
    ∃ d' : Derivation .or, d'.Spells text ∧ d'.withoutMinus = d := by
  rw [Derivation.spells_iff, Text.withoutMinus, String.toList_ofList,
    Token.ofText?_withoutMinus] at h
  obtain ⟨ts, hts, hd⟩ := Option.map_eq_some_iff.1 h
  obtain ⟨d', closing, rfl, rfl, hclosing⟩ :=
    d.exists_of_withoutMinus (Token.minusApplies_of_ofText? hts ha) hd
  obtain ⟨rest, ⟨rfl, -, hrest⟩ | ⟨-, hplus, -⟩⟩ := Token.withoutMinus_eq_cons hclosing
  · obtain rfl : rest = [] := Token.withoutMinus_eq_nil hrest
    exact ⟨d', Derivation.spells_iff.2 hts, rfl⟩
  · cases hplus

/-! ## Sugar -/

/-- The text without `-` is read as the text is, unless some token stands too deep there. -/
theorem Derivation.Spells.read_withoutMinus {d : Derivation .or} {text : String}
    (h : d.Spells text) (hfits : d.Fits) :
    Expr.read (Text.withoutMinus text) = .ok d.tree ∨
      (¬ Shallow (d.withoutMinus.levels 0) ∧ ∃ error,
        Expr.read (Text.withoutMinus text) = .error error ∧ error.kind = .nestingTooDeep) := by
  by_cases hshallow : Shallow (d.withoutMinus.levels 0)
  · left
    refine read_ok_iff.2 (Or.inr ⟨_, h.withoutMinus, ⟨hshallow, ?_⟩, d.tree_withoutMinus⟩)
    rw [d.tree_withoutMinus]
    exact hfits.2
  · right
    obtain ⟨offset, herror⟩ := (Derivation.readTokens_spec h.withoutMinus).2 fun hf => hshallow hf.1
    exact ⟨hshallow, _, by rw [read_of_not_blank h.withoutMinus.not_blank, herror]; rfl, rfl⟩

/-- **`-` is sugar.**  If each `-` of a text stands before a tag or a group, and the text with `+!`
    for each `-` behind an operand and `!` for every other `-` is read as `e`, then so is the text.
    And if a text is read as `e`, then so is that text without `-`, unless it is too deep because
    some of its tokens stand under too many `(` and `!`. -/
theorem minus_is_sugar (text : String) :
    (Text.MinusApplies text.toList → ∀ e, Expr.read (Text.withoutMinus text) = .ok e →
      Expr.read text = .ok e) ∧
    ∀ e, Expr.read text = .ok e → Expr.read (Text.withoutMinus text) = .ok e ∨
      ((∃ d : Derivation .or, d.Spells (Text.withoutMinus text) ∧ ¬ Shallow (d.levels 0)) ∧
        ∃ error, Expr.read (Text.withoutMinus text) = .error error ∧
          error.kind = .nestingTooDeep) := by
  constructor
  · intro ha e h
    rcases read_ok_iff.1 h with ⟨hb, rfl⟩ | ⟨d, hspells, hfits, rfl⟩
    · rw [Text.isBlank_withoutMinus] at hb
      exact read_of_blank hb
    · obtain ⟨d', hspells', rfl⟩ := exists_spells_of_withoutMinus ha hspells
      rw [d'.tree_withoutMinus]
      exact read_ok_iff.2 (Or.inr ⟨d', hspells', hfits.of_withoutMinus, rfl⟩)
  · intro e h
    rcases read_ok_iff.1 h with ⟨hb, rfl⟩ | ⟨d, hspells, hfits, rfl⟩
    · left
      rw [← Text.isBlank_withoutMinus] at hb
      exact read_of_blank hb
    · rcases hspells.read_withoutMinus hfits with hread | ⟨hdeep, herror⟩
      · exact Or.inl hread
      · exact Or.inr ⟨⟨_, hspells.withoutMinus, hdeep⟩, herror⟩

/-- Both kinds of `-`, and one below as many `(` as there may be: there the `!` is one level too
    many. -/
theorem minus_is_sugar_both_kinds :
    Expr.read "a - b |!-(c)" = .ok (.any [.all [.tag "a", .not (.tag "b")],
      .not (.not (.tag "c"))]) ∧
    ∃ error, Expr.read (Text.withoutMinus (String.ofList
      (List.replicate 64 '(' ++ ['-', 'a'] ++ List.replicate 64 ')'))) = .error error ∧
      error.kind = .nestingTooDeep := by
  constructor
  · have hplain : Expr.read (Text.withoutMinus "a - b |!-(c)") =
        .ok (.any [.all [.tag "a", .not (.tag "b")], .not (.not (.tag "c"))]) := by
      decide +kernel
    exact (minus_is_sugar "a - b |!-(c)").1 (by decide +kernel) _ hplain
  · have hread : Expr.read (String.ofList
        (List.replicate 64 '(' ++ ['-', 'a'] ++ List.replicate 64 ')')) =
          .ok (.not (.tag "a")) := by
      decide +kernel
    have hdeep : Expr.read (Text.withoutMinus (String.ofList
        (List.replicate 64 '(' ++ ['-', 'a'] ++ List.replicate 64 ')'))) ≠
          .ok (.not (.tag "a")) := by
      decide +kernel
    rcases (minus_is_sugar _).2 _ hread with hplain | ⟨-, herror⟩
    · exact absurd hplain hdeep
    · exact herror

end AudienceRouting
