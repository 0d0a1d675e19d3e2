/-
  Audience routing — expressions put together from expressions.

  * `Nests text n`: the most `(` and `!` that a token of `text` stands under are `n`.
  * `Composes text e nesting holds`: `text` is read as `e` unless that is too deep, and holds
    where `holds` says so.

  Texts with an operator or parentheses between them have the tokens that they have alone, and
  derivations of the parts make a derivation of the whole.  At a `|` without parentheses two
  chains become one (`tree_either`), as they do when trees are joined (`join_append`).
  `read_compositions` says what six such texts are read as.
-/
import AudienceRouting.Proofs.Joining
import AudienceRouting.Proofs.Language
import AudienceRouting.Proofs.Nesting
import AudienceRouting.Proofs.TokensOfText

namespace AudienceRouting

/-! ## Tokens of texts put together -/

namespace Token

/-- The text has the tokens `ts`. -/
def Spelled (text : List Char) (ts : List Token) : Prop :=
  ofText? text = some (ts ++ [.endOfText])

variable {c : Char} {t : Token} {u v : List Char} {us vs : List Token}

theorem spelled_nil : Spelled [] [] := ofText?_nil

theorem Spelled.append (hu : Spelled u us) (hc : ofReserved? c = some t) (hv : Spelled v vs) :
    Spelled (u ++ c :: v) (us ++ t :: vs) := by
  unfold Spelled at hv ⊢
  rw [ofText?_append hc hu, hv]
  simp

theorem Spelled.cons (hc : ofReserved? c = some t) (hv : Spelled v vs) :
    Spelled (c :: v) (t :: vs) :=
  spelled_nil.append hc hv

/-- A text in parentheses, and what follows it. -/
theorem Spelled.group (hu : Spelled u us) (hv : Spelled v vs) :
    Spelled ('(' :: (u ++ ')' :: v)) (.openParen :: (us ++ .closeParen :: vs)) :=
  .cons rfl (hu.append rfl hv)

end Token

theorem Derivation.spells_iff_spelled {p : Part} {d : Derivation p} {text : String} :
    d.Spells text ↔ Token.Spelled text.toList d.tokens :=
  Derivation.spells_iff

/-! ## Derivations put together -/

/-- A chain that goes on with another chain. -/
def Continuation.append : {c : Connective} → Continuation c → Continuation c → Continuation c
  | _, .none _, more => more
  | _, .plus operand rest, more => .plus operand (rest.append more)
  | _, .minus operand rest, more => .minus operand (rest.append more)
  | _, .bar operand rest, more => .bar operand (rest.append more)

namespace Continuation

theorem tokens_append : {c : Connective} → (k more : Continuation c) →
    (k.append more).tokens = k.tokens ++ more.tokens
  | _, .none _, _ => rfl
  | _, .plus _ rest, more | _, .minus _ rest, more | _, .bar _ rest, more => by
    simp [append, tokens, tokens_append rest more]

theorem trees_append : {c : Connective} → (k more : Continuation c) →
    (k.append more).trees = k.trees ++ more.trees
  | _, .none _, _ => rfl
  | _, .plus _ rest, more | _, .minus _ rest, more | _, .bar _ rest, more => by
    simp [append, trees, trees_append rest more]

theorem levels_append (outer : Nat) : {c : Connective} → (k more : Continuation c) →
    (k.append more).levels outer = k.levels outer ++ more.levels outer
  | _, .none _, _ => rfl
  | _, .plus _ rest, more | _, .minus _ rest, more | _, .bar _ rest, more => by
    simp [append, levels, levels_append outer rest more]

end Continuation

namespace Derivation

/-- A conjunction as a whole expression. -/
def whole (d : Derivation .and) : Derivation .or := .any d (.none _)

/-- An operand as a conjunction. -/
def alone (d : Derivation .not) : Derivation .and := .all d (.none _)

/-- Two alternatives. -/
def either : Derivation .or → Derivation .or → Derivation .or
  | .any first rest, .any first' rest' => .any first (rest.append (.bar first' rest'))

theorem tree_whole (d : Derivation .and) : d.whole.tree = d.tree :=
  Expr.join_singleton d.flat_tree

theorem tree_alone (d : Derivation .not) : d.alone.tree = d.tree :=
  Expr.join_singleton d.flat_tree

theorem tokens_whole (d : Derivation .and) : d.whole.tokens = d.tokens := List.append_nil _

theorem tokens_alone (d : Derivation .not) : d.alone.tokens = d.tokens := List.append_nil _

theorem levels_whole (d : Derivation .and) (outer : Nat) :
    d.whole.levels outer = d.levels outer := List.append_nil _

theorem levels_alone (d : Derivation .not) (outer : Nat) :
    d.alone.levels outer = d.levels outer := List.append_nil _

theorem tokens_either : (d d' : Derivation .or) →
    (either d d').tokens = d.tokens ++ .bar :: d'.tokens
  | .any first rest, .any first' rest' => by
    simp [either, tokens, Continuation.tokens_append, Continuation.tokens]

theorem levels_either (outer : Nat) : (d d' : Derivation .or) →
    (either d d').levels outer = d.levels outer ++ outer :: d'.levels outer
  | .any first rest, .any first' rest' => by
    simp [either, levels, Continuation.levels_append, Continuation.levels]

/-- At a `|` two chains become one. -/
theorem tree_either : (d d' : Derivation .or) → (either d d').tree = .any [d.tree, d'.tree]
  | .any first rest, .any first' rest' => by
    have hflat : ∀ e ∈ first.tree :: rest.trees, e.Flat :=
      List.forall_mem_cons.2 ⟨first.flat_tree, rest.flat_trees⟩
    have hflat' : ∀ e ∈ first'.tree :: rest'.trees, e.Flat :=
      List.forall_mem_cons.2 ⟨first'.flat_tree, rest'.flat_trees⟩
    simp only [either, tree, Continuation.trees_append, Continuation.trees, Expr.any]
    exact (Expr.join_append .or hflat hflat').symm

end Derivation

/-! ## Texts put together -/

/-- The most `(` and `!` that a token of the text stands under are `n`. -/
def Nests (text : String) (n : Nat) : Prop :=
  ∃ d : Derivation .or, d.Spells text ∧ d.nesting = n

theorem Nests.unique {text : String} {m n : Nat} (hm : Nests text m) (hn : Nests text n) :
    m = n := by
  obtain ⟨d, hd, rfl⟩ := hm
  obtain ⟨d', hd', rfl⟩ := hn
  rw [Derivation.eq_of_spells hd hd']

/-- The text, which nests `nesting` levels, is read as `e` if neither `e` nor the nesting is too
    deep, and refused as too deep if one of them is.  What is read holds where `holds` says so. -/
structure Composes (text : String) (e : Expr) (nesting : Nat)
    (holds : TagSet → MatchOptions → Bool) : Prop where
  read : e.depth ≤ maxDepth → nesting ≤ maxDepth → Expr.read text = .ok e
  tooDeep : ¬ (e.depth ≤ maxDepth ∧ nesting ≤ maxDepth) →
    ∃ error, Expr.read text = .error error ∧ error.kind = .nestingTooDeep
  holds : ∀ e', Expr.read text = .ok e' → ∀ tags options, e'.holds tags options = holds tags options

theorem Derivation.Spells.composes {d : Derivation .or} {text : String} (hd : d.Spells text)
    {nesting : Nat} (hn : Shallow (d.levels 0) ↔ nesting ≤ maxDepth) {e : Expr} (he : d.tree = e)
    {holds : TagSet → MatchOptions → Bool}
    (hholds : ∀ tags options, e.holds tags options = holds tags options) :
    Composes text e nesting holds := by
  subst he
  have hfits : d.Fits ↔ d.tree.depth ≤ maxDepth ∧ nesting ≤ maxDepth := by
    rw [Derivation.Fits, hn, and_comm]
  refine ⟨?_, ?_, ?_⟩
  · intro htree hnesting
    exact read_ok_iff.2 (Or.inr ⟨d, hd, hfits.2 ⟨htree, hnesting⟩, rfl⟩)
  · intro hdeep
    obtain ⟨offset, herror⟩ := (Derivation.readTokens_spec hd).2 (mt hfits.1 hdeep)
    exact ⟨_, by rw [read_of_not_blank hd.not_blank, herror]; rfl, rfl⟩
  · intro e' hread tags options
    rcases read_ok_iff.1 hread with ⟨hb, -⟩ | ⟨d', hd', -, rfl⟩
    · rw [hd.not_blank] at hb
      cases hb
    · rw [Derivation.eq_of_spells hd' hd, hholds]

namespace Derivation

/-- A whole expression in parentheses. -/
def grouped (d : Derivation .or) : Derivation .not := .plain (.group d)

theorem tree_grouped (d : Derivation .or) : d.grouped.tree = d.tree := rfl

theorem shallow_grouped (d : Derivation .or) (outer : Nat) :
    Shallow (d.grouped.levels outer) ↔ d.nesting + outer + 1 ≤ maxDepth := by
  have houter : Shallow [outer] ↔ outer ≤ maxDepth := by simp [Shallow]
  -- the parentheses stand outside of the group, so what is inside decides
  simp only [grouped, levels, shallow_cons, shallow_append, shallow_levels_iff, houter]
  omega

end Derivation

section
variable {s₁ s₂ : String} {d₁ d₂ : Derivation .or} (h₁ : d₁.Spells s₁) (h₂ : d₂.Spells s₂)

include h₁

theorem composes_group :
    Composes ("(" ++ s₁ ++ ")") d₁.tree (d₁.nesting + 1) (d₁.tree.holds · ·) := by
  have hspells : d₁.grouped.alone.whole.Spells ("(" ++ s₁ ++ ")") := by
    have htext : ("(" ++ s₁ ++ ")").toList = '(' :: (s₁.toList ++ ')' :: []) := by simp
    rw [Derivation.spells_iff_spelled, htext, Derivation.tokens_whole, Derivation.tokens_alone]
    exact Token.Spelled.group (Derivation.spells_iff_spelled.1 h₁) Token.spelled_nil
  refine hspells.composes ?_ ?_ fun _ _ => rfl
  · rw [Derivation.levels_whole, Derivation.levels_alone, Derivation.shallow_grouped, Nat.add_zero]
  · rw [Derivation.tree_whole, Derivation.tree_alone, Derivation.tree_grouped]

theorem composes_bang :
    Composes ("!(" ++ s₁ ++ ")") (.not d₁.tree) (d₁.nesting + 2) fun tags options =>
      !d₁.tree.holds tags options := by
  have hspells : (Derivation.bang d₁.grouped).alone.whole.Spells ("!(" ++ s₁ ++ ")") := by
    have htext : ("!(" ++ s₁ ++ ")").toList = '!' :: '(' :: (s₁.toList ++ ')' :: []) := by simp
    rw [Derivation.spells_iff_spelled, htext, Derivation.tokens_whole, Derivation.tokens_alone]
    exact Token.Spelled.cons rfl
      (Token.Spelled.group (Derivation.spells_iff_spelled.1 h₁) Token.spelled_nil)
  refine hspells.composes ?_ ?_ fun _ _ => rfl
  · rw [Derivation.levels_whole, Derivation.levels_alone, Derivation.levels, shallow_cons,
      Derivation.shallow_grouped]
    omega
  · rw [Derivation.tree_whole, Derivation.tree_alone, Derivation.tree, Derivation.tree_grouped]

include h₂

/-- Two expressions in parentheses with an operator between them. -/
theorem composes_pair {c : Char} {t : Token} (hc : Token.ofReserved? c = some t) {text : String}
    (htext : text.toList = '(' :: (s₁.toList ++ ')' :: c :: '(' :: (s₂.toList ++ ')' :: [])))
    {d : Derivation .or} (htokens : d.tokens = d₁.grouped.tokens ++ t :: d₂.grouped.tokens)
    (hlevels : d.levels 0 = d₁.grouped.levels 0 ++ 0 :: d₂.grouped.levels 0)
    {e : Expr} (he : d.tree = e) {holds : TagSet → MatchOptions → Bool}
    (hholds : ∀ tags options, e.holds tags options = holds tags options) :
    Composes text e (max d₁.nesting d₂.nesting + 1) holds := by
  have hspelled := Token.Spelled.group (Derivation.spells_iff_spelled.1 h₁) (Token.Spelled.cons hc
    (Token.Spelled.group (Derivation.spells_iff_spelled.1 h₂) Token.spelled_nil))
  have hspells : d.Spells text := by
    rw [Derivation.spells_iff_spelled, htext, htokens]
    simpa [Derivation.grouped, Derivation.tokens] using hspelled
  refine hspells.composes ?_ he hholds
  rw [hlevels, shallow_append, shallow_cons, Derivation.shallow_grouped,
    Derivation.shallow_grouped]
  omega

theorem composes_plus :
    Composes ("(" ++ s₁ ++ ")+(" ++ s₂ ++ ")") (.all [d₁.tree, d₂.tree])
      (max d₁.nesting d₂.nesting + 1)
      fun tags options => d₁.tree.holds tags options && d₂.tree.holds tags options := by
  have htree : (Derivation.all d₁.grouped (.plus d₂.grouped (.none _))).whole.tree =
      .all [d₁.tree, d₂.tree] := Derivation.tree_whole _
  refine composes_pair h₁ h₂ (c := '+') rfl (by simp) ?_ ?_ htree
    fun _ _ => Expr.holds_all_pair _ _ _ _
  · simp [Derivation.tokens_whole, Derivation.tokens, Continuation.tokens]
  · simp [Derivation.levels_whole, Derivation.levels, Continuation.levels]

theorem composes_minus :
    Composes ("(" ++ s₁ ++ ")-(" ++ s₂ ++ ")") (.all [d₁.tree, .not d₂.tree])
      (max d₁.nesting d₂.nesting + 1)
      fun tags options => d₁.tree.holds tags options && !d₂.tree.holds tags options := by
  have htree : (Derivation.all d₁.grouped (.minus (.group d₂) (.none _))).whole.tree =
      .all [d₁.tree, .not d₂.tree] := Derivation.tree_whole _
  refine composes_pair h₁ h₂ (c := '-') rfl (by simp) ?_ ?_ htree
    fun _ _ => Expr.holds_all_pair _ _ _ _
  · simp [Derivation.tokens_whole, Derivation.tokens, Continuation.tokens, Derivation.grouped]
  · simp [Derivation.levels_whole, Derivation.levels, Continuation.levels, Derivation.grouped]

theorem composes_groups_bar :
    Composes ("(" ++ s₁ ++ ")|(" ++ s₂ ++ ")") (.any [d₁.tree, d₂.tree])
      (max d₁.nesting d₂.nesting + 1)
      fun tags options => d₁.tree.holds tags options || d₂.tree.holds tags options := by
  have htree : (Derivation.either d₁.grouped.alone.whole d₂.grouped.alone.whole).tree =
      .any [d₁.tree, d₂.tree] := by
    simp only [Derivation.tree_either, Derivation.tree_whole, Derivation.tree_alone,
      Derivation.tree_grouped]
  refine composes_pair h₁ h₂ (c := '|') rfl (by simp) ?_ ?_ htree
    fun _ _ => Expr.holds_any_pair _ _ _ _
  · simp only [Derivation.tokens_either, Derivation.tokens_whole, Derivation.tokens_alone]
  · simp only [Derivation.levels_either, Derivation.levels_whole, Derivation.levels_alone]

/-- Two expressions with a `|` between them: nothing more is open around their tokens. -/
theorem composes_bar :
    Composes (s₁ ++ "|" ++ s₂) (.any [d₁.tree, d₂.tree]) (max d₁.nesting d₂.nesting)
      fun tags options => d₁.tree.holds tags options || d₂.tree.holds tags options := by
  have hspells : (Derivation.either d₁ d₂).Spells (s₁ ++ "|" ++ s₂) := by
    have htext : (s₁ ++ "|" ++ s₂).toList = s₁.toList ++ '|' :: s₂.toList := by simp
    rw [Derivation.spells_iff_spelled, htext, Derivation.tokens_either]
    exact Token.Spelled.append (Derivation.spells_iff_spelled.1 h₁) rfl
      (Derivation.spells_iff_spelled.1 h₂)
  refine hspells.composes ?_ (Derivation.tree_either d₁ d₂) fun _ _ => Expr.holds_any_pair _ _ _ _
  rw [Derivation.levels_either, shallow_append, shallow_cons, Derivation.shallow_levels_iff,
    Derivation.shallow_levels_iff]
  omega

end

theorem exists_of_read {text : String} {e : Expr} (hb : Text.isBlank text = false)
    (h : Expr.read text = .ok e) :
    ∃ d : Derivation .or, d.Spells text ∧ d.nesting ≤ maxDepth ∧ d.tree = e := by
  rcases read_ok_iff.1 h with ⟨hb', -⟩ | ⟨d, hd, hfits, he⟩
  · rw [hb] at hb'
    cases hb'
  · exact ⟨d, hd, (d.shallow_levels_iff 0).1 hfits.1, he⟩

/-- **Expressions are put together as their texts are.**  Where `s₁` and `s₂`, not blank, are read
    as `e₁` and `e₂`, each of six texts made of them is read as the tree made of `e₁` and `e₂`,
    unless that tree or the nesting of the text is too deep.  It holds where the parts say so. -/
theorem read_compositions {s₁ s₂ : String} {e₁ e₂ : Expr} (hb₁ : Text.isBlank s₁ = false)
    (h₁ : Expr.read s₁ = .ok e₁) (hb₂ : Text.isBlank s₂ = false) (h₂ : Expr.read s₂ = .ok e₂) :
    ∃ n₁ n₂, (Nests s₁ n₁ ∧ n₁ ≤ maxDepth) ∧ (Nests s₂ n₂ ∧ n₂ ≤ maxDepth) ∧
      Composes ("(" ++ s₁ ++ ")") e₁ (n₁ + 1) (e₁.holds · ·) ∧
      Composes ("!(" ++ s₁ ++ ")") (.not e₁) (n₁ + 2)
        (fun tags options => !e₁.holds tags options) ∧
      Composes ("(" ++ s₁ ++ ")+(" ++ s₂ ++ ")") (.all [e₁, e₂]) (max n₁ n₂ + 1)
        (fun tags options => e₁.holds tags options && e₂.holds tags options) ∧
      Composes ("(" ++ s₁ ++ ")|(" ++ s₂ ++ ")") (.any [e₁, e₂]) (max n₁ n₂ + 1)
        (fun tags options => e₁.holds tags options || e₂.holds tags options) ∧
      Composes ("(" ++ s₁ ++ ")-(" ++ s₂ ++ ")") (.all [e₁, .not e₂]) (max n₁ n₂ + 1)
        (fun tags options => e₁.holds tags options && !e₂.holds tags options) ∧
      Composes (s₁ ++ "|" ++ s₂) (.any [e₁, e₂]) (max n₁ n₂)
        (fun tags options => e₁.holds tags options || e₂.holds tags options) ∧
      ∀ e, Expr.read (s₁ ++ "|" ++ s₁) = .ok e →
        ∀ tags options, e.holds tags options = e₁.holds tags options := by
  obtain ⟨d₁, hd₁, hn₁, rfl⟩ := exists_of_read hb₁ h₁
  obtain ⟨d₂, hd₂, hn₂, rfl⟩ := exists_of_read hb₂ h₂
  refine ⟨d₁.nesting, d₂.nesting, ⟨⟨d₁, hd₁, rfl⟩, hn₁⟩, ⟨⟨d₂, hd₂, rfl⟩, hn₂⟩,
    composes_group hd₁, composes_bang hd₁, composes_plus hd₁ hd₂, composes_groups_bar hd₁ hd₂,
    composes_minus hd₁ hd₂, composes_bar hd₁ hd₂, ?_⟩
  intro e he tags options
  rw [(composes_bar hd₁ hd₁).holds e he, Bool.or_self]

/-- Two chains become one at a `|`, and parentheses around 64 pairs of them are too many. -/
theorem read_compositions_merged_and_deep :
    Expr.read ("a|b" ++ "|" ++ "!c|d") =
      .ok (.chain .or [.tag "a", .tag "b", .not (.tag "c"), .tag "d"]) ∧
    ∃ error, Expr.read ("(" ++ String.ofList (List.replicate 64 '(' ++ 'a' ::
      List.replicate 64 ')') ++ ")") = .error error ∧ error.kind = .nestingTooDeep := by
  have hab : Expr.read "a|b" = .ok (.chain .or [.tag "a", .tag "b"]) := by decide +kernel
  have hcd : Expr.read "!c|d" = .ok (.chain .or [.not (.tag "c"), .tag "d"]) := by decide +kernel
  constructor
  · obtain ⟨_, _, ⟨-, hn₁⟩, ⟨-, hn₂⟩, -, -, -, -, -, hbar, -⟩ :=
      read_compositions (by decide +kernel) hab (by decide +kernel) hcd
    exact hbar.read (by decide +kernel) (Nat.max_le.2 ⟨hn₁, hn₂⟩)
  · have hread : Expr.read (String.ofList (List.replicate 64 '(' ++ 'a' ::
        List.replicate 64 ')')) = .ok (.tag "a") := by decide +kernel
    obtain ⟨n, _, ⟨hn, -⟩, -, hgroup, -⟩ :=
      read_compositions (by decide +kernel) hread (by decide +kernel) hab
    have hspells : ((·.grouped.alone.whole)^[64] (Derivation.plain (.tag "a")).alone.whole).Spells
        (String.ofList (List.replicate 64 '(' ++ 'a' :: List.replicate 64 ')')) :=
      ⟨(Token.scan (String.ofList (List.replicate 64 '(' ++ 'a' ::
        List.replicate 64 ')'))).toOption.getD [], by decide +kernel, by decide +kernel⟩
    -- the text has one derivation only, which says how deep it nests
    have hnests : n = 64 := hn.unique ⟨_, hspells, by decide +kernel⟩
    refine hgroup.tooDeep fun hfits => ?_
    have hle : n + 1 ≤ 64 := hfits.2
    omega

end AudienceRouting
