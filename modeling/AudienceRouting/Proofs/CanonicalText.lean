/-
  Audience routing — what the canonical text of a tree is read as.

  `exists_writes`: every valid tree has a derivation whose tokens are its canonical
  text, and what is derived is the tree with nested chains merged; so that is what
  the text is read as (`read_text`).  A tree that was read has no nested chains:
  `read_text_of_read` is the round trip.

  `!` and the parentheses of the canonical text nest no deeper than the tree:
  around a chain that stands in parentheses there is a node of the tree for `(`.
-/
import AudienceRouting.Expr.Text
import AudienceRouting.Proofs.Language
import AudienceRouting.Proofs.Merging

namespace AudienceRouting

/-! ## Tags stand apart -/

theorem Token.apart_of_not_tag {t u : Token} (h : ∀ value, t ≠ .tag value) :
    Token.Apart t u ∧ Token.Apart u t := by
  cases t with
  | tag value => exact absurd rfl (h value)
  | _ => cases u <;> exact ⟨trivial, trivial⟩

theorem Token.isChain_cons {t : Token} (h : ∀ value, t ≠ .tag value) {ts : List Token}
    (hts : ts.IsChain Token.Apart) : (t :: ts).IsChain Token.Apart :=
  List.isChain_cons.2 ⟨fun _ _ => (Token.apart_of_not_tag h).1, hts⟩

/-- What continues a chain starts with an operator. -/
theorem Continuation.head_tokens {c : Connective} (k : Continuation c) :
    ∀ t ∈ k.tokens.head?, ∀ value, t ≠ .tag value := by
  cases k <;> simp [Continuation.tokens]

theorem Continuation.isChain_append {c : Connective} {k : Continuation c} {ts : List Token}
    (hts : ts.IsChain Token.Apart) (hk : k.tokens.IsChain Token.Apart) :
    (ts ++ k.tokens).IsChain Token.Apart :=
  List.isChain_append.2
    ⟨hts, hk, fun _ _ u hu => (Token.apart_of_not_tag (k.head_tokens u hu)).2⟩

mutual

/-- In no derivation two tags stand next to each other. -/
theorem Derivation.isChain_apart : {p : Part} → (d : Derivation p) →
    d.tokens.IsChain Token.Apart
  | _, .tag _ => .singleton _
  | _, .group inner => Token.isChain_cons (by simp) <| List.isChain_append.2
      ⟨inner.isChain_apart, .singleton _, fun _ _ u hu =>
        (Token.apart_of_not_tag (by rintro _ rfl; simp at hu)).2⟩
  | _, .plain primary => primary.isChain_apart
  | _, .bang operand => Token.isChain_cons (by simp) operand.isChain_apart
  | _, .minus operand => Token.isChain_cons (by simp) operand.isChain_apart
  | _, .all first rest => Continuation.isChain_append first.isChain_apart rest.isChain_apart
  | _, .any first rest => Continuation.isChain_append first.isChain_apart rest.isChain_apart

theorem Continuation.isChain_apart : {c : Connective} → (k : Continuation c) →
    k.tokens.IsChain Token.Apart
  | _, .none _ => .nil
  | _, .plus operand rest => Token.isChain_cons (by simp)
      (Continuation.isChain_append operand.isChain_apart rest.isChain_apart)
  | _, .minus operand rest => Token.isChain_cons (by simp)
      (Continuation.isChain_append operand.isChain_apart rest.isChain_apart)
  | _, .bar operand rest => Token.isChain_cons (by simp)
      (Continuation.isChain_append operand.isChain_apart rest.isChain_apart)

end

/-! ## Chains of either connective -/

namespace Connective

/-- The part of the grammar that an operand of a chain is. -/
def operand : Connective → Part
  | .and => .not
  | .or => .and

/-- The operator between the operands. -/
def operator : Connective → Token
  | .and => .plus
  | .or => .bar

theorem precedence_le (c : Connective) : c.precedence ≤ 2 := by
  cases c <;> decide

theorem chars_operator (c : Connective) : c.operator.chars = c.symbol.toList := by
  cases c <;> rfl

end Connective

/-- A continuation with one more operand at the front. -/
def Continuation.cons : {c : Connective} → Derivation c.operand → Continuation c → Continuation c
  | .and, operand, rest => .plus operand rest
  | .or, operand, rest => .bar operand rest

/-- The chain of a first operand and its continuation. -/
def Derivation.chain : {c : Connective} → Derivation c.operand → Continuation c → Derivation c.part
  | .and, first, rest => .all first rest
  | .or, first, rest => .any first rest

namespace Continuation

variable {c : Connective} (d : Derivation c.operand) (k : Continuation c)

theorem tokens_cons : (cons d k).tokens = c.operator :: (d.tokens ++ k.tokens) := by
  cases c <;> rfl

theorem trees_cons : (cons d k).trees = d.tree :: k.trees := by
  cases c <;> rfl

theorem levels_cons (outer : Nat) :
    (cons d k).levels outer = outer :: (d.levels outer ++ k.levels outer) := by
  cases c <;> rfl

theorem tokens_chain : (d.chain k).tokens = d.tokens ++ k.tokens := by
  cases c <;> rfl

theorem tree_chain : (d.chain k).tree = .join c (d.tree :: k.trees) := by
  cases c <;> rfl

theorem levels_chain (outer : Nat) :
    (d.chain k).levels outer = d.levels outer ++ k.levels outer := by
  cases c <;> rfl

end Continuation

/-! ## Derivations of canonical texts -/

/-- The derivation is of the tree `e` and has the text `text`, and no token stands under `room` or
    more `(` and `!` of the derivation. -/
structure Derivation.Writes {p : Part} (d : Derivation p) (e : Expr) (text : String)
    (room : Nat) : Prop where
  tree : d.tree = e
  chars : d.tokens.flatMap Token.chars = text.toList
  written : ∀ t ∈ d.tokens, t.Written
  levels : ∀ outer, ∀ n ∈ d.levels outer, n < outer + room

namespace Derivation.Writes

variable {e : Expr} {text : String} {room : Nat}

theorem mono {p : Part} {d : Derivation p} {more : Nat} (h : d.Writes e text room)
    (hle : room ≤ more) : d.Writes e text more :=
  { h with levels := fun outer n hn => Nat.lt_of_lt_of_le (h.levels outer n hn) (by omega) }

theorem plain {d : Derivation .primary} (h : d.Writes e text room) :
    (Derivation.plain d).Writes e text room :=
  ⟨h.tree, h.chars, h.written, h.levels⟩

theorem group {d : Derivation .or} (h : d.Writes e text room) :
    (Derivation.group d).Writes e ("(" ++ text ++ ")") (room + 1) where
  tree := h.tree
  chars := by simp [Derivation.tokens, Token.chars, h.chars]
  written := List.forall_mem_cons.2 ⟨trivial, List.forall_mem_append.2
    ⟨h.written, List.forall_mem_singleton.2 trivial⟩⟩
  levels outer n hn := by
    simp only [Derivation.levels, List.mem_cons, List.mem_append, List.not_mem_nil, or_false] at hn
    rcases hn with rfl | hn | rfl
    · omega
    · have := h.levels (outer + 1) n hn
      omega
    · omega

theorem bang {d : Derivation .not} (h : d.Writes e text room) :
    (Derivation.bang d).Writes (.not e) ("!" ++ text) (room + 1) where
  tree := congrArg Expr.not h.tree
  chars := by simp [Derivation.tokens, Token.chars, h.chars]
  written := List.forall_mem_cons.2 ⟨trivial, h.written⟩
  levels outer n hn := by
    rcases List.mem_cons.1 hn with rfl | hn
    · omega
    · have := h.levels (outer + 1) n hn
      omega

/-- An operand by itself is a chain. -/
theorem single {c : Connective} {d : Derivation c.operand} (h : d.Writes e text room) :
    (d.chain (.none c)).Writes e text room where
  tree := by
    rw [Continuation.tree_chain, h.tree]
    exact Expr.join_singleton (h.tree ▸ d.flat_tree)
  chars := by simpa [Continuation.tokens_chain, Continuation.tokens] using h.chars
  written := by simpa [Continuation.tokens_chain, Continuation.tokens] using h.written
  levels := by simpa [Continuation.levels_chain, Continuation.levels] using h.levels

end Derivation.Writes

/-- What has a derivation as the operand of a `!` has one as any part of an expression. -/
theorem exists_writes_of_not {e : Expr} {text : String} {room : Nat} {d : Derivation .not}
    (h : d.Writes e text room) :
    (∀ c : Connective, ∃ d : Derivation c.operand, d.Writes e text room) ∧
      ∃ d : Derivation .or, d.Writes e text room := by
  have hand : (Derivation.chain (c := .and) d (.none _)).Writes e text room := h.single (c := .and)
  refine ⟨fun c => ?_, _, hand.single (c := .or)⟩
  cases c with
  | and => exact ⟨d, h⟩
  | or => exact ⟨_, hand⟩

namespace Expr

theorem text_chain_cons (c : Connective) (e : Expr) (es : List Expr) :
    (Expr.chain c (e :: es)).text.toList = (wrap c.precedence e e.text).toList ++
      es.flatMap fun e => c.symbol.toList ++ (wrap c.precedence e e.text).toList := by
  rw [text, operandTexts_eq_map, List.map_cons]
  induction es generalizing e with
  | nil => simp
  | cons e' es ih => simp [ih e', String.intercalate_cons_cons]

theorem wrap_of_tight {outer : Nat} {e : Expr} (h : outer < e.precedence) (hne : e ≠ .always)
    (text : String) : wrap outer e text = text := by
  cases e with
  | always => exact absurd rfl hne
  | _ => exact if_neg (Nat.not_le.2 h)

theorem wrap_chain {outer : Nat} {c : Connective} {es : List Expr} (h : c.precedence ≤ outer)
    (text : String) : wrap outer (.chain c es) text = "(" ++ text ++ ")" :=
  if_pos h

end Expr

/-- Derivations of the operands make a derivation of the chain.  Its tokens stand under no more
    `(` and `!` than the operands leave room for. -/
theorem exists_continuation {c : Connective} {room : Nat} (hroom : 0 < room) : {es : List Expr} →
    (∀ e ∈ es, ∃ d : Derivation c.operand, d.Writes e.merged (e.wrap c.precedence e.text) room) →
    ∃ k : Continuation c, k.trees = es.map Expr.merged ∧
      k.tokens.flatMap Token.chars =
        (es.flatMap fun e => c.symbol.toList ++ (e.wrap c.precedence e.text).toList) ∧
      (∀ t ∈ k.tokens, t.Written) ∧ ∀ outer, ∀ n ∈ k.levels outer, n < outer + room
  | [], _ => ⟨.none c, rfl, rfl, by simp [Continuation.tokens], by simp [Continuation.levels]⟩
  | e :: es, h => by
    obtain ⟨d, hd⟩ := (List.forall_mem_cons.1 h).1
    obtain ⟨k, htrees, hchars, hwritten, hlevels⟩ :=
      exists_continuation hroom (List.forall_mem_cons.1 h).2
    refine ⟨.cons d k, ?_, ?_, ?_, fun outer n hn => ?_⟩
    · rw [Continuation.trees_cons, hd.tree, htrees, List.map_cons]
    · simp [Continuation.tokens_cons, Connective.chars_operator, hd.chars, hchars]
    · rw [Continuation.tokens_cons]
      refine List.forall_mem_cons.2 ⟨?_, List.forall_mem_append.2 ⟨hd.written, hwritten⟩⟩
      cases c <;> trivial
    · rw [Continuation.levels_cons, List.mem_cons, List.mem_append] at hn
      rcases hn with rfl | hn | hn
      · omega
      · exact hd.levels outer n hn
      · exact hlevels outer n hn

theorem exists_writes_chain {c : Connective} {es : List Expr} (hne : es ≠ [])
    (h : ∀ e ∈ es, ∃ d : Derivation c.operand,
      d.Writes e.merged (e.wrap c.precedence e.text) e.height) :
    ∃ d : Derivation c.part,
      d.Writes (Expr.chain c es).merged (Expr.chain c es).text (Expr.heights es) := by
  match es, hne with
  | e :: es, _ =>
    have hroom : 0 < Expr.heights (e :: es) := Expr.heights_pos (by simp)
    have hle : ∀ x ∈ e :: es, ∃ d : Derivation c.operand,
        d.Writes x.merged (x.wrap c.precedence x.text) (Expr.heights (e :: es)) := fun x hx => by
      obtain ⟨d, hd⟩ := h x hx
      exact ⟨d, hd.mono (Expr.height_le_heights hx)⟩
    obtain ⟨d, hd⟩ := (List.forall_mem_cons.1 hle).1
    obtain ⟨k, htrees, hchars, hwritten, hlevels⟩ :=
      exists_continuation hroom (List.forall_mem_cons.1 hle).2
    refine ⟨d.chain k, ?_, ?_, ?_, fun outer n hn => ?_⟩
    · rw [Continuation.tree_chain, hd.tree, htrees, Expr.merged_chain, List.map_cons]
    · rw [Continuation.tokens_chain, List.flatMap_append, hd.chars, hchars, Expr.text_chain_cons]
    · rw [Continuation.tokens_chain]
      exact List.forall_mem_append.2 ⟨hd.written, hwritten⟩
    · rw [Continuation.levels_chain, List.mem_append] at hn
      rcases hn with hn | hn
      · exact hd.levels outer n hn
      · exact hlevels outer n hn

/-- A valid tree has a derivation of its canonical text, and one of its text as an operand, in
    which no token stands under more `(` and `!` than the tree is high.  What is derived is the
    tree with nested chains merged: they stand in parentheses, and those leave no trace. -/
theorem exists_writes {e : Expr} (h : e.Valid) :
    (∀ c : Connective, ∃ d : Derivation c.operand,
      d.Writes e.merged (e.wrap c.precedence e.text) e.height) ∧
    ∃ d : Derivation .or, d.Writes e.merged e.text e.height := by
  induction h with
  | @tag value hvalue =>
    have h : (Derivation.tag value).Writes (.tag value) value 1 :=
      ⟨rfl, by simp [Derivation.tokens, Token.chars], List.forall_mem_singleton.2 hvalue,
        fun outer n hn => by rw [List.mem_singleton.1 hn]; omega⟩
    have := exists_writes_of_not h.plain
    refine ⟨fun c => ?_, this.2⟩
    rw [Expr.wrap_of_tight (Nat.lt_succ_of_le c.precedence_le) (by simp)]
    exact this.1 c
  | not _ ih =>
    obtain ⟨d, hd⟩ := ih.1 .and
    have := exists_writes_of_not hd.bang
    refine ⟨fun c => ?_, this.2⟩
    rw [Expr.wrap_of_tight (Nat.lt_succ_of_le c.precedence_le) (by simp)]
    exact this.1 c
  | @chain c es h2 _ ih =>
    have hne : es ≠ [] := by
      rintro rfl
      exact absurd h2 (by simp)
    obtain ⟨d, hd⟩ := exists_writes_chain hne fun e he => (ih e he).1 c
    cases c with
    | or =>
      -- as an operand a disjunction stands in parentheses
      have := exists_writes_of_not hd.group.plain
      refine ⟨fun c => ?_, d, hd.mono (by rw [Expr.height]; omega)⟩
      rw [Expr.wrap_chain (by cases c <;> decide)]
      exact this.1 c
    | and =>
      refine ⟨fun c => ?_, _, (hd.single (c := .or)).mono (by rw [Expr.height]; omega)⟩
      cases c with
      | and =>
        rw [Expr.wrap_chain (by decide)]
        exact ⟨_, (hd.single (c := .or)).group.plain⟩
      | or =>
        rw [Expr.wrap_of_tight Nat.one_lt_two (by simp)]
        exact ⟨d, hd.mono (by rw [Expr.height]; omega)⟩

/-! ## The round trip -/

/-- The canonical text of a valid tree is read as the tree with nested chains merged. -/
theorem read_text {e : Expr} (h : e.Valid) (hdepth : e.depth ≤ maxDepth) :
    Expr.read e.text = .ok e.merged := by
  obtain ⟨-, d, hd⟩ := exists_writes h
  rw [Expr.depth_eq_height] at hdepth
  refine read_ok_iff.2 (Or.inr ⟨d, ?_, ⟨fun n hn => ?_, ?_⟩, hd.tree⟩)
  · exact Token.scan_chars hd.written d.isChain_apart hd.chars.symm
  · have := hd.levels 0 n hn
    omega
  · rw [hd.tree, Expr.depth_eq_height]
    exact Nat.le_trans e.height_merged_le hdepth

theorem read_text_of_flat {e : Expr} (hf : e.Flat) (hs : e.Spellable)
    (hdepth : e.depth ≤ maxDepth) : Expr.read e.text = .ok e := by
  rw [read_text (hf.valid hs) hdepth, hf.merged_eq]

/-- **Round trip.**  The canonical text of a tree that was read is read as the same tree. -/
theorem read_text_of_read {text : String} {e : Expr} (h : Expr.read text = .ok e) :
    Expr.read e.text = .ok e := by
  rcases wellFormed_of_read h with rfl | ⟨hf, hs, hdepth⟩
  · exact read_of_blank rfl
  · exact read_text_of_flat hf hs hdepth

theorem read_text_of_read_nested :
    Expr.read "(a | b) - (c | !d)" = .ok (.all [.any [.tag "a", .tag "b"],
      .not (.any [.tag "c", .not (.tag "d")])]) ∧
    Expr.read "(a|b)+!(c|!d)" = .ok (.all [.any [.tag "a", .tag "b"],
      .not (.any [.tag "c", .not (.tag "d")])]) := by
  have h : Expr.read "(a | b) - (c | !d)" = .ok (.all [.any [.tag "a", .tag "b"],
      .not (.any [.tag "c", .not (.tag "d")])]) := by decide +kernel
  exact ⟨h, read_text_of_read h⟩

end AudienceRouting
