/-
  Audience routing — the reader agrees with the descent, and what they read is canonical.

  `Reader.Agrees ts`: wherever the reader stands, it goes on over `ts` as the descent
  does.  What is unfinished on its stack is what the descent has still to do: behind
  an operand `Reader.goOn`, behind a group `Reader.endGroup`.  There is one lemma for
  each part, given that the reader agrees on what is shorter; `Reader.agrees` is the
  induction, and `Expr.readTokens_eq_descend` its case of a whole text.

  `canonical_of_read` puts this together with the form of the trees.
-/
import AudienceRouting.Proofs.Descent
import AudienceRouting.Proofs.Language
import AudienceRouting.Proofs.Occurrence
import AudienceRouting.Proofs.Transitions

namespace AudienceRouting

/-! ## Wherever the reader stands -/

namespace Reader

/-- Where the reader stands, before the tokens `ts`. -/
def cursor (r : Reader) (ts : List Lexeme) : Cursor := ⟨ts, r.nesting, r.previous⟩

/-- The reader waits for the part `p` at `c`.  Behind a `-` it waits for a tag or a group only. -/
structure Awaits (r : Reader) (p : Part) (c : Cursor) : Prop where
  operand : r.AwaitsOperand
  not_empty : r.position = .afterOpening → c.next.token ≠ .closeParen
  primary : r.position = .primary → p = .primary
  signs : p = .primary → r.position ≠ .primary → c.next.token ≠ .bang ∧ c.next.token ≠ .minus

/-- The reader goes on behind the operand that it waited for. -/
def goOn (r : Reader) (x : Operand × Cursor) : Except Problem Expr :=
  r.supply x.1 >>= fun r' => run { r' with previous := x.2.previous } x.2.rest

/-- The reader goes on behind what stands in a group. -/
def endGroup (enclosing : List Enclosing) (x : Operand × Cursor) : Except Problem Expr :=
  match enclosing with
  | [] =>
    match x.2.next.token with
    | .endOfText => .ok x.1.expr
    | .closeParen => .error ⟨.strayClosing, x.2.next.offset⟩
    | _ => .error ⟨.missingOperator, x.2.next.offset⟩
  | outer :: enclosing =>
    match x.2.next.token with
    | .endOfText => .error ⟨.unclosed, outer.opening⟩
    | .closeParen =>
      goOn ⟨outer.group, enclosing, x.2.nesting - 1, .operand, x.2.previous⟩
        ({ x.1 with start := outer.opening }, x.2.skip.outer)
    | _ => .error ⟨.missingOperator, x.2.next.offset⟩

/-- On the tokens `ts` the reader does what the descent does, wherever it stands. -/
structure Agrees (ts : List Lexeme) : Prop where
  primary : ∀ r : Reader, r.Awaits .primary (r.cursor ts) →
    r.run ts = Part.primary.read (r.cursor ts) >>= r.goOn
  not : ∀ r : Reader, r.Awaits .not (r.cursor ts) →
    r.run ts = Part.not.read (r.cursor ts) >>= r.goOn
  chain : ∀ (r : Reader) (last : Operand), r.position = .operator last → r.group.negations = [] →
    r.run ts = Connective.and.readRest r.group.conjuncts last (r.cursor ts) >>= fun x =>
      Connective.or.readRest r.group.alternatives x.1 x.2 >>= endGroup r.enclosing

variable {r : Reader} {ts : List Lexeme} {x : Lexeme}

theorem goOn_congr {r' : Reader} (hg : r.group = r'.group) (he : r.enclosing = r'.enclosing)
    (hn : r.nesting = r'.nesting) : r.goOn = r'.goOn := by
  funext y
  unfold goOn supply
  rw [hg, he, hn]
  simp only [bind_assoc]
  rfl

theorem goOn_negated (r : Reader) (n : Negation) (position : Position) :
    (r.negated n position).goOn = fun y => y.1.negated n.offset >>= fun o =>
      goOn { r with nesting := if n.nests then r.nesting - 1 else r.nesting } (o, y.2) := by
  funext y
  unfold goOn supply Reader.negated Operand.negated
  simp only [negate, bind_assoc]
  rfl

/-- Behind an operand without negations the chain goes on. -/
theorem goOn_of_agrees {y : Operand × Cursor} (h : Agrees y.2.rest)
    (hneg : r.group.negations = []) (hnest : y.2.nesting = r.nesting) :
    r.goOn y = Connective.and.readRest r.group.conjuncts y.1 y.2 >>= fun x =>
      Connective.or.readRest r.group.alternatives x.1 x.2 >>= endGroup r.enclosing := by
  have hsupply : r.supply y.1 = .ok { r with
      group := { r.group with negations := [] }, position := .operator y.1 } := by
    rw [supply, hneg]
    rfl
  rw [goOn, hsupply]
  refine (h.chain _ y.1 rfl rfl).trans ?_
  have hcursor : cursor { r with
      group := { r.group with negations := [] }, position := .operator y.1,
      previous := y.2.previous } y.2.rest = y.2 := by
    rw [cursor, ← hnest]
  rw [hcursor]

theorem awaits_not (c : Cursor) (hp : r.position = .operand) : r.Awaits .not c := by
  refine ⟨fun last hl => ?_, fun hp' => ?_, fun hp' => ?_, nofun⟩
  all_goals simp_all

theorem awaits_primary (c : Cursor) (hp : r.position = .primary) : r.Awaits .primary c := by
  refine ⟨fun last hl => ?_, fun hp' => ?_, fun _ => rfl, fun _ hp' => absurd hp hp'⟩
  all_goals simp_all

/-- The reader before an operand of a conjunction. -/
theorem run_conjunct (h : Ended ts) (hneg : r.group.negations = [])
    (hr : r.Awaits .not (r.cursor ts)) (hts : Agrees ts)
    (hshorter : ∀ ts' : List Lexeme, ts'.length < ts.length → Ended ts' → Agrees ts') :
    r.run ts = Part.not.read (r.cursor ts) >>= fun y =>
      Connective.and.readRest r.group.conjuncts y.1 y.2 >>= fun z =>
        Connective.or.readRest r.group.alternatives z.1 z.2 >>= endGroup r.enclosing := by
  rw [hts.not r hr]
  refine bind_congr_of_ok fun y hy => ?_
  have hleaves := Part.leaves_of_read hy
  have hrest := hshorter _ (Part.length_lt_of_read hy) (hleaves.ended h)
  exact goOn_of_agrees hrest hneg hleaves.nesting

/-- The reader before a whole group, or before the text. -/
theorem run_group (h : Ended ts) (hg : r.group = .empty) (hr : r.Awaits .not (r.cursor ts))
    (hts : Agrees ts)
    (hshorter : ∀ ts' : List Lexeme, ts'.length < ts.length → Ended ts' → Agrees ts') :
    r.run ts = Part.or.read (r.cursor ts) >>= endGroup r.enclosing := by
  rw [run_conjunct h (by rw [hg]; rfl) hr hts hshorter, Part.read_or, Part.read_and, hg]
  simp only [bind_assoc]
  rfl

/-- What is behind the group that a `(` opened is behind an operand of the group around it. -/
theorem endGroup_opened {y : Operand × Cursor} (hy : y.2.nesting = r.nesting + 1) (opening : Nat) :
    endGroup (⟨opening, r.group⟩ :: r.enclosing) y =
      (match y.2.next.token with
        | .closeParen => Except.ok ({ y.1 with start := opening }, y.2.skip.outer)
        | .endOfText => .error ⟨.unclosed, opening⟩
        | _ => .error ⟨.missingOperator, y.2.next.offset⟩) >>= r.goOn := by
  unfold endGroup
  cases hx : y.2.next.token with
  | closeParen =>
    have hsame : goOn ⟨r.group, r.enclosing, y.2.nesting - 1, .operand, y.2.previous⟩ = r.goOn :=
      goOn_congr rfl rfl (by rw [hy]; rfl)
    simp only [hsame]
    rfl
  | _ => rfl

/-- Before a token that continues no chain both chains of the group end. -/
theorem readRest_of_end {c : Cursor} (hplus : c.next.token ≠ .plus) (hminus : c.next.token ≠ .minus)
    (hbar : c.next.token ≠ .bar) (r : Reader) (last : Operand)
    (f : Operand × Cursor → Except Problem Expr) :
    (Connective.and.readRest r.group.conjuncts last c >>= fun y =>
      Connective.or.readRest r.group.alternatives y.1 y.2 >>= f) =
      r.closeGroup last >>= fun whole => f (whole, c) := by
  have hand : Connective.and.readRest r.group.conjuncts last c =
      (Connective.and.close r.group.conjuncts last).map (·, c) := by
    rw [Connective.readRest_and]
    split <;> first | contradiction | rfl
  have hor : ∀ alternative, Connective.or.readRest r.group.alternatives alternative c =
      (Connective.or.close r.group.alternatives alternative).map (·, c) := by
    intro alternative
    rw [Connective.readRest_or]
    split <;> first | contradiction | rfl
  simp only [hand, hor, bind_of_map, closeGroup, bind_assoc]

section

variable {rest : List Lexeme} (h : Ended (x :: rest))
  (ih : ∀ ts : List Lexeme, ts.length < (x :: rest).length → Ended ts → Agrees ts)

include h ih

/-- The reader behind a `(`. -/
theorem run_opened (hx : x.token = .openParen) :
    (r.deeper.opened x.offset).run rest =
      if (r.cursor (x :: rest)).skip.next.token = .closeParen then
        .error ⟨.emptyGroup, (r.cursor (x :: rest)).skip.next.offset⟩
      else Part.or.read (r.cursor (x :: rest)).skip.deeper >>=
        endGroup (⟨x.offset, r.group⟩ :: r.enclosing) := by
  have hrest : Ended rest := (r.cursor (x :: rest)).ended_skip h (by simp [cursor, Cursor.next, hx])
  have hwaits : (r.deeper.opened x.offset).AwaitsOperand := fun last hl => by cases hl
  split
  · rename_i hclose
    cases rest with
    | nil => cases hrest
    | cons y rest =>
      have hy : y.token = .closeParen := hclose
      rw [run, step_operand hwaits, readOperand, hy]
      rfl
  · rename_i hclose
    have hawaits : (r.deeper.opened x.offset).Awaits .not
        ((r.deeper.opened x.offset).cursor rest) :=
      ⟨hwaits, fun _ => hclose, fun hp => (by cases hp), fun hp => (by cases hp)⟩
    exact run_group hrest rfl hawaits (ih rest (by simp) hrest) fun ts hts => ih ts (by simp; omega)

theorem run_primary (hr : r.Awaits .primary (r.cursor (x :: rest))) :
    r.run (x :: rest) = Part.primary.read (r.cursor (x :: rest)) >>= r.goOn := by
  have hnext : (r.cursor (x :: rest)).next = x := rfl
  have hnest : (r.cursor (x :: rest)).nesting = r.nesting := rfl
  rw [run, step_operand hr.operand, Part.read_primary, hnext, hnest]
  unfold readOperand enter
  cases hx : x.token with
  | tag value =>
    simp only [bind_assoc]
    rfl
  | openParen =>
    by_cases hn : r.nesting < maxDepth
    · rw [if_pos hn]
      simp only [if_pos (Nat.succ_le_of_lt hn)]
      refine (run_opened h ih hx).trans ?_
      split
      · rfl
      · simp only [bind_assoc]
        refine bind_congr_of_ok fun y hy => ?_
        exact endGroup_opened (Part.leaves_of_read hy).nesting x.offset
    · rw [if_neg hn]
      simp only [if_neg (show ¬ r.nesting + 1 ≤ maxDepth from hn)]
      rfl
  | bang =>
    have hp : r.position = .primary := by
      by_contra hp
      exact (hr.signs rfl hp).1 hx
    simp only [if_pos hp]
    rfl
  | minus =>
    have hp : r.position = .primary := by
      by_contra hp
      exact (hr.signs rfl hp).2 hx
    simp only [if_pos hp]
    rfl
  | closeParen =>
    have hp : r.position ≠ .afterOpening := fun hp => hr.not_empty hp hx
    simp only [if_neg hp]
    split <;> rfl
  | plus | bar | endOfText => rfl

theorem run_not (hr : r.Awaits .not (r.cursor (x :: rest))) :
    r.run (x :: rest) = Part.not.read (r.cursor (x :: rest)) >>= r.goOn := by
  have hnext : (r.cursor (x :: rest)).next = x := rfl
  have hnest : (r.cursor (x :: rest)).nesting = r.nesting := rfl
  have hp : r.position ≠ .primary := fun hp => by cases hr.primary hp
  rw [Part.read_not, hnext, hnest]
  split
  · rename_i hx
    have hrest : Ended rest := (r.cursor (x :: rest)).ended_skip h (by simp [hnext, hx])
    rw [run, step_operand hr.operand]
    unfold readOperand enter
    simp only [hx, if_neg hp]
    by_cases hn : r.nesting < maxDepth
    · rw [if_pos hn, if_pos (Nat.succ_le_of_lt hn)]
      refine ((ih rest (by simp) hrest).not (r.deeper.negated ⟨x.offset, true⟩ .operand)
        (awaits_not _ rfl)).trans ?_
      simp only [bind_assoc]
      rw [goOn_negated]
      rfl
    · rw [if_neg hn, if_neg (show ¬ r.nesting + 1 ≤ maxDepth from hn)]
      rfl
  · rename_i hx
    have hrest : Ended rest := (r.cursor (x :: rest)).ended_skip h (by simp [hnext, hx])
    rw [run, step_operand hr.operand]
    unfold readOperand
    simp only [hx, if_neg hp]
    refine ((ih rest (by simp) hrest).primary (r.negated ⟨x.offset, false⟩ .primary)
      (awaits_primary _ rfl)).trans ?_
    simp only [bind_assoc]
    rw [goOn_negated]
    rfl
  · rename_i hbang hminus
    exact run_primary h ih ⟨hr.operand, hr.not_empty, fun _ => rfl, fun _ _ => ⟨hbang, hminus⟩⟩

theorem run_chain {last : Operand} (hl : r.position = .operator last)
    (hneg : r.group.negations = []) :
    r.run (x :: rest) =
      Connective.and.readRest r.group.conjuncts last (r.cursor (x :: rest)) >>= fun y =>
        Connective.or.readRest r.group.alternatives y.1 y.2 >>= endGroup r.enclosing := by
  have hnext : (r.cursor (x :: rest)).next = x := rfl
  have hshorter : ∀ ts : List Lexeme, ts.length < rest.length → Ended ts → Agrees ts :=
    fun ts hts => ih ts (Nat.lt_succ_of_lt hts)
  cases hx : x.token with
  | plus =>
    have hrest : Ended rest := (r.cursor (x :: rest)).ended_skip h (by simp [hnext, hx])
    have hrun := run_conjunct (r := r.continued last [] .operand x.offset) hrest rfl
      (awaits_not _ rfl) (ih rest (by simp) hrest) hshorter
    rw [run, step_operator hl, readOperator, Connective.readRest_and, hnext]
    simp only [hx, hneg, bind_assoc]
    exact hrun
  | minus =>
    have hrest : Ended rest := (r.cursor (x :: rest)).ended_skip h (by simp [hnext, hx])
    have hrun := (ih rest (by simp) hrest).primary
      ((r.continued last [] .primary x.offset).negated ⟨x.offset, false⟩ .primary)
      (awaits_primary _ rfl)
    rw [goOn_negated] at hrun
    rw [run, step_operator hl, readOperator, Connective.readRest_and, hnext]
    simp only [hx, bind_assoc]
    refine hrun.trans (bind_congr_of_ok fun y hy => bind_congr_of_ok fun o ho => ?_)
    have hleaves := (Part.leaves_of_read hy).negated ho
    exact goOn_of_agrees (hshorter _ (Part.length_lt_of_read hy) (hleaves.ended hrest)) rfl
      hleaves.nesting
  | bar =>
    have hrest : Ended rest := (r.cursor (x :: rest)).ended_skip h (by simp [hnext, hx])
    rw [run, step_operator hl, readOperator, Connective.readRest_and, hnext]
    simp only [hx, hneg, bind_assoc, bind_of_map]
    refine bind_congr_of_ok fun alternative _ => ?_
    have hrun := run_conjunct (r := r.alternated alternative x.offset) hrest rfl
      (awaits_not _ rfl) (ih rest (by simp) hrest) hshorter
    rw [Connective.readRest_or, hnext]
    simp only [hx]
    rw [Part.read_and]
    simp only [bind_assoc]
    exact hrun
  | closeParen =>
    rw [readRest_of_end (by simp [hnext, hx]) (by simp [hnext, hx]) (by simp [hnext, hx])]
    rw [run, step_operator hl, readOperator]
    simp only [hx, bind_assoc]
    refine bind_congr_of_ok fun whole _ => ?_
    cases he : r.enclosing <;> simp only [endGroup, hnext, hx] <;> rfl
  | tag | openParen | bang =>
    rw [readRest_of_end (by simp [hnext, hx]) (by simp [hnext, hx]) (by simp [hnext, hx])]
    rw [run, step_operator hl, readOperator]
    simp only [hx, bind_assoc]
    refine bind_congr_of_ok fun whole _ => ?_
    cases he : r.enclosing <;> simp only [endGroup, hnext, hx] <;> rfl
  | endOfText =>
    obtain rfl : rest = [] := by
      cases h with
      | stop => rfl
      | cons hne => exact absurd hx hne
    rw [readRest_of_end (by simp [hnext, hx]) (by simp [hnext, hx]) (by simp [hnext, hx])]
    rw [run, step_operator hl, readOperator]
    simp only [hx]
    change finish { r with previous := x.offset } = _
    simp only [finish, hl]
    refine bind_congr_of_ok fun whole _ => ?_
    cases he : r.enclosing <;> simp only [endGroup, hnext, hx]

end

/-- The reader agrees with the descent. -/
theorem agrees {ts : List Lexeme} (h : Ended ts) : Agrees ts := by
  cases ts with
  | nil => cases h
  | cons x rest =>
    have ih : ∀ ts : List Lexeme, ts.length < (x :: rest).length → Ended ts → Agrees ts :=
      fun ts hts => agrees
    exact ⟨fun r => run_primary h ih, fun r => run_not h ih, fun r last => run_chain h ih⟩
termination_by ts.length

end Reader

/-- **The descent reads as the reader does**, the faults included. -/
theorem Expr.readTokens_eq_descend (text : String) : readTokens text = descend text := by
  unfold readTokens descend
  cases hscan : Token.scan text with
  | error offset => rfl
  | ok lexemes =>
    obtain ⟨read, last, rfl, hread⟩ := Token.scan_ok hscan
    have hended := Ended.of_append (fun x hx => (hread x hx).ne_endOfText) last
    exact Reader.run_group (r := .start) hended rfl (Reader.awaits_not _ rfl)
      (Reader.agrees hended) fun _ _ => Reader.agrees

/-! ## Canonical trees -/

/-- **What texts are read as.**  Blank texts, and no others, are read as the empty expression; all
    others that are read are read as canonical trees.  No tree that is read is deeper than the
    limit, so evaluation never refuses one.  Texts are read by descent through the parts of the
    grammar: each part gives the depth of the tree that it has read, and comes back to the nesting
    that it started from. -/
theorem canonical_of_read :
    (∀ text, Expr.read text = .ok .always ↔ Text.isBlank text = true) ∧
    (∀ text e, Expr.read text = .ok e → (e = .always ∨ e.Canonical) ∧ e.depth ≤ maxDepth ∧
      ∀ tags options, e.holdsChecked tags options = .ok (e.holds tags options)) ∧
    (∀ text, Expr.readTokens text = Expr.descend text) ∧
    ∀ (p : Part) (c : Cursor) x, p.read c = .ok x →
      x.1.depth = x.1.expr.depth ∧ x.2.nesting = c.nesting := by
  refine ⟨fun text => read_eq_always_iff, fun text e h => ?_, Expr.readTokens_eq_descend,
    fun p c x h => ?_⟩
  · have hdepth : e.depth ≤ maxDepth := by
      rcases wellFormed_of_read h with rfl | ⟨-, -, hdepth⟩
      · rw [Expr.depth_eq_height, Expr.height]
        decide
      · exact hdepth
    have hcanonical : e = .always ∨ e.Canonical :=
      (wellFormed_of_read h).imp_right fun ⟨hflat, hspell, _⟩ =>
        Expr.canonical_iff.2 ⟨hflat, hspell⟩
    refine ⟨hcanonical, hdepth, fun tags options => ?_⟩
    have hcheck : e.checkDepth = .ok () := if_pos hdepth
    rw [Expr.holdsChecked, hcheck]
    rfl
  · have hleaves := Part.leaves_of_read h
    exact ⟨by rw [hleaves.finished.depth_eq, Expr.depth_eq_height], hleaves.nesting⟩

/-- A group goes into the chain that it stands in, and the descent comes back out of it. -/
theorem canonical_of_read_group :
    Expr.read "(a+b)-c" = .ok (.chain .and [.tag "a", .tag "b", .not (.tag "c")]) ∧
    (Expr.chain .and [.tag "a", .tag "b", .not (.tag "c")]).Canonical ∧
    ∃ lexemes x, Token.scan "(a+b)-c" = .ok lexemes ∧ Part.or.read ⟨lexemes, 0, 0⟩ = .ok x ∧
      x.1.expr = .chain .and [.tag "a", .tag "b", .not (.tag "c")] ∧
      x.1.depth = x.1.expr.depth ∧ x.2.nesting = 0 := by
  have hread : Expr.read "(a+b)-c" = .ok (.chain .and [.tag "a", .tag "b", .not (.tag "c")]) := by
    decide +kernel
  obtain ⟨hcanonical, -, -⟩ := canonical_of_read.2.1 _ _ hread
  refine ⟨hread, hcanonical.resolve_left nofun, ?_⟩
  have htokens : Expr.readTokens "(a+b)-c" =
      .ok (.chain .and [.tag "a", .tag "b", .not (.tag "c")]) := by decide +kernel
  rw [canonical_of_read.2.2.1, Expr.descend] at htokens
  cases hscan : Token.scan "(a+b)-c" with
  | error offset => simp [hscan] at htokens
  | ok lexemes =>
    simp only [hscan] at htokens
    obtain ⟨x, hx, hend⟩ := bind_eq_ok_iff.1 htokens
    obtain ⟨hdepth, hnesting⟩ := canonical_of_read.2.2.2 _ _ _ hx
    refine ⟨lexemes, x, rfl, hx, ?_, hdepth, hnesting⟩
    split at hend
    · exact Except.ok.inj hend
    · cases hend
    · cases hend

end AudienceRouting
