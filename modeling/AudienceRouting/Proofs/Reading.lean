/-
  Audience routing — reading the tokens of a derivation.

  `Derivation.run_spec`: on the tokens of a derivation the reader gives its tree, if no
  token stands under too many `(` and `!` and the tree is not too high, and
  otherwise stops with the fault `tooDeep`.

  A conjunction is read up to its last operand, since its end shows at the token
  behind it only, and a whole group up to its end.
-/
import AudienceRouting.Proofs.Operands

namespace AudienceRouting

/-! ## Chains and groups -/

namespace Reader

theorem Gathered.fields {r r' : Reader} {es : List Expr} (h : r.Gathered es r') :
    (∃ last, r'.position = .operator last) ∧ r'.group.negations = [] ∧ r'.nesting = r.nesting := by
  obtain ⟨_, last, _, _, _, rfl⟩ := h
  exact ⟨⟨last, rfl⟩, rfl, rfl⟩

theorem Gathered.outside {r r' : Reader} {es : List Expr} (h : r.Gathered es r') :
    r'.group.alternatives = r.group.alternatives ∧ r'.enclosing = r.enclosing := by
  obtain ⟨_, _, _, _, _, rfl⟩ := h
  exact ⟨rfl, rfl⟩

theorem gathered_of_supplied {r r' : Reader} {e : Expr} (hg : r.group.conjuncts = [])
    (hn : r.group.negations = []) (h : r.Supplied e r') : r.Gathered [e] r' := by
  obtain ⟨o, previous, ho, he, rfl⟩ := h
  refine ⟨[], o, previous, by simpa using ho, by simpa [hn] using he, ?_⟩
  simp [supplied, hg, hn]

/-- The reader behind an operator of a conjunction, with its last operand in front of it. -/
def continued (r : Reader) (last : Operand) (negations : List Negation) (position : Position)
    (previous : Nat) : Reader :=
  { r with
    group := ⟨r.group.alternatives, last :: r.group.conjuncts, negations⟩
    position
    previous }

/-- One more operand of a conjunction. -/
theorem gathered_append {r r₁ r' : Reader} {es : List Expr} {e e' : Expr}
    {negations : List Negation} {position : Position} {previous : Nat} {last : Operand}
    (h : r.Gathered es r₁) (hl : r₁.position = .operator last)
    (h' : (r₁.continued last negations position previous).Supplied e r')
    (hn : negations.filter (·.nests) = []) (he : Expr.not^[negations.length] e = e') :
    r.Gathered (es ++ [e']) r' := by
  obtain ⟨conjuncts, last', previous', hf, rfl, rfl⟩ := h
  obtain ⟨o, previous'', ho, heo, rfl⟩ := h'
  cases hl
  refine ⟨last :: conjuncts, o, previous'', ?_, ?_, ?_⟩
  · intro x hx
    rcases List.mem_append.1 hx with hx | hx
    · exact hf x (by simpa using hx)
    · rw [List.mem_singleton.1 hx]
      exact ho
  · simp [heo, continued, he]
  · simp [supplied, continued, hn]

end Reader

namespace Derivation

/-- The operands of the conjunction. -/
def operands : Derivation .and → List Expr
  | .all first rest => first.tree :: rest.trees

theorem all_operands (d : Derivation .and) : Expr.all d.operands = d.tree := by
  cases d; rfl

theorem height_operand (d : Derivation .and) {e : Expr} (h : e ∈ d.operands) :
    e.height ≤ d.tree.height := by
  cases d with
  | all first rest =>
    exact Expr.height_le_join (List.forall_mem_cons.2 ⟨first.flat_tree, rest.flat_trees⟩) h

/-- The reader `r` reads the derivation as a conjunction, up to the last operand. -/
def GathersFrom (d : Derivation .and) (r : Reader) : Prop :=
  ∀ xs : List Lexeme, xs.map (·.token) = d.tokens →
    Limited (Shallow (d.levels r.nesting) ∧ ∀ e ∈ d.operands, e.height ≤ maxDepth)
      (r.steps xs) (r.Gathered d.operands)

end Derivation

namespace Continuation

/-- Having read `es` from `r` on, the reader goes on with the operands of the continuation. -/
def GathersFrom (k : Continuation .and) (r : Reader) : Prop :=
  ∀ (es : List Expr) (r₁ : Reader), r.Gathered es r₁ →
    ∀ xs : List Lexeme, xs.map (·.token) = k.tokens →
      Limited (Shallow (k.levels r.nesting) ∧ ∀ e ∈ k.trees, e.height ≤ maxDepth)
        (r₁.steps xs) (r.Gathered (es ++ k.trees))

theorem gathersFrom_none (r : Reader) : (none .and).GathersFrom r := by
  intro es r₁ h xs hxs
  obtain rfl := List.map_eq_nil_iff.1 hxs
  have : r.Gathered (es ++ (none .and).trees) r₁ := by simpa [trees] using h
  exact (Limited.ok this).congr (iff_true_intro ⟨by simp [levels, Shallow], by simp [trees]⟩)

/-- The step of `GathersFrom`, for either operator: behind it, in `position` and with `negations`,
    the reader waits for the operand `o`. -/
theorem gathersFrom_cons {p : Part} {o : Derivation p} {k rest : Continuation .and} {r : Reader}
    {operator : Token} {e : Expr} (negations : Lexeme → List Negation) (position : Position)
    (htokens : k.tokens = operator :: (o.tokens ++ rest.tokens))
    (htrees : k.trees = e :: rest.trees)
    (hlevels : k.levels r.nesting = r.nesting :: (o.levels r.nesting ++ rest.levels r.nesting))
    (hstep : ∀ (r : Reader) (last : Operand) (x : Lexeme), r.position = .operator last →
      r.group.negations = [] → x.token = operator →
      r.step x = .ok (r.continued last (negations x) position x.offset))
    (hnests : ∀ x, (negations x).filter (·.nests) = [])
    (he : ∀ x, Expr.not^[(negations x).length] o.tree = e)
    (hposition : ∀ last, position ≠ .operator last)
    (ho : ∀ r : Reader, r.Waits → r.position = position → o.ReadsFrom r)
    (hrest : rest.GathersFrom r) (hn : r.nesting ≤ maxDepth) : k.GathersFrom r := by
  intro es r₁ h xs hxs
  rw [htokens] at hxs
  obtain ⟨x, ys, rfl, hx, hys⟩ := List.map_eq_cons_iff.1 hxs
  obtain ⟨ys, zs, rfl, hys, hzs⟩ := List.map_eq_append_iff.1 hys
  obtain ⟨⟨last, hl⟩, hneg, hnest⟩ := h.fields
  have hsteps : r₁.steps (x :: (ys ++ zs)) =
      (r₁.continued last (negations x) position x.offset).steps ys >>= (Reader.steps · zs) := by
    rw [Reader.steps_cons, hstep r₁ last x hl hneg hx, ← Reader.steps_append]
    rfl
  have hw : (r₁.continued last (negations x) position x.offset).Waits := by
    refine ⟨hposition, ?_⟩
    rw [Reader.continued, hnest]
    exact hn
  have hread := ho _ hw rfl ys hys
  rw [hsteps]
  refine (((hread.bind fun r₂ hr₂ =>
    hrest _ r₂ (Reader.gathered_append h hl hr₂ (hnests x) (he x)) zs hzs).congr ?_).mono ?_)
  · have hh : e.height = o.tree.height + (negations x).length := by rw [← he x, height_nots]
    rw [hlevels, htrees, shallow_cons, shallow_append, List.forall_mem_cons, hh]
    simp only [Reader.continued, hnest]
    constructor
    · rintro ⟨⟨-, hs, hs'⟩, hh, hh'⟩
      exact ⟨⟨hs, hh⟩, hs', hh'⟩
    · rintro ⟨⟨hs, hh⟩, hs', hh'⟩
      exact ⟨⟨hn, hs, hs'⟩, hh, hh'⟩
  · intro r' hr'
    rwa [htrees, List.append_cons]

theorem gathersFrom_plus {o : Derivation .not} {rest : Continuation .and} {r : Reader}
    (ho : ∀ r : Reader, r.Waits → r.position ≠ .primary → o.ReadsFrom r)
    (hrest : rest.GathersFrom r) (hn : r.nesting ≤ maxDepth) : (plus o rest).GathersFrom r := by
  refine gathersFrom_cons (o := o) (fun _ => []) .operand rfl rfl rfl ?_ (fun _ => rfl)
    (fun _ => rfl) (by simp) (fun r hw hp => ho r hw (by simp [hp])) hrest hn
  intro r last x hl hneg hx
  rw [Reader.step_operator hl, Reader.readOperator, hx, Reader.continued, ← hneg]
  rfl

theorem gathersFrom_minus {o : Derivation .primary} {rest : Continuation .and} {r : Reader}
    (ho : ∀ r : Reader, r.Waits → o.ReadsFrom r)
    (hrest : rest.GathersFrom r) (hn : r.nesting ≤ maxDepth) : (minus o rest).GathersFrom r := by
  refine gathersFrom_cons (o := o) (fun x => [⟨x.offset, false⟩]) .primary rfl rfl rfl ?_
    (fun _ => rfl) (fun _ => rfl) (by simp) (fun r hw _ => ho r hw) hrest hn
  intro r last x hl hneg hx
  rw [Reader.step_operator hl, Reader.readOperator, hx]
  rfl

end Continuation

theorem Derivation.gathersFrom_all {first : Derivation .not} {rest : Continuation .and}
    {r : Reader} (hfirst : first.ReadsFrom r) (hrest : rest.GathersFrom r)
    (hc : r.group.conjuncts = []) (hn : r.group.negations = []) :
    (all first rest).GathersFrom r := by
  intro xs hxs
  obtain ⟨ys, zs, rfl, hys, hzs⟩ := List.map_eq_append_iff.1 hxs
  rw [Reader.steps_append]
  refine ((hfirst ys hys).bind fun r₁ hr₁ =>
    hrest _ r₁ (Reader.gathered_of_supplied hc hn hr₁) zs hzs).congr ?_
  simp only [levels, operands, shallow_append, List.forall_mem_cons, hn, List.length_nil,
    Nat.add_zero]
  tauto

namespace Reader

/-- What the alternatives in front of the last one stand for. -/
def earlier (r : Reader) : List Expr := r.group.alternatives.reverse.map (·.expr)

/-- The reader behind a `|`, with the alternative in front of it. -/
def alternated (r : Reader) (alternative : Operand) (previous : Nat) : Reader :=
  { r with
    group := ⟨alternative :: r.group.alternatives, [], []⟩
    position := .operand
    previous }

/-- Ending a conjunction. -/
theorem close_and_spec {r r' : Reader} {es : List Expr} (h : r.Gathered es r') {last : Operand}
    (hl : r'.position = .operator last) :
    Limited ((Expr.all es).height ≤ maxDepth) (Connective.and.close r'.group.conjuncts last)
      fun o => o.Finished ∧ o.expr = Expr.all es := by
  obtain ⟨conjuncts, last', previous, hf, rfl, rfl⟩ := h
  cases hl
  exact Connective.close_spec .and _ _ hf

theorem Gathered.flat {r r' : Reader} {es : List Expr} (h : r.Gathered es r') :
    (Expr.all es).Flat := by
  obtain ⟨_, _, _, hf, rfl, _⟩ := h
  exact .join (Operand.forall_flat hf) (by simp)

/-- Ending a group. -/
theorem settle_spec {r r' : Reader} {es : List Expr}
    (hr : ∀ o ∈ r.group.alternatives, o.Finished) (h : r.Gathered es r') :
    Limited ((Expr.any (r.earlier ++ [.all es])).height ≤ maxDepth) r'.settle fun x =>
      x.1.Finished ∧ x.1.expr = .any (r.earlier ++ [.all es]) ∧
        x.2.enclosing = r.enclosing ∧ x.2.nesting = r.nesting := by
  obtain ⟨⟨last, hl⟩, -, hnest⟩ := h.fields
  obtain ⟨halt, henc⟩ := h.outside
  have hsettle : r'.settle = Connective.and.close r'.group.conjuncts last >>= fun a =>
      Connective.or.close r.group.alternatives a >>= fun o => .ok (o, r') := by
    rw [settle, hl, ← halt]
    simp only [closeGroup]
    cases Connective.and.close r'.group.conjuncts last <;> rfl
  have hle : (Expr.all es).height ≤ (Expr.any (r.earlier ++ [.all es])).height := by
    refine Expr.height_le_join (fun e he => ?_) (by simp)
    rcases List.mem_append.1 he with he | he
    · exact Operand.forall_flat (fun o ho => hr o (by simpa using ho)) e he
    · exact List.mem_singleton.1 he ▸ h.flat
  rw [hsettle]
  refine ((close_and_spec h hl).bind
    (q := (Expr.any (r.earlier ++ [.all es])).height ≤ maxDepth) ?_).congr (by omega)
  rintro a ⟨ha, hae⟩
  have hclose := Connective.close_spec .or r.group.alternatives a (by
    intro o ho
    rcases List.mem_append.1 ho with ho | ho
    · exact hr o (by simpa using ho)
    · exact List.mem_singleton.1 ho ▸ ha)
  rw [List.map_append, List.map_singleton, hae] at hclose
  refine (hclose.bind (q := True) ?_).congr (and_iff_left trivial).symm
  rintro o ⟨ho, hoe⟩
  exact .ok ⟨ho, hoe, henc, hnest⟩

end Reader

namespace Continuation

/-- Having gathered `es` in a group that `r` is the base of, the reader goes on with the
    alternatives of the continuation. -/
def Fills (k : Continuation .or) : Prop :=
  ∀ (r r₁ : Reader) (es : List Expr), (∀ o ∈ r.group.alternatives, o.Finished) →
    r.nesting ≤ maxDepth → r.Gathered es r₁ → ∀ xs : List Lexeme, xs.map (·.token) = k.tokens →
      Limited (Shallow (k.levels r.nesting) ∧
          (Expr.any (r.earlier ++ .all es :: k.trees)).height ≤ maxDepth)
        (r₁.steps xs >>= Reader.settle) fun x =>
          x.1.Finished ∧ x.1.expr = .any (r.earlier ++ .all es :: k.trees) ∧
            x.2.enclosing = r.enclosing ∧ x.2.nesting = r.nesting

theorem fills_none : (none .or).Fills := by
  intro r r₁ es hr _ h xs hxs
  obtain rfl := List.map_eq_nil_iff.1 hxs
  exact (Reader.settle_spec hr h).congr (and_iff_right (by simp [levels, Shallow]))

theorem fills_bar {o : Derivation .and} {rest : Continuation .or}
    (ho : ∀ r : Reader, r.Waits → r.position ≠ .primary → r.group.conjuncts = [] →
      r.group.negations = [] → o.GathersFrom r)
    (hrest : rest.Fills) : (bar o rest).Fills := by
  intro r r₁ es hr hn h xs hxs
  obtain ⟨x, ys, rfl, hx, hys⟩ := List.map_eq_cons_iff.1 hxs
  obtain ⟨ys, zs, rfl, hys, hzs⟩ := List.map_eq_append_iff.1 hys
  obtain ⟨⟨last, hl⟩, hneg, hnest⟩ := h.fields
  obtain ⟨halt, henc⟩ := h.outside
  have hsteps : r₁.steps (x :: (ys ++ zs)) >>= Reader.settle =
      Connective.and.close r₁.group.conjuncts last >>= fun a =>
        (r₁.alternated a x.offset).steps ys >>= fun r₂ => r₂.steps zs >>= Reader.settle := by
    rw [Reader.steps_cons, Reader.step_operator hl, Reader.readOperator, hx]
    simp only [bind_assoc, Reader.steps_append]
    congr 1
    funext a
    simp only [hneg]
    rfl
  have hflat : ∀ e ∈ r.earlier ++ .all es :: (bar o rest).trees, e.Flat := by
    intro e he
    rcases List.mem_append.1 he with he | he
    · exact Operand.forall_flat (fun o ho => hr o (by simpa using ho)) e he
    · exact List.forall_mem_cons.2 ⟨h.flat, (bar o rest).flat_trees⟩ e he
  have hlist : r.earlier ++ .all es :: (bar o rest).trees =
      (r.earlier ++ [.all es]) ++ o.tree :: rest.trees := by simp [trees]
  rw [hsteps]
  refine (((Reader.close_and_spec h hl).bind (q := (Shallow (o.levels r.nesting) ∧
    ∀ e ∈ o.operands, e.height ≤ maxDepth) ∧ Shallow (rest.levels r.nesting) ∧
      (Expr.any (r.earlier ++ .all es :: (bar o rest).trees)).height ≤ maxDepth) ?_).congr ?_)
  · rintro a ⟨ha, hae⟩
    have hw : (r₁.alternated a x.offset).Waits :=
      ⟨by simp [Reader.alternated], by rw [Reader.alternated, hnest]; exact hn⟩
    have hread := ho _ hw (by simp [Reader.alternated]) rfl rfl ys hys
    have hearlier : (r₁.alternated a x.offset).earlier = r.earlier ++ [.all es] := by
      simp [Reader.earlier, Reader.alternated, halt, hae]
    have hfin : ∀ o ∈ (r₁.alternated a x.offset).group.alternatives, o.Finished := by
      rw [Reader.alternated, halt]
      exact List.forall_mem_cons.2 ⟨ha, hr⟩
    rw [← hnest, hlist, ← hearlier, ← o.all_operands, ← henc]
    exact hread.bind fun r₂ hr₂ => hrest _ r₂ _ hfin hw.nesting hr₂ zs hzs
  · -- the whole is at least as high as its alternatives, so its limit implies theirs
    have hall : (Expr.all es).height ≤
        (Expr.any (r.earlier ++ .all es :: (bar o rest).trees)).height :=
      Expr.height_le_join hflat (by simp)
    have hop : o.tree.height ≤ (Expr.any (r.earlier ++ .all es :: (bar o rest).trees)).height :=
      Expr.height_le_join hflat (by simp [trees])
    simp only [levels, shallow_cons, shallow_append]
    constructor
    · rintro ⟨⟨-, hs, hs'⟩, hh⟩
      exact ⟨by omega, ⟨hs, fun e he => (o.height_operand he).trans (hop.trans hh)⟩, hs', hh⟩
    · rintro ⟨-, ⟨hs, -⟩, hs', hh⟩
      exact ⟨⟨hn, hs, hs'⟩, hh⟩

end Continuation

theorem Derivation.fillsFrom_any {first : Derivation .and} {rest : Continuation .or} {r : Reader}
    (hfirst : first.GathersFrom r) (hrest : rest.Fills) (hg : r.group = .empty)
    (hn : r.nesting ≤ maxDepth) : (any first rest).FillsFrom r := by
  intro xs hxs
  obtain ⟨ys, zs, rfl, hys, hzs⟩ := List.map_eq_append_iff.1 hxs
  have hearlier : r.earlier = [] := by rw [Reader.earlier, hg]; rfl
  rw [Reader.steps_append, bind_assoc]
  have htree : (any first rest).tree =
      Expr.any (r.earlier ++ .all first.operands :: rest.trees) := by
    rw [hearlier, first.all_operands]; rfl
  have hle : ∀ e ∈ first.operands, e.height ≤ (any first rest).tree.height := fun e he =>
    Nat.le_trans (first.height_operand he) (Expr.height_le_join
      (List.forall_mem_cons.2 ⟨first.flat_tree, rest.flat_trees⟩) (by simp))
  refine ((hfirst ys hys).bind (q := Shallow (rest.levels r.nesting) ∧
    (any first rest).tree.height ≤ maxDepth) fun r₁ hr₁ => ?_).congr ?_
  · rw [htree]
    exact hrest r r₁ _ (by simp [hg, Group.empty]) hn hr₁ zs hzs
  · rw [levels, shallow_append]
    constructor
    · rintro ⟨⟨hs, hs'⟩, hh⟩
      exact ⟨⟨hs, fun e he => Nat.le_trans (hle e he) hh⟩, hs', hh⟩
    · rintro ⟨⟨hs, -⟩, hs', hh⟩
      exact ⟨⟨hs, hs'⟩, hh⟩

/-! ## Derivations -/

mutual

theorem Derivation.reads_primary : (d : Derivation .primary) → ∀ r : Reader, r.Waits →
    d.ReadsFrom r
  | .tag value, _, hr => Derivation.readsFrom_tag value hr
  | .group inner, _, hr => Derivation.readsFrom_group (fun r hr hp hg => inner.fills r hr hp hg) hr

theorem Derivation.reads_not : (d : Derivation .not) → ∀ r : Reader, r.Waits →
    r.position ≠ .primary → d.ReadsFrom r
  | .plain primary, r, hr, _ => primary.reads_primary r hr
  | .bang operand, _, hr, hp =>
    Derivation.readsFrom_bang (fun r hr hp => operand.reads_not r hr hp) hr hp
  | .minus operand, _, hr, hp =>
    Derivation.readsFrom_minus (fun r hr => operand.reads_primary r hr) hr hp

theorem Derivation.gathers : (d : Derivation .and) → ∀ r : Reader, r.Waits →
    r.position ≠ .primary → r.group.conjuncts = [] → r.group.negations = [] → d.GathersFrom r
  | .all first rest, r, hr, hp, hc, hn =>
    Derivation.gathersFrom_all (first.reads_not r hr hp) (rest.gathers r hr.nesting) hc hn

theorem Continuation.gathers : (k : Continuation .and) → ∀ r : Reader, r.nesting ≤ maxDepth →
    k.GathersFrom r
  | .none _, r, _ => Continuation.gathersFrom_none r
  | .plus operand rest, r, hn =>
    Continuation.gathersFrom_plus (fun r hr hp => operand.reads_not r hr hp) (rest.gathers r hn) hn
  | .minus operand rest, r, hn =>
    Continuation.gathersFrom_minus (fun r hr => operand.reads_primary r hr) (rest.gathers r hn) hn

theorem Derivation.fills : (d : Derivation .or) → ∀ r : Reader, r.Waits →
    r.position ≠ .primary → r.group = .empty → d.FillsFrom r
  | .any first rest, r, hr, hp, hg =>
    Derivation.fillsFrom_any (first.gathers r hr hp (by rw [hg]; rfl) (by rw [hg]; rfl)) rest.fills
      hg hr.nesting

theorem Continuation.fills : (k : Continuation .or) → k.Fills
  | .none _ => Continuation.fills_none
  | .bar operand rest =>
    Continuation.fills_bar (fun r hr hp hc hn => operand.gathers r hr hp hc hn) rest.fills

end

namespace Reader

/-- What the end of the text does with a group that is settled. -/
def concluded (x : Operand × Reader) : Except Problem Expr :=
  match x.2.enclosing with
  | [] => .ok x.1.expr
  | innermost :: _ => .error ⟨.unclosed, innermost.opening⟩

theorem finish_endOfText {r : Reader} {last : Operand} (h : r.position = .operator last)
    {x : Lexeme} (hx : x.token = .endOfText) : r.step x >>= finish = r.settle >>= concluded := by
  have hstep : r.step x = .ok { r with previous := x.offset } := by
    rw [step_operator h, readOperator, hx]
    rfl
  have hfinish : finish { r with previous := x.offset } =
      r.closeGroup last >>= fun whole => concluded (whole, r) := by
    rw [finish, h]
    rfl
  rw [hstep]
  refine hfinish.trans ?_
  simp only [settle, h]
  cases r.closeGroup last <;> rfl

end Reader

/-- **Reading what a derivation derives.** -/
theorem Derivation.run_spec (d : Derivation .or) {lexemes : List Lexeme}
    (h : lexemes.map (·.token) = d.tokens ++ [.endOfText]) :
    Limited d.Fits (Reader.start.run lexemes) (· = d.tree) := by
  obtain ⟨xs, zs, rfl, hxs, hzs⟩ := List.map_eq_append_iff.1 h
  obtain ⟨z, rfl, hz⟩ := List.map_eq_singleton_iff.1 hzs
  have hrun : Reader.start.run (xs ++ [z]) =
      Reader.start.steps xs >>= fun r => r.step z >>= Reader.finish := by
    rw [Reader.run_eq, Reader.steps_append, bind_assoc]
    simp [Reader.steps]
  have hw : Reader.start.Waits := ⟨by simp [Reader.start], by decide⟩
  have hfill := d.fills Reader.start hw (by simp [Reader.start]) rfl xs hxs
  rw [hrun, Fits, Expr.depth_eq_height]
  refine (Reader.limited_of_settle hfill (q := True) (g := Reader.concluded)
    (fun r last hl => Reader.finish_endOfText hl hz) ?_).congr (and_iff_left trivial).symm
  rintro ⟨o, r⟩ ⟨-, he, henc, -⟩
  rw [Reader.concluded, henc]
  exact .ok he

end AudienceRouting
