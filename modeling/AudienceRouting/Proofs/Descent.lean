/-
  Audience routing — what the descent reads, one part at a time.

  * `Part.read_or` and so on: the parts of the grammar and the rests of chains, each
    by the parts that it is made of.
  * `Cursor.Leaves c x`: from `c` on the operand `x.1` is read, within the limits and
    measured right, and the cursor `x.2` behind it has the nesting of `c`.
    `Part.leaves_of_read`: so it is with every part.
-/
import AudienceRouting.Expr.Descent
import AudienceRouting.Proofs.Limits

namespace AudienceRouting

/-! ## One part at a time -/

theorem Part.length_lt_of_read {p : Part} {c : Cursor} {x : Operand × Cursor}
    (h : p.read c = .ok x) : x.2.rest.length < c.rest.length := by
  obtain ⟨y, -, rfl⟩ := map_eq_ok_iff.1 h
  exact y.2.2

theorem Part.read_or (c : Cursor) : Part.or.read c =
    Part.and.read c >>= fun x => Connective.or.readRest [] x.1 x.2 := by
  unfold Part.read Connective.readRest
  conv => lhs; rw [Part.readBehind]
  simp only [map_bind_map, bind_of_map]
  rfl

theorem Part.read_and (c : Cursor) : Part.and.read c =
    Part.not.read c >>= fun x => Connective.and.readRest [] x.1 x.2 := by
  unfold Part.read Connective.readRest
  conv => lhs; rw [Part.readBehind]
  simp only [map_bind_map, bind_of_map]
  rfl

theorem Part.read_not (c : Cursor) : Part.not.read c =
    match c.next.token with
    | .bang =>
      if c.nesting < maxDepth then do
        let x ← Part.not.read c.skip.deeper
        let negated ← x.1.negated c.next.offset
        .ok (negated, x.2.outer)
      else .error ⟨.tooDeep, c.next.offset⟩
    | .minus => do
      let x ← Part.primary.read c.skip
      let negated ← x.1.negated c.next.offset
      .ok (negated, x.2)
    | _ => Part.primary.read c := by
  unfold Part.read
  conv => lhs; rw [Part.readBehind]
  split
  · rename_i h
    simp only [h]
    split
    · simp only [map_bind_map, bind_of_map, map_ok]
    · rfl
  · rename_i h
    simp only [h, map_bind_map, bind_of_map, map_ok]
  · rename_i hbang hminus
    split
    · contradiction
    · contradiction
    · rfl

theorem Part.read_primary (c : Cursor) : Part.primary.read c =
    match c.next.token with
    | .tag value => .ok (⟨.tag value, 1, c.next.offset⟩, c.skip)
    | .openParen =>
      if c.nesting < maxDepth then
        if c.skip.next.token = .closeParen then .error ⟨.emptyGroup, c.skip.next.offset⟩
        else do
          let x ← Part.or.read c.skip.deeper
          match x.2.next.token with
          | .closeParen => .ok ({ x.1 with start := c.next.offset }, x.2.skip.outer)
          | .endOfText => .error ⟨.unclosed, c.next.offset⟩
          | _ => .error ⟨.missingOperator, x.2.next.offset⟩
      else .error ⟨.tooDeep, c.next.offset⟩
    | .endOfText => .error ⟨.unfinished, c.previous⟩
    | .closeParen =>
      if c.nesting = 0 then .error ⟨.strayClosing, c.next.offset⟩
      else .error ⟨.missingOperand, c.next.offset⟩
    | .plus | .bar | .bang | .minus => .error ⟨.missingOperand, c.next.offset⟩ := by
  unfold Part.read
  conv => lhs; rw [Part.readBehind]
  split
  · rename_i h
    simp only [h, Except.map]
  · rename_i h
    simp only [h]
    split
    · split
      · rfl
      · simp only [map_bind_map, bind_of_map]
        refine bind_congr_of_ok fun x _ => ?_
        cases x.2.1.next.token <;> rfl
    · rfl
  · rename_i h
    simp only [h, Except.map]
  · rename_i h
    simp only [h]
    split <;> rfl
  all_goals
    rename_i h
    simp only [h, Except.map]

theorem Connective.readRest_or (earlier : List Operand) (last : Operand) (c : Cursor) :
    Connective.or.readRest earlier last c =
      match c.next.token with
      | .bar => Part.and.read c.skip >>= fun x => Connective.or.readRest (last :: earlier) x.1 x.2
      | _ => (Connective.or.close earlier last).map (·, c) := by
  unfold Connective.readRest Part.read
  conv => lhs; rw [Connective.readFrom]
  split
  · rename_i h
    simp only [h, map_bind_map, bind_of_map]
    rfl
  · simp only [map_bind_map]
    cases Connective.or.close earlier last <;> rfl

theorem Connective.readRest_and (earlier : List Operand) (last : Operand) (c : Cursor) :
    Connective.and.readRest earlier last c =
      match c.next.token with
      | .plus => Part.not.read c.skip >>= fun x => Connective.and.readRest (last :: earlier) x.1 x.2
      | .minus => do
        let x ← Part.primary.read c.skip
        let negated ← x.1.negated c.next.offset
        Connective.and.readRest (last :: earlier) negated x.2
      | _ => (Connective.and.close earlier last).map (·, c) := by
  unfold Connective.readRest Part.read
  conv => lhs; rw [Connective.readFrom]
  split
  · rename_i h
    simp only [h, map_bind_map, bind_of_map]
    rfl
  · rename_i h
    simp only [h, map_bind_map, bind_of_map]
    rfl
  · simp only [map_bind_map]
    cases Connective.and.close earlier last <;> rfl

/-! ## What a part leaves -/

/-- Tokens up to the end of the text. -/
inductive Ended : List Lexeme → Prop
  | stop (offset : Nat) : Ended [⟨.endOfText, offset⟩]
  | cons {x : Lexeme} {rest : List Lexeme} (hx : x.token ≠ .endOfText) (h : Ended rest) :
      Ended (x :: rest)

theorem Ended.of_append {read : List Lexeme} (hread : ∀ x ∈ read, x.token ≠ .endOfText)
    (offset : Nat) : Ended (read ++ [⟨.endOfText, offset⟩]) := by
  induction read with
  | nil => exact .stop offset
  | cons x read ih =>
    obtain ⟨hx, hread⟩ := List.forall_mem_cons.1 hread
    exact .cons hx (ih hread)

theorem Cursor.ended_skip {c : Cursor} (h : Ended c.rest) (hx : c.next.token ≠ .endOfText) :
    Ended c.skip.rest := by
  unfold next at hx
  unfold skip
  cases hc : c.rest with
  | nil => simp [hc] at hx
  | cons x rest =>
    rw [hc] at h
    cases h with
    | stop offset => simp [hc] at hx
    | cons _ h => exact h

/-- From `c` on a finished operand is read: behind it the nesting is as it was, and the text is
    not left. -/
structure Cursor.Leaves (c : Cursor) (x : Operand × Cursor) : Prop where
  finished : x.1.Finished
  nesting : x.2.nesting = c.nesting
  ended : Ended c.rest → Ended x.2.rest

namespace Cursor.Leaves

variable {c : Cursor} {x y : Operand × Cursor}

theorem trans (h : c.Leaves x) (h' : x.2.Leaves y) : c.Leaves y :=
  ⟨h'.finished, h'.nesting.trans h.nesting, fun hc => h'.ended (h.ended hc)⟩

theorem of_skip (hx : c.next.token ≠ .endOfText) (h : c.skip.Leaves x) : c.Leaves x :=
  ⟨h.finished, h.nesting, fun hc => h.ended (c.ended_skip hc hx)⟩

theorem outer (h : c.deeper.Leaves x) : c.Leaves (x.1, x.2.outer) :=
  ⟨h.finished, by rw [Cursor.outer, h.nesting]; rfl, h.ended⟩

theorem negated (h : c.Leaves x) {offset : Nat} {o : Operand} (ho : x.1.negated offset = .ok o) :
    c.Leaves (o, x.2) := by
  have hd : x.1.depth + 1 = (Expr.not x.1.expr).height := by
    rw [h.finished.depth_eq, Expr.height]
  have hspec := Operand.limited_spec (o := ⟨.not x.1.expr, x.1.depth + 1, offset⟩) hd
    (.not h.finished.flat) offset
  exact ⟨(hspec.of_ok ho).2, h.nesting, h.ended⟩

/-- A group in parentheses is what is inside of them, read at the level outside. -/
theorem closed (h : c.deeper.Leaves x) (hx : x.2.next.token = .closeParen) (offset : Nat) :
    c.Leaves ({ x.1 with start := offset }, x.2.skip.outer) :=
  ⟨⟨h.finished.depth_eq, h.finished.depth_le, h.finished.flat⟩,
    by rw [Cursor.outer, Cursor.skip, h.nesting]; rfl,
    fun hc => x.2.ended_skip (h.ended hc) (by simp [hx])⟩

end Cursor.Leaves

/-- A chain that ends at `c`. -/
theorem Connective.leaves_of_close {con : Connective} {earlier : List Operand} {last : Operand}
    {c : Cursor} {x : Operand × Cursor} (hfin : ∀ o ∈ last :: earlier, o.Finished)
    (h : (con.close earlier last).map (·, c) = .ok x) : c.Leaves x := by
  obtain ⟨o, ho, rfl⟩ := map_eq_ok_iff.1 h
  have hspec := con.close_spec earlier last fun o ho => hfin o (by simpa [or_comm] using ho)
  exact ⟨(hspec.of_ok ho).1, rfl, id⟩

mutual

theorem Part.leaves_of_read {p : Part} {c : Cursor} {x : Operand × Cursor}
    (h : p.read c = .ok x) : c.Leaves x := by
  match p with
  | .or =>
    rw [Part.read_or] at h
    obtain ⟨y, hy, h⟩ := bind_eq_ok_iff.1 h
    have hlt := Part.length_lt_of_read hy
    have hfirst := Part.leaves_of_read hy
    exact hfirst.trans (Connective.leaves_of_readRest (by simpa using hfirst.finished) h)
  | .and =>
    rw [Part.read_and] at h
    obtain ⟨y, hy, h⟩ := bind_eq_ok_iff.1 h
    have hlt := Part.length_lt_of_read hy
    have hfirst := Part.leaves_of_read hy
    exact hfirst.trans (Connective.leaves_of_readRest (by simpa using hfirst.finished) h)
  | .not =>
    rw [Part.read_not] at h
    split at h
    · rename_i hx
      have hskip := c.length_skip_lt (by simp [hx])
      split at h
      · obtain ⟨y, hy, h⟩ := bind_eq_ok_iff.1 h
        obtain ⟨o, ho, h⟩ := bind_eq_ok_iff.1 h
        cases h
        exact .of_skip (by simp [hx]) ((Part.leaves_of_read hy).negated ho).outer
      · cases h
    · rename_i hx
      have hskip := c.length_skip_lt (by simp [hx])
      obtain ⟨y, hy, h⟩ := bind_eq_ok_iff.1 h
      obtain ⟨o, ho, h⟩ := bind_eq_ok_iff.1 h
      cases h
      exact .of_skip (by simp [hx]) ((Part.leaves_of_read hy).negated ho)
    · exact Part.leaves_of_read h
  | .primary =>
    rw [Part.read_primary] at h
    split at h
    · rename_i value hx
      cases h
      exact ⟨⟨by simp [Expr.height], by simp [maxDepth], .tag value⟩, rfl,
        fun hc => c.ended_skip hc (by simp [hx])⟩
    · rename_i hx
      have hskip := c.length_skip_lt (by simp [hx])
      split at h
      · split at h
        · cases h
        · obtain ⟨y, hy, h⟩ := bind_eq_ok_iff.1 h
          have hinner := Part.leaves_of_read hy
          split at h
          · rename_i hclose
            cases h
            exact .of_skip (by simp [hx]) (hinner.closed hclose _)
          · cases h
          · cases h
      · cases h
    · cases h
    · split at h <;> cases h
    all_goals cases h
termination_by (c.rest.length, p.rank)

theorem Connective.leaves_of_readRest {con : Connective} {earlier : List Operand} {last : Operand}
    {c : Cursor} {x : Operand × Cursor} (hfin : ∀ o ∈ last :: earlier, o.Finished)
    (h : con.readRest earlier last c = .ok x) : c.Leaves x := by
  match con with
  | .or =>
    rw [Connective.readRest_or] at h
    split at h
    · rename_i hx
      have hskip := c.length_skip_lt (by simp [hx])
      obtain ⟨y, hy, h⟩ := bind_eq_ok_iff.1 h
      have hlt := Part.length_lt_of_read hy
      have hnext := Part.leaves_of_read hy
      exact .of_skip (by simp [hx]) (hnext.trans (Connective.leaves_of_readRest
        (List.forall_mem_cons.2 ⟨hnext.finished, hfin⟩) h))
    · exact Connective.leaves_of_close hfin h
  | .and =>
    rw [Connective.readRest_and] at h
    split at h
    · rename_i hx
      have hskip := c.length_skip_lt (by simp [hx])
      obtain ⟨y, hy, h⟩ := bind_eq_ok_iff.1 h
      have hlt := Part.length_lt_of_read hy
      have hnext := Part.leaves_of_read hy
      exact .of_skip (by simp [hx]) (hnext.trans (Connective.leaves_of_readRest
        (List.forall_mem_cons.2 ⟨hnext.finished, hfin⟩) h))
    · rename_i hx
      have hskip := c.length_skip_lt (by simp [hx])
      obtain ⟨y, hy, h⟩ := bind_eq_ok_iff.1 h
      obtain ⟨o, ho, h⟩ := bind_eq_ok_iff.1 h
      have hlt := Part.length_lt_of_read hy
      have hnext := (Part.leaves_of_read hy).negated ho
      exact .of_skip (by simp [hx]) (hnext.trans (Connective.leaves_of_readRest
        (List.forall_mem_cons.2 ⟨hnext.finished, hfin⟩) h))
    · exact Connective.leaves_of_close hfin h
termination_by (c.rest.length, 0)

end

end AudienceRouting
