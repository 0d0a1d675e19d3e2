/-
  Audience routing — what the reader knows of the tokens that it has read.

  * `EndInBang ts`: the last of the tokens is a `!`, or a `-` behind one, so that a
    `!` waits for its operand.
  * `Reader.Tracks r read`: the groups of the reader are the parentheses of `read`
    that are open, its nesting counts them and every `!` that waits, and where it
    stands follows from the token read last.

  `Tracks.step`, `tracks_of_steps`: every reader tracks what it has read.  The
  offsets that it keeps are those of tokens that operands start with
  (`startsOperand_of_place`).
-/
import AudienceRouting.Proofs.Transitions

namespace AudienceRouting

/-! ## The end of a list of tokens -/

def EndInBang (ts : List Token) : Prop := [.bang] <:+ ts ∨ [.bang, .minus] <:+ ts

theorem suffix_concat_iff {t u : Token} {ts us : List Token} :
    us ++ [u] <:+ ts ++ [t] ↔ u = t ∧ us <:+ ts := by
  rw [← List.reverse_prefix, ← List.reverse_prefix]
  simp [List.cons_prefix_cons]

theorem singleton_suffix_iff {t : Token} {ts : List Token} :
    [t] <:+ ts ↔ ts.getLast? = some t := by
  rcases List.eq_nil_or_concat ts with rfl | ⟨us, u, rfl⟩
  · simp
  · rw [List.concat_eq_append, ← List.nil_append [t], suffix_concat_iff]
    simp [eq_comm]

theorem endInBang_concat {ts : List Token} {t : Token} : EndInBang (ts ++ [t]) ↔
    t = .bang ∨ t = .minus ∧ ts.getLast? = some .bang := by
  have hone : [.bang] <:+ ts ++ [t] ↔ t = .bang := by
    rw [singleton_suffix_iff]
    simp
  have htwo : [.bang, .minus] <:+ ts ++ [t] ↔ t = .minus ∧ ts.getLast? = some .bang := by
    have h : [.bang] ++ [.minus] <:+ ts ++ [t] ↔ .minus = t ∧ [.bang] <:+ ts := suffix_concat_iff
    rw [singleton_suffix_iff] at h
    simpa [eq_comm] using h
  rw [EndInBang, hone, htwo]

theorem not_endInBang_concat {ts : List Token} {t : Token} (hbang : t ≠ .bang)
    (hminus : t ≠ .minus) : ¬ EndInBang (ts ++ [t]) := by
  simp [endInBang_concat, hbang, hminus]

theorem endInBang_iff_getLast? {ts : List Token} (h : ts.getLast? ≠ some .minus) :
    EndInBang ts ↔ ts.getLast? = some .bang := by
  rw [EndInBang, singleton_suffix_iff, or_iff_left]
  rintro ⟨us, rfl⟩
  simp at h

/-! ## What is tracked -/

/-- How many `!` wait in the group. -/
def Group.bangs (g : Group) : Nat := (g.negations.filter (·.nests)).length

/-- The token read last where the reader stands, if any was read. -/
def Position.Behind : Position → Option Token → Prop
  | .afterOpening, t => t = some .openParen
  | .operand, t => t = none ∨ t = some .plus ∨ t = some .bar ∨ t = some .bang
  | .primary, t => t = some .minus
  | .operator _, t => t = some .closeParen ∨ ∃ value, t = some (.tag value)

namespace Reader

/-- How many `!` wait in groups that are interrupted. -/
def outerBangs : List Enclosing → Nat
  | [] => 0
  | e :: enclosing => e.group.bangs + outerBangs enclosing

/-- How many `!` wait, in all groups. -/
def bangs (r : Reader) : Nat := r.group.bangs + outerBangs r.enclosing

structure Tracks (r : Reader) (read : List Lexeme) : Prop where
  previous : ∀ x ∈ read.getLast?, r.previous = x.offset
  behind : r.position.Behind (read.map (·.token)).getLast?
  /-- no negation waits behind an operand -/
  settled : ∀ last, r.position = .operator last → r.group.negations = []
  inside : r.position = .afterOpening → r.enclosing ≠ []
  opened : r.enclosing.length + (read.map (·.token)).count .closeParen =
    (read.map (·.token)).count .openParen
  nesting : r.nesting = r.enclosing.length + r.bangs
  waits : r.AwaitsOperand → (0 < r.group.bangs ↔ EndInBang (read.map (·.token)))

theorem tracks_start : start.Tracks [] where
  previous := by simp
  behind := by simp [start, Position.Behind]
  settled := by simp [start]
  inside := by simp [start]
  opened := rfl
  nesting := rfl
  waits _ := by simp [start, Group.empty, Group.bangs, EndInBang]

variable {r r' : Reader} {read : List Lexeme} {x : Lexeme}

/-- An operand is waited for behind the operators and behind a `(`. -/
theorem Tracks.awaitsOperand_iff (h : r.Tracks (read ++ [x])) :
    r.AwaitsOperand ↔ x.token.isOperator = true ∨ x.token = .openParen := by
  have hbehind : r.position.Behind (some x.token) := by simpa using h.behind
  unfold AwaitsOperand
  cases hp : r.position with
  | operator last =>
    rw [hp] at hbehind
    rcases hbehind with hx | ⟨value, hx⟩ <;> simp [Option.some.inj hx, Token.isOperator]
  | operand =>
    rw [hp] at hbehind
    rcases hbehind with hx | hx | hx | hx
    · cases hx
    all_goals simp [Option.some.inj hx, Token.isOperator]
  | afterOpening | primary =>
    rw [hp] at hbehind
    simp [Option.some.inj hbehind, Token.isOperator]

/-- No `-` waits where another one may stand. -/
theorem Tracks.getLast?_ne_minus (h : r.Tracks read) (hr : r.AwaitsOperand)
    (hp : r.position ≠ .primary) : (read.map (·.token)).getLast? ≠ some .minus := by
  intro hlast
  have hbehind := h.behind
  rw [hlast] at hbehind
  cases hq : r.position with
  | operator last => exact hr last hq
  | primary => exact hp hq
  | _ => simp [hq, Position.Behind] at hbehind

theorem Tracks.not_endInBang {last : Operand} (h : r.Tracks read)
    (hl : r.position = .operator last) : ¬ EndInBang (read.map (·.token)) := by
  have hbehind := h.behind
  rw [hl] at hbehind
  rcases hbehind with hlast | ⟨value, hlast⟩ <;>
    rw [endInBang_iff_getLast? (by simp [hlast]), hlast] <;> simp

theorem bangs_of_settled {last : Operand} (h : r.Tracks read) (hl : r.position = .operator last) :
    r.group.bangs = 0 := by
  rw [Group.bangs, h.settled last hl]
  rfl

/-- Behind an operand fewer levels are left, by the `!` that waited for it. -/
theorem nesting_supplied (o : Operand) (h : r.nesting = r.enclosing.length + r.bangs) :
    (r.supplied o).nesting = (r.supplied o).enclosing.length + (r.supplied o).bangs := by
  change r.nesting - r.group.bangs =
    r.enclosing.length + (0 + outerBangs r.enclosing)
  rw [h, bangs]
  omega

/-- Behind a tag or a `)`, the reader tracks what it has read if its levels are right. -/
theorem tracks_supplied {o : Operand} (hx : x.token = .closeParen ∨ ∃ value, x.token = .tag value)
    (hopened : r.enclosing.length + ((read ++ [x]).map (·.token)).count .closeParen =
      ((read ++ [x]).map (·.token)).count .openParen)
    (hnesting : r.nesting = r.enclosing.length + r.bangs) :
    { r.supplied o with previous := x.offset }.Tracks (read ++ [x]) where
  previous := by simp
  behind := by simpa [supplied, Position.Behind] using hx
  settled := by simp [supplied]
  inside := by simp [supplied]
  opened := hopened
  nesting := nesting_supplied o hnesting
  waits h := absurd rfl (h o)

/-- Behind an operator, the reader tracks what it has read if its levels and the `!` that wait are
    right. -/
theorem Tracks.operator (h : r.Tracks read) (hx : x.token.isOperator = true)
    (henclosing : r'.enclosing = r.enclosing) (hprevious : r'.previous = x.offset)
    (hbehind : r'.position.Behind (some x.token))
    (hnesting : r'.nesting = r'.enclosing.length + r'.bangs)
    (hbangs : 0 < r'.group.bangs ↔ EndInBang (read.map (·.token) ++ [x.token])) :
    r'.Tracks (read ++ [x]) where
  previous := by simpa using hprevious
  behind := by simpa using hbehind
  settled last hl := by
    rw [hl] at hbehind
    rcases hbehind with ht | ⟨value, ht⟩ <;> simp [Option.some.inj ht, Token.isOperator] at hx
  inside hp := by
    rw [hp] at hbehind
    simp [Option.some.inj hbehind, Token.isOperator] at hx
  opened := by
    have hopen : x.token ≠ .openParen := fun ht => by simp [ht, Token.isOperator] at hx
    have hclose : x.token ≠ .closeParen := fun ht => by simp [ht, Token.isOperator] at hx
    simpa [henclosing, List.count_singleton, hopen, hclose] using h.opened
  nesting := hnesting
  waits _ := by simpa using hbangs

/-- The step lemma. -/
theorem Tracks.step (h : r.Tracks read) (hmoves : Moves r x r') : r'.Tracks (read ++ [x]) := by
  have htokens : (read ++ [x]).map (·.token) = read.map (·.token) ++ [x.token] := by simp
  have hopened := h.opened
  have hnesting := h.nesting
  cases hmoves with
  | tag hr hx hs =>
    obtain ⟨o, rfl, -⟩ := supply_cases hs
    refine tracks_supplied (Or.inr ⟨_, hx⟩) ?_ hnesting
    simpa [htokens, hx] using hopened
  | opening hr hx hn =>
    refine ⟨by simp [Reader.opened], by simp [Reader.opened, Position.Behind, hx],
      by simp [Reader.opened], by simp [Reader.opened], ?_, ?_, fun _ => ?_⟩
    · rw [htokens, hx, List.count_append, List.count_append]
      change r.enclosing.length + 1 + (_ + 0) = _ + 1
      omega
    · change r.nesting + 1 = (r.enclosing.length + 1) + (0 + r.bangs)
      omega
    · rw [htokens, hx]
      simp [Reader.opened, Group.empty, Group.bangs, not_endInBang_concat]
  | bang hr hp hx hn =>
    refine h.operator (by rw [hx]; rfl) rfl rfl (by simp [negated, Position.Behind, hx]) ?_ ?_
    · change r.nesting + 1 = r.enclosing.length + (r.group.bangs + 1 + outerBangs r.enclosing)
      rw [hnesting, bangs]
      omega
    · rw [hx]
      exact iff_of_true (Nat.succ_pos _) (endInBang_concat.2 (Or.inl rfl))
  | minus hr hp hx =>
    refine h.operator (by rw [hx]; rfl) rfl rfl (by simp [negated, Position.Behind, hx])
      hnesting ?_
    have hbangs : (r.negated ⟨x.offset, false⟩ .primary).group.bangs = r.group.bangs := rfl
    have hlast := h.getLast?_ne_minus hr hp
    rw [hbangs, h.waits hr, hx, endInBang_concat, endInBang_iff_getLast? hlast]
    simp
  | plus hl hx =>
    have hzero := bangs_of_settled h hl
    refine h.operator (by rw [hx]; rfl) rfl rfl (by simp [continued, Position.Behind, hx])
      hnesting ?_
    rw [hx]
    exact iff_of_false hzero.not_gt (not_endInBang_concat (by simp) (by simp))
  | without hl hx =>
    have hzero := bangs_of_settled h hl
    refine h.operator (by rw [hx]; rfl) rfl rfl (by simp [continued, Position.Behind, hx]) ?_ ?_
    · change r.nesting = r.enclosing.length + (0 + outerBangs r.enclosing)
      rw [hnesting, bangs, hzero]
    · have hlast : (read.map (·.token)).getLast? ≠ some .bang :=
        fun hlast => h.not_endInBang hl (Or.inl (singleton_suffix_iff.2 hlast))
      rw [hx, endInBang_concat, or_iff_right (by simp), and_iff_right rfl]
      exact iff_of_false (Nat.lt_irrefl 0) hlast
  | bar hl hx ha =>
    have hzero := bangs_of_settled h hl
    refine h.operator (by rw [hx]; rfl) rfl rfl (by simp [Position.Behind, hx]) hnesting ?_
    rw [hx]
    exact iff_of_false hzero.not_gt (not_endInBang_concat (by simp) (by simp))
  | @closing last inner outer enclosing r' hl hx hi he hs =>
    have hzero := bangs_of_settled h hl
    obtain ⟨o, rfl, -⟩ := supply_cases hs
    refine tracks_supplied (Or.inl hx) ?_ ?_
    · rw [he, List.length_cons] at hopened
      rw [htokens, hx, List.count_append, List.count_append]
      change enclosing.length + (_ + 1) = _ + 0
      omega
    · rw [bangs, hzero, he, outerBangs, List.length_cons] at hnesting
      change r.nesting - 1 = enclosing.length + (outer.group.bangs + outerBangs enclosing)
      omega

theorem tracks_of_steps (h : start.steps read = .ok r)
    (hread : ∀ x ∈ read, x.token ≠ .endOfText) : r.Tracks read :=
  invariant_of_steps (fun read r => r.Tracks read) h hread tracks_start Tracks.step

/-! ## The offsets that are kept -/

theorem place_of_supplied {o : Operand} {n : Nat} (h : (r.supplied o).Place n) :
    r.Place n ∨ o.start = n := by
  rcases h with (h | h | ⟨m, hm, -⟩) | ⟨last, hl, h⟩ | h
  · exact Or.inl (Or.inl (Or.inl h))
  · exact Or.inl (Or.inl (Or.inr (Or.inl h)))
  · simp [supplied] at hm
  · obtain rfl : o = last := by simpa [supplied] using hl
    exact Or.inr h
  · exact Or.inl (Or.inr (Or.inr h))

theorem place_of_outside {outer : Enclosing} {enclosing : List Enclosing} {n : Nat}
    (he : r.enclosing = outer :: enclosing) (h : (r.outside outer enclosing).Place n) :
    r.Place n := by
  rcases h with h | h | ⟨e, hmem, h⟩
  · exact Or.inr (Or.inr ⟨outer, he ▸ List.mem_cons_self, Or.inr h⟩)
  · exact Or.inr (Or.inl h)
  · exact Or.inr (Or.inr ⟨e, he ▸ List.mem_cons_of_mem _ hmem, h⟩)

theorem place_of_negation {m : Negation} {n : Nat} (hm : m ∈ r.group.negations)
    (h : m.offset = n) : r.Place n :=
  Or.inl (Or.inr (Or.inr ⟨m, hm, h⟩))

theorem place_of_negated {m : Negation} {position : Position} {n : Nat}
    (hp : ∀ last, position ≠ .operator last) (h : (r.negated m position).Place n) :
    r.Place n ∨ m.offset = n := by
  rcases h with (h | h | ⟨m', hm', h⟩) | ⟨last, hl, -⟩ | h
  · exact Or.inl (Or.inl (Or.inl h))
  · exact Or.inl (Or.inl (Or.inr (Or.inl h)))
  · rcases List.mem_cons.1 hm' with rfl | hm'
    · exact Or.inr h
    · exact Or.inl (place_of_negation hm' h)
  · exact absurd hl (hp last)
  · exact Or.inl (Or.inr (Or.inr h))

theorem place_of_continued {last : Operand} {negations : List Negation} {position : Position}
    {previous n : Nat} (hl : r.position = .operator last) (hp : ∀ last, position ≠ .operator last)
    (h : (r.continued last negations position previous).Place n) :
    r.Place n ∨ ∃ m ∈ negations, m.offset = n := by
  rcases h with (h | ⟨o, ho, rfl⟩ | h) | ⟨o, ho, -⟩ | h
  · exact Or.inl (Or.inl (Or.inl h))
  · exact Or.inl (place_of_last_or_conjunct hl ho)
  · exact Or.inr h
  · exact absurd ho (hp o)
  · exact Or.inl (Or.inr (Or.inr h))

/-- A move keeps no offset but those kept before it and that of its token. -/
theorem place_of_moves {n : Nat} (hmoves : Moves r x r') (h : r'.Place n) :
    r.Place n ∨ x.token.StartsOperand ∧ x.offset = n := by
  cases hmoves with
  | tag hr hx hs =>
    obtain ⟨o, rfl, hstart⟩ := supply_cases hs
    rcases place_of_supplied h with h | rfl
    · exact Or.inl h
    rcases hstart with hstart | ⟨m, hm, hstart⟩
    · exact Or.inr ⟨by simp [hx, Token.StartsOperand], hstart.symm⟩
    · exact Or.inl (place_of_negation hm hstart)
  | opening hr hx hn =>
    rcases h with h | ⟨last, hl, -⟩ | ⟨e, hmem, h⟩
    · simp [Reader.opened, Group.empty, Group.Place] at h
    · simp [Reader.opened] at hl
    · rcases List.mem_cons.1 hmem with rfl | hmem
      · rcases h with h | h
        · exact Or.inr ⟨by simp [hx, Token.StartsOperand], h⟩
        · exact Or.inl (Or.inl h)
      · exact Or.inl (Or.inr (Or.inr ⟨e, hmem, h⟩))
  | bang hr hp hx hn =>
    exact (place_of_negated (r := r.deeper) (by simp) h).imp_right
      fun h => ⟨by simp [hx, Token.StartsOperand], h⟩
  | minus hr hp hx =>
    exact (place_of_negated (by simp) h).imp_right
      fun h => ⟨by simp [hx, Token.StartsOperand], h⟩
  | plus hl hx =>
    refine Or.inl ((place_of_continued hl (by simp) h).elim id ?_)
    rintro ⟨m, hm, h⟩
    exact place_of_negation hm h
  | without hl hx =>
    refine (place_of_continued hl (by simp) h).imp_right ?_
    rintro ⟨m, hm, rfl⟩
    rw [List.mem_singleton.1 hm]
    exact ⟨by simp [hx, Token.StartsOperand], rfl⟩
  | bar hl hx ha =>
    rcases h with (⟨o, ho, rfl⟩ | ⟨o, ho, -⟩ | ⟨m, hm, h⟩) | ⟨o, ho, -⟩ | h
    · rcases List.mem_cons.1 ho with rfl | ho
      · obtain ⟨o', ho', hstart⟩ := Connective.close_ok ha
        exact Or.inl (hstart ▸ place_of_last_or_conjunct hl ho')
      · exact Or.inl (Or.inl (Or.inl ⟨o, ho, rfl⟩))
    · simp at ho
    · exact Or.inl (place_of_negation hm h)
    · cases ho
    · exact Or.inl (Or.inr (Or.inr h))
  | closing hl hx hi he hs =>
    obtain ⟨o, rfl, hstart⟩ := supply_cases hs
    rcases place_of_supplied h with h | rfl
    · exact Or.inl (place_of_outside he h)
    rcases hstart with hstart | ⟨m, hm, hstart⟩
    · exact Or.inl (Or.inr (Or.inr ⟨_, he ▸ List.mem_cons_self, Or.inl hstart.symm⟩))
    · exact Or.inl (place_of_outside he (place_of_negation hm hstart))

theorem startsOperand_of_place (h : start.steps read = .ok r)
    (hread : ∀ x ∈ read, x.token ≠ .endOfText) {n : Nat} (hplace : r.Place n) :
    ∃ x ∈ read, x.token.StartsOperand ∧ x.offset = n := by
  refine invariant_of_steps (fun read r => ∀ n, r.Place n →
    ∃ x ∈ read, x.token.StartsOperand ∧ x.offset = n) h hread ?_ ?_ n hplace
  · intro n hn
    simp [start, Group.empty, Place, Group.Place] at hn
  · intro read r x r' hr hmoves n hn
    rcases place_of_moves hmoves hn with hn | hx
    · obtain ⟨y, hy, hplace⟩ := hr n hn
      exact ⟨y, by simp [hy], hplace⟩
    · exact ⟨x, by simp, hx⟩

end Reader

end AudienceRouting
