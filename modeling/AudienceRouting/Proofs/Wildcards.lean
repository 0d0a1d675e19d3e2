/-
  Audience routing — what a pattern with `*` matches.

  * `Fills pattern value`: the value is the pattern with some run of characters in
    place of each star; `fill` puts given runs there, `fillAll` one run in all places.
  * `Spaced pieces value`: the pieces stand in the value one after the other, each
    behind some run, and the last one at the end.

  A value that fills a pattern starts with the first piece, and the others are
  spaced in the rest (`fills_iff`).  The leftmost place of a piece leaves the most
  of the value (`exists_dropThrough?`), and pieces that are spaced in a text are so
  in a longer one that ends in it (`Spaced.prepend`); so looking for each piece at
  its leftmost place misses nothing (`findPieces_iff`).  With this, matching is
  filling (`covers_iff_exists_fill`).
-/
import AudienceRouting.Glob

namespace AudienceRouting.Glob

variable {pattern value after piece run text : List Char} {c x : Char} {ps : List (List Char)}

/-! ## Filling the stars -/

inductive Fills : (pattern value : List Char) → Prop
  | nil : Fills [] []
  | star (run : List Char) {pattern value : List Char} (h : Fills pattern value) :
      Fills ('*' :: pattern) (run ++ value)
  | char {c : Char} (hc : c ≠ '*') {pattern value : List Char} (h : Fills pattern value) :
      Fills (c :: pattern) (c :: value)

theorem fills_nil_iff : Fills [] value ↔ value = [] := by
  constructor
  · rintro ⟨⟩
    rfl
  · rintro rfl
    exact .nil

theorem fills_star_iff : Fills ('*' :: pattern) value ↔
    ∃ run rest, value = run ++ rest ∧ Fills pattern rest := by
  constructor
  · intro h
    cases h with
    | star run h => exact ⟨run, _, rfl, h⟩
    | char hc => exact absurd rfl hc
  · rintro ⟨run, rest, rfl, h⟩
    exact .star run h

theorem fills_char_iff (hc : c ≠ '*') : Fills (c :: pattern) value ↔
    ∃ rest, value = c :: rest ∧ Fills pattern rest := by
  constructor
  · intro h
    cases h with
    | star => exact absurd rfl hc
    | char _ h => exact ⟨_, rfl, h⟩
  · rintro ⟨rest, rfl, h⟩
    exact .char hc h

/-- The pattern with the given runs, in their order, in place of its stars. -/
def fill : (pattern : List Char) → (runs : List (List Char)) → List Char
  | [], _ => []
  | c :: pattern, runs =>
    if c = '*' then runs.headD [] ++ fill pattern runs.tail else c :: fill pattern runs

theorem fill_star (run : List Char) (runs : List (List Char)) :
    fill ('*' :: pattern) (run :: runs) = run ++ fill pattern runs :=
  rfl

theorem fill_char (hc : c ≠ '*') (runs : List (List Char)) :
    fill (c :: pattern) runs = c :: fill pattern runs :=
  if_neg hc

theorem fills_iff_exists_fill : Fills pattern value ↔
    ∃ runs : List (List Char), runs.length = pattern.count '*' ∧ value = fill pattern runs := by
  induction pattern generalizing value with
  | nil =>
    rw [fills_nil_iff]
    exact ⟨fun h => ⟨[], rfl, h⟩, fun ⟨_, _, h⟩ => h⟩
  | cons c pattern ih =>
    by_cases hc : c = '*'
    · subst hc
      rw [fills_star_iff, List.count_cons_self]
      constructor
      · rintro ⟨run, rest, rfl, h⟩
        obtain ⟨runs, hlength, rfl⟩ := ih.1 h
        exact ⟨run :: runs, by rw [List.length_cons, hlength], (fill_star run runs).symm⟩
      · rintro ⟨runs, hlength, rfl⟩
        obtain ⟨run, runs, rfl⟩ := List.exists_cons_of_length_eq_add_one hlength
        exact ⟨run, _, fill_star run runs, ih.2 ⟨runs, Nat.succ.inj hlength, rfl⟩⟩
    · rw [fills_char_iff hc, List.count_cons_of_ne hc]
      constructor
      · rintro ⟨rest, rfl, h⟩
        obtain ⟨runs, hlength, rfl⟩ := ih.1 h
        exact ⟨runs, hlength, (fill_char hc runs).symm⟩
      · rintro ⟨runs, hlength, rfl⟩
        exact ⟨_, fill_char hc runs, ih.2 ⟨runs, hlength, rfl⟩⟩

/-- A pattern has its own form: each star stands for itself. -/
theorem fills_self (pattern : List Char) : Fills pattern pattern := by
  induction pattern with
  | nil => exact .nil
  | cons c pattern ih =>
    by_cases hc : c = '*'
    · subst hc
      exact .star ['*'] ih
    · exact .char hc ih

theorem Fills.append_left (hstar : '*' ∉ text) (h : Fills pattern value) :
    Fills (text ++ pattern) (text ++ value) := by
  induction text with
  | nil => exact h
  | cons c text ih =>
    obtain ⟨hc, htext⟩ := not_or.1 fun h => hstar (List.mem_cons.2 h)
    exact .char (Ne.symm hc) (ih htext)

/-- The characters of a pattern stand in each of its values. -/
theorem Fills.count_le (hx : x ≠ '*') (h : Fills pattern value) :
    pattern.count x ≤ value.count x := by
  induction h with
  | nil => exact Nat.le_refl _
  | star run _ ih =>
    rw [List.count_cons_of_ne (Ne.symm hx), List.count_append]
    omega
  | char _ _ ih =>
    rw [List.count_cons, List.count_cons]
    omega

/-! ## One run for all stars -/

/-- The pattern with one run in place of all of its stars. -/
def fillAll (run : List Char) : (pattern : List Char) → List Char
  | [] => []
  | c :: pattern => if c = '*' then run ++ fillAll run pattern else c :: fillAll run pattern

theorem fillAll_star (run pattern : List Char) :
    fillAll run ('*' :: pattern) = run ++ fillAll run pattern :=
  rfl

theorem fillAll_char {c : Char} (hc : c ≠ '*') (run pattern : List Char) :
    fillAll run (c :: pattern) = c :: fillAll run pattern :=
  if_neg hc

theorem fills_fillAll (run pattern : List Char) : Fills pattern (fillAll run pattern) := by
  induction pattern with
  | nil => exact .nil
  | cons c pattern ih =>
    by_cases hc : c = '*'
    · subst hc
      exact .star run ih
    · rw [fillAll_char hc]
      exact .char hc ih

theorem fillAll_append (run front back : List Char) :
    fillAll run (front ++ back) = fillAll run front ++ fillAll run back := by
  induction front with
  | nil => rfl
  | cons c front ih =>
    by_cases hc : c = '*'
    · subst hc
      rw [List.cons_append, fillAll_star, fillAll_star, ih, List.append_assoc]
    · rw [List.cons_append, fillAll_char hc, fillAll_char hc, ih, List.cons_append]

theorem fillAll_of_not_mem (hstar : '*' ∉ text) (run : List Char) : fillAll run text = text := by
  induction text with
  | nil => rfl
  | cons c text ih =>
    obtain ⟨hc, htext⟩ := not_or.1 fun h => hstar (List.mem_cons.2 h)
    rw [fillAll_char (Ne.symm hc), ih htext]

theorem not_mem_fillAll (hrun : '*' ∉ run) (pattern : List Char) : '*' ∉ fillAll run pattern := by
  induction pattern with
  | nil => exact List.not_mem_nil
  | cons c pattern ih =>
    by_cases hc : c = '*'
    · subst hc
      rw [fillAll_star, List.mem_append]
      exact fun h => h.elim hrun ih
    · rw [fillAll_char hc, List.mem_cons]
      exact fun h => h.elim (fun h => hc h.symm) ih

/-! ## Pieces, each behind some run -/

inductive Spaced : (pieces : List (List Char)) → (value : List Char) → Prop
  | nil : Spaced [] []
  | cons (run piece : List Char) {more : List (List Char)} {value : List Char}
      (h : Spaced more value) : Spaced (piece :: more) (run ++ (piece ++ value))

theorem spaced_nil_iff : Spaced [] value ↔ value = [] := by
  constructor
  · rintro ⟨⟩
    rfl
  · rintro rfl
    exact .nil

theorem spaced_cons_iff : Spaced (piece :: ps) value ↔
    ∃ run rest, value = run ++ (piece ++ rest) ∧ Spaced ps rest := by
  constructor
  · rintro ⟨⟩
    exact ⟨_, _, rfl, by assumption⟩
  · rintro ⟨run, rest, rfl, h⟩
    exact .cons run piece h

theorem spaced_singleton_iff : Spaced [piece] value ↔ piece <:+ value := by
  rw [spaced_cons_iff]
  constructor
  · rintro ⟨run, rest, rfl, h⟩
    rw [spaced_nil_iff.1 h, List.append_nil]
    exact List.suffix_append run piece
  · rintro ⟨run, rfl⟩
    exact ⟨run, [], by rw [List.append_nil], .nil⟩

/-- Pieces that are spaced in a text are so with more in front of it. -/
theorem Spaced.prepend (hne : ps ≠ []) (h : Spaced ps value) (run : List Char) :
    Spaced ps (run ++ value) := by
  cases h with
  | nil => exact absurd rfl hne
  | cons run' piece h =>
    rw [← List.append_assoc]
    exact .cons (run ++ run') piece h

/-! ## The pieces of a pattern -/

/-- A pattern has a piece in front of its first star. -/
theorem exists_pieces (pattern : List Char) : ∃ first more, pieces pattern = first :: more := by
  induction pattern with
  | nil => exact ⟨[], [], rfl⟩
  | cons c pattern ih =>
    obtain ⟨first, more, h⟩ := ih
    by_cases hc : c = '*'
    · exact ⟨[], first :: more, by simp [pieces, h, hc]⟩
    · exact ⟨c :: first, more, by simp [pieces, h, hc]⟩

/-- A value that fills a pattern starts with its first piece, and the others are spaced in the
    rest. -/
theorem fills_iff (h : pieces pattern = piece :: ps) :
    Fills pattern value ↔ ∃ rest, value = piece ++ rest ∧ Spaced ps rest := by
  induction pattern generalizing value piece ps with
  | nil =>
    cases h
    simp [fills_nil_iff, spaced_nil_iff]
  | cons c pattern ih =>
    obtain ⟨first, more, hpieces⟩ := exists_pieces pattern
    by_cases hc : c = '*'
    · subst hc
      obtain ⟨rfl, rfl⟩ : [] = piece ∧ first :: more = ps := by simpa [pieces, hpieces] using h
      simp only [List.nil_append, exists_eq_left', spaced_cons_iff, fills_star_iff, ih hpieces]
      constructor
      · rintro ⟨run, _, rfl, rest, rfl, hspaced⟩
        exact ⟨run, rest, rfl, hspaced⟩
      · rintro ⟨run, rest, rfl, hspaced⟩
        exact ⟨run, _, rfl, rest, rfl, hspaced⟩
    · obtain ⟨rfl, rfl⟩ : c :: first = piece ∧ more = ps := by simpa [pieces, hpieces, hc] using h
      simp only [fills_char_iff hc, ih hpieces]
      constructor
      · rintro ⟨_, rfl, rest, rfl, hspaced⟩
        exact ⟨rest, rfl, hspaced⟩
      · rintro ⟨rest, rfl, hspaced⟩
        exact ⟨_, rfl, rest, rfl, hspaced⟩

/-! ## Looking for pieces -/

theorem dropPiece?_eq_some_iff : dropPiece? piece value = some after ↔ value = piece ++ after := by
  induction piece generalizing value with
  | nil => simp [dropPiece?]
  | cons p piece ih =>
    cases value with
    | nil => simp [dropPiece?]
    | cons c value =>
      rw [dropPiece?, List.cons_append, List.cons.injEq]
      by_cases hp : p = c
      · simp [hp, ih]
      · simp [hp, Ne.symm hp]

theorem dropThrough?_of_dropPiece? (h : dropPiece? piece value = some after) :
    dropThrough? piece value = some after := by
  cases value with
  | nil => exact h
  | cons c value => rw [dropThrough?, h]

/-- A piece is found where it stands. -/
theorem exists_append_of_dropThrough? (h : dropThrough? piece value = some after) :
    ∃ run, value = run ++ (piece ++ after) := by
  induction value with
  | nil =>
    have hstart : [] = piece ++ after := dropPiece?_eq_some_iff.1 h
    exact ⟨[], hstart⟩
  | cons c value ih =>
    rw [dropThrough?] at h
    cases hpiece : dropPiece? piece (c :: value) with
    | some after' =>
      rw [hpiece] at h
      obtain rfl : after' = after := Option.some.inj h
      have hstart : c :: value = piece ++ after' := dropPiece?_eq_some_iff.1 hpiece
      exact ⟨[], hstart⟩
    | none =>
      rw [hpiece] at h
      obtain ⟨run, rfl⟩ := ih h
      exact ⟨c :: run, rfl⟩

/-- A piece that stands somewhere is found, and what follows the place where it is found ends in
    what follows any other one. -/
theorem exists_dropThrough? (run piece after : List Char) :
    ∃ after', dropThrough? piece (run ++ (piece ++ after)) = some after' ∧ after <:+ after' := by
  induction run with
  | nil =>
    exact ⟨after, dropThrough?_of_dropPiece? (dropPiece?_eq_some_iff.2 rfl), List.suffix_rfl⟩
  | cons c run ih =>
    cases hpiece : dropPiece? piece (c :: (run ++ (piece ++ after))) with
    | none =>
      obtain ⟨after', hafter, hsuffix⟩ := ih
      exact ⟨after', by rw [List.cons_append, dropThrough?, hpiece, hafter], hsuffix⟩
    | some after' =>
      refine ⟨after', dropThrough?_of_dropPiece? hpiece, ?_⟩
      -- both follow the piece in one text, the second one at its start
      have heq := dropPiece?_eq_some_iff.1 hpiece
      have hlength := congrArg List.length heq
      simp only [List.length_cons, List.length_append] at hlength
      have hleft : after <:+ c :: (run ++ (piece ++ after)) :=
        ⟨c :: (run ++ piece), by simp⟩
      have hright : after' <:+ c :: (run ++ (piece ++ after)) := ⟨piece, heq.symm⟩
      exact List.suffix_of_suffix_length_le hleft hright (by omega)

/-- Taking each piece at its leftmost place finds pieces that are spaced in the value. -/
theorem findPieces_iff (hne : ps ≠ []) : findPieces ps value = true ↔ Spaced ps value := by
  fun_induction findPieces ps value with
  | case1 => exact absurd rfl hne
  | case2 value last => rw [spaced_singleton_iff, List.isSuffixOf_iff_suffix]
  | case3 piece more value hmore after hafter ih =>
    rw [ih hmore, spaced_cons_iff]
    constructor
    · intro h
      obtain ⟨run, rfl⟩ := exists_append_of_dropThrough? hafter
      exact ⟨run, after, rfl, h⟩
    · rintro ⟨run, rest, rfl, h⟩
      obtain ⟨after', hafter', front, rfl⟩ := exists_dropThrough? run piece rest
      obtain rfl : after = front ++ rest := Option.some.inj (hafter.symm.trans hafter')
      exact h.prepend hmore front
  | case4 piece more value hmore hnone =>
    rw [spaced_cons_iff]
    refine iff_of_false (by simp) ?_
    rintro ⟨run, rest, rfl, -⟩
    obtain ⟨after', hafter', -⟩ := exists_dropThrough? run piece rest
    rw [hnone] at hafter'
    cases hafter'

theorem covers_iff_fills : covers pattern value = true ↔ Fills pattern value := by
  obtain ⟨first, more, hpieces⟩ := exists_pieces pattern
  rw [fills_iff hpieces, covers, hpieces]
  cases more with
  | nil =>
    simp only [beq_iff_eq, spaced_nil_iff, exists_eq_right, List.append_nil]
    exact eq_comm
  | cons piece more =>
    dsimp only
    cases hfirst : dropPiece? first value with
    | none =>
      refine iff_of_false Bool.false_ne_true ?_
      rintro ⟨rest, h, -⟩
      rw [dropPiece?_eq_some_iff.2 h] at hfirst
      cases hfirst
    | some after =>
      obtain rfl := dropPiece?_eq_some_iff.1 hfirst
      simp only [findPieces_iff (List.cons_ne_nil piece more), List.append_cancel_left_eq,
        exists_eq_left']

/-- **Matching is filling.**  A value has the form of a pattern exactly if it is the pattern with
    some text, which can be empty, in place of each of its stars. -/
theorem covers_iff_exists_fill (pattern value : List Char) : covers pattern value = true ↔
    ∃ runs : List (List Char), runs.length = pattern.count '*' ∧ value = fill pattern runs := by
  rw [covers_iff_fills, fills_iff_exists_fill]

/-- What stands in front of the star and what stands behind it do not share a character. -/
example : covers "ab*ba".toList "aba".toList = false := by decide

end AudienceRouting.Glob
