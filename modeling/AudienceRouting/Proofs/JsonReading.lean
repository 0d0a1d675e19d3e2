/-
  Audience routing — JSON texts that were printed read as the printed value.

  `read?_print` is the round trip for values without numbers that have at most
  `maxContainers` nested containers.  The reader is followed token by token: what
  is open around a value stays as it is until the value is complete
  (`Reader.takes`).
-/
import AudienceRouting.Proofs.JsonScanning

namespace AudienceRouting.Json

namespace Reader

/-- The tokens of the value are read as the value, whatever is open around it and whatever
    follows, unless too much is open. -/
def Takes (j : Json) : Prop :=
  ∀ frames rest, frames.length + j.nesting ≤ maxContainers →
    run ⟨frames, .value⟩ (j.tokens ++ rest) = (complete frames j).bind (·.run rest)

theorem run_cons (r : Reader) (token : Token) (rest : List Token) :
    r.run (token :: rest) = (r.step token).bind (·.run rest) :=
  rfl

/-- The first item of an array is read as any other. -/
theorem run_itemOrEnd (j : Json) (frames : List Frame) (rest : List Token) :
    run ⟨frames, .itemOrEnd⟩ (j.tokens ++ rest) = run ⟨frames, .value⟩ (j.tokens ++ rest) := by
  cases j with
  | array items => cases items <;> rfl
  | object members => cases members <;> rfl
  | _ => rfl

/-- A container is opened where there is room for it. -/
theorem run_open {frames : List Frame} (h : frames.length < maxContainers) {token : Token}
    {frame : Frame} {place : Place}
    (hstart : startValue frames token = openFrame frames frame place) (rest : List Token) :
    run ⟨frames, .value⟩ (token :: rest) = run ⟨frame :: frames, place⟩ rest := by
  have hstep : step ⟨frames, .value⟩ token = startValue frames token := rfl
  rw [run_cons, hstep, hstart, openFrame, if_pos h, Option.bind_some]

/-- Further items up to the end of their array. -/
theorem run_items {items : List Json} (h : ∀ item ∈ items, Takes item) (outer : List Frame)
    (hroom : outer.length + 1 + nestingOfItems items ≤ maxContainers) (read : List Json)
    (rest : List Token) :
    run ⟨.array read :: outer, .separator⟩ (tokensOfItems items ++ .closeBracket :: rest) =
      (complete outer (.array (read.reverse ++ items))).bind (·.run rest) := by
  induction items generalizing read with
  | nil => simp [tokensOfItems, run_cons, step]
  | cons item items ih =>
    rw [nestingOfItems] at hroom
    have hitem := h item (by simp) (.array read :: outer)
      (tokensOfItems items ++ .closeBracket :: rest) (by rw [List.length_cons]; omega)
    have ih := ih (List.forall_mem_cons.1 h).2 (by omega) (item :: read)
    simp only [tokensOfItems, List.cons_append, List.append_assoc, run_cons, step, Option.bind_some]
    rw [hitem, complete, Option.bind_some, ih]
    simp

/-- A member, from its name on. -/
theorem run_member {member : String × Json} (h : Takes member.2) (outer : List Frame)
    (hroom : outer.length + 1 + member.2.nesting ≤ maxContainers) {place : Place}
    (hplace : place = .nameOrEnd ∨ place = .name) (read : List (String × Json))
    (rest : List Token) :
    run ⟨.object read :: outer, place⟩ (tokensOfMember member ++ rest) =
      run ⟨.object (member :: read) :: outer, .separator⟩ rest := by
  have hvalue := h (.member read member.1 :: outer) rest (by rw [List.length_cons]; omega)
  rw [complete, Option.bind_some] at hvalue
  rcases hplace with rfl | rfl <;>
    simpa [tokensOfMember, run_cons, step] using hvalue

/-- Further members up to the end of their object. -/
theorem run_members {members : List (String × Json)} (h : ∀ member ∈ members, Takes member.2)
    (outer : List Frame) (hroom : outer.length + 1 + nestingOfMembers members ≤ maxContainers)
    (read : List (String × Json)) (rest : List Token) :
    run ⟨.object read :: outer, .separator⟩ (tokensOfMembers members ++ .closeBrace :: rest) =
      (complete outer (.object (read.reverse ++ members))).bind (·.run rest) := by
  induction members generalizing read with
  | nil => simp [tokensOfMembers, run_cons, step]
  | cons member members ih =>
    rw [nestingOfMembers] at hroom
    have hmember := run_member (h member (by simp)) outer (by omega) (Or.inr rfl) read
      (tokensOfMembers members ++ .closeBrace :: rest)
    have ih := ih (List.forall_mem_cons.1 h).2 (by omega) (member :: read)
    have hcons : tokensOfMembers (member :: members) ++ .closeBrace :: rest =
        .comma :: (tokensOfMember member ++ (tokensOfMembers members ++ .closeBrace :: rest)) := by
      simp [tokensOfMembers, tokensOfMember]
    rw [hcons, run_cons]
    simp only [step, Option.bind_some]
    rw [hmember, ih]
    simp

theorem takes (j : Json) : Takes j := by
  induction j with
  | array items ih =>
    intro frames rest hroom
    rw [nesting] at hroom
    cases items with
    | nil =>
      rw [tokens, List.cons_append, run_open (by omega) rfl]
      rfl
    | cons item items =>
      rw [nestingOfItems] at hroom
      have hitem := ih item (by simp) (.array [] :: frames)
        (tokensOfItems items ++ .closeBracket :: rest) (by rw [List.length_cons]; omega)
      have hitems := run_items (List.forall_mem_cons.1 ih).2 frames (by omega) [item] rest
      rw [tokens, List.cons_append, run_open (by omega) rfl]
      simp only [List.append_assoc, List.cons_append, List.nil_append]
      rw [run_itemOrEnd, hitem, complete, Option.bind_some, hitems]
      rfl
  | object members ih =>
    intro frames rest hroom
    rw [nesting] at hroom
    cases members with
    | nil =>
      rw [tokens, List.cons_append, run_open (by omega) rfl]
      rfl
    | cons member members =>
      rw [nestingOfMembers] at hroom
      have hmember := run_member (ih member (by simp)) frames (by omega) (Or.inl rfl) []
        (tokensOfMembers members ++ .closeBrace :: rest)
      have hmembers := run_members (List.forall_mem_cons.1 ih).2 frames (by omega) [member]
        rest
      rw [tokens, List.cons_append, run_open (by omega) rfl]
      simp only [tokensOfMember, List.append_assoc, List.cons_append, List.nil_append] at hmember ⊢
      rw [hmember, hmembers]
      rfl
  | _ => exact fun _ _ _ => rfl

end Reader

/-- **Round trip.**  A printed value reads as itself, if it has no numbers and not too many nested
    containers. -/
theorem read?_print {j : Json} (h : j.NumberFree) (hnesting : j.nesting ≤ maxContainers)
    (layout : Layout) : read? (j.print layout) = some j := by
  have := Reader.takes j [] [] (by simpa using hnesting)
  rw [List.append_nil] at this
  rw [read?, scan_print h, Option.bind_some, this]
  rfl

end AudienceRouting.Json
