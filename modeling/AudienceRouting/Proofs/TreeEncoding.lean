/-
  Audience routing — trees survive the way through JSON.

  `print_toJson_of_read`: the JSON text of a tree that was read has no more nested
  containers than JSON texts may have, and it reads as the same tree.  A chain
  takes two containers, every other node one, so a tree of height `n` takes at
  most `2 * n - 1` (`nesting_toJson`).

  `ofValidJson_ok_iff`: apart from the empty expression, exactly the valid trees
  within the limit on depth are accepted from JSON.
-/
import AudienceRouting.CommandLine.Run
import AudienceRouting.Proofs.Caching
import AudienceRouting.Proofs.JsonReading
import AudienceRouting.Proofs.Language
import AudienceRouting.Proofs.Merging

namespace AudienceRouting

theorem Json.sorted_pair {k k' : String} (h : k < k') (v v' : Json) :
    (Json.object [(k, v), (k', v')]).sorted = .object [(k, v.sorted), (k', v'.sorted)] := by
  simp [sorted, sortedMembers, Ascending.ofPairs, Ascending.insertPair, h]

namespace Expr

/-! ## The encoding -/

theorem toJsons_eq_map (es : List Expr) : toJsons es = es.map toJson := by
  induction es with
  | nil => rfl
  | cons e es ih => simp [toJsons, ih]

theorem numberFree_toJson (e : Expr) : e.toJson.NumberFree := by
  induction e with
  | always => exact .object (by simpa [toJson] using .string _)
  | tag value => exact .object (by simpa using ⟨.string _, .string _⟩)
  | not child ih => exact .object (by simpa using ⟨ih, .string _⟩)
  | chain c es ih =>
    have hes : (Json.array (toJsons es)).NumberFree :=
      .array (by simpa [toJsons_eq_map] using ih)
    exact .object (by simpa using ⟨hes, .string _⟩)

theorem sortedItems_toJsons {es : List Expr} (h : ∀ e ∈ es, e.toJson.sorted = e.toJson) :
    Json.sortedItems (toJsons es) = toJsons es := by
  induction es with
  | nil => rfl
  | cons e es ih => rw [toJsons, Json.sortedItems, h e (by simp), ih (List.forall_mem_cons.1 h).2]

/-- The members of every node are in ascending order. -/
theorem sorted_toJson (e : Expr) : e.toJson.sorted = e.toJson := by
  induction e with
  | always => rfl
  | tag value => exact Json.sorted_pair (by decide) _ _
  | not child ih =>
    rw [toJson, Json.sorted_pair (by decide), ih]
    rfl
  | chain c es ih =>
    rw [toJson, Json.sorted_pair (by decide), Json.sorted, sortedItems_toJsons ih]
    rfl

theorem nesting_toJsons {es : List Expr} (h : ∀ e ∈ es, e.toJson.nesting + 1 ≤ 2 * e.height) :
    Json.nestingOfItems (toJsons es) ≤ 2 * heights es - 1 := by
  induction es with
  | nil => simp [toJsons, Json.nestingOfItems]
  | cons e es ih =>
    have he := h e (by simp)
    have hes := ih (List.forall_mem_cons.1 h).2
    rw [toJsons, Json.nestingOfItems, heights]
    omega

/-- Two containers for every chain above a node, one for every negation and the node itself. -/
theorem nesting_toJson {e : Expr} (h : e.Flat) : e.toJson.nesting + 1 ≤ 2 * e.height := by
  induction e with
  | always => decide
  | tag value => simp [toJson, Json.nesting, Json.nestingOfMembers, height]
  | not child ih =>
    cases h with
    | not h =>
      have := ih h
      simp only [toJson, Json.nesting, Json.nestingOfMembers, height]
      omega
  | chain c es ih =>
    cases h with
    | chain h2 hf =>
      have hes := nesting_toJsons fun e he => ih e he (hf e he)
      have hne : es ≠ [] := by rintro rfl; simp at h2
      have hpos := heights_pos hne
      simp only [toJson, Json.nesting, Json.nestingOfMembers, height]
      omega

/-! ## Reading it back -/

theorem kindOfJson_name (belowRoot : Bool) (k : NodeKind) :
    kindOfJson belowRoot (.string k.name) = .ok k := by
  rw [kindOfJson, NodeKind.ofName?_name]

theorem ofSortedAll_toJsons {es : List Expr} (h : ∀ e ∈ es, ofSorted true e.toJson = .ok e) :
    ofSortedAll (toJsons es) = .ok es := by
  induction es with
  | nil => rfl
  | cons e es ih =>
    rw [toJsons, ofSortedAll, h e (by simp), ih (List.forall_mem_cons.1 h).2]
    rfl

theorem ofSorted_toJson (belowRoot : Bool) (e : Expr) : ofSorted belowRoot e.toJson = .ok e := by
  induction e generalizing belowRoot with
  | always => simp [toJson, ofSorted, kindOfMembers, kindOfJson_name, bind, Except.bind]
  | tag value =>
    simp [toJson, ofSorted, kindOfMembers, kindOfJson_name, bind, Except.bind, tagOfMembers,
      Json.toText, Except.map]
  | not child ih =>
    simp [toJson, ofSorted, kindOfMembers, kindOfJson_name, bind, Except.bind, childOfMembers, ih,
      Except.map]
  | chain c es ih =>
    simp [toJson, ofSorted, kindOfMembers, kindOfJson_name, bind, Except.bind, operandsOfMembers,
      operandsOfSorted, ofSortedAll_toJsons fun e he => ih e he true, Except.map]

theorem ofJson_toJson (e : Expr) : ofJson e.toJson = .ok e := by
  rw [ofJson, sorted_toJson, ofSorted_toJson]

/-! ## The checks -/

/-- What the check looks for are the characters at which the scanner ends a tag. -/
theorem isTagChar_eq_true_iff {c : Char} : isTagChar c = true ↔
    ¬ (isReserved c || Text.isWhitespace c || Text.isControl c) = true := by
  simp [isTagChar, and_assoc]

theorem checkTag_ok_iff {value : String} : checkTag value = .ok () ↔ IsTag value := by
  constructor
  · intro h
    unfold checkTag at h
    split at h
    · cases h
    rename_i hne
    split at h
    · cases h
    rename_i hfind
    refine ⟨fun hnil => hne ?_, fun c hc => ?_⟩
    · rw [String.isEmpty_iff, ← String.toList_eq_nil_iff, hnil]
    · exact isTagChar_eq_true_iff.2 (List.find?_eq_none.1 hfind c hc)
  · intro h
    have hne : value.isEmpty = false := by
      simpa [String.isEmpty_iff] using h.1
    have hfind : (value.toList.find? fun c =>
        isReserved c || Text.isWhitespace c || Text.isControl c) = none :=
      List.find?_eq_none.2 fun c hc => isTagChar_eq_true_iff.1 (h.2 c hc)
    rw [checkTag, hne, hfind]
    rfl

theorem checkOperands_ok_iff {es : List Expr} : checkOperands es = .ok () ↔ 2 ≤ es.length := by
  unfold checkOperands
  split
  · rename_i h
    exact ⟨fun h' => (by cases h'), fun h2 => (by omega)⟩
  · rename_i h
    exact ⟨fun _ => (by omega), fun _ => rfl⟩

theorem checkAllNodes_ok_iff {es : List Expr} :
    checkAllNodes es = .ok () ↔ ∀ e ∈ es, e.checkNodes true = .ok () := by
  induction es with
  | nil => simp [checkAllNodes]
  | cons e es ih =>
    rw [checkAllNodes, bind_eq_ok_iff, List.forall_mem_cons]
    constructor
    · rintro ⟨_, hes, he⟩
      exact ⟨he, ih.1 hes⟩
    · rintro ⟨he, hes⟩
      exact ⟨(), ih.2 hes, he⟩

theorem checkNodes_chain_ok_iff {belowRoot : Bool} {c : Connective} {es : List Expr} :
    (Expr.chain c es).checkNodes belowRoot = .ok () ↔
      2 ≤ es.length ∧ ∀ e ∈ es, e.checkNodes true = .ok () := by
  rw [checkNodes, bind_eq_ok_iff]
  constructor
  · rintro ⟨_, h2, hes⟩
    exact ⟨checkOperands_ok_iff.1 h2, checkAllNodes_ok_iff.1 hes⟩
  · rintro ⟨h2, hes⟩
    exact ⟨(), checkOperands_ok_iff.2 h2, checkAllNodes_ok_iff.2 hes⟩

/-- Below the root the valid trees are accepted. -/
theorem checkNodes_true_ok_iff {e : Expr} : e.checkNodes true = .ok () ↔ e.Valid := by
  induction e with
  | always => exact ⟨fun h => (by cases h), fun h => (by cases h)⟩
  | tag value =>
    refine checkTag_ok_iff.trans ⟨.tag, fun h => ?_⟩
    cases h with
    | tag h => exact h
  | not child ih =>
    refine ih.trans ⟨.not, fun h => ?_⟩
    cases h with
    | not h => exact h
  | chain c es ih =>
    rw [checkNodes_chain_ok_iff]
    constructor
    · rintro ⟨h2, hes⟩
      exact .chain h2 fun e he => (ih e he).1 (hes e he)
    · intro h
      cases h with
      | chain h2 hes => exact ⟨h2, fun e he => (ih e he).2 (hes e he)⟩

/-- At the root the empty expression is accepted as well. -/
theorem checkNodes_false_ok_iff {e : Expr} :
    e.checkNodes false = .ok () ↔ e = .always ∨ e.Valid := by
  cases e with
  | always => exact ⟨fun _ => Or.inl rfl, fun _ => rfl⟩
  | _ => rw [← checkNodes_true_ok_iff]; simp [checkNodes]

theorem checkDepth_ok_iff {e : Expr} : e.checkDepth = .ok () ↔ e.depth ≤ maxDepth := by
  unfold checkDepth
  split
  · rename_i h
    exact ⟨fun _ => h, fun _ => rfl⟩
  · rename_i h
    exact ⟨fun h' => (by cases h'), fun h' => absurd h' h⟩

/-- **What is accepted from JSON**: the trees that can be decoded, within the limit on depth, with
    the empty expression at the root only. -/
theorem ofValidJson_ok_iff {j : Json} {e : Expr} : ofValidJson j = .ok e ↔
    ofJson j = .ok e ∧ e.depth ≤ maxDepth ∧ (e = .always ∨ e.Valid) := by
  rw [← checkNodes_false_ok_iff, ← checkDepth_ok_iff]
  unfold ofValidJson
  constructor
  · intro h
    obtain ⟨e', hjson, h⟩ := bind_eq_ok_iff.1 h
    obtain ⟨_, hdepth, h⟩ := bind_eq_ok_iff.1 h
    obtain ⟨_, hnodes, h⟩ := bind_eq_ok_iff.1 h
    cases h
    exact ⟨mapError_eq_ok_iff.1 hjson, mapError_eq_ok_iff.1 hdepth, hnodes⟩
  · rintro ⟨hjson, hdepth, hnodes⟩
    exact bind_eq_ok_iff.2 ⟨e, mapError_eq_ok_iff.2 hjson, bind_eq_ok_iff.2
      ⟨(), mapError_eq_ok_iff.2 hdepth, bind_eq_ok_iff.2 ⟨(), hnodes, rfl⟩⟩⟩

/-- Trees of texts are accepted. -/
theorem checkNodes_ok {e : Expr} (hf : e.Flat) (hs : e.Spellable) (belowRoot : Bool) :
    e.checkNodes belowRoot = .ok () := by
  have hvalid := hf.valid hs
  cases belowRoot with
  | true => exact checkNodes_true_ok_iff.2 hvalid
  | false => exact checkNodes_false_ok_iff.2 (Or.inr hvalid)

theorem ofValidJson_toJson {e : Expr} (hdepth : e.depth ≤ maxDepth)
    (hnodes : e.checkNodes false = .ok ()) : ofValidJson e.toJson = .ok e :=
  ofValidJson_ok_iff.2 ⟨ofJson_toJson e, hdepth, checkNodes_false_ok_iff.1 hnodes⟩

end Expr

/-! ## The command line -/

/-- A new engine reads the text, since nothing is cached yet. -/
theorem Engine.compile_ofConfig (config : EngineConfig) (text : String) :
    ((Engine.ofConfig config).compile text).1 = Expr.read text :=
  compile_fst (ExpressionCache.faithful_empty _) .oldest text

/-- What the command line prints for a text that reads. -/
theorem Command.run_parse {text : String} {e : Expr} (h : Expr.read text = .ok e) (files : Files)
    (config : EngineConfig) (pretty : Bool) :
    ((Command.parse text pretty).run files config).run.run {} =
      (.ok 0, { output :=
        e.toJson.sorted.print (if pretty then .indented else .compact) ++ "\n" }) := by
  have hc := Engine.compile_ofConfig config text
  rw [h] at hc
  rw [Command.run]
  simp only [hc, Run.orFail]
  rfl

/-- **Round trip.**  The JSON text of a tree that was read, as the command line prints it, has at
    most as many nested containers as can be read, and the value that it reads as is accepted as
    the same tree. -/
theorem print_toJson_of_read {text : String} {e : Expr} (h : Expr.read text = .ok e) :
    (∀ files config pretty, ((Command.parse text pretty).run files config).run.run {} =
      (.ok 0, { output :=
        e.toJson.sorted.print (if pretty then .indented else .compact) ++ "\n" })) ∧
    e.toJson.sorted.nesting ≤ 127 ∧
    ∀ layout, ∃ j, Json.read? (e.toJson.sorted.print layout) = some j ∧
      Expr.ofValidJson j = .ok e := by
  have hvalid : e.toJson.nesting ≤ 127 ∧ Expr.ofValidJson e.toJson = .ok e := by
    rcases wellFormed_of_read h with rfl | ⟨hf, hs, hdepth⟩
    · exact ⟨by decide, Expr.ofValidJson_toJson (by decide +kernel) rfl⟩
    · refine ⟨?_, Expr.ofValidJson_toJson hdepth (Expr.checkNodes_ok hf hs false)⟩
      have := Expr.nesting_toJson hf
      rw [Expr.depth_eq_height, maxDepth] at hdepth
      omega
  refine ⟨Command.run_parse h, ?_, fun layout => ?_⟩
  · rw [Expr.sorted_toJson]
    exact hvalid.1
  · rw [Expr.sorted_toJson]
    exact ⟨_, Json.read?_print e.numberFree_toJson hvalid.1 layout, hvalid.2⟩

theorem print_toJson_of_read_pair :
    Expr.read "a+!\"b\"" = .ok (.all [.tag "a", .not (.tag "\"b\"")]) ∧
    ∃ j, Json.read? ((Expr.all [.tag "a", .not (.tag "\"b\"")]).toJson.sorted.print .indented) =
      some j ∧ Expr.ofValidJson j = .ok (.all [.tag "a", .not (.tag "\"b\"")]) := by
  have h : Expr.read "a+!\"b\"" = .ok (.all [.tag "a", .not (.tag "\"b\"")]) := by decide +kernel
  exact ⟨h, (print_toJson_of_read h).2.2 .indented⟩

end AudienceRouting
