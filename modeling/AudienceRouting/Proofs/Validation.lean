/-
  Audience routing — which trees are accepted from JSON.

  `ofValidJson_toJson_iff`: whether a tree that is written as JSON is accepted, by
  what occurs in it.  A valid tree may have chains among the operands of a chain of
  the same connective, and no text is read as such a tree: an accepted tree is what
  its canonical text is read as if and only if it is flat (`read_text_iff_flat`).
  Its text always is read, as a tree with the same meaning (`read_text_of_accepted`).
-/
import AudienceRouting.Proofs.CanonicalText
import AudienceRouting.Proofs.Occurrence
import AudienceRouting.Proofs.TreeEncoding

namespace AudienceRouting

/-! ## The tree as JSON -/

namespace Expr

/-- A tag is free of the characters with a meaning, white space and control characters. -/
theorem isTag_iff {value : String} : IsTag value ↔ value ≠ "" ∧ ∀ c ∈ value.toList,
    c ∉ ['+', '|', '!', '-', '(', ')'] ∧ Text.isWhitespace c = false ∧
      Text.isControl c = false := by
  rw [IsTag, Ne, String.toList_eq_nil_iff]
  refine and_congr_right fun _ => forall₂_congr fun c _ => ?_
  simp [isTagChar, isReserved, and_assoc]

/-- What is accepted is the tree that was written. -/
theorem eq_of_ofValidJson_toJson {e e' : Expr} (h : ofValidJson e.toJson = .ok e') : e' = e := by
  have hjson := (ofValidJson_ok_iff.1 h).1
  rw [ofJson_toJson] at hjson
  exact (Except.ok.inj hjson).symm

theorem exists_ofValidJson_toJson_iff {e : Expr} :
    (∃ e', ofValidJson e.toJson = .ok e') ↔ ofValidJson e.toJson = .ok e := by
  refine ⟨fun ⟨e', h⟩ => ?_, fun h => ⟨e, h⟩⟩
  rwa [eq_of_ofValidJson_toJson h] at h

end Expr

/-- **Which trees are accepted as JSON.**  Any tree, written as JSON, is accepted if and only if it
    is no deeper than the limit, has the empty expression at most as its root, has two or more
    operands in every chain, and has only tags that texts can have; and then it is accepted as
    itself. -/
theorem ofValidJson_toJson_iff (e : Expr) :
    ((∃ e', Expr.ofValidJson e.toJson = .ok e') ↔
      e.depth ≤ maxDepth ∧ (∀ child ∈ e.children, ¬ Expr.Occurs .always child) ∧
        (∀ c es, Expr.Occurs (.chain c es) e → 2 ≤ es.length) ∧
        ∀ value, Expr.Occurs (.tag value) e → value ≠ "" ∧ ∀ c ∈ value.toList,
          c ∉ ['+', '|', '!', '-', '(', ')'] ∧ Text.isWhitespace c = false ∧
            Text.isControl c = false) ∧
    ∀ e', Expr.ofValidJson e.toJson = .ok e' → e' = e := by
  refine ⟨?_, fun e' => Expr.eq_of_ofValidJson_toJson⟩
  simp only [← Expr.isTag_iff]
  rw [Expr.exists_ofValidJson_toJson_iff, Expr.ofValidJson_ok_iff, Expr.always_or_valid_iff]
  exact and_iff_right (Expr.ofJson_toJson e)

/-- A conjunction of `a+b` and `c` is accepted, and a tag with a space below a negation is not. -/
theorem ofValidJson_toJson_iff_nested :
    Expr.ofValidJson (Expr.chain .and [.chain .and [.tag "a", .tag "b"], .tag "c"]).toJson =
      .ok (.chain .and [.chain .and [.tag "a", .tag "b"], .tag "c"]) ∧
    ¬ ∃ e, Expr.ofValidJson (Expr.chain .or [.tag "a", .not (.tag "b c")]).toJson = .ok e := by
  have hread : Expr.read "a+b+c" = .ok (.chain .and [.tag "a", .tag "b", .tag "c"]) := by
    decide +kernel
  obtain ⟨hflat, hspell, -⟩ := (wellFormed_of_read hread).resolve_left nofun
  obtain ⟨ha, hb, hc⟩ : (Expr.tag "a").Valid ∧ (Expr.tag "b").Valid ∧ (Expr.tag "c").Valid := by
    simpa [Expr.children] using (hflat.valid hspell).down
  have hvalid : (Expr.chain .and [.chain .and [.tag "a", .tag "b"], .tag "c"]).Valid := by
    have hinner : (Expr.chain .and [.tag "a", .tag "b"]).Valid :=
      .chain (by decide) (by simp [ha, hb])
    exact .chain (by decide) (by simp [hinner, hc])
  obtain ⟨hbelow, hchains, htags⟩ := Expr.always_or_valid_iff.1 (Or.inr hvalid)
  constructor
  · obtain ⟨e, he⟩ := (ofValidJson_toJson_iff _).1.2
      ⟨by decide +kernel, hbelow, hchains, fun value h => Expr.isTag_iff.1 (htags value h)⟩
    have hself := (ofValidJson_toJson_iff _).2 e he
    rwa [hself] at he
  · intro h
    obtain ⟨-, -, -, htags⟩ := (ofValidJson_toJson_iff _).1.1 h
    have hoccurs : Expr.Occurs (.tag "b c") (.chain .or [.tag "a", .not (.tag "b c")]) :=
      have hnot : Expr.not (.tag "b c") ∈
          (Expr.chain .or [.tag "a", .not (.tag "b c")]).children := by simp [Expr.children]
      .within hnot (.within (List.mem_singleton.2 rfl) .here)
    have hspace := ((htags "b c" hoccurs).2 ' ' (by decide +kernel)).2.1
    revert hspace
    decide +kernel

/-! ## Tags as texts -/

/-- The scanner takes a text for a single tag. -/
theorem Token.scan_eq_tag_iff {value : String} :
    Token.scan value = .ok [⟨.tag value, 0⟩, ⟨.endOfText, value.toList.length⟩] ↔
      IsTag value := by
  constructor
  · intro h
    obtain ⟨read, last, hread, hwritten⟩ := scan_ok h
    have hsplit : [⟨.tag value, 0⟩] ++ [_] = read ++ [_] := hread
    obtain ⟨rfl, -⟩ := List.append_singleton_inj.1 hsplit
    exact hwritten ⟨.tag value, 0⟩ (by simp)
  · intro h
    have hscan : scanFrom 0 (value.toList ++ []) = _ := scanFrom_tag h 0 (by simp)
    rw [List.append_nil, scanFrom, Nat.zero_add] at hscan
    exact hscan

namespace Expr

variable {value : String}

theorem depth_tag_le : (Expr.tag value).depth ≤ maxDepth := by
  rw [depth_eq_height]
  exact (by decide : 1 ≤ maxDepth)

/-- A text is read as the tag that it is. -/
theorem read_eq_tag_iff : Expr.read value = .ok (.tag value) ↔ IsTag value := by
  constructor
  · intro h
    obtain ⟨-, hspell, -⟩ := (wellFormed_of_read h).resolve_left nofun
    cases hspell with
    | tag htag => exact htag
  · intro h
    exact read_text_of_flat (.tag value) (.tag h) depth_tag_le

/-- The JSON form of a tag is accepted. -/
theorem ofValidJson_tag_iff :
    ofValidJson (Expr.tag value).toJson = .ok (.tag value) ↔ checkTag value = .ok () := by
  constructor
  · intro h
    obtain ⟨-, -, hvalid⟩ := ofValidJson_ok_iff.1 h
    exact checkNodes_false_ok_iff.2 hvalid
  · intro h
    exact ofValidJson_toJson depth_tag_le h

end Expr

/-- **Tags are checked as they are read.**  A tag is accepted from JSON, and then as itself, if and
    only if it is read as this tag when it is a text; and the check of tags lets pass what the
    scanner takes for a single tag. -/
theorem tag_accepted_iff_read (value : String) :
    ((∃ e, Expr.ofValidJson (Expr.tag value).toJson = .ok e) ↔
      Expr.read value = .ok (.tag value)) ∧
    (Expr.ofValidJson (Expr.tag value).toJson = .ok (.tag value) ↔
      Expr.read value = .ok (.tag value)) ∧
    (Expr.checkTag value = .ok () ↔
      Token.scan value = .ok [⟨.tag value, 0⟩, ⟨.endOfText, value.toList.length⟩]) := by
  rw [Expr.exists_ofValidJson_toJson_iff, Expr.ofValidJson_tag_iff, Expr.checkTag_ok_iff,
    Expr.read_eq_tag_iff, Token.scan_eq_tag_iff]
  exact ⟨Iff.rfl, Iff.rfl, Iff.rfl⟩

/-- No blank around a tag is dropped by the check, and none is kept by the reader. -/
example : Expr.checkTag " a" = .error (.reservedCharacter " a" ' ') ∧
    Expr.read " a" = .ok (.tag "a") := by
  exact ⟨rfl, by decide +kernel⟩

namespace Expr

/-! ## Reading the text of an accepted tree -/

theorem flat_of_read {text : String} {e : Expr} (h : Expr.read text = .ok e) : e.Flat := by
  rcases wellFormed_of_read h with rfl | ⟨hflat, -, -⟩
  · exact .always
  · exact hflat

/-- An accepted tree that is flat is what its canonical text is read as. -/
theorem read_text_of_ofValidJson {j : Json} {e : Expr} (h : ofValidJson j = .ok e)
    (hflat : e.Flat) : Expr.read e.text = .ok e := by
  obtain ⟨-, hdepth, rfl | hvalid⟩ := ofValidJson_ok_iff.1 h
  · exact read_of_blank rfl
  · exact read_text_of_flat hflat hvalid.spellable hdepth

end Expr

/-- **Which accepted trees are read.**  A tree that is accepted from JSON is what its canonical text
    is read as if and only if no chain in it has operands that are chains of the same connective,
    and if it is not, no text is read as it. -/
theorem read_text_iff_flat {j : Json} {e : Expr} (h : Expr.ofValidJson j = .ok e) :
    (Expr.read e.text = .ok e ↔ e.Flat) ∧ ((∃ text, Expr.read text = .ok e) ↔ e.Flat) := by
  refine ⟨⟨Expr.flat_of_read, Expr.read_text_of_ofValidJson h⟩, ?_, fun hflat => ?_⟩
  · rintro ⟨text, htext⟩
    exact Expr.flat_of_read htext
  · exact ⟨e.text, Expr.read_text_of_ofValidJson h hflat⟩

/-- A disjunction among the operands of a conjunction is read back. -/
theorem read_text_iff_flat_mixed :
    Expr.ofValidJson (Expr.chain .and [.chain .or [.tag "a", .tag "b"], .tag "c"]).toJson =
      .ok (.chain .and [.chain .or [.tag "a", .tag "b"], .tag "c"]) ∧
    Expr.read "(a|b)+c" = .ok (.chain .and [.chain .or [.tag "a", .tag "b"], .tag "c"]) := by
  have h : Expr.ofValidJson (Expr.chain .and [.chain .or [.tag "a", .tag "b"], .tag "c"]).toJson =
      .ok (.chain .and [.chain .or [.tag "a", .tag "b"], .tag "c"]) :=
    Expr.ofValidJson_toJson (by decide +kernel) rfl
  refine ⟨h, (read_text_iff_flat h).1.2 ?_⟩
  have hinner : (Expr.chain .or [.tag "a", .tag "b"]).Flat :=
    .chain (by decide) (by simp [Expr.Flat.tag]) (by decide)
  exact .chain (by decide) (by simp [Expr.Flat.tag, hinner]) (by decide)

/-- A conjunction among the operands of a conjunction is accepted, and its text is read as the one
    conjunction of all operands; so not every accepted tree is read from a text. -/
theorem ofValidJson_nested_conjunction :
    Expr.ofValidJson (Expr.chain .and [.chain .and [.tag "a", .tag "b"], .tag "c"]).toJson =
      .ok (.chain .and [.chain .and [.tag "a", .tag "b"], .tag "c"]) ∧
    (Expr.chain .and [.chain .and [.tag "a", .tag "b"], .tag "c"]).text = "(a+b)+c" ∧
    Expr.read "(a+b)+c" = .ok (.chain .and [.tag "a", .tag "b", .tag "c"]) ∧
    ¬ ∀ (j : Json) (e : Expr), Expr.ofValidJson j = .ok e → Expr.read e.text = .ok e := by
  have h : Expr.ofValidJson (Expr.chain .and [.chain .and [.tag "a", .tag "b"], .tag "c"]).toJson =
      .ok (.chain .and [.chain .and [.tag "a", .tag "b"], .tag "c"]) :=
    Expr.ofValidJson_toJson (by decide +kernel) rfl
  have htext : (Expr.chain .and [.chain .and [.tag "a", .tag "b"], .tag "c"]).text = "(a+b)+c" := by
    decide +kernel
  have hread : Expr.read "(a+b)+c" = .ok (.chain .and [.tag "a", .tag "b", .tag "c"]) := by
    decide +kernel
  refine ⟨h, htext, hread, fun hall => ?_⟩
  have hback := hall _ _ h
  rw [htext, hread] at hback
  revert hback
  decide +kernel

/-- **Accepted trees keep their meaning as texts.**  The canonical text of a tree that is accepted
    from JSON is read, as a tree that holds of the same tags under all options, has the same
    literals and is no deeper. -/
theorem read_text_of_accepted {j : Json} {e : Expr} (h : Expr.ofValidJson j = .ok e) :
    ∃ e', Expr.read e.text = .ok e' ∧
      (∀ tags options, e'.holds tags options = e.holds tags options) ∧
      e'.literals = e.literals ∧ e'.depth ≤ e.depth := by
  refine ⟨e.merged, ?_, fun tags options => e.holds_merged tags options, ?_, ?_⟩
  · obtain ⟨-, hdepth, rfl | hvalid⟩ := Expr.ofValidJson_ok_iff.1 h
    · exact read_of_blank rfl
    · exact read_text hvalid hdepth
  · rw [Expr.literals_eq, Expr.literals_eq, Expr.leaves_merged]
  · rw [Expr.depth_eq_height, Expr.depth_eq_height]
    exact e.height_merged_le

/-- Chains that are nested in chains of the same connective lose their parentheses, also below a
    negation. -/
theorem read_text_of_accepted_nested :
    Expr.ofValidJson (Expr.chain .or [.chain .or [.tag "a", .not (.chain .and
      [.chain .and [.tag "b", .tag "a"], .tag "c"])], .tag "d"]).toJson = .ok (.chain .or
        [.chain .or [.tag "a", .not (.chain .and [.chain .and [.tag "b", .tag "a"], .tag "c"])],
          .tag "d"]) ∧
    ∃ e, Expr.read "(a|!((b+a)+c))|d" = .ok e ∧
      (∀ tags options, e.holds tags options = (Expr.chain .or [.chain .or [.tag "a", .not
        (.chain .and [.chain .and [.tag "b", .tag "a"], .tag "c"])], .tag "d"]).holds tags options) ∧
      e.literals = ["a", "b", "c", "d"] ∧ e.depth ≤ 6 := by
  have h := Expr.ofValidJson_toJson (e := .chain .or [.chain .or [.tag "a", .not (.chain .and
    [.chain .and [.tag "b", .tag "a"], .tag "c"])], .tag "d"]) (by decide +kernel) rfl
  obtain ⟨e, hread, hholds, hliterals, hdepth⟩ := read_text_of_accepted h
  refine ⟨h, e, hread, hholds, hliterals.trans ?_, hdepth.trans ?_⟩
  · decide +kernel
  · decide +kernel

end AudienceRouting
