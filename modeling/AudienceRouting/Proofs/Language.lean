/-
  Audience routing — the language of tag expressions.

  `read_ok_iff_derivation`: apart from blank texts, a text is read if and only if
  its tokens have a derivation within the limits on depth, which is their only
  derivation, and what is read is the tree of that derivation.
-/
import AudienceRouting.Proofs.Completion

namespace AudienceRouting

theorem Derivation.eq_of_spells {d d' : Derivation .or} {text : String} (h : d.Spells text)
    (h' : d'.Spells text) : d = d' := by
  obtain ⟨lexemes, hscan, hd⟩ := h
  obtain ⟨lexemes', hscan', hd'⟩ := h'
  obtain rfl : lexemes = lexemes' := Except.ok.inj (hscan ▸ hscan')
  exact Derivation.eq_of_tokens (List.append_cancel_right (hd ▸ hd'))

/-- A text that spells a derivation is read if the derivation fits, and else is too deep. -/
theorem Derivation.readTokens_spec {d : Derivation .or} {text : String} (h : d.Spells text) :
    Limited d.Fits (Expr.readTokens text) (· = d.tree) := by
  obtain ⟨lexemes, hscan, hd⟩ := h
  rw [Expr.readTokens, hscan]
  exact d.run_spec hd

theorem exists_spells_of_readTokens {text : String} {e : Expr}
    (h : Expr.readTokens text = .ok e) : ∃ d : Derivation .or, d.Spells text := by
  unfold Expr.readTokens at h
  split at h
  · cases h
  · rename_i lexemes hscan
    obtain ⟨read, last, rfl, hread⟩ := Token.scan_ok hscan
    obtain ⟨d, hd⟩ := derivable_of_run h fun x hx => (hread x hx).ne_endOfText
    exact ⟨d, _, hscan, by simp [hd]⟩

theorem readTokens_ok_iff {text : String} {e : Expr} :
    Expr.readTokens text = .ok e ↔ ∃ d : Derivation .or, d.Spells text ∧ d.Fits ∧ d.tree = e := by
  constructor
  · intro h
    obtain ⟨d, hd⟩ := exists_spells_of_readTokens h
    have hspec := d.readTokens_spec hd
    rw [h] at hspec
    by_cases hfit : d.Fits
    · obtain ⟨_, he, rfl⟩ := hspec.1 hfit
      exact ⟨d, hd, hfit, (Except.ok.inj he).symm⟩
    · obtain ⟨_, he⟩ := hspec.2 hfit
      cases he
  · rintro ⟨d, hd, hfit, rfl⟩
    obtain ⟨_, he, rfl⟩ := (d.readTokens_spec hd).1 hfit
    exact he

theorem read_of_blank {text : String} (h : Text.isBlank text = true) :
    Expr.read text = .ok .always :=
  if_pos h

theorem read_of_not_blank {text : String} (h : Text.isBlank text = false) :
    Expr.read text = (Expr.readTokens text).mapError (⟨·, text⟩) :=
  if_neg (by simp [h])

/-- A derivation has at least one token, and a blank text none. -/
theorem Derivation.Spells.not_blank {d : Derivation .or} {text : String} (h : d.Spells text) :
    Text.isBlank text = false := by
  obtain ⟨lexemes, hscan, hd⟩ := h
  cases hb : Text.isBlank text with
  | false => rfl
  | true =>
    obtain ⟨last, hlast⟩ := Token.scan_of_blank hb
    obtain rfl : [⟨.endOfText, last⟩] = lexemes := Except.ok.inj (hlast.symm.trans hscan)
    have hnil : [] ++ [Token.endOfText] = d.tokens ++ [.endOfText] := hd
    exact absurd (List.append_cancel_right hnil).symm d.tokens_ne_nil

theorem read_ok_iff {text : String} {e : Expr} :
    Expr.read text = .ok e ↔ (Text.isBlank text = true ∧ e = .always) ∨
      ∃ d : Derivation .or, d.Spells text ∧ d.Fits ∧ d.tree = e := by
  cases h : Text.isBlank text with
  | true =>
    have : ∀ d : Derivation .or, ¬ d.Spells text := fun d hd => by simpa [h] using hd.not_blank
    simp [read_of_blank h, this, eq_comm]
  | false => simp [read_of_not_blank h, mapError_eq_ok_iff, readTokens_ok_iff]

theorem Derivation.Spells.spellable {d : Derivation .or} {text : String} (h : d.Spells text) :
    d.tree.Spellable := by
  obtain ⟨lexemes, hscan, hd⟩ := h
  obtain ⟨read, last, rfl, hread⟩ := Token.scan_ok hscan
  have htokens : read.map (·.token) = d.tokens := by simpa using hd
  refine d.spellable_tree ?_
  rw [← htokens]
  exact List.forall_mem_map.2 hread

/-- What is known of every tree that is read. -/
theorem wellFormed_of_read {text : String} {e : Expr} (h : Expr.read text = .ok e) :
    e = .always ∨ (e.Flat ∧ e.Spellable ∧ e.depth ≤ maxDepth) := by
  rcases read_ok_iff.1 h with ⟨-, rfl⟩ | ⟨d, hspells, hfit, rfl⟩
  · exact Or.inl rfl
  · exact Or.inr ⟨d.flat_tree, hspells.spellable, hfit.2⟩

/-- The empty expression is what blank texts are read as, and no other. -/
theorem read_eq_always_iff {text : String} : Expr.read text = .ok .always ↔
    Text.isBlank text = true := by
  constructor
  · intro h
    rcases read_ok_iff.1 h with ⟨hb, -⟩ | ⟨d, hspells, -, hd⟩
    · exact hb
    · cases hd ▸ hspells.spellable
  · exact read_of_blank

/-- **The language of tag expressions.**  A text is read as `e` if and only if it is blank and `e`
    the empty expression, or it spells a derivation that fits and `e` is its tree.  The grammar is
    unambiguous.  A text that spells a derivation but is not read is too deep, and a text that is
    neither blank nor spells a derivation is refused. -/
theorem read_ok_iff_derivation (text : String) :
    (∀ e, Expr.read text = .ok e ↔ (Text.isBlank text = true ∧ e = .always) ∨
      ∃ d : Derivation .or, d.Spells text ∧ d.Fits ∧ d.tree = e) ∧
    (∀ d d' : Derivation .or, d.Spells text → d'.Spells text → d = d') ∧
    (∀ d : Derivation .or, d.Spells text → ¬ d.Fits →
      ∃ error, Expr.read text = .error error ∧ error.kind = .nestingTooDeep) ∧
    (Text.isBlank text = false → (¬ ∃ d : Derivation .or, d.Spells text) →
      ∃ error, Expr.read text = .error error) := by
  refine ⟨fun e => read_ok_iff, fun d d' => Derivation.eq_of_spells, ?_, ?_⟩
  · intro d hd hfit
    obtain ⟨offset, he⟩ := (d.readTokens_spec hd).2 hfit
    exact ⟨_, by rw [read_of_not_blank hd.not_blank, he]; rfl, rfl⟩
  · intro hb hd
    cases h : Expr.read text with
    | error error => exact ⟨error, rfl⟩
    | ok e =>
      rcases read_ok_iff.1 h with ⟨hb', -⟩ | ⟨d, hspells, -⟩
      · simp [hb] at hb'
      · exact absurd ⟨d, hspells⟩ hd

/-- A group goes into the chain around it, and 65 times `!` is once too often. -/
theorem read_group_and_deep :
    Expr.read "(a + b) - c" = .ok (.chain .and [.tag "a", .tag "b", .not (.tag "c")]) ∧
    ∃ error, Expr.read (String.ofList (List.replicate 65 '!' ++ ['a'])) = .error error ∧
      error.kind = .nestingTooDeep := by
  constructor
  · have hspells : (Derivation.any (.all (.plain (.group (.any (.all (.plain (.tag "a"))
        (.plus (.plain (.tag "b")) (.none _))) (.none _)))) (.minus (.tag "c") (.none _)))
        (.none _)).Spells "(a + b) - c" :=
      ⟨(Token.scan "(a + b) - c").toOption.getD [], by decide +kernel, by decide +kernel⟩
    refine ((read_ok_iff_derivation _).1 _).2 (Or.inr ⟨_, hspells, ⟨?_, by decide +kernel⟩, rfl⟩)
    unfold Shallow
    decide +kernel
  · have hspells : (Derivation.any (.all (Derivation.bang^[65] (.plain (.tag "a"))) (.none _))
        (.none _)).Spells (String.ofList (List.replicate 65 '!' ++ ['a'])) :=
      ⟨(Token.scan (String.ofList (List.replicate 65 '!' ++ ['a']))).toOption.getD [],
        by decide +kernel, by decide +kernel⟩
    refine (read_ok_iff_derivation _).2.2.1 _ hspells fun hfit => ?_
    have hshallow := hfit.1
    unfold Shallow at hshallow
    revert hshallow
    decide +kernel

end AudienceRouting
