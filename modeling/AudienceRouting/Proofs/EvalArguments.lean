/-
  Audience routing — an expression and tags on the command line.

  * `CommandLine.evalArguments expression tags`: the arguments that ask whether the expression
    holds of the tags.
  * `CommandLine.SpellsSwitches s`: `s` is a hyphen with nothing behind it but letters of
    switches, of which there are four: `c`, `h`, `t` and `v`.

  A text that spells switches is read as switches, and then no expression is given
  (`expression_of_spellsSwitches`).  No expression begins with two hyphens
  (`head_of_read`), so any other expression is taken as it stands (`takeArgument_expression`).
  Behind it the tags are taken one by one (`takeAll_tags`).  `eval_takes_expression` puts the
  two cases together.
-/
import AudienceRouting.CommandLine.Arguments
import AudienceRouting.Proofs.Commands
import AudienceRouting.Proofs.TokensOfText

namespace AudienceRouting

/-! ## No expression begins with two hyphens -/

theorem Derivation.not_two_minuses : {p : Part} → (d : Derivation p) → (rest ts : List Token) →
    d.tokens ++ rest ≠ .minus :: .minus :: ts
  | _, .tag _, _, _ | _, .group _, _, _ | _, .bang _, _, _ => by simp [Derivation.tokens]
  | _, .plain primary, rest, ts => primary.not_two_minuses rest ts
  | _, .minus operand, rest, ts => by
    obtain ⟨t, us, ht, -, hminus⟩ := operand.head_primary rest
    intro h
    rw [Derivation.tokens, List.cons_append, ht] at h
    exact hminus (List.cons.inj (List.cons.inj h).2).1
  | _, .all first more, rest, ts | _, .any first more, rest, ts => by
    rw [Derivation.tokens, List.append_assoc]
    exact first.not_two_minuses (more.tokens ++ rest) ts

theorem head_of_read {text : String} {e : Expr} (h : Expr.read text = .ok e) (rest : List Char) :
    text.toList ≠ '-' :: '-' :: rest := by
  intro htext
  rcases read_ok_iff.1 h with ⟨hblank, -⟩ | ⟨d, hspells, -, -⟩
  · have hwhite := List.all_eq_true.1 hblank '-' (by rw [htext]; exact List.mem_cons_self)
    exact absurd hwhite (by decide)
  · have htokens := Derivation.spells_iff.1 hspells
    rw [htext, Token.ofText?_reserved rfl, Token.ofText?_reserved rfl, Option.map_map,
      Option.map_eq_some_iff] at htokens
    obtain ⟨ts, -, hts⟩ := htokens
    exact d.not_two_minuses _ ts hts.symm

/-! ## Switches -/

namespace Scope

variable {scope : Scope} {g g' : Given} {s : Switch} {letters : List Char}

theorem ofShort?_eval_isSome_iff {c : Char} :
    (CommandName.eval.scope.ofShort? c).isSome = true ↔ c ∈ ['c', 'v', 'h', 't'] := by
  rw [ofShort?, List.find?_isSome]
  simp only [CommandName.scope, Switch.everywhere, Switch.matching, List.cons_append,
    List.nil_append, List.mem_cons, exists_eq_or_imp, List.not_mem_nil]
  simp [Switch.short?, @eq_comm _ c]

/-- Nothing but switches has been taken since. -/
structure OnlySwitches (g g' : Given) : Prop where
  expression : g'.expression = g.expression
  closed : g'.closed = g.closed

theorem onlySwitches_of_add {value : String} (h : g.add s value = some g') :
    OnlySwitches g g' := by
  unfold Given.add at h
  split at h
  · cases h
  · cases h
    exact ⟨rfl, rfl⟩

theorem onlySwitches_of_takeSwitch {attached : Option String}
    (h : takeSwitch g s attached = some g') : OnlySwitches g g' := by
  unfold takeSwitch at h
  split at h
  · cases h
    exact ⟨rfl, rfl⟩
  · exact onlySwitches_of_add h
  · exact onlySwitches_of_add h
  · cases h

theorem onlySwitches_of_takeLetters (h : scope.takeLetters g letters = some g') :
    OnlySwitches g g' := by
  induction letters generalizing g with
  | nil =>
    cases h
    exact ⟨rfl, rfl⟩
  | cons c rest ih =>
    unfold takeLetters at h
    split at h
    · cases h
    split at h
    · split at h
      · exact onlySwitches_of_takeSwitch h
      · exact onlySwitches_of_takeSwitch h
      · exact onlySwitches_of_takeSwitch h
    · obtain ⟨g₁, hfirst, hrest⟩ := Option.bind_eq_some_iff.1 h
      have hswitch := onlySwitches_of_takeSwitch hfirst
      have hletters := ih hrest
      exact ⟨hletters.expression.trans hswitch.expression, hletters.closed.trans hswitch.closed⟩

/-! ## Tags -/

/-- The switch for a tag before each of them. -/
def tagArguments (tags : List String) : List String := tags.flatMap fun tag => ["-t", tag]

variable {tags : List String} {given : List (Switch × String)} {expression : Option String}

theorem takeArgument_word {arg : String} (harg : arg.toList.head? ≠ some '-') :
    scope.takeArgument g arg = scope.takeWord g arg := by
  unfold takeArgument
  split
  · rfl
  split
  · rename_i htext
    exact absurd (congrArg List.head? htext) harg
  · rename_i htext
    exact absurd (congrArg List.head? htext) harg
  · rename_i htext
    exact absurd (congrArg List.head? htext) harg
  · rfl

theorem takeArgument_letters {arg : String} {c : Char} (hclosed : g.closed = false)
    (harg : arg.toList = '-' :: c :: letters) (hc : c ≠ '-') :
    scope.takeArgument g arg =
      if scope.awaitsExpression g && (c :: letters).any fun c => (scope.ofShort? c).isNone then
        scope.takeWord g arg
      else scope.takeLetters g (c :: letters) := by
  unfold takeArgument
  rw [hclosed, harg, if_neg Bool.false_ne_true]
  split
  · rename_i htext
    cases htext
    exact absurd rfl hc
  · rename_i htext
    cases htext
    exact absurd rfl hc
  · rename_i htext
    cases htext
    rfl
  · rename_i hother
    exact absurd rfl (hother c letters)

theorem takeArgument_tag (ht : scope.ofShort? 't' = some .tag) (hclosed : g.closed = false) :
    scope.takeArgument g "-t" = takeSwitch g .tag none := by
  have htext : "-t".toList = ['-', 't'] := by decide
  rw [takeArgument_letters hclosed htext (by decide)]
  simp [ht, takeLetters, Switch.takesValue]

theorem takeAll_tags (ht : scope.ofShort? 't' = some .tag)
    (htags : ∀ tag ∈ tags, tag.toList.head? ≠ some '-') :
    scope.takeAll ⟨given, expression, none, false⟩ (tagArguments tags) =
      some ⟨(tags.map (Switch.tag, ·)).reverse ++ given, expression, none, false⟩ := by
  induction tags generalizing given with
  | nil => rfl
  | cons tag tags ih =>
    obtain ⟨htag, htags⟩ := List.forall_mem_cons.1 htags
    have hswitch : scope.takeArgument ⟨given, expression, none, false⟩ "-t" =
        some ⟨given, expression, some .tag, false⟩ := takeArgument_tag ht rfl
    have hvalue : scope.takeArgument ⟨given, expression, some .tag, false⟩ tag =
        some ⟨(.tag, tag) :: given, expression, none, false⟩ := by
      rw [takeArgument_word htag]
      simp [takeWord, Given.add, Switch.isInquiry, Switch.isRepeatable, Switch.takesPath]
    have hsplit : tagArguments (tag :: tags) = "-t" :: tag :: tagArguments tags := rfl
    rw [hsplit, takeAll, hswitch, Option.bind_some, takeAll, hvalue, Option.bind_some, ih htags,
      List.map_cons, List.reverse_cons, List.append_assoc, List.singleton_append]

/-- A switch that waits for its value does not get it from the switch of a tag. -/
theorem takeAll_tags_of_pending (ht : scope.ofShort? 't' = some .tag) (tags : List String) :
    scope.takeAll ⟨given, expression, some s, false⟩ (tagArguments tags) = none := by
  cases tags with
  | nil => rfl
  | cons tag tags =>
    have hswitch : scope.takeArgument ⟨given, expression, some s, false⟩ "-t" = none :=
      takeArgument_tag ht rfl
    have hsplit : tagArguments (tag :: tags) = "-t" :: tag :: tagArguments tags := rfl
    rw [hsplit, takeAll, hswitch, Option.bind_none]

end Scope

/-! ## What is given -/

namespace Given

/-- An expression, and tags each behind its switch. -/
def ofTags (expression : Option String) (tags : List String) : Given :=
  ⟨(tags.map (Switch.tag, ·)).reverse, expression, none, false⟩

variable {expression : Option String} {tags : List String} {s : Switch}

theorem values_tag_ofTags : (ofTags expression tags).values .tag = tags := by
  simp [values, ofTags, List.filter_map, Function.comp_def]

theorem values_ofTags (hs : s ≠ .tag) : (ofTags expression tags).values s = [] := by
  simp [values, ofTags, List.filter_map, Function.comp_def, Ne.symm hs]

theorem has_ofTags (hs : s ≠ .tag) : (ofTags expression tags).has s = false := by
  simp [has, ofTags, Ne.symm hs]

theorem flags_ofTags : (ofTags expression tags).flags = {} := by
  rw [flags, has_ofTags (by decide), has_ofTags (by decide), has_ofTags (by decide)]

end Given

/-! ## The expression -/

namespace CommandLine

def SpellsSwitches (s : String) : Prop :=
  s.toList.head? = some '-' ∧ s.toList.tail ≠ [] ∧ ∀ c ∈ s.toList.tail, c ∈ ['c', 'v', 'h', 't']

instance : DecidablePred SpellsSwitches := fun s =>
  -- only the characters of the text are looked through
  have := List.decidableBAll (· ∈ ['c', 'v', 'h', 't']) s.toList.tail
  instDecidableAnd

variable {expression : String}

/-- Either the text is taken as it stands, or all of it is switches. -/
theorem takeArgument_expression {e : Expr} (h : Expr.read expression = .ok e)
    (hspells : ¬ SpellsSwitches expression) :
    CommandName.eval.scope.takeArgument {} expression = some { expression := some expression } := by
  have hword : CommandName.eval.scope.takeWord {} expression =
      some { expression := some expression } := rfl
  by_cases hhead : expression.toList.head? = some '-'
  · obtain ⟨rest, hrest⟩ := List.head?_eq_some_iff.1 hhead
    cases rest with
    | nil =>
      unfold Scope.takeArgument
      rw [hrest]
      exact hword
    | cons c letters =>
      have hc : c ≠ '-' := by
        rintro rfl
        exact head_of_read h letters hrest
      rw [Scope.takeArgument_letters rfl hrest hc, if_pos, hword]
      rw [Bool.and_eq_true, List.any_eq_true]
      refine ⟨rfl, ?_⟩
      by_contra hknown
      rw [SpellsSwitches, hrest] at hspells
      refine hspells ⟨rfl, List.cons_ne_nil c letters, fun d hd => ?_⟩
      rw [← Scope.ofShort?_eval_isSome_iff, Option.isSome_iff_ne_none]
      exact fun hnone => hknown ⟨d, hd, by rw [hnone]; rfl⟩
  · rw [Scope.takeArgument_word hhead, hword]

theorem expression_of_spellsSwitches (h : SpellsSwitches expression) {g : Given}
    (hg : CommandName.eval.scope.takeArgument {} expression = some g) :
    g.expression = none ∧ g.closed = false := by
  obtain ⟨hhead, hne, hletters⟩ := h
  obtain ⟨rest, hrest⟩ := List.head?_eq_some_iff.1 hhead
  rw [hrest, List.tail_cons] at hne hletters
  obtain ⟨c, letters, rfl⟩ := List.exists_cons_of_ne_nil hne
  have hc : c ≠ '-' := by
    rintro rfl
    exact absurd (hletters '-' List.mem_cons_self) (by decide)
  have hknown : (c :: letters).any
      (fun c => (CommandName.eval.scope.ofShort? c).isNone) = false := by
    refine List.any_eq_false.2 fun d hd hnone => ?_
    have hsome := Scope.ofShort?_eval_isSome_iff.2 (hletters d hd)
    rw [Option.isNone_iff_eq_none.1 hnone] at hsome
    cases hsome
  rw [Scope.takeArgument_letters rfl hrest hc, hknown, Bool.and_false,
    if_neg Bool.false_ne_true] at hg
  have honly := Scope.onlySwitches_of_takeLetters hg
  exact ⟨honly.expression, honly.closed⟩

/-! ## Reading the arguments -/

/-- The arguments that ask whether an expression holds of tags. -/
def evalArguments (expression : String) (tags : List String) : List String :=
  "eval" :: expression :: Scope.tagArguments tags

variable {tags : List String}

theorem read?_evalArguments (preset : Option String) (expression : String) (tags : List String) :
    read? preset (evalArguments expression tags) =
      ((CommandName.eval.scope.takeArgument {} expression).bind
        (CommandName.eval.scope.takeAll · (Scope.tagArguments tags))).bind (fun inner => do
          let config ← configPath? (inner.value? .config) none preset
          let command ← CommandName.eval.toCommand? inner
          some ⟨command, config, inner.has .verbose⟩) := by
  rfl

theorem read?_of_not_spellsSwitches {e : Expr} (h : Expr.read expression = .ok e)
    (htags : ∀ tag ∈ tags, tag.toList.head? ≠ some '-') (hspells : ¬ SpellsSwitches expression) :
    read? none (evalArguments expression tags) = some ⟨.eval expression tags {}, none, false⟩ := by
  have htake : CommandName.eval.scope.takeAll { expression := some expression }
      (Scope.tagArguments tags) = some (.ofTags (some expression) tags) := by
    rw [Scope.takeAll_tags (by decide) htags, List.append_nil]
    rfl
  have hconfig : (Given.ofTags (some expression) tags).value? .config = none := by
    rw [Given.value?, Given.values_ofTags (by decide)]
    rfl
  have hcommand : CommandName.eval.toCommand? (.ofTags (some expression) tags) =
      some (.eval expression tags {}) := by
    rw [CommandName.toCommand?, Given.values_tag_ofTags, Given.flags_ofTags]
    rfl
  rw [read?_evalArguments, takeArgument_expression h hspells, Option.bind_some, htake,
    Option.bind_some, hconfig, hcommand, Given.has_ofTags (by decide)]
  rfl

theorem read?_of_spellsSwitches (htags : ∀ tag ∈ tags, tag.toList.head? ≠ some '-')
    (hspells : SpellsSwitches expression) (preset : Option String) :
    read? preset (evalArguments expression tags) = none := by
  rw [read?_evalArguments]
  cases htake : CommandName.eval.scope.takeArgument {} expression with
  | none => rfl
  | some g =>
    obtain ⟨hexpression, hclosed⟩ := expression_of_spellsSwitches hspells htake
    obtain ⟨given, _, pending, _⟩ := g
    subst hexpression hclosed
    rw [Option.bind_some]
    cases pending with
    | some s => rw [Scope.takeAll_tags_of_pending (by decide), Option.bind_none]
    | none =>
      rw [Scope.takeAll_tags (by decide) htags, Option.bind_some]
      cases configPath? _ none preset with
      | none => rfl
      | some config => rfl

end CommandLine

/-- **An expression on the command line.**  If an expression does not spell switches, it is taken
    as it stands, with the tags behind it, and the run prints whether it holds of them.  If it
    spells switches, the arguments are refused, whatever the tags are. -/
theorem eval_takes_expression {expression : String} {e : Expr}
    (h : Expr.read expression = .ok e) {tags : List String}
    (htags : ∀ tag ∈ tags, tag.toList.head? ≠ some '-') :
    (¬ CommandLine.SpellsSwitches expression →
      CommandLine.read? none (CommandLine.evalArguments expression tags) =
        some ⟨.eval expression tags {}, none, false⟩ ∧
      ∀ files, CommandLine.outcome files [] ⟨.eval expression tags {}, none, false⟩ =
        (.ok (if e.holds (.ofList tags) {} then 0 else 1),
          { output := toString (e.holds (.ofList tags) {}) ++ "\n" })) ∧
    (CommandLine.SpellsSwitches expression →
      CommandLine.read? none (CommandLine.evalArguments expression tags) = none) := by
  refine ⟨fun hspells => ⟨CommandLine.read?_of_not_spellsSwitches h htags hspells, fun files => ?_⟩,
    fun hspells => CommandLine.read?_of_spellsSwitches htags hspells none⟩
  have hconfig : EngineConfig.load files [] none = .ok {} := rfl
  exact (Run.gives_orFail hconfig).bind (Command.gives_eval h {} tags)

/-- A letter of a switch among others is no switch. -/
theorem eval_takes_expression_negated :
    CommandLine.read? none ["eval", "-tv:bedroom", "-t", "tv:home", "-t", ""] =
      some ⟨.eval "-tv:bedroom" ["tv:home", ""] {}, none, false⟩ ∧
    ∀ files, CommandLine.outcome files [] ⟨.eval "-tv:bedroom" ["tv:home", ""] {}, none, false⟩ =
      (.ok 0, { output := "true\n" }) := by
  have hread : Expr.read "-tv:bedroom" = .ok (.not (.tag "tv:bedroom")) := by decide +kernel
  have htags : ∀ tag ∈ ["tv:home", ""], tag.toList.head? ≠ some '-' := by decide
  obtain ⟨hargs, houtcome⟩ := (eval_takes_expression hread htags).1 (by decide)
  have hholds : (Expr.not (.tag "tv:bedroom")).holds (.ofList ["tv:home", ""]) {} = true := by
    decide +kernel
  rw [hholds] at houtcome
  exact ⟨hargs, houtcome⟩

/-- The expression `-v` holds of the tag `a`, but it is read as a switch. -/
theorem eval_refuses_negated_letter :
    Expr.read "-v" = .ok (.not (.tag "v")) ∧ "a".toList.head? ≠ some '-' ∧
    (Expr.not (.tag "v")).holds (.ofList ["a"]) {} = true ∧
    CommandLine.evalArguments "-v" ["a"] = ["eval", "-v", "-t", "a"] ∧
    CommandLine.read? none ["eval", "-v", "-t", "a"] = none := by
  refine ⟨?_, ?_, ?_, rfl, ?_⟩
  · decide +kernel
  · decide
  · decide +kernel
  · decide +kernel

end AudienceRouting
