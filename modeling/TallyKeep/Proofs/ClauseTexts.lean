/-
Module: TallyKeep.Proofs.ClauseTexts
Layer: Proofs
Purpose: The only multisig clause of a tree in the text of the tree: what stands behind its name,
  and what the patterns of `parse` and of the analysis capture there.
Trusted boundary: none
Main exports: multiHeads, Descriptor.multiHeads_eq, argument_of_split, firstNumber_threshold,
  parseDescriptor_multisig
-/
import TallyKeep.Adapters.MultisigClauses
import TallyKeep.Proofs.DescriptorTexts

namespace TallyKeep

open CallText Regex DescriptorPatterns

variable {classes : CharClasses}

/-! ### Calls of a clause -/

/-- The names of multisig clauses. -/
def multiNames : List (List Char) :=
  ["multi".toList, "multi_a".toList, "sortedmulti".toList, "sortedmulti_a".toList]

/-- The calls of an expression that have the name of a clause. -/
def multiHeads (e : Expr) : List (List Char × Expr) :=
  e.heads.filter fun head => multiNames.contains head.1

/-- The call that a clause is written as. -/
def MultisigClause.head (clause : MultisigClause) : List Char × Expr :=
  ((Fragment.multi clause.kind clause.threshold).name.toList,
    keyList clause.threshold clause.keys)

/-- The multisig fragments are the ones with a multisig name. -/
theorem Fragment.mem_multiNames_iff {fragment : Fragment} :
    fragment.name.toList ∈ multiNames ↔ fragment.isMulti = true := by
  cases fragment with
  | key kind | hash kind | and kind | or kind => cases kind <;> rw [name] <;> decide
  | timelock kind value =>
      cases kind <;> exact iff_of_false (by rw [name]; decide) Bool.false_ne_true
  | multi kind threshold => cases kind <;> exact iff_of_true (by rw [name]; decide) rfl
  | andor | thresh => decide

/-- No outer name is a multisig name. -/
theorem outer_not_mem_multiNames {name : String} (outer : name ∈ outerNames) :
    name.toList ∉ multiNames := by
  have all : (outerNames.all fun name => decide (name.toList ∉ multiNames)) = true := by decide
  exact of_decide_eq_true (List.all_eq_true.mp all name outer)

section Heads

variable {e first second argument : Expr} {fragment : Fragment}

/-- The multisig heads of two expressions side by side. -/
theorem multiHeads_append (same : e.heads = first.heads ++ second.heads) :
    multiHeads e = multiHeads first ++ multiHeads second := by
  rw [multiHeads, same, List.filter_append]
  rfl

theorem multiHeads_pair : multiHeads (.pair first second) = multiHeads first ++ multiHeads second :=
  multiHeads_append rfl

theorem multiHeads_call {name : List Char} (other : name ∉ multiNames) :
    multiHeads (.call name argument) = multiHeads argument := by
  rw [multiHeads, Expr.heads, List.filter_cons_of_neg (by simpa using other)]
  rfl

theorem multiHeads_fragment (other : fragment.isMulti = false) :
    multiHeads (fragment.call argument) = multiHeads argument := by
  apply multiHeads_call
  rw [Fragment.mem_multiNames_iff, other]
  exact Bool.false_ne_true

theorem multiHeads_outer {name : String} (outer : name ∈ outerNames) :
    multiHeads (.call name.toList argument) = multiHeads argument :=
  multiHeads_call (outer_not_mem_multiNames outer)

/-- A clause heads its own expression. -/
theorem multiHeads_clause (kind : MultiFragment) (threshold : Nat) (keys : List Operand) :
    multiHeads ((Fragment.multi kind threshold).call (keyList threshold keys)) =
      [MultisigClause.head ⟨kind, threshold, keys⟩] := by
  have named : (Fragment.multi kind threshold).name.toList ∈ multiNames :=
    Fragment.mem_multiNames_iff.mpr rfl
  rw [multiHeads, Fragment.call, Expr.heads, List.filter_cons_of_pos (by simpa using named)]
  rfl

theorem multiHeads_before (wrapper : Wrapper) (e : Expr) :
    multiHeads (wrapper.before e) = multiHeads e := by
  cases e with
  | prefixed letters body => rfl
  | _ => rfl

end Heads

/-- The calls of a script with the name of a clause are its clauses. -/
theorem Script.multiHeads_eq (script : Script) :
    multiHeads script.expr = script.clauses.map MultisigClause.head := by
  refine @Script.rec
    (fun script => multiHeads script.expr = script.clauses.map MultisigClause.head)
    (fun subs => ∀ e, multiHeads (subs.behind e) =
      multiHeads e ++ subs.clauses.map MultisigClause.head)
    ?_ ?_ ?_ ?_ ?_ ?_ ?_ ?_ ?_ ?_ ?_ ?_ script
  · intro value
    rfl
  · intro kind key
    exact multiHeads_fragment rfl
  · intro kind value
    exact multiHeads_fragment rfl
  · intro kind digest
    exact multiHeads_fragment rfl
  · intro kind threshold keys
    exact multiHeads_clause kind threshold keys
  · intro wrapper body inductionHypothesis
    rw [Script.expr, multiHeads_before, inductionHypothesis, Script.clauses]
  · intro kind first second firstHypothesis secondHypothesis
    rw [Script.expr, multiHeads_fragment rfl, multiHeads_pair, firstHypothesis, secondHypothesis,
      Script.clauses, List.map_append]
  · intro condition first second conditionHypothesis firstHypothesis secondHypothesis
    rw [Script.expr, multiHeads_fragment rfl, multiHeads_pair, multiHeads_pair,
      conditionHypothesis, firstHypothesis, secondHypothesis, Script.clauses, List.map_append,
      List.map_append]
  · intro kind first second firstHypothesis secondHypothesis
    rw [Script.expr, multiHeads_fragment rfl, multiHeads_pair, firstHypothesis, secondHypothesis,
      Script.clauses, List.map_append]
  · intro threshold subs inductionHypothesis
    rw [Script.expr, multiHeads_fragment rfl, inductionHypothesis, Script.clauses]
    rfl
  · intro e
    rw [Scripts.behind, Scripts.clauses, List.map_nil, List.append_nil]
  · intro first rest firstHypothesis restHypothesis e
    rw [Scripts.behind, restHypothesis, multiHeads_pair, firstHypothesis, Scripts.clauses,
      List.map_append, List.append_assoc]

/-- The multisig heads of a tree are those of its clauses. -/
theorem TapTree.multiHeads_eq (tree : TapTree) :
    multiHeads tree.expr = tree.clauses.map MultisigClause.head := by
  induction tree with
  | leaf script => exact script.multiHeads_eq
  | branch left right leftHypothesis rightHypothesis =>
      rw [TapTree.expr, multiHeads_append rfl, leftHypothesis, rightHypothesis, TapTree.clauses,
        List.map_append]

/-- The multisig heads of a descriptor are those of its clauses. -/
theorem Descriptor.multiHeads_eq (descriptor : Descriptor) :
    multiHeads descriptor.expr = descriptor.clauses.map MultisigClause.head := by
  cases descriptor with
  | pk key => exact multiHeads_fragment rfl
  | multi sorted threshold keys => exact multiHeads_clause _ threshold keys
  | pkh key => exact multiHeads_fragment rfl
  | wpkh key => exact multiHeads_outer (by decide)
  | shWpkh key => rw [expr, multiHeads_outer (by decide), multiHeads_outer (by decide)]; rfl
  | wsh script =>
      rw [expr, multiHeads_outer (by decide)]
      exact script.multiHeads_eq
  | sh script =>
      rw [expr, multiHeads_outer (by decide)]
      exact script.multiHeads_eq
  | shWsh script =>
      rw [expr, multiHeads_outer (by decide), multiHeads_outer (by decide)]
      exact script.multiHeads_eq
  | tr key tree =>
      cases tree with
      | none => exact multiHeads_outer (by decide)
      | some tree =>
          rw [expr, multiHeads_outer (by decide), multiHeads_pair, tree.multiHeads_eq]
          rfl

/-! ### Places of a clause -/

/-- Two splits of a list at the first of a character are one. -/
theorem eq_of_append_cons {α : Type} {c : α} {first second rest rest' : List α}
    (absent : c ∉ first) (absent' : c ∉ second)
    (same : first ++ c :: rest = second ++ c :: rest') : first = second ∧ rest = rest' := by
  induction first generalizing second with
  | nil =>
      cases second with
      | nil => exact ⟨rfl, (List.cons.inj same).2⟩
      | cons d second =>
          rw [List.nil_append, List.cons_append] at same
          rw [(List.cons.inj same).1] at absent'
          exact absurd List.mem_cons_self absent'
  | cons d first inductionHypothesis =>
      rw [List.mem_cons, not_or] at absent
      cases second with
      | nil =>
          rw [List.nil_append, List.cons_append] at same
          exact absurd (List.cons.inj same).1.symm absent.1
      | cons e second =>
          rw [List.mem_cons, not_or] at absent'
          obtain ⟨head, tail⟩ := List.cons.inj same
          obtain ⟨firsts, rests⟩ := inductionHypothesis absent.2 absent'.2 tail
          exact ⟨by rw [head, firsts], rests⟩

/-- Whatever has a name that ends like that of a clause is a clause. -/
theorem Fragment.isMulti_of_multiNames {fragment : Fragment} {name : List Char}
    (listed : name ∈ multiNames) (ends : name <:+ fragment.name.toList) :
    fragment.isMulti = true := by
  have inside : ∃ suffix, (suffix = "_a".toList ∨ suffix = []) ∧
      "multi".toList ++ suffix <:+ name := by
    simp only [multiNames, List.mem_cons, List.not_mem_nil, or_false] at listed
    rcases listed with rfl | rfl | rfl | rfl
    · exact ⟨[], .inr rfl, by decide⟩
    · exact ⟨_, .inl rfl, by decide⟩
    · exact ⟨[], .inr rfl, by decide⟩
    · exact ⟨_, .inl rfl, by decide⟩
  obtain ⟨suffix, either, within⟩ := inside
  exact (isMulti_of_suffix either (within.trans ends)).1

/-- No outer name ends in a multisig name. -/
theorem not_suffix_outer {name : List Char} (listed : name ∈ multiNames) {outer : String}
    (known : outer ∈ outerNames) : ¬name <:+ outer.toList := by
  have all : (outerNames.all fun outer =>
      multiNames.all fun name => decide (¬name <:+ outer.toList)) = true := by decide
  exact of_decide_eq_true (List.all_eq_true.mp (List.all_eq_true.mp all outer known) name listed)

theorem spelled_multiNames {name : List Char} (listed : name ∈ multiNames) :
    name ≠ [] ∧ ∀ c ∈ name, NameChar c := by
  have all : (multiNames.all fun name => !name.isEmpty && name.all isNameChar) = true := by decide
  obtain ⟨nonempty, named⟩ := (Bool.and_eq_true _ _).mp (List.all_eq_true.mp all name listed)
  exact ⟨by simpa using nonempty, List.all_eq_true.mp named⟩

namespace Descriptor

variable {descriptor : Descriptor} {clause : MultisigClause} (checksum : Option Operand)

/-- Behind a name of clauses stand the threshold and the keys of the only clause. -/
theorem argument_of_split (one : descriptor.clauses = [clause]) {name skipped rest : List Char}
    (listed : name ∈ multiNames)
    (split : (descriptor.text checksum).toList = skipped ++ (name ++ '(' :: rest)) :
    ∃ later, rest = (keyList clause.threshold clause.keys).print ++ ')' :: later := by
  obtain ⟨whole, ends, called⟩ := exists_mem_calls (delimits_word CharClasses.ascii)
    (fun c member => (word_of_nameChar ((spelled_multiNames listed).2 c member)).1) skipped
  rw [← split, text_toList] at called
  obtain ⟨argument, later, head, split⟩ := head_of_mem_calls (descriptor.plain CharClasses.ascii)
    (delimits_word CharClasses.ascii) (ends_checksum checksum CharClasses.ascii)
    (silent_checksum checksum) called
  have multi : whole ∈ multiNames := by
    rcases descriptor.shows.known _ head with ⟨fragment, -, heads⟩ | ⟨outer, known, same⟩
    · obtain rfl : whole = fragment.name.toList := heads.1
      exact Fragment.mem_multiNames_iff.mpr (Fragment.isMulti_of_multiNames listed ends)
    · obtain rfl : whole = outer.toList := same
      exact absurd ends (not_suffix_outer listed known)
  have member : (whole, argument) ∈ multiHeads descriptor.expr :=
    List.mem_filter.mpr ⟨head, List.contains_iff_mem.mpr multi⟩
  rw [descriptor.multiHeads_eq, one, List.map_singleton, List.mem_singleton] at member
  obtain rfl : argument = keyList clause.threshold clause.keys := congrArg Prod.snd member
  exact ⟨later, split⟩

/-- The only clause shows in the text, behind no word. -/
theorem called_of_clause (one : descriptor.clauses = [clause]) :
    ∃ skipped later, (descriptor.text checksum).toList = skipped ++
        ((Fragment.multi clause.kind clause.threshold).name.toList ++
          '(' :: ((keyList clause.threshold clause.keys).print ++ ')' :: later)) ∧
      ∀ c ∈ skipped.getLast?, classes.word c = false := by
  have shown : clause.head ∈ multiHeads descriptor.expr := by
    rw [descriptor.multiHeads_eq, one]
    exact List.mem_singleton_self _
  obtain ⟨later, called⟩ := mem_calls_of_head (descriptor.plain classes) (delimits_word classes)
    (ends_checksum checksum classes) (List.mem_filter.mp shown).1
  rw [← text_toList] at called
  obtain ⟨skipped, split, bounded⟩ := (mem_calls_iff (delimits_word classes) fun c member =>
    (word_of_nameChar (Fragment.spelled_name _ c member)).1).mp called
  exact ⟨skipped, later, split, bounded⟩

/-- The digits behind a clause's parenthesis are those of the threshold. -/
theorem threshold_of_split (one : descriptor.clauses = [clause])
    {name skipped blanks digits blanks' rest : List Char} (listed : name ∈ multiNames)
    (split : (descriptor.text checksum).toList =
      skipped ++ (name ++ '(' :: (blanks ++ (digits ++ (blanks' ++ ',' :: rest)))))
    (blank : ∀ c ∈ blanks ++ blanks', classes.space c = true)
    (digit : ∀ c ∈ digits, classes.digit c = true) :
    digits = Nat.toDigits 10 clause.threshold ∧
      ∃ later, rest = [','].intercalate (clause.keys.map Operand.text) ++ ')' :: later := by
  -- A printed tree has no blanks, so the digits stand alone.
  have noBlanks : blanks = [] ∧ blanks' = [] := by
    rw [← List.append_eq_nil_iff, List.eq_nil_iff_forall_not_mem]
    intro c inside
    have inText : c ∈ (descriptor.text checksum).toList := by
      rw [split]
      rcases List.mem_append.mp inside with inside | inside <;> simp [inside]
    have filled := blank c inside
    rw [descriptor.space_of_mem_text checksum inText] at filled
    cases filled
  obtain ⟨rfl, rfl⟩ := noBlanks
  obtain ⟨later, same⟩ := argument_of_split checksum one listed split
  have printed : (keyList clause.threshold clause.keys).print =
      Nat.toDigits 10 clause.threshold ++
        ',' :: [','].intercalate (clause.keys.map Operand.text) := rfl
  rw [List.nil_append, List.nil_append, printed, List.append_assoc, List.cons_append] at same
  have noComma : ∀ {text : List Char}, (∀ c ∈ text, classes.digit c = true) → ',' ∉ text := by
    intro text digits member
    have isDigit := digits ',' member
    rw [(classes.ascii_punctuation ',' (by decide)).2.1] at isDigit
    cases isDigit
  obtain ⟨sameDigits, sameRest⟩ := eq_of_append_cons (noComma digit)
    (noComma fun c member => CharClasses.digit_of_isDigit (isDigit_of_mem_toDigits member)) same
  exact ⟨sameDigits, later, sameRest⟩

/-- The number that `_extract_multisig_params` takes for the required signers is the threshold. -/
theorem firstNumber_threshold (one : descriptor.clauses = [clause]) {stop : Position}
    (result : search classes (multisigThreshold classes) (descriptor.text checksum) = some stop) :
    firstNumber classes stop = clause.threshold := by
  have written : multisigThreshold classes =
      .seq (.optional (.text "sorted")) (.seq (.text "multi") (.seq (.optional (.text "_a"))
        (.seq (.text "(") (.seq (spacedNumber classes) (.seq (.text ",") .empty))))) := rfl
  obtain ⟨skipped, rest, split, member⟩ := mem_run_of_search result
  rw [written] at member
  obtain ⟨_, first, member⟩ := mem_run_seq.mp member
  obtain ⟨sorted, rest, sorts, rfl, rfl⟩ := mem_run_optional_literal.mp first
  obtain ⟨_, second, member⟩ := mem_run_seq.mp member
  obtain ⟨rest, rfl, rfl⟩ := mem_run_literal.mp second
  obtain ⟨_, third, member⟩ := mem_run_seq.mp member
  obtain ⟨suffix, rest, either, rfl, rfl⟩ := mem_run_optional_literal.mp third
  obtain ⟨_, fourth, member⟩ := mem_run_seq.mp member
  obtain ⟨rest, rfl, rfl⟩ := mem_run_literal.mp fourth
  obtain ⟨_, fifth, member⟩ := mem_run_seq.mp member
  obtain ⟨blanks, digits, blanks', rest, rfl, -, digit, blank, rfl⟩ := mem_run_spacedNumber.mp fifth
  obtain ⟨_, sixth, member⟩ := mem_run_seq.mp member
  obtain ⟨later, rfl, rfl⟩ := mem_run_literal.mp sixth
  rw [run_empty, List.mem_singleton] at member
  have listed : sorted ++ ("multi".toList ++ suffix) ∈ multiNames := by
    rcases sorts with rfl | rfl <;> rcases either with rfl | rfl <;> decide
  have apart : (descriptor.text checksum).toList = skipped ++
      ((sorted ++ ("multi".toList ++ suffix)) ++
        '(' :: (blanks ++ (digits ++ (blanks' ++ ',' :: later)))) := by
    rw [split]
    simp
  obtain ⟨read, -⟩ := threshold_of_split checksum one listed apart blank digit
  rw [member, firstNumber]
  change Regex.number classes digits = clause.threshold
  rw [read, number_toDigits]

end Descriptor

/-! ### What the analysis reads off -/

/-- The names that `_MULTI_PATTERN` looks for. -/
theorem mem_run_multiNames {before after : List Char} {groups : List (List Char)}
    {stop : Position} :
    stop ∈ (Pattern.anyOf [.text "multi", .text "multi_a", .text "sortedmulti",
        .text "sortedmulti_a"]).run classes ⟨before, after, groups⟩ ↔
      ∃ name ∈ multiNames, ∃ rest, after = name ++ rest ∧
        stop = ⟨name.reverse ++ before, rest, groups⟩ := by
  simp only [Pattern.anyOf, mem_run_alt, Pattern.text, mem_run_literal, multiNames, List.mem_cons,
    List.not_mem_nil, or_false, or_and_right, exists_or, exists_eq_left]

theorem multiPattern_eq : AnalysisService.multiPattern classes =
    .seq .boundary (.seq (.group (.anyOf [.text "multi", .text "multi_a", .text "sortedmulti",
      .text "sortedmulti_a"])) (.seq (.text "(") (.seq (spacedNumber classes) (.seq (.text ",")
        (.seq (.group (.star (.char fun c => decide (c ≠ ')')))) (.seq (.text ")") .empty)))))) :=
  rfl

/-- A match of `_MULTI_PATTERN` captures a name, the digits behind its parenthesis, and what follows
    them up to the next closing one. -/
theorem captured_of_multiPattern {before after : List Char} {stop : Position}
    (member : stop ∈ (AnalysisService.multiPattern classes).run classes ⟨before, after, []⟩) :
    ∃ name ∈ multiNames, ∃ blanks digits blanks' keys later,
      after = name ++ '(' :: (blanks ++ (digits ++ (blanks' ++ ',' :: (keys ++ ')' :: later)))) ∧
        (∀ c ∈ blanks ++ blanks', classes.space c = true) ∧
        (∀ c ∈ digits, classes.digit c = true) ∧ ')' ∉ keys ∧
        stop.groups = [name, digits, keys] := by
  rw [multiPattern_eq] at member
  obtain ⟨_, boundary, member⟩ := mem_run_seq.mp member
  obtain ⟨-, rfl⟩ := mem_run_boundary.mp boundary
  obtain ⟨_, first, member⟩ := mem_run_seq.mp member
  obtain ⟨_, inner, rfl⟩ := mem_run_group.mp first
  obtain ⟨name, listed, rest, rfl, rfl⟩ := mem_run_multiNames.mp inner
  rw [taken_append] at member
  obtain ⟨_, second, member⟩ := mem_run_seq.mp member
  obtain ⟨rest, rfl, rfl⟩ := mem_run_literal.mp second
  obtain ⟨_, third, member⟩ := mem_run_seq.mp member
  obtain ⟨blanks, digits, blanks', rest, rfl, -, digit, blank, rfl⟩ := mem_run_spacedNumber.mp third
  obtain ⟨_, fourth, member⟩ := mem_run_seq.mp member
  obtain ⟨rest, rfl, rfl⟩ := mem_run_literal.mp fourth
  obtain ⟨_, fifth, member⟩ := mem_run_seq.mp member
  obtain ⟨_, inner, rfl⟩ := mem_run_group.mp fifth
  obtain ⟨keys, rest, rfl, other, rfl⟩ := mem_run_star_char.mp inner
  rw [taken_append] at member
  obtain ⟨_, sixth, member⟩ := mem_run_seq.mp member
  obtain ⟨later, rfl, rfl⟩ := mem_run_literal.mp sixth
  rw [run_empty, List.mem_singleton] at member
  refine ⟨name, listed, blanks, digits, blanks', keys, later, rfl, blank, digit, ?_, ?_⟩
  · exact fun inside => absurd (other _ inside) (by decide)
  · rw [member]
    rfl

/-- Where a name of clauses starts, with a number and anything else in parentheses, the pattern
    matches. -/
theorem exists_mem_run_multiPattern {before name digits keys later : List Char}
    (bounded : Position.atBoundary classes
      ⟨before, name ++ '(' :: (digits ++ ',' :: (keys ++ ')' :: later)), []⟩ = true)
    (listed : name ∈ multiNames) (nonempty : digits ≠ [])
    (digit : ∀ c ∈ digits, classes.digit c = true) (closed : ')' ∉ keys) :
    ∃ stop, stop ∈ (AnalysisService.multiPattern classes).run classes
      ⟨before, name ++ '(' :: (digits ++ ',' :: (keys ++ ')' :: later)), []⟩ := by
  have inside : ∀ c ∈ keys, decide (c ≠ ')') = true := by
    intro c member
    rw [decide_eq_true_eq]
    rintro rfl
    exact closed member
  rw [multiPattern_eq]
  refine exists_mem_run_seq (mem_run_boundary.mpr ⟨bounded, rfl⟩) ?_
  refine exists_mem_run_seq (mem_run_group.mpr
    ⟨_, mem_run_multiNames.mpr ⟨name, listed, _, rfl, rfl⟩, rfl⟩) ?_
  refine exists_mem_run_seq (mem_run_literal.mpr ⟨_, rfl, rfl⟩) ?_
  refine exists_mem_run_seq (mem_run_spacedNumber.mpr
    ⟨[], digits, [], _, rfl, nonempty, digit, by simp, rfl⟩) ?_
  refine exists_mem_run_seq (mem_run_literal.mpr ⟨_, rfl, rfl⟩) ?_
  refine exists_mem_run_seq (mem_run_group.mpr
    ⟨_, mem_run_star_char.mpr ⟨keys, _, rfl, inside, rfl⟩, rfl⟩) ?_
  exact exists_mem_run_seq (mem_run_literal.mpr ⟨later, rfl, rfl⟩) ⟨_, List.mem_singleton_self _⟩

/-- The commas between some keys count them. -/
theorem keyCount_intercalate {keys : List Operand} (some : keys ≠ [])
    (nonempty : ∀ key ∈ keys, key.text ≠ []) :
    AnalysisService.keyCount classes ([','].intercalate (keys.map Operand.text)) = keys.length := by
  have noComma : ∀ text ∈ keys.map Operand.text, ',' ∉ text := by
    intro text member inside
    obtain ⟨key, -, rfl⟩ := List.mem_map.mp member
    exact absurd (key.legal ',' inside) (by decide)
  have visible : ∀ text ∈ keys.map Operand.text, (text.any fun c => !classes.space c) = true := by
    intro text member
    obtain ⟨key, known, rfl⟩ := List.mem_map.mp member
    obtain ⟨c, first⟩ := List.exists_mem_of_ne_nil _ (nonempty key known)
    refine List.any_eq_true.mpr ⟨c, first, ?_⟩
    rw [space_of_isOperandChar (key.legal c first)]
    rfl
  rw [AnalysisService.keyCount, List.splitOn_intercalate ',' noComma (by simpa using some),
    List.filter_eq_self.mpr visible, List.length_map]

/-- The analysis reads the threshold and the number of keys off the only clause. -/
theorem parseDescriptor_multisig {descriptor : Descriptor} {clause : MultisigClause}
    (checksum : Option Operand) (one : descriptor.clauses = [clause]) (some : clause.keys ≠ [])
    (nonempty : ∀ key ∈ clause.keys, key.text ≠ []) :
    (AnalysisService.parseDescriptor classes (descriptor.text checksum)).multisig =
      Option.some (clause.threshold, clause.keys.length) := by
  have closed : ')' ∉ [','].intercalate (clause.keys.map Operand.text) := by
    intro inside
    have spelled := (spelled_keyList clause.threshold clause.keys).2
    exact absurd (spelled ')' inside) (by unfold TextChar; decide)
  have finds : found classes (AnalysisService.multiPattern classes) (descriptor.text checksum) =
      true := by
    obtain ⟨skipped, later, split, bounded⟩ :=
      @Descriptor.called_of_clause classes descriptor clause checksum one
    have listed : (Fragment.multi clause.kind clause.threshold).name.toList ∈ multiNames :=
      Fragment.mem_multiNames_iff.mpr rfl
    have printed : (keyList clause.threshold clause.keys).print =
        Nat.toDigits 10 clause.threshold ++
          ',' :: [','].intercalate (clause.keys.map Operand.text) := rfl
    rw [printed, List.append_assoc, List.cons_append] at split
    obtain ⟨named, spelled⟩ := spelled_multiNames listed
    refine found_iff_mem.mpr ⟨skipped, _, split, exists_mem_run_multiPattern
      ((atBoundary_iff named spelled).mpr bounded) listed Nat.toDigits_ne_nil ?_ closed⟩
    exact fun c member => CharClasses.digit_of_isDigit (isDigit_of_mem_toDigits member)
  obtain ⟨stop, result⟩ := Option.isSome_iff_exists.mp finds
  obtain ⟨skipped, rest, split, member⟩ := mem_run_of_search result
  obtain ⟨name, listed, blanks, digits, blanks', keys, later, rfl, blank, digit, open', groups⟩ :=
    captured_of_multiPattern member
  obtain ⟨read, behind, same⟩ :=
    Descriptor.threshold_of_split checksum one listed split blank digit
  obtain ⟨sameKeys, -⟩ := eq_of_append_cons open' closed same
  rw [AnalysisService.parseDescriptor, result, Option.map_some, groups]
  simp only [List.getD_cons_succ, List.getD_cons_zero]
  rw [read, number_toDigits, sameKeys, keyCount_intercalate some nonempty]

end TallyKeep
