/-
Module: TallyKeep.Proofs.DescriptorTexts
Layer: Proofs
Purpose: What the patterns of the descriptor adapter find in the text of a tree, in terms of the
  fragments of the tree.
Trusted boundary: none
Main exports: ShowsFragments, Descriptor.shows, found_unsupported_iff, found_lsp,
  found_threshold_iff,
  found_taprootMultisig_iff, extractTimelock_isSome_iff, extractTimelock_mem
-/
import TallyKeep.Adapters.DescriptorTrees

namespace TallyKeep

open CallText Regex DescriptorPatterns

/-! ### Fragments and calls -/

/-- The call a fragment is written as. -/
def Fragment.Heads (fragment : Fragment) (head : List Char × Expr) : Prop :=
  head.1 = fragment.name.toList ∧
    match fragment with
    | .timelock _ value => head.2 = decimal value
    | .multi _ threshold => ∃ keys, head.2 = .pair (decimal threshold) keys
    | _ => True

/-- The calls around scripts and keys. -/
def outerNames : List String := ["wpkh", "sh", "wsh", "tr"]

/-- The calls of an expression are those of some fragments, apart from the outer ones. -/
structure ShowsFragments (e : Expr) (fragments : List Fragment) : Prop where
  known : ∀ head ∈ e.heads, (∃ fragment ∈ fragments, fragment.Heads head) ∨
    ∃ name ∈ outerNames, head.1 = name.toList
  shown : ∀ fragment ∈ fragments, ∃ head ∈ e.heads, fragment.Heads head

namespace ShowsFragments

variable {e first second argument : Expr} {fragments others : List Fragment} {fragment : Fragment}

/-- An atom shows no fragment. -/
theorem atom (text : List Char) : ShowsFragments (.atom text) [] := by
  constructor
  · intro head member
    cases member
  · intro fragment member
    cases member

/-- A wrapper shows what it wraps. -/
theorem before (wrapper : Wrapper) (shows : ShowsFragments e fragments) :
    ShowsFragments (wrapper.before e) fragments := by
  have same : (wrapper.before e).heads = e.heads := by
    cases e with
    | prefixed letters body => rfl
    | _ => rfl
  exact ⟨by rw [same]; exact shows.known, by rw [same]; exact shows.shown⟩

/-- Two expressions side by side show the fragments of the first, then those of the second. -/
theorem append (same : e.heads = first.heads ++ second.heads)
    (left : ShowsFragments first fragments) (right : ShowsFragments second others) :
    ShowsFragments e (fragments ++ others) := by
  constructor
  · intro head member
    rw [same, List.mem_append] at member
    rcases member with member | member
    · rcases left.known head member with ⟨fragment, known, heads⟩ | outer
      · exact .inl ⟨fragment, List.mem_append_left _ known, heads⟩
      · exact .inr outer
    · rcases right.known head member with ⟨fragment, known, heads⟩ | outer
      · exact .inl ⟨fragment, List.mem_append_right _ known, heads⟩
      · exact .inr outer
  · intro fragment member
    rw [same]
    rcases List.mem_append.mp member with member | member
    · obtain ⟨head, shown, heads⟩ := left.shown fragment member
      exact ⟨head, List.mem_append_left _ shown, heads⟩
    · obtain ⟨head, shown, heads⟩ := right.shown fragment member
      exact ⟨head, List.mem_append_right _ shown, heads⟩

/-- The call of a fragment shows it before the fragments of its argument. -/
theorem call (heads : fragment.Heads (fragment.name.toList, argument))
    (shows : ShowsFragments argument fragments) :
    ShowsFragments (fragment.call argument) (fragment :: fragments) := by
  constructor
  · intro head member
    rcases List.mem_cons.mp member with rfl | inside
    · exact .inl ⟨fragment, List.mem_cons_self, heads⟩
    · rcases shows.known head inside with ⟨other, known, otherHeads⟩ | outer
      · exact .inl ⟨other, List.mem_cons_of_mem _ known, otherHeads⟩
      · exact .inr outer
  · intro other member
    rcases List.mem_cons.mp member with rfl | inside
    · exact ⟨_, List.mem_cons_self, heads⟩
    · obtain ⟨head, shown, otherHeads⟩ := shows.shown other inside
      exact ⟨head, List.mem_cons_of_mem _ shown, otherHeads⟩

/-- The outer names are no fragments. -/
theorem outer {name : String} (member : name ∈ outerNames)
    (shows : ShowsFragments argument fragments) :
    ShowsFragments (.call name.toList argument) fragments := by
  constructor
  · intro head inside
    rcases List.mem_cons.mp inside with rfl | inside
    · exact .inr ⟨name, member, rfl⟩
    · exact shows.known head inside
  · intro fragment known
    obtain ⟨head, shown, heads⟩ := shows.shown fragment known
    exact ⟨head, List.mem_cons_of_mem _ shown, heads⟩

/-- A pair shows the fragments of both. -/
theorem pair (left : ShowsFragments first fragments) (right : ShowsFragments second others) :
    ShowsFragments (.pair first second) (fragments ++ others) :=
  append rfl left right

end ShowsFragments

/-- The expression of a script shows its fragments, in order. -/
theorem Script.shows (script : Script) : ShowsFragments script.expr script.fragments := by
  refine @Script.rec (fun script => ShowsFragments script.expr script.fragments)
    (fun subs => ∀ e fragments, ShowsFragments e fragments →
      ShowsFragments (subs.behind e) (fragments ++ subs.fragments))
    ?_ ?_ ?_ ?_ ?_ ?_ ?_ ?_ ?_ ?_ ?_ ?_ script
  · intro value
    exact .atom _
  · intro kind key
    exact .call ⟨rfl, trivial⟩ (.atom _)
  · intro kind value
    exact .call ⟨rfl, rfl⟩ (.atom _)
  · intro kind digest
    exact .call ⟨rfl, trivial⟩ (.atom _)
  · intro kind threshold keys
    exact .call ⟨rfl, _, rfl⟩ (.pair (.atom _) (.atom _))
  · intro wrapper body inductionHypothesis
    exact inductionHypothesis.before wrapper
  · intro kind first second firstHypothesis secondHypothesis
    exact .call ⟨rfl, trivial⟩ (firstHypothesis.pair secondHypothesis)
  · intro condition first second conditionHypothesis firstHypothesis secondHypothesis
    exact .call ⟨rfl, trivial⟩
      (conditionHypothesis.pair (firstHypothesis.pair secondHypothesis))
  · intro kind first second firstHypothesis secondHypothesis
    exact .call ⟨rfl, trivial⟩ (firstHypothesis.pair secondHypothesis)
  · intro threshold subs inductionHypothesis
    exact .call ⟨rfl, trivial⟩ (inductionHypothesis _ _ (.atom _))
  · intro e fragments shows
    rw [Scripts.fragments, List.append_nil]
    exact shows
  · intro first rest firstHypothesis restHypothesis e fragments shows
    rw [Scripts.fragments, ← List.append_assoc]
    exact restHypothesis _ _ (shows.pair firstHypothesis)

/-- The expression of a tree shows the fragments of its leaves, in order. -/
theorem TapTree.shows (tree : TapTree) : ShowsFragments tree.expr tree.fragments := by
  induction tree with
  | leaf script => exact script.shows
  | branch left right leftHypothesis rightHypothesis =>
      exact .append rfl leftHypothesis rightHypothesis

/-- The expression of a descriptor shows its fragments, in order. -/
theorem Descriptor.shows (descriptor : Descriptor) :
    ShowsFragments descriptor.expr descriptor.fragments := by
  cases descriptor with
  | pk key => exact .call ⟨rfl, trivial⟩ (.atom _)
  | multi sorted threshold keys => exact .call ⟨rfl, _, rfl⟩ (.pair (.atom _) (.atom _))
  | pkh key => exact .call ⟨rfl, trivial⟩ (.atom _)
  | wpkh key => exact .outer (by decide) (.atom _)
  | shWpkh key => exact .outer (by decide) (.outer (by decide) (.atom _))
  | wsh script => exact .outer (by decide) script.shows
  | sh script => exact .outer (by decide) script.shows
  | shWsh script => exact .outer (by decide) (.outer (by decide) script.shows)
  | tr key tree =>
      cases tree with
      | none => exact .outer (by decide) (.atom _)
      | some tree => exact .outer (by decide) (.pair (.atom _) tree.shows)

/-! ### Characters -/

def isNameChar (c : Char) : Bool := c.isAlphanum || decide (c = '_')

def NameChar (c : Char) : Prop := isNameChar c = true

def TextChar (c : Char) : Prop := isOperandChar c = true ∨ c = ','

/-- Digits are characters of texts. -/
theorem textChar_of_isDigit {c : Char} (digit : c.isDigit = true) : TextChar c := by
  refine .inl ((Bool.or_eq_true _ _).mpr (.inl ?_))
  exact (Bool.or_eq_true _ _).mpr (.inr digit)

/-- Numbers are spelled in digits. -/
theorem spelled_decimal (n : Nat) : (decimal n).Spelled NameChar TextChar :=
  fun _ member => textChar_of_isDigit (isDigit_of_mem_toDigits member)

theorem spelled_operand (operand : Operand) : (Expr.atom operand.text).Spelled NameChar TextChar :=
  fun c member => .inl (operand.legal c member)

/-- A threshold and its keys are spelled in text characters. -/
theorem spelled_keyList (threshold : Nat) (keys : List Operand) :
    (keyList threshold keys).Spelled NameChar TextChar := by
  refine ⟨spelled_decimal threshold, ?_⟩
  induction keys with
  | nil => exact fun c member => absurd member List.not_mem_nil
  | cons key keys inductionHypothesis =>
      cases keys with
      | nil =>
          intro c member
          simp only [List.map_cons, List.map_nil, List.intercalate_singleton] at member
          exact spelled_operand key c member
      | cons other keys =>
          intro c member
          rw [List.map_cons, List.map_cons, List.intercalate_cons_cons, List.mem_append,
            List.mem_append] at member
          rcases member with (first | comma) | later
          · exact spelled_operand key c first
          · exact .inr (List.mem_singleton.mp comma)
          · exact inductionHypothesis c later

/-- Fragment names are spelled in name characters. -/
theorem Fragment.spelled_name (fragment : Fragment) : ∀ c ∈ fragment.name.toList, NameChar c := by
  apply List.all_eq_true.mp
  cases fragment with
  | key kind | timelock kind _ | hash kind | multi kind _ | and kind | or kind =>
      cases kind <;> rw [name] <;> decide
  | andor | thresh => decide

theorem Wrapper.before_spelled (wrapper : Wrapper) {e : Expr}
    (spelled : e.Spelled NameChar TextChar) :
    (wrapper.before e).Spelled NameChar TextChar := by
  have letter : TextChar wrapper.letter := by
    unfold TextChar
    cases wrapper <;> decide
  cases e with
  | prefixed letters body => exact ⟨List.forall_mem_cons.mpr ⟨letter, spelled.1⟩, spelled.2⟩
  | _ => exact ⟨List.forall_mem_singleton.mpr letter, spelled⟩

/-- The expression of a script is spelled as the grammar has it. -/
theorem Script.spelled (script : Script) : script.expr.Spelled NameChar TextChar := by
  refine @Script.rec (fun script => script.expr.Spelled NameChar TextChar)
    (fun subs => ∀ e : Expr, e.Spelled NameChar TextChar →
      (subs.behind e).Spelled NameChar TextChar)
    ?_ ?_ ?_ ?_ ?_ ?_ ?_ ?_ ?_ ?_ ?_ ?_ script
  · intro value c member
    rw [List.mem_singleton.mp member]
    cases value
    · exact textChar_of_isDigit (by decide)
    · exact textChar_of_isDigit (by decide)
  · intro kind key
    exact ⟨Fragment.spelled_name _, spelled_operand key⟩
  · intro kind value
    exact ⟨Fragment.spelled_name _, spelled_decimal value⟩
  · intro kind digest
    exact ⟨Fragment.spelled_name _, spelled_operand digest⟩
  · intro kind threshold keys
    exact ⟨Fragment.spelled_name _, spelled_keyList threshold keys⟩
  · intro wrapper body inductionHypothesis
    exact wrapper.before_spelled inductionHypothesis
  · intro kind first second firstHypothesis secondHypothesis
    exact ⟨Fragment.spelled_name _, firstHypothesis, secondHypothesis⟩
  · intro condition first second conditionHypothesis firstHypothesis secondHypothesis
    exact ⟨Fragment.spelled_name _, conditionHypothesis, firstHypothesis, secondHypothesis⟩
  · intro kind first second firstHypothesis secondHypothesis
    exact ⟨Fragment.spelled_name _, firstHypothesis, secondHypothesis⟩
  · intro threshold subs inductionHypothesis
    exact ⟨Fragment.spelled_name _, inductionHypothesis _ (spelled_decimal threshold)⟩
  · intro e spelled
    exact spelled
  · intro first rest firstHypothesis restHypothesis e spelled
    exact restHypothesis _ ⟨spelled, firstHypothesis⟩

/-- The expression of a tree is spelled as the grammar has it. -/
theorem TapTree.spelled (tree : TapTree) : tree.expr.Spelled NameChar TextChar := by
  induction tree with
  | leaf script => exact script.spelled
  | branch left right leftHypothesis rightHypothesis => exact ⟨leftHypothesis, rightHypothesis⟩

/-- The outer names are spelled in name characters. -/
theorem spelled_outer {name : String} (member : name ∈ outerNames) :
    ∀ c ∈ name.toList, NameChar c := by
  have all : (outerNames.all fun name => name.toList.all isNameChar) = true := by decide
  exact List.all_eq_true.mp (List.all_eq_true.mp all name member)

/-- The expression of a descriptor is spelled as the grammar has it. -/
theorem Descriptor.spelled (descriptor : Descriptor) :
    descriptor.expr.Spelled NameChar TextChar := by
  have sh := spelled_outer (show "sh" ∈ outerNames by decide)
  have wsh := spelled_outer (show "wsh" ∈ outerNames by decide)
  have wpkh := spelled_outer (show "wpkh" ∈ outerNames by decide)
  have tr := spelled_outer (show "tr" ∈ outerNames by decide)
  cases descriptor with
  | pk key => exact ⟨Fragment.spelled_name _, spelled_operand key⟩
  | multi sorted threshold keys => exact ⟨Fragment.spelled_name _, spelled_keyList threshold keys⟩
  | pkh key => exact ⟨Fragment.spelled_name _, spelled_operand key⟩
  | wpkh key => exact ⟨wpkh, spelled_operand key⟩
  | shWpkh key => exact ⟨sh, wpkh, spelled_operand key⟩
  | wsh script => exact ⟨wsh, script.spelled⟩
  | sh script => exact ⟨sh, script.spelled⟩
  | shWsh script => exact ⟨sh, wsh, script.spelled⟩
  | tr key tree =>
      cases tree with
      | none => exact ⟨tr, spelled_operand key⟩
      | some tree => exact ⟨tr, spelled_operand key, tree.spelled⟩

/-! ### Texts -/

variable {classes : CharClasses} {name rest : List Char}

/-- No bracket and no comma is a word character. -/
theorem delimits_word (classes : CharClasses) : Delimits classes.word where
  parenthesis := (classes.ascii_punctuation '(' (by decide)).1
  closing := (classes.ascii_punctuation ')' (by decide)).1
  comma := (classes.ascii_punctuation ',' (by decide)).1
  colon := (classes.ascii_punctuation ':' (by decide)).1
  opening := (classes.ascii_punctuation '{' (by decide)).1
  brace := (classes.ascii_punctuation '}' (by decide)).1

theorem alphanum_cases {c : Char} (alphanum : c.isAlphanum = true) :
    classes.word c = true ∧ classes.space c = false := by
  rcases (Bool.or_eq_true _ _).mp alphanum with letter | digit
  · obtain ⟨word, -, space⟩ := classes.ascii_letter c (.inl letter)
    exact ⟨word, space⟩
  · have digit := classes.digit_of_isDigit digit
    exact ⟨classes.digit_word c digit, classes.digit_not_space c digit⟩

/-- Name characters are word characters and no blanks. -/
theorem word_of_nameChar {c : Char} (named : NameChar c) :
    classes.word c = true ∧ classes.space c = false := by
  rcases (Bool.or_eq_true _ _).mp named with alphanum | underscore
  · exact alphanum_cases alphanum
  · obtain ⟨word, -, space⟩ := classes.ascii_letter c (.inr (of_decide_eq_true underscore))
    exact ⟨word, space⟩

/-- Operands hold no blanks. -/
theorem space_of_isOperandChar {c : Char} (legal : isOperandChar c = true) :
    classes.space c = false := by
  rcases (Bool.or_eq_true _ _).mp legal with alphanum | punctuation
  · exact (alphanum_cases alphanum).2
  · apply fun member => (classes.ascii_punctuation c member).2.2
    have listed := of_decide_eq_true punctuation
    simp only [List.mem_cons, List.not_mem_nil, or_false] at listed ⊢
    tauto

/-- Operands hold no brackets. -/
theorem parenthesis_not_mem (operand : Operand) : '(' ∉ operand.text := by
  intro member
  exact absurd (operand.legal _ member) (by decide)

namespace Descriptor

variable (descriptor : Descriptor) (checksum : Option Operand)

theorem text_toList :
    (descriptor.text checksum).toList = descriptor.expr.print ++ checksumPart checksum :=
  String.toList_ofList

theorem plain (classes : CharClasses) : descriptor.expr.Plain classes.word :=
  descriptor.spelled.plain (fun _ named => (word_of_nameChar named).1) (by unfold TextChar; decide)

/-- A checksum begins with no word character. -/
theorem ends_checksum (classes : CharClasses) : Ends classes.word (checksumPart checksum) := by
  cases checksum with
  | none =>
      rintro c ⟨⟩
  | some sum =>
      rintro c ⟨⟩
      exact ⟨by decide, (classes.ascii_punctuation '#' (by decide)).1⟩

/-- A checksum holds no call. -/
theorem silent_checksum : '(' ∉ checksumPart checksum := by
  cases checksum with
  | none => exact List.not_mem_nil
  | some sum => simp [checksumPart, parenthesis_not_mem]

/-- No character of a descriptor is a blank. -/
theorem space_of_mem_text {c : Char} (member : c ∈ (descriptor.text checksum).toList) :
    classes.space c = false := by
  rw [text_toList, List.mem_append] at member
  rcases member with inside | behind
  · refine descriptor.spelled.print (fun c named => (word_of_nameChar named).2) ?_ ?_ c inside
    · rintro c (operand | rfl)
      · exact space_of_isOperandChar operand
      · exact (classes.ascii_punctuation ',' (by decide)).2.2
    · intro d delimiter
      apply fun member => (classes.ascii_punctuation d member).2.2
      simp only [List.mem_cons, List.not_mem_nil, or_false] at delimiter ⊢
      tauto
  · cases checksum with
    | none => cases behind
    | some sum =>
        rcases List.mem_cons.mp behind with rfl | inside
        · exact (classes.ascii_punctuation '#' (by decide)).2.2
        · exact space_of_isOperandChar (sum.legal c inside)

/-- Every call that shows in the text is a fragment's, or an outer one. -/
theorem fragment_of_called
    (called : (name, rest) ∈ calls classes.word [] (descriptor.text checksum).toList) :
    (∃ fragment ∈ descriptor.fragments, ∃ argument later,
        fragment.Heads (name, argument) ∧ rest = argument.print ++ ')' :: later) ∨
      ∃ outer ∈ outerNames, name = outer.toList := by
  rw [text_toList] at called
  obtain ⟨argument, later, head, split⟩ := head_of_mem_calls (descriptor.plain classes)
    (delimits_word classes) (ends_checksum checksum classes) (silent_checksum checksum) called
  rcases descriptor.shows.known _ head with ⟨fragment, known, heads⟩ | outer
  · exact .inl ⟨fragment, known, argument, later, heads, split⟩
  · exact .inr outer

/-- Every fragment shows in the text. -/
theorem called_of_fragment (classes : CharClasses) {fragment : Fragment}
    (known : fragment ∈ descriptor.fragments) :
    ∃ argument later, fragment.Heads (fragment.name.toList, argument) ∧
      (fragment.name.toList, argument.print ++ ')' :: later) ∈
        calls classes.word [] (descriptor.text checksum).toList := by
  obtain ⟨⟨name, argument⟩, shown, heads⟩ := descriptor.shows.shown fragment known
  obtain rfl : name = fragment.name.toList := heads.1
  rw [text_toList]
  obtain ⟨later, called⟩ := mem_calls_of_head (descriptor.plain classes) (delimits_word classes)
    (ends_checksum checksum classes) shown
  exact ⟨argument, later, heads, called⟩

end Descriptor

/-! ### Patterns at a place -/

/-- The names `_UNSUPPORTED_FRAGMENT_RE` looks for. -/
def unsupportedNames : List String :=
  ["or_i", "or_d", "or_c", "or_b", "thresh", "sha256", "hash256", "ripemd160", "hash160"]

/-- The unsupported names are spelled in name characters. -/
theorem spelled_unsupported {name : String} (member : name ∈ unsupportedNames) :
    name.toList ≠ [] ∧ ∀ c ∈ name.toList, NameChar c := by
  have all : (unsupportedNames.all fun name =>
      !name.toList.isEmpty && name.toList.all isNameChar) = true := by decide
  obtain ⟨nonempty, named⟩ := (Bool.and_eq_true _ _).mp (List.all_eq_true.mp all name member)
  exact ⟨by simpa using nonempty, List.all_eq_true.mp named⟩

/-- Before a name, a boundary is where no word is continued. -/
theorem atBoundary_iff {skipped tail : List Char} {groups : List (List Char)}
    (nonempty : name ≠ []) (named : ∀ c ∈ name, NameChar c) :
    Position.atBoundary classes ⟨skipped.reverse, name ++ tail, groups⟩ = true ↔
      ∀ c ∈ skipped.getLast?, classes.word c = false := by
  obtain ⟨c, name, rfl⟩ := List.exists_cons_of_ne_nil nonempty
  have letter := (@word_of_nameChar classes c (named c List.mem_cons_self)).1
  rw [Position.atBoundary, List.head?_reverse]
  cases skipped.getLast? with
  | none => simp [letter]
  | some d => simp [letter]

/-- A call matches at a word boundary before its name and bracket, and nowhere else. -/
theorem match_call_iff (classes : CharClasses) (position : Position) {name call : String}
    (written : call.toList = name.toList ++ ['(']) :
    (∃ stop, stop ∈ (Pattern.sequence [.boundary, .text call]).run classes position) ↔
      position.atBoundary classes = true ∧ ∃ later, position.after = name.toList ++ '(' :: later := by
  simp only [Pattern.sequence, List.foldr, mem_run_seq, mem_run_boundary, Pattern.text,
    run_empty, List.mem_singleton, exists_eq_right', written]
  constructor
  · rintro ⟨stop, middle, ⟨boundary, rfl⟩, member⟩
    obtain ⟨later, split, -⟩ := mem_run_literal.mp member
    exact ⟨boundary, later, by rw [split, List.append_assoc]; rfl⟩
  · rintro ⟨boundary, later, split⟩
    refine ⟨_, position, ⟨boundary, rfl⟩, mem_run_literal.mpr ⟨later, ?_, rfl⟩⟩
    rw [split, List.append_assoc]
    rfl

/-- The four branching combinators, which the pattern writes as one alternative. -/
theorem match_or_iff (classes : CharClasses) (position : Position) :
    (∃ stop, stop ∈ (Pattern.sequence [.boundary, .text "or_",
      .char fun c => decide (c ∈ ['i', 'd', 'c', 'b']), .text "("]).run classes position) ↔
      position.atBoundary classes = true ∧ ∃ name ∈ ["or_i", "or_d", "or_c", "or_b"], ∃ later,
        position.after = name.toList ++ '(' :: later := by
  simp only [Pattern.sequence, List.foldr, mem_run_seq, mem_run_boundary, Pattern.text,
    run_empty, List.mem_singleton, exists_eq_right']
  constructor
  · rintro ⟨stop, middle, ⟨boundary, rfl⟩, opened, first, lettered, second, third⟩
    obtain ⟨rest, split, rfl⟩ := mem_run_literal.mp first
    obtain ⟨c, rest, rfl, listed, rfl⟩ := mem_run_char.mp second
    obtain ⟨later, rfl, -⟩ := mem_run_literal.mp third
    refine ⟨boundary, ?_⟩
    have kind := of_decide_eq_true listed
    simp only [List.mem_cons, List.not_mem_nil, or_false] at kind
    rcases kind with rfl | rfl | rfl | rfl
    · exact ⟨"or_i", by decide, later, split⟩
    · exact ⟨"or_d", by decide, later, split⟩
    · exact ⟨"or_c", by decide, later, split⟩
    · exact ⟨"or_b", by decide, later, split⟩
  · rintro ⟨boundary, name, listed, later, split⟩
    obtain ⟨c, kind, written⟩ : ∃ c ∈ ['i', 'd', 'c', 'b'], name.toList = "or_".toList ++ [c] := by
      simp only [List.mem_cons, List.not_mem_nil, or_false] at listed
      rcases listed with rfl | rfl | rfl | rfl
      · exact ⟨'i', by decide, rfl⟩
      · exact ⟨'d', by decide, rfl⟩
      · exact ⟨'c', by decide, rfl⟩
      · exact ⟨'b', by decide, rfl⟩
    refine ⟨_, position, ⟨boundary, rfl⟩, _, mem_run_literal.mpr ⟨c :: '(' :: later, ?_, rfl⟩, _,
      mem_run_char.mpr ⟨c, _, rfl, decide_eq_true kind, rfl⟩,
      mem_run_literal.mpr ⟨later, rfl, rfl⟩⟩
    rw [split, written, List.append_assoc]
    rfl

/-- The unsupported pattern matches at a word boundary before the call of an unsupported name. -/
theorem match_unsupported_iff {position : Position} :
    (∃ stop, stop ∈ unsupportedFragment.run classes position) ↔
      position.atBoundary classes = true ∧ ∃ name ∈ unsupportedNames, ∃ later,
        position.after = name.toList ++ '(' :: later := by
  have thresh := match_call_iff classes position
    (show "thresh(".toList = "thresh".toList ++ ['('] by decide)
  have sha256 := match_call_iff classes position
    (show "sha256(".toList = "sha256".toList ++ ['('] by decide)
  have hash256 := match_call_iff classes position
    (show "hash256(".toList = "hash256".toList ++ ['('] by decide)
  have ripemd160 := match_call_iff classes position
    (show "ripemd160(".toList = "ripemd160".toList ++ ['('] by decide)
  have hash160 := match_call_iff classes position
    (show "hash160(".toList = "hash160".toList ++ ['('] by decide)
  have branches := match_or_iff classes position
  simp only [unsupportedFragment, Pattern.anyOf, mem_run_alt, exists_or]
  rw [branches, thresh, sha256, hash256, ripemd160, hash160]
  simp only [unsupportedNames, List.mem_cons, List.not_mem_nil, or_false, or_and_right, exists_or,
    exists_eq_left, ← and_or_left, or_assoc]

/-- A number is some digits between blanks. -/
theorem mem_run_spacedNumber {stop : Position} {before after : List Char}
    {groups : List (List Char)} :
    stop ∈ (spacedNumber classes).run classes ⟨before, after, groups⟩ ↔
      ∃ blanks digits blanks' later,
        after = blanks ++ (digits ++ (blanks' ++ later)) ∧ digits ≠ [] ∧
          (∀ c ∈ digits, classes.digit c = true) ∧
          (∀ c ∈ blanks ++ blanks', classes.space c = true) ∧
          stop = ⟨blanks'.reverse ++ (digits.reverse ++ (blanks.reverse ++ before)), later,
            groups ++ [digits]⟩ := by
  simp only [spacedNumber, spaces, Pattern.sequence, List.foldr, mem_run_seq, run_empty,
    List.mem_singleton, exists_eq_right']
  constructor
  · rintro ⟨_, first, _, second, third⟩
    obtain ⟨blanks, rest, rfl, blank, rfl⟩ := mem_run_star_char.mp first
    obtain ⟨_, inner, rfl⟩ := mem_run_group.mp second
    obtain ⟨digits, rest, nonempty, rfl, digit, rfl⟩ := mem_run_plus_char.mp inner
    rw [taken_append] at third
    obtain ⟨blanks', later, rfl, blank', rfl⟩ := mem_run_star_char.mp third
    refine ⟨blanks, digits, blanks', later, rfl, nonempty, digit, ?_, rfl⟩
    exact List.forall_mem_append.mpr ⟨blank, blank'⟩
  · rintro ⟨blanks, digits, blanks', later, rfl, nonempty, digit, blank, rfl⟩
    obtain ⟨blank, blank'⟩ := List.forall_mem_append.mp blank
    refine ⟨_, mem_run_star_char.mpr ⟨blanks, _, rfl, blank, rfl⟩, _,
      mem_run_group.mpr ⟨_, mem_run_plus_char.mpr ⟨digits, _, nonempty, rfl, digit, rfl⟩, rfl⟩, ?_⟩
    rw [taken_append]
    exact mem_run_star_char.mpr ⟨blanks', later, rfl, blank', rfl⟩

/-! ### Patterns in a text -/

/-- A branching combinator, a threshold or a hash-lock. -/
def Fragment.isBranching : Fragment → Bool
  | or _ => true
  | thresh => true
  | hash _ => true
  | _ => false

/-- The branching fragments are the ones with an unsupported name. -/
theorem Fragment.isBranching_iff {fragment : Fragment} :
    fragment.isBranching = true ↔ fragment.name ∈ unsupportedNames := by
  cases fragment with
  | key kind | hash kind | and kind | or kind => cases kind <;> decide
  | timelock kind value | multi kind value =>
      cases kind <;> exact iff_of_false Bool.false_ne_true (by rw [name]; decide)
  | andor | thresh => decide

/-- No outer name is an unsupported one. -/
theorem outer_not_unsupported {name : String} (outer : name ∈ outerNames) :
    name ∉ unsupportedNames := by
  have all : (outerNames.all fun name => decide (name ∉ unsupportedNames)) = true := by decide
  exact of_decide_eq_true (List.all_eq_true.mp all name outer)

namespace Descriptor

variable (descriptor : Descriptor) (checksum : Option Operand)

/-- The pattern of unsupported fragments finds exactly the trees that have one by name. -/
theorem found_unsupported_iff :
    found classes unsupportedFragment (descriptor.text checksum) = true ↔
      ∃ fragment ∈ descriptor.fragments, fragment.isBranching = true := by
  rw [found_iff_mem]
  simp only [match_unsupported_iff, Fragment.isBranching_iff]
  constructor
  · rintro ⟨skipped, rest, split, boundary, name, listed, later, rfl⟩
    obtain ⟨nonempty, named⟩ := spelled_unsupported listed
    have called : (name.toList, later) ∈
        calls classes.word [] (descriptor.text checksum).toList :=
      (mem_calls_iff (delimits_word classes) fun c member =>
        (word_of_nameChar (named c member)).1).mpr
          ⟨skipped, split, (atBoundary_iff nonempty named).mp boundary⟩
    rcases descriptor.fragment_of_called checksum called with
      ⟨fragment, known, argument, _, heads, -⟩ | ⟨outer, member, same⟩
    · refine ⟨fragment, known, ?_⟩
      rw [← String.toList_inj.mp heads.1]
      exact listed
    · rw [String.toList_inj.mp same] at listed
      exact absurd listed (outer_not_unsupported member)
  · rintro ⟨fragment, known, listed⟩
    obtain ⟨nonempty, named⟩ := spelled_unsupported listed
    obtain ⟨argument, later, -, called⟩ := descriptor.called_of_fragment checksum classes known
    obtain ⟨before, split, bounded⟩ := (mem_calls_iff (delimits_word classes) fun c member =>
      (word_of_nameChar (named c member)).1).mp called
    exact ⟨before, _, split, (atBoundary_iff nonempty named).mpr bounded, _, listed, _, rfl⟩

/-- The pattern of coordinated wallets finds only trees with a branching combinator. -/
theorem branching_of_found_lsp
    (lsp : found classes (lspPattern classes) (descriptor.text checksum) = true) :
    found classes unsupportedFragment (descriptor.text checksum) = true := by
  obtain ⟨further, written⟩ : ∃ further, lspPattern classes =
      .seq .boundary (.seq (.text "or_") (.seq (.char fun c => decide (c ∈ ['d', 'c', 'i', 'b']))
        (.seq (spaces classes) (.seq (.text "(") further)))) := ⟨_, rfl⟩
  rw [written, found_iff_mem] at lsp
  obtain ⟨skipped, rest, split, stop, member⟩ := lsp
  obtain ⟨_, boundary, member⟩ := mem_run_seq.mp member
  obtain ⟨bounded, rfl⟩ := mem_run_boundary.mp boundary
  obtain ⟨_, first, member⟩ := mem_run_seq.mp member
  obtain ⟨afterOr, rfl, rfl⟩ := mem_run_literal.mp first
  obtain ⟨_, second, member⟩ := mem_run_seq.mp member
  obtain ⟨c, afterKind, rfl, kind, rfl⟩ := mem_run_char.mp second
  obtain ⟨_, third, member⟩ := mem_run_seq.mp member
  obtain ⟨blanks, afterBlanks, rfl, blank, rfl⟩ := mem_run_star_char.mp third
  obtain ⟨_, fourth, -⟩ := mem_run_seq.mp member
  obtain ⟨later, rfl, -⟩ := mem_run_literal.mp fourth
  -- A printed tree has no blanks, so the parenthesis stands behind the name.
  have noBlanks : blanks = [] := by
    rw [List.eq_nil_iff_forall_not_mem]
    intro d inside
    have inText : d ∈ (descriptor.text checksum).toList := by
      rw [split]
      simp [inside]
    have filled := blank d inside
    rw [descriptor.space_of_mem_text checksum inText] at filled
    cases filled
  subst noBlanks
  refine found_iff_mem.mpr ⟨skipped, _, split, match_unsupported_iff.mpr ⟨bounded, ?_⟩⟩
  have listed := of_decide_eq_true kind
  simp only [List.mem_cons, List.not_mem_nil, or_false] at listed
  rcases listed with rfl | rfl | rfl | rfl
  · exact ⟨"or_d", by decide, later, rfl⟩
  · exact ⟨"or_c", by decide, later, rfl⟩
  · exact ⟨"or_i", by decide, later, rfl⟩
  · exact ⟨"or_b", by decide, later, rfl⟩

end Descriptor

/-! ### Thresholds -/

/-- Some form of `multi`. -/
def Fragment.isMulti : Fragment → Bool
  | multi _ _ => true
  | _ => false

/-- Some form of `multi_a`. -/
def Fragment.isMultiA : Fragment → Bool
  | multi .multiA _ => true
  | multi .sortedMultiA _ => true
  | _ => false

/-- A multisig name is `multi` with `sorted` before it, or `_a` after it, or both. -/
theorem Fragment.multi_name (kind : MultiFragment) (threshold : Nat) :
    ∃ sorted suffix, (sorted = "sorted".toList ∨ sorted = []) ∧
      (suffix = "_a".toList ∨ suffix = []) ∧
      (multi kind threshold).name.toList = sorted ++ ("multi".toList ++ suffix) := by
  cases kind with
  | multi => exact ⟨[], [], .inr rfl, .inr rfl, by rw [name]; decide⟩
  | sortedMulti => exact ⟨_, [], .inl rfl, .inr rfl, by rw [name]; decide⟩
  | multiA => exact ⟨[], _, .inr rfl, .inl rfl, by rw [name]; decide⟩
  | sortedMultiA => exact ⟨_, _, .inl rfl, .inl rfl, by rw [name]; decide⟩

/-- Only the forms of `multi` have names that end so. -/
theorem Fragment.isMulti_of_suffix {fragment : Fragment} {suffix : List Char}
    (either : suffix = "_a".toList ∨ suffix = [])
    (ends : "multi".toList ++ suffix <:+ fragment.name.toList) :
    fragment.isMulti = true ∧ (suffix = "_a".toList → fragment.isMultiA = true) := by
  rcases either with rfl | rfl
  · cases fragment with
    | multi kind threshold =>
        cases kind with
        | multi | sortedMulti =>
            rw [name] at ends
            exact absurd ends (by decide)
        | multiA | sortedMultiA => exact ⟨rfl, fun _ => rfl⟩
    | key kind | hash kind | and kind | or kind | timelock kind _ =>
        cases kind <;> rw [name] at ends <;> exact absurd ends (by decide)
    | andor | thresh => exact absurd ends (by decide)
  · cases fragment with
    | multi kind threshold => exact ⟨rfl, fun other => absurd other (by decide)⟩
    | key kind | hash kind | and kind | or kind | timelock kind _ =>
        cases kind <;> rw [name] at ends <;> exact absurd ends (by decide)
    | andor | thresh => exact absurd ends (by decide)

/-- No outer name ends like a fragment that is searched for. -/
theorem outer_no_suffix {name : String} (outer : name ∈ outerNames) {tail : List Char}
    (listed : tail ∈ ["multi".toList, "multi_a".toList, "after".toList, "older".toList]) :
    ¬tail <:+ name.toList := by
  have all : (outerNames.all fun name =>
      ["multi".toList, "multi_a".toList, "after".toList, "older".toList].all fun tail =>
        decide (¬tail <:+ name.toList)) = true := by decide
  exact of_decide_eq_true (List.all_eq_true.mp (List.all_eq_true.mp all name outer) tail listed)

namespace Descriptor

variable (descriptor : Descriptor) (checksum : Option Operand)

/-- A name before a parenthesis ends that of a fragment, whose argument follows. -/
theorem fragment_of_split {skipped : List Char} (named : ∀ c ∈ name, NameChar c)
    (split : (descriptor.text checksum).toList = skipped ++ (name ++ '(' :: rest)) :
    (∃ fragment ∈ descriptor.fragments, name <:+ fragment.name.toList ∧
        ∃ argument later, fragment.Heads (fragment.name.toList, argument) ∧
          rest = argument.print ++ ')' :: later) ∨
      ∃ outer ∈ outerNames, name <:+ outer.toList := by
  obtain ⟨whole, ends, called⟩ := exists_mem_calls (delimits_word CharClasses.ascii)
    (fun c member => (word_of_nameChar (named c member)).1) skipped
  rw [← split] at called
  rcases descriptor.fragment_of_called checksum called with
    ⟨fragment, known, argument, later, heads, split⟩ | ⟨outer, member, rfl⟩
  · obtain rfl : whole = fragment.name.toList := heads.1
    exact .inl ⟨fragment, known, ends, argument, later, heads, split⟩
  · exact .inr ⟨outer, member, ends⟩

/-- The text of a descriptor splits at every fragment of it. -/
theorem split_of_fragment {fragment : Fragment} (known : fragment ∈ descriptor.fragments) :
    ∃ skipped argument later, fragment.Heads (fragment.name.toList, argument) ∧
      (descriptor.text checksum).toList =
        skipped ++ (fragment.name.toList ++ '(' :: (argument.print ++ ')' :: later)) := by
  obtain ⟨argument, later, heads, called⟩ :=
    descriptor.called_of_fragment checksum CharClasses.ascii known
  obtain ⟨skipped, split, -⟩ := (mem_calls_iff (delimits_word CharClasses.ascii) fun c member =>
    (word_of_nameChar (fragment.spelled_name c member)).1).mp called
  exact ⟨skipped, argument, later, heads, split⟩

/-- The pattern of thresholds finds exactly the trees with some form of `multi`. -/
theorem found_threshold_iff :
    found classes (multisigThreshold classes) (descriptor.text checksum) = true ↔
      ∃ fragment ∈ descriptor.fragments, fragment.isMulti = true := by
  have written : multisigThreshold classes =
      .seq (.optional (.text "sorted")) (.seq (.text "multi") (.seq (.optional (.text "_a"))
        (.seq (.text "(") (.seq (spacedNumber classes) (.seq (.text ",") .empty))))) := rfl
  rw [written, found_iff_mem]
  constructor
  · rintro ⟨skipped, rest, split, stop, member⟩
    obtain ⟨_, first, member⟩ := mem_run_seq.mp member
    obtain ⟨sorted, rest, -, rfl, rfl⟩ := mem_run_optional_literal.mp first
    obtain ⟨_, second, member⟩ := mem_run_seq.mp member
    obtain ⟨rest, rfl, rfl⟩ := mem_run_literal.mp second
    obtain ⟨_, third, member⟩ := mem_run_seq.mp member
    obtain ⟨suffix, rest, either, rfl, rfl⟩ := mem_run_optional_literal.mp third
    obtain ⟨_, fourth, -⟩ := mem_run_seq.mp member
    obtain ⟨later, rfl, -⟩ := mem_run_literal.mp fourth
    have named : ∀ c ∈ "multi".toList ++ suffix, NameChar c := by
      apply List.all_eq_true.mp
      rcases either with rfl | rfl
      · decide
      · decide
    have apart : (descriptor.text checksum).toList =
        (skipped ++ sorted) ++ (("multi".toList ++ suffix) ++ '(' :: later) := by
      rw [split]
      simp
    rcases descriptor.fragment_of_split checksum named apart with
      ⟨fragment, known, ends, -⟩ | ⟨outer, listed, ends⟩
    · exact ⟨fragment, known, (Fragment.isMulti_of_suffix either ends).1⟩
    · refine absurd ends (outer_no_suffix listed ?_)
      rcases either with rfl | rfl
      · decide
      · decide
  · rintro ⟨fragment, known, multi⟩
    cases fragment with
    | multi kind threshold =>
        obtain ⟨skipped, argument, later, ⟨-, keys, rfl⟩, split⟩ :=
          descriptor.split_of_fragment checksum known
        obtain ⟨sorted, suffix, sorts, either, name⟩ := Fragment.multi_name kind threshold
        rw [name] at split
        rw [List.append_assoc, List.append_assoc, Expr.print, List.append_assoc,
          List.cons_append] at split
        refine ⟨skipped, _, split, ?_⟩
        refine exists_mem_run_seq (mem_run_optional_literal.mpr ⟨sorted, _, sorts, rfl, rfl⟩) ?_
        refine exists_mem_run_seq (mem_run_literal.mpr ⟨_, rfl, rfl⟩) ?_
        refine exists_mem_run_seq (mem_run_optional_literal.mpr ⟨suffix, _, either, rfl, rfl⟩) ?_
        refine exists_mem_run_seq (mem_run_literal.mpr ⟨_, rfl, rfl⟩) ?_
        refine exists_mem_run_seq (mem_run_spacedNumber.mpr
          ⟨[], Nat.toDigits 10 threshold, [], _, rfl, Nat.toDigits_ne_nil, ?_, by simp, rfl⟩) ?_
        · exact fun c member => CharClasses.digit_of_isDigit (isDigit_of_mem_toDigits member)
        · exact exists_mem_run_seq (mem_run_literal.mpr ⟨_, rfl, rfl⟩)
            ⟨_, List.mem_singleton_self _⟩
    | _ => cases multi

/-- The taproot pattern finds exactly the trees with some form of `multi_a`. -/
theorem found_taprootMultisig_iff :
    found classes taprootMultisig (descriptor.text checksum) = true ↔
      ∃ fragment ∈ descriptor.fragments, fragment.isMultiA = true := by
  have written : taprootMultisig =
      .seq (.optional (.text "sorted")) (.seq (.text "multi_a(") .empty) := rfl
  have opened : "multi_a(".toList = ("multi".toList ++ "_a".toList) ++ ['('] := by decide
  rw [written, found_iff_mem]
  constructor
  · rintro ⟨skipped, rest, split, stop, member⟩
    obtain ⟨_, first, member⟩ := mem_run_seq.mp member
    obtain ⟨sorted, rest, -, rfl, rfl⟩ := mem_run_optional_literal.mp first
    obtain ⟨_, second, -⟩ := mem_run_seq.mp member
    obtain ⟨later, rfl, -⟩ := mem_run_literal.mp second
    have apart : (descriptor.text checksum).toList =
        (skipped ++ sorted) ++ (("multi".toList ++ "_a".toList) ++ '(' :: later) := by
      rw [split, opened]
      simp
    rcases descriptor.fragment_of_split checksum (List.all_eq_true.mp (by decide)) apart with
      ⟨fragment, known, ends, -⟩ | ⟨outer, listed, ends⟩
    · exact ⟨fragment, known, (Fragment.isMulti_of_suffix (.inl rfl) ends).2 rfl⟩
    · exact absurd ends (outer_no_suffix listed (by decide))
  · rintro ⟨fragment, known, multi⟩
    obtain ⟨sorted, sorts, name⟩ : ∃ sorted, (sorted = "sorted".toList ∨ sorted = []) ∧
        fragment.name.toList = sorted ++ ("multi".toList ++ "_a".toList) := by
      cases fragment with
      | multi kind threshold =>
          cases kind with
          | multi | sortedMulti => cases multi
          | multiA => exact ⟨[], .inr rfl, by rw [Fragment.name]; decide⟩
          | sortedMultiA => exact ⟨_, .inl rfl, by rw [Fragment.name]; decide⟩
      | _ => cases multi
    obtain ⟨skipped, argument, later, -, split⟩ := descriptor.split_of_fragment checksum known
    rw [name, List.append_assoc] at split
    refine ⟨skipped, _, split, ?_⟩
    refine exists_mem_run_seq (mem_run_optional_literal.mpr ⟨sorted, _, sorts, rfl, rfl⟩) ?_
    refine exists_mem_run_seq (mem_run_literal.mpr ⟨argument.print ++ ')' :: later, ?_, rfl⟩)
      ⟨_, List.mem_singleton_self _⟩
    rw [opened, List.append_assoc]
    rfl

end Descriptor

/-! ### Timelocks -/

/-- The pattern of one kind of timelock. -/
def timelockPattern (classes : CharClasses) : TimelockKind → Pattern
  | .cltv => timelockAfter classes
  | .csv => timelockOlder classes

/-- The name of one kind of timelock, with its parenthesis. -/
def timelockCall : TimelockKind → String
  | .cltv => "after("
  | .csv => "older("

theorem timelockCall_toList (kind : TimelockKind) (value : Nat) :
    (timelockCall kind).toList = (Fragment.timelock kind value).name.toList ++ ['('] := by
  cases kind with
  | cltv => rw [Fragment.name, timelockCall]; decide
  | csv => rw [Fragment.name, timelockCall]; decide

/-- The timelock pattern is the call, a number between blanks, and the closing bracket. -/
theorem timelockPattern_eq (kind : TimelockKind) :
    timelockPattern classes kind = .seq (.text (timelockCall kind))
      (.seq (spacedNumber classes) (.seq (.text ")") .empty)) := by
  cases kind with
  | cltv => rfl
  | csv => rfl

/-- Only a timelock has a name that ends like that of a timelock. -/
theorem Fragment.timelock_of_suffix {fragment : Fragment} {kind : TimelockKind} {value : Nat}
    (ends : (timelock kind value).name.toList <:+ fragment.name.toList) :
    ∃ value, fragment = timelock kind value := by
  cases fragment with
  | timelock other value' =>
      cases kind with
      | cltv =>
          cases other with
          | cltv => exact ⟨value', rfl⟩
          | csv => rw [name, name] at ends; exact absurd ends (by decide)
      | csv =>
          cases other with
          | cltv => rw [name, name] at ends; exact absurd ends (by decide)
          | csv => exact ⟨value', rfl⟩
  | key other | hash other | and other | or other | multi other _ =>
      cases kind <;> cases other <;> rw [name, name] at ends <;> exact absurd ends (by decide)
  | andor | thresh =>
      cases kind <;> rw [name, name] at ends <;> exact absurd ends (by decide)

namespace Descriptor

variable (descriptor : Descriptor) (checksum : Option Operand)

/-- What a search for a timelock returns is the number of one in the tree. -/
theorem timelock_of_search {kind : TimelockKind} {stop : Position}
    (result :
      search classes (timelockPattern classes kind) (descriptor.text checksum) = some stop) :
    .timelock kind (firstNumber classes stop) ∈ descriptor.fragments := by
  obtain ⟨skipped, rest, split, member⟩ := mem_run_of_search result
  rw [timelockPattern_eq] at member
  obtain ⟨_, first, member⟩ := mem_run_seq.mp member
  obtain ⟨rest, rfl, rfl⟩ := mem_run_literal.mp first
  obtain ⟨_, second, member⟩ := mem_run_seq.mp member
  obtain ⟨blanks, digits, blanks', later, rfl, nonempty, digit, blank, rfl⟩ :=
    mem_run_spacedNumber.mp second
  obtain ⟨_, third, member⟩ := mem_run_seq.mp member
  obtain ⟨later, rfl, rfl⟩ := mem_run_literal.mp third
  rw [run_empty, List.mem_singleton] at member
  -- A printed tree has no blanks, so the digits fill the parentheses.
  have noBlanks : blanks = [] ∧ blanks' = [] := by
    rw [← List.append_eq_nil_iff, List.eq_nil_iff_forall_not_mem]
    intro c inside
    have inText : c ∈ (descriptor.text checksum).toList := by
      rw [split]
      rcases List.mem_append.mp inside with inside | inside <;> simp [inside]
    have filled := blank c inside
    rw [descriptor.space_of_mem_text checksum inText] at filled
    cases filled
  obtain ⟨rfl, rfl⟩ := noBlanks
  have apart : (descriptor.text checksum).toList =
      skipped ++ ((Fragment.timelock kind 0).name.toList ++ '(' :: (digits ++ ')' :: later)) := by
    rw [split, timelockCall_toList kind 0]
    simp
  rcases descriptor.fragment_of_split checksum (Fragment.spelled_name _) apart with
    ⟨fragment, known, ends, argument, behind, heads, same⟩ | ⟨outer, listed, ends⟩
  · obtain ⟨value, rfl⟩ := Fragment.timelock_of_suffix ends
    obtain rfl : argument = decimal value := heads.2
    have notDigit : classes.digit ')' = false := (classes.ascii_punctuation ')' (by decide)).2.1
    have leading : ∀ {text rest : List Char}, (∀ c ∈ text, classes.digit c = true) →
        (text ++ ')' :: rest).takeWhile classes.digit = text := by
      intro text rest all
      rw [List.takeWhile_append_of_pos all, List.takeWhile_cons_of_neg (by simp [notDigit]),
        List.append_nil]
    have read : digits = Nat.toDigits 10 value := by
      have cut := congrArg (List.takeWhile classes.digit) same
      rw [leading digit] at cut
      rw [cut]
      exact leading fun c member => CharClasses.digit_of_isDigit (isDigit_of_mem_toDigits member)
    have number : firstNumber classes stop = value := by
      rw [member, firstNumber]
      change Regex.number classes digits = value
      rw [read, number_toDigits]
    rw [number]
    exact known
  · refine absurd ends (outer_no_suffix listed ?_)
    cases kind with
    | cltv => rw [Fragment.name]; decide
    | csv => rw [Fragment.name]; decide

/-- Every timelock of the tree is found. -/
theorem found_timelock {kind : TimelockKind} {value : Nat}
    (known : .timelock kind value ∈ descriptor.fragments) :
    found classes (timelockPattern classes kind) (descriptor.text checksum) = true := by
  obtain ⟨skipped, argument, later, ⟨-, argued⟩, split⟩ :=
    descriptor.split_of_fragment checksum known
  obtain rfl : argument = decimal value := argued
  rw [timelockPattern_eq, found_iff_mem]
  refine ⟨skipped, _, split, ?_⟩
  refine exists_mem_run_seq (mem_run_literal.mpr
    ⟨Nat.toDigits 10 value ++ ')' :: later, ?_, rfl⟩) ?_
  · rw [timelockCall_toList kind value, List.append_assoc]
    rfl
  · have digit : ∀ c ∈ Nat.toDigits 10 value, classes.digit c = true :=
      fun c member => CharClasses.digit_of_isDigit (isDigit_of_mem_toDigits member)
    refine exists_mem_run_seq (mem_run_spacedNumber.mpr
      ⟨[], Nat.toDigits 10 value, [], ')' :: later, rfl, Nat.toDigits_ne_nil, digit, by simp,
        rfl⟩) ?_
    exact exists_mem_run_seq (mem_run_literal.mpr ⟨later, rfl, rfl⟩) ⟨_, List.mem_singleton_self _⟩

/-- The timelock that is read off is one of the tree. -/
theorem mem_timelocks_of_extract {timelock : TimelockKind × Nat}
    (extracted : extractTimelock classes (descriptor.text checksum) = some timelock) :
    timelock ∈ descriptor.timelocks := by
  have listed : ∀ {kind : TimelockKind} {value : Nat},
      .timelock kind value ∈ descriptor.fragments → (kind, value) ∈ descriptor.timelocks :=
    fun known => List.mem_filterMap.mpr ⟨_, known, rfl⟩
  rw [extractTimelock] at extracted
  split at extracted
  · next stop result =>
      cases extracted
      exact listed (descriptor.timelock_of_search checksum result)
  · split at extracted
    · next stop result =>
        cases extracted
        exact listed (descriptor.timelock_of_search checksum result)
    · cases extracted

/-- A timelock is extracted exactly when the descriptor has one. -/
theorem extractTimelock_isSome_iff :
    (extractTimelock classes (descriptor.text checksum)).isSome = true ↔
      descriptor.timelocks ≠ [] := by
  constructor
  · intro some
    obtain ⟨timelock, extracted⟩ := Option.isSome_iff_exists.mp some
    exact List.ne_nil_of_mem (descriptor.mem_timelocks_of_extract checksum extracted)
  · intro nonempty
    obtain ⟨⟨kind, value⟩, member⟩ := List.exists_mem_of_ne_nil _ nonempty
    obtain ⟨fragment, known, same⟩ := List.mem_filterMap.mp member
    have isTimelock : fragment = .timelock kind value := by
      cases fragment with
      | timelock other value' =>
          cases same
          rfl
      | _ => cases same
    subst isTimelock
    have finds := @found_timelock classes descriptor checksum _ _ known
    rw [found] at finds
    rw [extractTimelock]
    split
    · rfl
    · next missing =>
        cases kind with
        | cltv =>
            rw [timelockPattern, missing] at finds
            cases finds
        | csv =>
            split
            · rfl
            · next missing =>
                rw [timelockPattern, missing] at finds
                cases finds

/-- The timelock that is read off is the only one exactly when there is at most one. -/
theorem extractTimelock_toList_iff :
    (extractTimelock classes (descriptor.text checksum)).toList = descriptor.timelocks ↔
      descriptor.timelocks.length ≤ 1 := by
  constructor
  · intro same
    rw [← same]
    exact Option.length_toList_le
  · intro few
    have some := @extractTimelock_isSome_iff classes descriptor checksum
    cases extracted : extractTimelock classes (descriptor.text checksum) with
    | none =>
        rw [extracted] at some
        symm
        by_contra nonempty
        exact absurd (some.mpr nonempty) Bool.false_ne_true
    | some timelock =>
        have member := descriptor.mem_timelocks_of_extract checksum extracted
        obtain ⟨only, alone⟩ := List.length_eq_one_iff.mp
          (Nat.le_antisymm few (List.length_pos_of_mem member))
        rw [alone] at member ⊢
        rw [List.mem_singleton.mp member]
        rfl

end Descriptor

end TallyKeep
