/-
Module: TallyKeep.Proofs.ShownIndices
Layer: Proofs
Purpose: Which number `_parse_derivation_index` reads off the descriptor of a scanned coin: that of
  the first key whose path ends with a number.
Trusted boundary: none
Main exports: Finds, finds_keyText, Descriptor.finds, parseDerivationIndex_of_writes
-/
import TallyKeep.Adapters.ConcreteDescriptors
import TallyKeep.Proofs.DescriptorTexts
import TallyKeep.Services.ChainScan

namespace TallyKeep

open CallText
open DescriptorPatterns

/-! ### Searching a text part by part -/

/-- Whatever follows the text, the search finds this in it, and else goes on behind it. -/
def Finds (text : List Char) (found : Option Nat) : Prop :=
  ∀ rest, searchLeafIndex (text ++ rest) = found.or (searchLeafIndex rest)

namespace Finds

variable {text first second : List Char} {found foundFirst foundSecond : Option Nat}

/-- The search returns what a text is said to show. -/
theorem search_eq (finds : Finds text found) : searchLeafIndex text = found := by
  have alone := finds []
  rw [List.append_nil] at alone
  rw [alone]
  exact Option.or_none

/-- Nothing is found without an opening bracket. -/
theorem silent (noBracket : '[' ∉ text) : Finds text none := by
  intro rest
  induction text with
  | nil => rfl
  | cons c text inductionHypothesis =>
      rw [List.mem_cons, not_or] at noBracket
      rw [List.cons_append, searchLeafIndex, if_neg (Ne.symm noBracket.1)]
      exact inductionHypothesis noBracket.2

/-- Of two texts the first that shows an index decides. -/
theorem append (findsFirst : Finds first foundFirst) (findsSecond : Finds second foundSecond) :
    Finds (first ++ second) (foundFirst.or foundSecond) := by
  intro rest
  rw [List.append_assoc, findsFirst, findsSecond, Option.or_assoc]

/-- Text without a bracket before another text changes nothing. -/
theorem after (noBracket : '[' ∉ first) (finds : Finds second found) :
    Finds (first ++ second) found :=
  (silent noBracket).append finds

/-- Nor does text without a bracket behind it. -/
theorem before (finds : Finds first found) (noBracket : '[' ∉ second) :
    Finds (first ++ second) found := by
  have both := finds.append (silent noBracket)
  rw [Option.or_none] at both
  exact both

end Finds

/-! ### One key -/

/-- The number behind the last slash of a text, where the text ends with one. -/
def trailingNumber (inside : List Char) : Option Nat :=
  let digits := inside.reverse.takeWhile Char.isDigit
  if !digits.isEmpty && (inside.reverse.dropWhile Char.isDigit).head? = some '/' then
    some (digits.foldr (fun c value => 10 * value + (c.toNat - '0'.toNat)) 0)
  else none

/-- Between the brackets a trailing number is what is looked for, when a key follows them. -/
theorem leafIndex_bracketed {inside outside : List Char} (noBracket : ']' ∉ inside)
    (key : outside.head?.any isHexChar = true) :
    leafIndex (inside ++ ']' :: outside) = trailingNumber inside := by
  have other : ∀ c ∈ inside, decide (c ≠ ']') = true := by
    intro c member
    rw [decide_eq_true_eq]
    rintro rfl
    exact noBracket member
  have taken : (inside ++ ']' :: outside).takeWhile (· ≠ ']') = inside := by
    rw [List.takeWhile_append_of_pos other, List.takeWhile_cons_of_neg (by simp), List.append_nil]
  have dropped : (inside ++ ']' :: outside).dropWhile (· ≠ ']') = ']' :: outside := by
    rw [List.dropWhile_append_of_pos other, List.dropWhile_cons_of_neg (by simp)]
  rw [leafIndex, taken, dropped, List.drop_one, List.tail_cons, key, trailingNumber]
  simp only [Bool.true_and]

/-- A text of hex digits ends in no number behind a slash. -/
theorem trailingNumber_of_hex {text : List Char} (hex : ∀ c ∈ text, isHexDigit c = true) :
    trailingNumber text = none := by
  rw [trailingNumber, if_neg]
  intro ends
  rw [Bool.and_eq_true, decide_eq_true_eq] at ends
  have slash := (List.dropWhile_suffix _).subset (List.mem_of_head? ends.2)
  exact absurd (hex '/' (List.mem_reverse.mp slash)) (by decide)

/-- A text that ends in a mark ends in no number. -/
theorem trailingNumber_of_mark {text : List Char} {mark : Char} (noDigit : mark.isDigit = false) :
    trailingNumber (text ++ [mark]) = none := by
  rw [trailingNumber, List.reverse_append, List.reverse_singleton, List.singleton_append,
    List.takeWhile_cons_of_neg (by simp [noDigit])]
  rfl

/-- A number behind the last slash is the trailing number. -/
theorem trailingNumber_of_number (text : List Char) (n : Nat) :
    trailingNumber (text ++ '/' :: Nat.toDigits 10 n) = some n := by
  have digits : ∀ c ∈ (Nat.toDigits 10 n).reverse, c.isDigit = true :=
    fun c member => Regex.isDigit_of_mem_toDigits (List.mem_reverse.mp member)
  have reversed : (text ++ '/' :: Nat.toDigits 10 n).reverse =
      (Nat.toDigits 10 n).reverse ++ '/' :: text.reverse := by
    rw [List.reverse_append, List.reverse_cons, List.append_assoc]
    rfl
  have some_digit : (Nat.toDigits 10 n).reverse.isEmpty = false := by
    rw [List.isEmpty_reverse, List.isEmpty_eq_false_iff]
    exact Nat.toDigits_ne_nil
  rw [trailingNumber, reversed, List.takeWhile_append_of_pos digits,
    List.dropWhile_append_of_pos digits, List.takeWhile_cons_of_neg (by decide),
    List.dropWhile_cons_of_neg (by decide), List.append_nil, some_digit]
  rw [if_pos (by rfl), List.foldr_reverse, ← Nat.ofDigitChars_eq_foldl,
    Nat.ofDigitChars_ten_toDigits]

/-- The characters of an origin behind its opening bracket. -/
def isOriginChar (mark c : Char) : Bool := isHexDigit c || decide (c = '/' ∨ c = mark)

/-- Digits are hex digits. -/
theorem isHexDigit_of_isDigit {c : Char} (digit : c.isDigit = true) : isHexDigit c = true := by
  rw [isHexDigit, digit]
  rfl

/-- The steps of a path are spelled in origin characters. -/
theorem mem_path_text {mark c : Char} {path : List PathStep}
    (member : c ∈ path.flatMap (PathStep.text mark)) : isOriginChar mark c = true := by
  obtain ⟨step, -, member⟩ := List.mem_flatMap.mp member
  rw [PathStep.text, List.mem_cons, List.mem_append] at member
  rw [isOriginChar, Bool.or_eq_true, decide_eq_true_eq]
  rcases member with slash | digit | marked
  · exact .inr (.inl slash)
  · exact .inl (isHexDigit_of_isDigit (Regex.isDigit_of_mem_toDigits digit))
  · split at marked
    · exact .inr (.inr (List.mem_singleton.mp marked))
    · cases marked

/-- The number that an origin ends with is that of its path. -/
theorem trailingNumber_origin {mark : Char} (noDigit : mark.isDigit = false) {fingerprint : List Char}
    (hex : ∀ c ∈ fingerprint, isHexDigit c = true) (path : List PathStep) :
    trailingNumber (fingerprint ++ path.flatMap (PathStep.text mark)) = endIndex path := by
  cases path using List.reverseRecOn with
  | nil =>
      rw [List.flatMap_nil, List.append_nil]
      exact trailingNumber_of_hex hex
  | append_singleton path step =>
      rw [List.flatMap_append, List.flatMap_singleton, PathStep.text, endIndex, List.getLast?_concat,
        Option.bind_some, PathStep.index?]
      cases step.hardened with
      | true =>
          rw [if_pos rfl, if_pos rfl, ← List.append_assoc, ← List.cons_append, ← List.append_assoc]
          exact trailingNumber_of_mark noDigit
      | false =>
          rw [if_neg Bool.false_ne_true, if_neg Bool.false_ne_true, List.append_nil,
            ← List.append_assoc]
          exact trailingNumber_of_number _ step.number

theorem isHexChar_of_isHexDigit {c : Char} (digit : isHexDigit c = true) :
    isHexChar c = true := by
  simpa [isHexChar, isHexDigit] using digit

/-- A public key opens no bracket. -/
theorem PublicKey.opensNone (key : PublicKey) : '[' ∉ key.digits :=
  fun member => absurd (key.hex '[' member) (by decide)

/-- A public key starts with a hex digit. -/
theorem PublicKey.startsHex (key : PublicKey) (rest : List Char) :
    (key.digits ++ rest).head?.any isHexChar = true := by
  cases digits : key.digits with
  | nil => exact absurd digits key.nonempty
  | cons c more =>
      have hex : isHexDigit c = true := key.hex c (by rw [digits]; exact List.mem_cons_self)
      exact isHexChar_of_isHexDigit hex

/-- A key in hexadecimal behind an origin: the search finds the end of the path. -/
theorem finds_origin {mark : Char} (marks : mark = 'h' ∨ mark = '\x27') (origin : KeyOrigin)
    (key : PublicKey) :
    Finds (origin.text mark ++ key.digits) (endIndex origin.path) := by
  have noDigit : mark.isDigit = false := by
    rcases marks with rfl | rfl <;> rfl
  have originChars : ∀ c ∈ origin.fingerprint ++ origin.path.flatMap (PathStep.text mark),
      isOriginChar mark c = true := by
    intro c member
    rcases List.mem_append.mp member with first | later
    · rw [isOriginChar, origin.hex c first]
      rfl
    · exact mem_path_text later
  have absent : ∀ c, isOriginChar mark c = false →
      c ∉ origin.fingerprint ++ origin.path.flatMap (PathStep.text mark) := by
    intro c other member
    rw [originChars c member] at other
    cases other
  have silent : '[' ∉ origin.fingerprint ++ origin.path.flatMap (PathStep.text mark) ++
      ']' :: key.digits := by
    rw [List.mem_append, List.mem_cons, not_or, not_or]
    refine ⟨absent '[' ?_, by decide, key.opensNone⟩
    rcases marks with rfl | rfl <;> rfl
  have closing : ']' ∉ origin.fingerprint ++ origin.path.flatMap (PathStep.text mark) := by
    apply absent
    rcases marks with rfl | rfl <;> rfl
  intro rest
  have text : origin.text mark ++ key.digits ++ rest =
      '[' :: (origin.fingerprint ++ origin.path.flatMap (PathStep.text mark) ++
        ']' :: (key.digits ++ rest)) := by
    simp [KeyOrigin.text]
  have behind := Finds.silent silent rest
  rw [List.append_assoc, List.cons_append] at behind
  rw [text, searchLeafIndex, if_pos rfl, behind, Option.none_or,
    leafIndex_bracketed closing (key.startsHex rest), trailingNumber_origin noDigit origin.hex]

/-- A key expression shows the index of its last step, if it has one. -/
theorem finds_keyText (node : NodeKeys) (index : Nat) (key : KeyExpression) :
    Finds (node.keyText index key) (key.shownIndex index) := by
  rw [NodeKeys.keyText, KeyExpression.shownIndex, KeyExpression.shownPath]
  cases given : key.origin with
  | some origin =>
      have reported : node.reportedOrigin key index =
          some { origin with path := origin.path ++ key.derivedSteps index } := by
        rw [NodeKeys.reportedOrigin, given]
      rw [reported]
      exact finds_origin node.marks _ _
  | none =>
      rw [NodeKeys.reportedOrigin, given]
      by_cases fixed : key.derivedSteps index = []
      · rw [fixed]
        exact .silent (node.publicKey key index).opensNone
      · simp only [if_neg fixed]
        exact finds_origin node.marks _ _

/-! ### Trees -/

/-- The search in the text of an operand ends with the text. -/
def Operand.Closed (operand : Operand) : Prop :=
  Finds operand.text (searchLeafIndex operand.text)

/-- What the search finds in some keys, one after the other. -/
def firstFound (keys : List Operand) : Option Nat :=
  keys.findSome? fun key => searchLeafIndex key.text

/-- The first index found among two lists of keys. -/
theorem firstFound_append (first second : List Operand) :
    firstFound (first ++ second) = (firstFound first).or (firstFound second) :=
  List.findSome?_append

theorem firstFound_singleton (key : Operand) : firstFound [key] = searchLeafIndex key.text := by
  rw [firstFound, List.findSome?_singleton]

theorem decimal_opensNone (n : Nat) : '[' ∉ (decimal n).print :=
  fun member => absurd (Regex.isDigit_of_mem_toDigits member) (by decide)

/-- The search in an expression. -/
def FindsIn (e : Expr) (found : Option Nat) : Prop := Finds e.print found

namespace FindsIn

variable {e first second : Expr} {name : List Char} {found foundFirst foundSecond : Option Nat}

/-- A pair shows the index of its first part, or else of the second. -/
theorem pair (findsFirst : FindsIn first foundFirst) (findsSecond : FindsIn second foundSecond) :
    FindsIn (.pair first second) (foundFirst.or foundSecond) := by
  rw [FindsIn, Expr.print, ← List.singleton_append]
  exact findsFirst.append (.after (by decide) findsSecond)

/-- A call shows the index of its argument. -/
theorem call (noBracket : '[' ∉ name) (finds : FindsIn e found) : FindsIn (.call name e) found := by
  rw [FindsIn, Expr.print, ← List.singleton_append]
  exact .after noBracket (.after (by decide) (finds.before (by decide)))

/-- Braces show the index of the first part, or else of the second. -/
theorem braces (findsFirst : FindsIn first foundFirst) (findsSecond : FindsIn second foundSecond) :
    FindsIn (.braces first second) (foundFirst.or foundSecond) := by
  have text : (Expr.braces first second).print =
      ['{'] ++ (first.print ++ ([','] ++ (second.print ++ ['}']))) := rfl
  rw [FindsIn, text]
  exact .after (by decide) (findsFirst.append (.after (by decide) (findsSecond.before (by decide))))

/-- A wrapper shows the index of what it wraps. -/
theorem behind_wrapper (wrapper : Wrapper) (finds : FindsIn e found) :
    FindsIn (wrapper.before e) found := by
  have letter : '[' ∉ [wrapper.letter] := by cases wrapper <;> decide
  have colon : FindsIn (.prefixed [wrapper.letter] e) found :=
    Finds.after letter (@Finds.after [':'] _ _ (by decide) finds)
  cases e with
  | prefixed letters body =>
      have text : (wrapper.before (.prefixed letters body)).print =
          [wrapper.letter] ++ (Expr.prefixed letters body).print := rfl
      rw [FindsIn, text]
      exact .after letter finds
  | _ => exact colon

end FindsIn

/-- Keys between commas show the index of the first that has one. -/
theorem findsIn_keys {keys : List Operand} (closed : ∀ key ∈ keys, key.Closed) :
    Finds ([','].intercalate (keys.map Operand.text)) (firstFound keys) := by
  induction keys with
  | nil => exact .silent List.not_mem_nil
  | cons key keys inductionHypothesis =>
      rw [List.forall_mem_cons] at closed
      cases keys with
      | nil =>
          rw [firstFound_singleton, List.map_singleton, List.intercalate_singleton]
          exact closed.1
      | cons other keys =>
          have split : firstFound (key :: other :: keys) =
              (searchLeafIndex key.text).or (firstFound (other :: keys)) := by
            rw [← firstFound_singleton, ← firstFound_append, List.singleton_append]
          rw [split, List.map_cons, List.map_cons, List.intercalate_cons_cons]
          have comma := closed.1.before (show '[' ∉ [','] by decide)
          exact comma.append (inductionHypothesis closed.2)

/-- A list of keys shows the index of the first key that has one. -/
theorem findsIn_keyList (threshold : Nat) {keys : List Operand} (closed : ∀ key ∈ keys, key.Closed) :
    FindsIn (keyList threshold keys) (firstFound keys) := by
  have number : FindsIn (decimal threshold) none := Finds.silent (decimal_opensNone threshold)
  have list : FindsIn (.atom ([','].intercalate (keys.map Operand.text))) (firstFound keys) :=
    findsIn_keys closed
  exact number.pair list

/-- No fragment name opens a bracket. -/
theorem Fragment.name_opensNone (fragment : Fragment) : '[' ∉ fragment.name.toList :=
  fun member => absurd (fragment.spelled_name '[' member) (by unfold NameChar; decide)

/-- The search can be done key by key: no key is left open, and digests have no bracket. -/
structure Legible (keys digests : List Operand) : Prop where
  closed : ∀ key ∈ keys, key.Closed
  digestsSilent : ∀ digest ∈ digests, '[' ∉ digest.text

/-- Two lists are legible exactly when each is. -/
theorem legible_append {keys keys' digests digests' : List Operand} :
    Legible (keys ++ keys') (digests ++ digests') ↔ Legible keys digests ∧ Legible keys' digests' := by
  constructor
  · rintro ⟨closed, silent⟩
    rw [List.forall_mem_append] at closed silent
    exact ⟨⟨closed.1, silent.1⟩, closed.2, silent.2⟩
  · rintro ⟨⟨closed, silent⟩, closed', silent'⟩
    exact ⟨List.forall_mem_append.mpr ⟨closed, closed'⟩,
      List.forall_mem_append.mpr ⟨silent, silent'⟩⟩

/-- The search in a script finds what it finds in its keys. -/
theorem Script.finds (script : Script) (legible : Legible script.keys script.digests) :
    FindsIn script.expr (firstFound script.keys) := by
  refine @Script.rec
    (fun script => Legible script.keys script.digests →
      FindsIn script.expr (firstFound script.keys))
    (fun subs => Legible subs.keys subs.digests → ∀ e found, FindsIn e found →
      FindsIn (subs.behind e) (found.or (firstFound subs.keys)))
    ?_ ?_ ?_ ?_ ?_ ?_ ?_ ?_ ?_ ?_ ?_ ?_ script legible
  · intro value _
    refine Finds.silent ?_
    cases value <;> decide
  · intro kind key legible
    refine FindsIn.call (Fragment.name_opensNone _) ?_
    rw [Script.keys, firstFound_singleton]
    exact legible.closed key (List.mem_singleton.mpr rfl)
  · intro kind value _
    exact FindsIn.call (Fragment.name_opensNone _) (Finds.silent (decimal_opensNone value))
  · intro kind digest legible
    refine FindsIn.call (Fragment.name_opensNone _) (Finds.silent ?_)
    exact legible.digestsSilent digest (List.mem_singleton.mpr rfl)
  · intro kind threshold keys legible
    exact FindsIn.call (Fragment.name_opensNone _) (findsIn_keyList threshold legible.closed)
  · intro wrapper body inductionHypothesis legible
    exact (inductionHypothesis legible).behind_wrapper wrapper
  · intro kind first second firstHypothesis secondHypothesis legible
    obtain ⟨legibleFirst, legibleSecond⟩ := legible_append.mp legible
    rw [Script.keys, firstFound_append]
    exact FindsIn.call (Fragment.name_opensNone _)
      ((firstHypothesis legibleFirst).pair (secondHypothesis legibleSecond))
  · intro condition first second conditionHypothesis firstHypothesis secondHypothesis legible
    obtain ⟨legibleCondition, legible⟩ := legible_append.mp legible
    obtain ⟨legibleFirst, legibleSecond⟩ := legible_append.mp legible
    rw [Script.keys, firstFound_append, firstFound_append]
    exact FindsIn.call (Fragment.name_opensNone _)
      ((conditionHypothesis legibleCondition).pair
        ((firstHypothesis legibleFirst).pair (secondHypothesis legibleSecond)))
  · intro kind first second firstHypothesis secondHypothesis legible
    obtain ⟨legibleFirst, legibleSecond⟩ := legible_append.mp legible
    rw [Script.keys, firstFound_append]
    exact FindsIn.call (Fragment.name_opensNone _)
      ((firstHypothesis legibleFirst).pair (secondHypothesis legibleSecond))
  · intro threshold subs inductionHypothesis legible
    exact FindsIn.call (Fragment.name_opensNone _)
      (inductionHypothesis legible _ none (Finds.silent (decimal_opensNone threshold)))
  · intro _ e found finds
    rw [Scripts.keys, firstFound, List.findSome?_nil, Option.or_none]
    exact finds
  · intro first rest firstHypothesis restHypothesis legible e found finds
    obtain ⟨legibleFirst, legibleRest⟩ := legible_append.mp legible
    rw [Scripts.keys, firstFound_append, ← Option.or_assoc]
    exact restHypothesis legibleRest _ _ (finds.pair (firstHypothesis legibleFirst))

/-- The expression of a tree shows the index of its first key that has one. -/
theorem TapTree.finds (tree : TapTree) (legible : Legible tree.keys tree.digests) :
    FindsIn tree.expr (firstFound tree.keys) := by
  induction tree with
  | leaf script => exact script.finds legible
  | branch left right leftHypothesis rightHypothesis =>
      obtain ⟨legibleLeft, legibleRight⟩ := legible_append.mp legible
      rw [TapTree.keys, firstFound_append]
      exact (leftHypothesis legibleLeft).braces (rightHypothesis legibleRight)

/-- The search in a descriptor finds what it finds in its keys. -/
theorem Descriptor.finds (descriptor : Descriptor)
    (legible : Legible descriptor.keys descriptor.digests) :
    FindsIn descriptor.expr (firstFound descriptor.keys) := by
  have one (key : Operand) (closed : ∀ other ∈ [key], other.Closed) :
      FindsIn (.atom key.text) (firstFound [key]) := by
    rw [firstFound_singleton]
    exact closed key (List.mem_singleton.mpr rfl)
  cases descriptor with
  | pk key => exact .call (by decide) (one key legible.closed)
  | multi sorted threshold keys =>
      exact .call (Fragment.name_opensNone _) (findsIn_keyList threshold legible.closed)
  | pkh key => exact .call (by decide) (one key legible.closed)
  | wpkh key => exact .call (by decide) (one key legible.closed)
  | shWpkh key => exact .call (by decide) (.call (by decide) (one key legible.closed))
  | wsh script => exact .call (by decide) (script.finds legible)
  | sh script => exact .call (by decide) (script.finds legible)
  | shWsh script => exact .call (by decide) (.call (by decide) (script.finds legible))
  | tr key tree =>
      cases tree with
      | none => exact .call (by decide) (one key legible.closed)
      | some tree =>
          have split : Legible ([key] ++ tree.keys) ([] ++ tree.digests) := legible
          obtain ⟨legibleKey, legibleTree⟩ := legible_append.mp split
          have keys : (Descriptor.tr key (some tree)).keys = [key] ++ tree.keys := rfl
          rw [keys, firstFound_append]
          exact .call (by decide) ((one key legibleKey.closed).pair (tree.finds legibleTree))

/-! ### The derivation index -/

/-- The index that is read off a coin's descriptor is that of the first key which shows one. -/
theorem parseDerivationIndex_of_writes {node : NodeKeys} {keys : List KeyExpression} {index : Nat}
    {text : String} (writes : node.Writes keys index text) :
    parseDerivationIndex text = leadingIndex keys index := by
  obtain ⟨tree, checksum, rfl, sameKeys, digestsSilent, checksumSilent⟩ := writes
  have closed : ∀ key ∈ tree.keys, key.Closed := by
    intro key member
    have written := List.mem_map_of_mem (f := Operand.text) member
    rw [sameKeys] at written
    obtain ⟨expression, -, same⟩ := List.mem_map.mp written
    have finds := finds_keyText node index expression
    rw [same] at finds
    rw [Operand.Closed, finds.search_eq]
    exact finds
  have behind : '[' ∉ Descriptor.checksumPart checksum := by
    cases checksum with
    | none => exact List.not_mem_nil
    | some checksum =>
        rw [Descriptor.checksumPart, List.mem_cons, not_or]
        exact ⟨by decide, checksumSilent checksum rfl⟩
  have finds := Finds.before (tree.finds ⟨closed, digestsSilent⟩) behind
  have sameFound : firstFound tree.keys = leadingIndex keys index := by
    have through : firstFound tree.keys =
        (tree.keys.map Operand.text).findSome? searchLeafIndex := by
      rw [List.findSome?_map]
      rfl
    rw [through, sameKeys, List.findSome?_map, leadingIndex]
    congr 1
    funext key
    exact (finds_keyText node index key).search_eq
  rw [parseDerivationIndex, Descriptor.text, String.toList_ofList, finds.search_eq, sameFound]

end TallyKeep
