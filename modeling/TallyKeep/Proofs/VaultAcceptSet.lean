/-
Module: TallyKeep.Proofs.VaultAcceptSet
Layer: Proofs
Purpose: The classifier on the texts of descriptor trees, against the law of single-path scripts and
  the accept set of vaults.
Trusted boundary: none
Main exports: Reports, ImplementsAcceptSet, Refused, Descriptor.HiddenBranch, bestFit_tree,
  implementsAcceptSet_iff
-/
import TallyKeep.Proofs.ClassificationAgreement
import TallyKeep.Proofs.DescriptorTexts

namespace TallyKeep

open CallText Regex DescriptorPatterns

variable {classes : CharClasses} {encoding : KeyEncoding} {library : DescriptorLibrary}
  {network : Network} {descriptor : Descriptor} {checksum : Option Operand}

/-! ### The law -/

/-- The library accepts the tree, and reports the type of its outermost fragments. -/
def Reports (library : DescriptorLibrary) (network : Network) (descriptor : Descriptor)
    (checksum : Option Operand) : Prop :=
  ∃ canonical descriptorId, library.descriptor (descriptor.text checksum) network =
    .ok ⟨descriptor.descType, descriptor.isMultipath, canonical, descriptorId⟩

/-- The classifier calls only single-path trees a holding, and the accept set vaults; and what it
    calls a vault has no timelock beside the one `parse` reports. -/
structure ImplementsAcceptSet (classes : CharClasses) (encoding : KeyEncoding)
    (library : DescriptorLibrary) (network : Network) (descriptor : Descriptor)
    (checksum : Option Operand) : Prop where
  single : ∀ type, bestFit classes encoding library (descriptor.text checksum) network = some type →
    descriptor.SinglePath
  accepted : AcceptSet descriptor → descriptor.isMultipath = false →
    bestFit classes encoding library (descriptor.text checksum) network = some .vault
  timelock : bestFit classes encoding library (descriptor.text checksum) network = some .vault →
    ∀ parsed, parse classes library (descriptor.text checksum) network true = .ok parsed →
      parsed.timelock.toList = descriptor.timelocks

/-! ### What is refused -/

/-- Bare scripts, `sh` without a threshold, and `sh(wsh(...))` other than a sorted multisig. -/
def Descriptor.isUnsupported : Descriptor → Bool
  | .pk _ => true
  | .multi _ _ _ => true
  | .sh script => !script.fragments.any Fragment.isMulti
  | .shWsh script => !script.isSortedMulti
  | _ => false

/-- The trees the classifier refuses: those with a branching combinator, a threshold or a hash-lock
    by name, those of several paths in one key, and those of an unsupported form. -/
def Refused (descriptor : Descriptor) : Prop :=
  (∃ fragment ∈ descriptor.fragments, fragment.isBranching = true) ∨
    descriptor.isMultipath = true ∨ descriptor.isUnsupported = true

/-- A second spending path that has no name the classifier looks for. -/
def Descriptor.HiddenBranch (descriptor : Descriptor) : Prop :=
  .andor ∈ descriptor.fragments ∨ .l ∈ descriptor.wrappers ∨ .u ∈ descriptor.wrappers ∨
    1 < descriptor.leaves

/-- The types that are vaults, and taproot trees with a timelock or a threshold. -/
def Descriptor.isVault : Descriptor → Prop
  | .wsh _ => True
  | .sh _ => True
  | .shWsh _ => True
  | .tr key tree =>
      (Descriptor.tr key tree).timelocks ≠ [] ∨
        ∃ fragment ∈ (Descriptor.tr key tree).fragments, fragment.isMultiA = true
  | _ => False

/-! ### The text of a tree -/

theorem dropWhile_of_none {α : Type} {p : α → Bool} {items : List α}
    (none : ∀ a ∈ items, p a = false) : items.dropWhile p = items := by
  cases items with
  | nil => rfl
  | cons a items => rw [List.dropWhile_cons_of_neg (by simp [none a])]

namespace Descriptor

variable (descriptor checksum)

theorem parenthesis_mem_text : '(' ∈ (descriptor.text checksum).toList := by
  rw [text_toList]
  apply List.mem_append_left
  cases descriptor with
  | tr key tree => cases tree <;> simp [expr, Expr.print]
  | _ => simp [expr, Fragment.call, Expr.print]

theorem unwrapped (classes : CharClasses) (encoding : KeyEncoding) :
    Unwrapped classes encoding (descriptor.text checksum) := by
  have stripped : strip classes (descriptor.text checksum) = descriptor.text checksum := by
    have blank : ∀ c ∈ (descriptor.text checksum).toList, classes.space c = false :=
      fun c member => descriptor.space_of_mem_text checksum member
    rw [strip, dropWhile_of_none blank, dropWhile_of_none, List.reverse_reverse,
      String.ofList_toList]
    exact fun c member => blank c (List.mem_reverse.mp member)
  refine ⟨stripped, ?_⟩
  rw [autoWrapBareKey, stripped, if_pos]
  exact .inr (List.any_eq_true.mpr
    ⟨'(', descriptor.parenthesis_mem_text checksum, by decide⟩)

/-- No tree is written like an address. -/
theorem not_address (classes : CharClasses) :
    matchesAtStart classes addressClassifier (descriptor.text checksum) = false := by
  rw [matchesAtStart, decide_eq_false_iff_not, not_not, List.eq_nil_iff_forall_not_mem]
  intro stop member
  obtain ⟨middle, body, atEnd⟩ := mem_run_seq.mp member
  have within : ∀ c, c.isAlphanum = true → c ≠ '(' := by
    rintro c alphanum rfl
    exact absurd alphanum (by decide)
  have bech32 : (Pattern.char isBech32Char).Within (· ≠ '(') :=
    fun c accepted => within c ((Bool.and_eq_true _ _).mp accepted).1
  have base58 : (Pattern.char isBase58Char).Within (· ≠ '(') :=
    fun c accepted => within c ((Bool.and_eq_true _ _).mp accepted).1
  have literal : ∀ {text : List Char}, '(' ∉ text → (Pattern.literal text).Within (· ≠ '(') :=
    fun absent => within_literal fun c member same => absent (same ▸ member)
  have version : ∀ c, decide (c ∈ ['1', '3', 'm', 'n', '2']) = true → c ≠ '(' := by
    rintro c listed rfl
    exact absurd listed (by decide)
  have taken : Position.Takes (· ≠ '(') _ middle := takes_of_mem_run (by
    exact ⟨⟨literal (by decide), within_between bech32 6 87, trivial⟩,
      ⟨literal (by decide), within_between bech32 6 87, trivial⟩,
      ⟨literal (by decide), within_between bech32 6 87, trivial⟩,
      ⟨version, within_between base58 24 34, trivial⟩⟩) body
  obtain ⟨taken, split, plain⟩ := taken
  have parenthesis := descriptor.parenthesis_mem_text checksum
  change (descriptor.text checksum).toList = taken ++ middle.after at split
  rw [split, List.mem_append] at parenthesis
  rcases parenthesis with here | later
  · exact plain _ here rfl
  · rw [Pattern.run] at atEnd
    split at atEnd
    · next ends =>
        rcases ends with ends | ends
        · rw [ends] at later
          cases later
        · rw [ends] at later
          exact absurd later (by decide)
    · cases atEnd

theorem screened_iff (classes : CharClasses) :
    Screened classes (descriptor.text checksum) ↔
      ∃ fragment ∈ descriptor.fragments, fragment.isBranching = true := by
  rw [Screened, descriptor.not_address checksum classes,
    ← @found_unsupported_iff classes descriptor checksum]
  constructor
  · rintro (address | lsp | unsupported)
    · cases address
    · exact descriptor.branching_of_found_lsp checksum lsp
    · exact unsupported
  · intro unsupported
    exact .inr (.inr unsupported)

theorem fragments_of_isSortedMulti {script : Script} (sorted : script.isSortedMulti = true) :
    script.fragments.any Fragment.isMulti = true := by
  cases script with
  | multi kind threshold keys => rfl
  | _ => cases sorted

/-- Step 6 on the text of a tree. -/
theorem routed_iff (classes : CharClasses) :
    (RoutedToVault classes (descriptor.text checksum) descriptor.descType ↔
        descriptor.isVault ∧ descriptor.isUnsupported = false) ∧
      (RoutedToVault classes (descriptor.text checksum) descriptor.descType ∨
          RoutedToSingleKey classes (descriptor.text checksum) descriptor.descType ↔
        descriptor.isUnsupported = false) := by
  cases descriptor with
  | pk key | multi sorted threshold keys =>
      simp [descType, RoutedToVault, RoutedToSingleKey, isUnsupported]
  | pkh key | wpkh key | shWpkh key =>
      simp [descType, RoutedToVault, RoutedToSingleKey, isUnsupported, isVault]
  | wsh script =>
      cases sorted : script.isSortedMulti <;>
        simp [descType, sorted, RoutedToVault, isUnsupported, isVault]
  | shWsh script =>
      cases sorted : script.isSortedMulti <;>
        simp [descType, sorted, RoutedToVault, RoutedToSingleKey, isUnsupported, isVault]
  | sh script =>
      cases sorted : script.isSortedMulti with
      | true =>
          have multi := fragments_of_isSortedMulti sorted
          simp [descType, sorted, RoutedToVault, isUnsupported, isVault, multi]
      | false =>
          have threshold := @found_threshold_iff classes (.sh script) checksum
          rw [fragments, ← List.any_eq_true] at threshold
          simp [descType, sorted, RoutedToVault, RoutedToSingleKey, isUnsupported, isVault,
            threshold]
  | tr key tree =>
      have timelock := @extractTimelock_isSome_iff classes (.tr key tree) checksum
      have multi := @found_taprootMultisig_iff classes (.tr key tree) checksum
      have vault : TaprootVault classes ((Descriptor.tr key tree).text checksum) ↔
          (Descriptor.tr key tree).isVault := by
        rw [TaprootVault, timelock, multi, isVault]
      simp only [descType, RoutedToVault, RoutedToSingleKey, isUnsupported, vault, and_true]
      exact ⟨trivial, iff_of_true (Classical.em _) trivial⟩

/-- Of the supported descriptors only single keys are no vaults, and they have no timelock. -/
theorem isVault_of_timelocks (supported : descriptor.isUnsupported = false)
    (nonempty : descriptor.timelocks ≠ []) : descriptor.isVault := by
  cases descriptor with
  | pk key | multi sorted threshold keys => cases supported
  | pkh key | wpkh key | shWpkh key => exact nonempty rfl
  | wsh script | sh script | shWsh script => trivial
  | tr key tree => exact .inl nonempty

end Descriptor

/-! ### What the classifier finds -/

theorem bestFit_tree (classes : CharClasses) (encoding : KeyEncoding)
    (reports : Reports library network descriptor checksum) :
    ((bestFit classes encoding library (descriptor.text checksum) network).isSome = true ↔
        ¬Refused descriptor) ∧
      (bestFit classes encoding library (descriptor.text checksum) network = some .vault ↔
        ¬Refused descriptor ∧ descriptor.isVault) := by
  obtain ⟨canonical, descriptorId, accepted⟩ := reports
  have unwrapped := descriptor.unwrapped checksum classes encoding
  rw [Refused]
  cases multipath : descriptor.isMultipath with
  | true =>
      rw [bestFit_of_multipath unwrapped accepted multipath]
      simp
  | false =>
      obtain ⟨vault, -, some⟩ := bestFit_iff unwrapped accepted multipath
      obtain ⟨routedToVault, routed⟩ := descriptor.routed_iff checksum classes
      rw [some, vault, descriptor.screened_iff, routed, routedToVault, not_or, not_or,
        Bool.not_eq_true descriptor.isUnsupported]
      constructor
      · constructor
        · rintro ⟨straight, supported⟩
          exact ⟨straight, Bool.false_ne_true, supported⟩
        · rintro ⟨straight, -, supported⟩
          exact ⟨straight, supported⟩
      · constructor
        · rintro ⟨straight, isVault, supported⟩
          exact ⟨⟨straight, Bool.false_ne_true, supported⟩, isVault⟩
        · rintro ⟨⟨straight, -, supported⟩, isVault⟩
          exact ⟨straight, isVault, supported⟩

/-- What `parse` reports for a vault is what it reads off the text. -/
theorem parse_tree {parsed : ParsedDescriptor}
    (reports : Reports library network descriptor checksum) (admitted : ¬Refused descriptor)
    (vault : descriptor.isVault)
    (run : parse classes library (descriptor.text checksum) network true = .ok parsed) :
    parsed.timelock = extractTimelock classes (descriptor.text checksum) := by
  obtain ⟨canonical, descriptorId, accepted⟩ := reports
  rw [Refused, not_or, not_or, Bool.not_eq_true, Bool.not_eq_true] at admitted
  obtain ⟨-, single, supported⟩ := admitted
  rw [parse] at run
  split at run
  · cases run
  · rw [accepted] at run
    simp only [parseDescriptor, single, Bool.false_eq_true, if_false] at run
    have routed := ((descriptor.routed_iff checksum classes).1).mpr ⟨vault, supported⟩
    cases type : descriptor.descType with
    | shSortedMulti | wshSortedMulti | shWshSortedMulti =>
        rw [type, if_pos (by decide)] at run
        exact parseMultisig_timelock run
    | wsh | sh =>
        rw [type, if_neg (by decide), if_pos (by decide)] at run
        exact (parseMiniscript_facts run).2
    | tr =>
        rw [type, if_neg (by decide), if_neg (by decide), if_neg (by decide), if_pos rfl] at run
        exact (parseTaproot_facts run).2
    | bare | shWsh | pkh | wpkh | shWpkh =>
        rw [type] at routed
        exact absurd routed id

/-- A short enough vault is parsed. -/
theorem parse_tree_ok (classes : CharClasses)
    (reports : Reports library network descriptor checksum) (admitted : ¬Refused descriptor)
    (vault : descriptor.isVault) (short : (descriptor.text checksum).length ≤ 4096) :
    ∃ parsed, parse classes library (descriptor.text checksum) network true = .ok parsed := by
  obtain ⟨canonical, descriptorId, accepted⟩ := reports
  rw [Refused, not_or, not_or, Bool.not_eq_true, Bool.not_eq_true] at admitted
  obtain ⟨straight, single, supported⟩ := admitted
  have fits : ¬(descriptor.text checksum = "" ∨ 4096 < (descriptor.text checksum).length) := by
    rintro (empty | long)
    · have parenthesis := descriptor.parenthesis_mem_text checksum
      rw [empty] at parenthesis
      exact absurd parenthesis (by decide)
    · omega
  have ok : (parse classes library (descriptor.text checksum) network true).isOk = true := by
    rw [parse_of_accepted fits accepted, parseDescriptor_isOk_iff single]
    have unmarked : ¬found classes unsupportedFragment (descriptor.text checksum) = true := by
      rw [descriptor.found_unsupported_iff]
      exact straight
    have routed := ((descriptor.routed_iff checksum classes).1).mpr ⟨vault, supported⟩
    cases type : descriptor.descType with
    | shSortedMulti | wshSortedMulti | shWshSortedMulti => rfl
    | wsh => exact ⟨rfl, unmarked⟩
    | sh =>
        rw [type] at routed
        exact ⟨rfl, unmarked, routed⟩
    | tr => exact fun _ => ⟨rfl, unmarked⟩
    | bare | shWsh | pkh | wpkh | shWpkh =>
        rw [type] at routed
        exact absurd routed id
  cases run : parse classes library (descriptor.text checksum) network true with
  | ok parsed => exact ⟨parsed, rfl⟩
  | error error =>
      rw [run] at ok
      cases ok

/-- `parse` takes no text of more than 4096 characters. -/
theorem parse_long {expression : String} {parsed : ParsedDescriptor}
    (long : 4096 < expression.length) :
    parse classes library expression network true ≠ .ok parsed := by
  rw [parse, if_pos (.inr long)]
  intro same
  cases same

/-! ### The law and the tree -/

/-- Among the trees that are not refused, those of several paths have a hidden branch. -/
theorem singlePath_iff
    (straight : ¬∃ fragment ∈ descriptor.fragments, fragment.isBranching = true) :
    descriptor.SinglePath ↔ ¬descriptor.HiddenBranch := by
  rw [Descriptor.HiddenBranch, not_or, not_or, not_or, not_lt]
  constructor
  · intro single
    refine ⟨fun member => ?_, single.wrappers.1, single.wrappers.2, single.leaves⟩
    exact absurd (single.fragments _ member) (by decide)
  · rintro ⟨andor, l, u, leaves⟩
    refine ⟨fun fragment member => ?_, ⟨l, u⟩, leaves⟩
    cases fragment with
    | andor => exact absurd member andor
    | or kind | hash kind | thresh => exact absurd ⟨_, member, rfl⟩ straight
    | key kind | timelock kind value | multi kind threshold | and kind => rfl

/-- The accept set is not refused, and its trees are vaults. -/
theorem AcceptSet.admitted (accepted : AcceptSet descriptor)
    (singlePath : descriptor.isMultipath = false) :
    ¬Refused descriptor ∧ descriptor.isVault := by
  rw [Refused, singlePath, not_or, not_or]
  cases accepted with
  | timelocked kind value key | timelockThenMulti kind value threshold keys =>
      simp [Descriptor.fragments, Script.verified, Script.fragments, Fragment.isBranching,
        Descriptor.isUnsupported, Descriptor.isVault]
  | multiThenTimelock threshold keys kind value =>
      simp [Descriptor.fragments, Script.verified, Script.fragments, Fragment.isBranching,
        Descriptor.isUnsupported, Descriptor.isVault]
  | shMulti threshold keys =>
      simp [Descriptor.fragments, Script.fragments, Fragment.isBranching, Fragment.isMulti,
        Descriptor.isUnsupported, Descriptor.isVault]
  | wshMulti threshold keys | wshSortedMulti threshold keys =>
      simp [Descriptor.fragments, Script.fragments, Fragment.isBranching,
        Descriptor.isUnsupported, Descriptor.isVault]
  | taproot key threshold keys =>
      simp [Descriptor.fragments, TapTree.fragments, Script.fragments, Fragment.isBranching,
        Fragment.isMultiA, Descriptor.isUnsupported, Descriptor.isVault]

/-- A tree that is refused breaks no law. -/
theorem implements_of_refused (reports : Reports library network descriptor checksum)
    (refused : Refused descriptor) :
    ImplementsAcceptSet classes encoding library network descriptor checksum := by
  have nothing : bestFit classes encoding library (descriptor.text checksum) network = none := by
    rw [← Option.not_isSome_iff_eq_none, (bestFit_tree classes encoding reports).1]
    exact not_not.mpr refused
  refine ⟨?_, ?_, ?_⟩
  · intro type found
    rw [nothing] at found
    cases found
  · intro accepted singlePath
    exact absurd refused (accepted.admitted singlePath).1
  · intro found
    rw [nothing] at found
    cases found

/-- The classifier implements the accept set on a tree exactly when it refuses the tree, or the tree
    has no hidden branch and no second timelock in a text that `parse` takes. -/
theorem implementsAcceptSet_iff (reports : Reports library network descriptor checksum) :
    ImplementsAcceptSet classes encoding library network descriptor checksum ↔
      Refused descriptor ∨
        (¬descriptor.HiddenBranch ∧
          (descriptor.timelocks.length ≤ 1 ∨ 4096 < (descriptor.text checksum).length)) := by
  obtain ⟨fits, vault⟩ := bestFit_tree classes encoding reports
  constructor
  · intro implements
    rw [or_iff_not_imp_left]
    intro admitted
    have straight : ¬∃ fragment ∈ descriptor.fragments, fragment.isBranching = true :=
      fun branching => admitted (.inl branching)
    obtain ⟨type, found⟩ := Option.isSome_iff_exists.mp (fits.mpr admitted)
    refine ⟨(singlePath_iff straight).mp (implements.single type found), ?_⟩
    rw [or_iff_not_imp_right]
    intro short
    by_cases nonempty : descriptor.timelocks = []
    · rw [nonempty]
      exact Nat.zero_le 1
    · have supported : descriptor.isUnsupported = false :=
        Bool.eq_false_of_not_eq_true fun unsupported => admitted (.inr (.inr unsupported))
      have isVault := descriptor.isVault_of_timelocks supported nonempty
      obtain ⟨parsed, run⟩ := parse_tree_ok classes reports admitted isVault (not_lt.mp short)
      have reported := implements.timelock (vault.mpr ⟨admitted, isVault⟩) parsed run
      rw [parse_tree reports admitted isVault run] at reported
      exact (descriptor.extractTimelock_toList_iff checksum).mp reported
  · rintro (refused | ⟨noBranch, few⟩)
    · exact implements_of_refused reports refused
    · refine ⟨?_, ?_, ?_⟩
      · intro type found
        have admitted : ¬Refused descriptor := fits.mp (Option.isSome_iff_exists.mpr ⟨type, found⟩)
        exact (singlePath_iff fun branching => admitted (.inl branching)).mpr noBranch
      · intro accepted singlePath
        exact vault.mpr (accepted.admitted singlePath)
      · intro found parsed run
        obtain ⟨admitted, isVault⟩ := vault.mp found
        rcases few with few | long
        · rw [parse_tree reports admitted isVault run]
          exact (descriptor.extractTimelock_toList_iff checksum).mpr few
        · exact absurd run (parse_long long)

/-- A compressed public key. -/
def ownerKey : Operand where
  text := "0279be667ef9dcbbac55a06295ce870b07029bfcdb2dce28d959f2815b16f81798".toList
  legal := List.all_eq_true.mp (by decide)

/-- Another key. -/
def heirKey : Operand where
  text := "02c6047f9441ed7d6d3045406e95c07cd85c778e4b8cef3ca7abac09b95c709ee5".toList
  legal := List.all_eq_true.mp (by decide)

/-- `wsh(and_v(v:older(1008),pk(K)))`. -/
def savingsScript : Descriptor :=
  .wsh ((Script.timelock .csv 1008).verified (.key .pk ownerKey))

/-- `wsh(andor(pk(K),older(1008),pk(K')))`: two keys spend, the first one late. -/
def inheritanceScript : Descriptor :=
  .wsh (.andor (.key .pk ownerKey) (.timelock .csv 1008) (.key .pk heirKey))

theorem reports_savingsScript : Reports scriptLibrary .mainnet savingsScript none :=
  ⟨_, _, by rw [show savingsScript.isMultipath = false by decide]; rfl⟩

theorem reports_inheritanceScript : Reports scriptLibrary .mainnet inheritanceScript none :=
  ⟨_, _, by rw [show inheritanceScript.isMultipath = false by decide]; rfl⟩

/-- The equivalence for a script of one key and one timelock. -/
theorem implementsAcceptSet_savingsScript :
    ImplementsAcceptSet .ascii ⟨.ok, .ok⟩ scriptLibrary .mainnet savingsScript none ↔
      Refused savingsScript ∨
        (¬savingsScript.HiddenBranch ∧
          (savingsScript.timelocks.length ≤ 1 ∨ 4096 < (savingsScript.text none).length)) :=
  implementsAcceptSet_iff reports_savingsScript

/-- A script in which either of two keys spends is called a vault. -/
theorem inheritanceScript_is_vault :
    ¬∀ classes encoding library network descriptor checksum,
      Reports library network descriptor checksum →
        ImplementsAcceptSet classes encoding library network descriptor checksum := by
  intro law
  have admitted : ¬Refused inheritanceScript := by
    rintro (⟨fragment, member, branching⟩ | multipath | unsupported)
    · have straight : inheritanceScript.fragments.all (fun f => !f.isBranching) = true := by decide
      have same := List.all_eq_true.mp straight fragment member
      rw [branching] at same
      cases same
    · exact absurd multipath (by decide)
    · cases unsupported
  have found := (bestFit_tree .ascii ⟨.ok, .ok⟩ reports_inheritanceScript).2.mpr ⟨admitted, trivial⟩
  have single := (law .ascii ⟨.ok, .ok⟩ scriptLibrary .mainnet inheritanceScript none
    reports_inheritanceScript).single _ found
  have straight := single.fragments .andor (by decide)
  cases straight

end TallyKeep
