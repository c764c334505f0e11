/-
Module: TallyKeep.Proofs.ClassificationAgreement
Layer: Proofs
Purpose: Where `classify_descriptor`, `parse` and the shape gate of `create_vault` agree: type by
  type, in terms of the tests each makes on the text.
Trusted boundary: none
Main exports: Screened, RoutedAlike, parseDescriptor_isOk_iff, isVaultShape_iff, classifyType_cases,
  ClassificationAgrees, PlainExpression, bestFit_iff, tests_agree_iff, classificationAgrees_iff
-/
import TallyKeep.Services.Holding

namespace TallyKeep

open DescriptorPatterns Regex

variable {classes : CharClasses} {library : DescriptorLibrary} {expression : String}
  {network : Network}

/-! ### The tests of the classifier -/

/-- The classifier refuses the text whatever the type of the descriptor. -/
def Screened (classes : CharClasses) (expression : String) : Prop :=
  matchesAtStart classes addressClassifier expression = true ∨
    found classes (lspPattern classes) expression = true ∨
    found classes unsupportedFragment expression = true

/-- The text has the marks of a taproot vault: a timelock, or a `multi_a` clause. -/
def TaprootVault (classes : CharClasses) (expression : String) : Prop :=
  (extractTimelock classes expression).isSome = true ∨
    found classes taprootMultisig expression = true

/-- The tests of the classifier and those of `parse` and of `create_vault` come to the same for a
    descriptor of a type.  `parse` looks for unsupported fragments in `wsh`, in `sh` and in taproot
    vaults only, and nowhere for addresses and for coordinated wallets. -/
def RoutedAlike (classes : CharClasses) (expression : String) : DescriptorType → Prop
  | .wsh =>
      found classes unsupportedFragment expression = true ∨
        ¬Screened classes expression ∧
          (found classes (multisigThreshold classes) expression = true ∨
            (extractTimelock classes expression).isSome = true)
  | .sh =>
      found classes unsupportedFragment expression = true ∨
        found classes (multisigThreshold classes) expression = false ∨
        ¬Screened classes expression
  | .tr =>
      TaprootVault classes expression ∧ found classes unsupportedFragment expression = true ∨
        ¬Screened classes expression
  | .bare | .shWsh => True
  | _ => ¬Screened classes expression

/-! ### What `parse` accepts -/

/-- The types and texts that `parse` accepts. -/
def ParseAccepts (classes : CharClasses) (expression : String) (allowMultisig : Bool) :
    DescriptorType → Prop
  | .shSortedMulti | .wshSortedMulti | .shWshSortedMulti => allowMultisig = true
  | .wsh => allowMultisig = true ∧ ¬found classes unsupportedFragment expression = true
  | .sh =>
      allowMultisig = true ∧ ¬found classes unsupportedFragment expression = true ∧
        found classes (multisigThreshold classes) expression = true
  | .tr =>
      TaprootVault classes expression →
        allowMultisig = true ∧ ¬found classes unsupportedFragment expression = true
  | .bare | .shWsh => False
  | .pkh | .wpkh | .shWpkh => True

/-- The types and texts whose parse has several keys or a timelock. -/
def VaultShaped (classes : CharClasses) (expression : String) : DescriptorType → Prop
  | .shSortedMulti | .wshSortedMulti | .shWshSortedMulti => True
  | .wsh | .sh =>
      found classes (multisigThreshold classes) expression = true ∨
        (extractTimelock classes expression).isSome = true
  | .tr => TaprootVault classes expression
  | _ => False

/-- A multisig parses exactly when it is allowed. -/
theorem parseMultisig_isOk_iff (descriptor : BdkDescriptor) (allowMultisig : Bool) :
    (parseMultisig classes expression descriptor allowMultisig).isOk = true ↔
      allowMultisig = true := by
  rw [parseMultisig]
  cases allowMultisig
  · exact Iff.of_eq rfl
  · exact Iff.of_eq rfl

/-- A miniscript parses when multisigs are allowed and nothing in it is unsupported. -/
theorem parseMiniscript_isOk_iff (descriptor : BdkDescriptor) (allowMultisig : Bool) :
    (parseMiniscript classes expression descriptor allowMultisig).isOk = true ↔
      allowMultisig = true ∧ ¬found classes unsupportedFragment expression = true ∧
        (descriptor.descType = .sh →
          found classes (multisigThreshold classes) expression = true) := by
  rw [parseMiniscript]
  cases allowMultisig with
  | false => exact iff_of_false Bool.false_ne_true fun accepted => Bool.false_ne_true accepted.1
  | true =>
      by_cases unsupported : found classes unsupportedFragment expression = true
      · rw [if_neg (by simp), if_pos unsupported]
        exact iff_of_false Bool.false_ne_true fun accepted => accepted.2.1 unsupported
      · rw [if_neg (by simp), if_neg unsupported]
        by_cases bare : descriptor.descType = .sh ∧
            found classes (multisigThreshold classes) expression = false
        · rw [if_pos bare]
          refine iff_of_false Bool.false_ne_true fun accepted => ?_
          rw [accepted.2.2 bare.1] at bare
          exact Bool.false_ne_true bare.2.symm
        · rw [if_neg bare]
          rw [not_and, Bool.not_eq_false] at bare
          exact iff_of_true rfl ⟨rfl, unsupported, bare⟩

/-- A taproot descriptor parses unless it is a vault that is not allowed or not supported. -/
theorem parseTaproot_isOk_iff (descriptor : BdkDescriptor) (allowMultisig : Bool) :
    (parseTaproot classes expression descriptor allowMultisig).isOk = true ↔
      (TaprootVault classes expression →
        allowMultisig = true ∧ ¬found classes unsupportedFragment expression = true) := by
  rw [parseTaproot]
  by_cases vault : (extractTimelock classes expression).isSome = true ∨
      found classes taprootMultisig expression = true
  · rw [if_pos vault]
    cases allowMultisig with
    | false =>
        exact iff_of_false Bool.false_ne_true fun accepted =>
          Bool.false_ne_true (accepted vault).1
    | true =>
        by_cases unsupported : found classes unsupportedFragment expression = true
        · rw [if_neg (by simp), if_pos unsupported]
          exact iff_of_false Bool.false_ne_true fun accepted => (accepted vault).2 unsupported
        · rw [if_neg (by simp), if_neg unsupported]
          exact iff_of_true rfl fun _ => ⟨rfl, unsupported⟩
  · rw [if_neg vault]
    exact iff_of_true rfl fun marked => absurd marked vault

/-- What the parser accepts of a descriptor with one path. -/
theorem parseDescriptor_isOk_iff {descriptor : BdkDescriptor}
    (singlePath : descriptor.isMultipath = false) (allowMultisig : Bool) :
    (parseDescriptor classes expression descriptor allowMultisig).isOk = true ↔
      ParseAccepts classes expression allowMultisig descriptor.descType := by
  rw [parseDescriptor, if_neg (by simp [singlePath])]
  cases type : descriptor.descType with
  | shSortedMulti | wshSortedMulti | shWshSortedMulti =>
      exact parseMultisig_isOk_iff descriptor allowMultisig
  | wsh | sh =>
      simp [multisigTypes, miniscriptTypes, parseMiniscript_isOk_iff, type, ParseAccepts]
  | tr => exact parseTaproot_isOk_iff descriptor allowMultisig
  | bare | shWsh => exact iff_of_false Bool.false_ne_true id
  | pkh | wpkh | shWpkh => exact iff_of_true rfl trivial

/-! ### The shape of what is parsed -/

/-- A parsed multisig says that it is one. -/
theorem parseMultisig_isMultisig {descriptor : BdkDescriptor} {allowMultisig : Bool}
    {parsed : ParsedDescriptor}
    (accepted : parseMultisig classes expression descriptor allowMultisig = .ok parsed) :
    parsed.isMultisig = true := by
  rw [parseMultisig] at accepted
  split at accepted
  · cases accepted
  · cases accepted
    rfl

/-- What a parsed miniscript says. -/
theorem parseMiniscript_facts {descriptor : BdkDescriptor} {allowMultisig : Bool}
    {parsed : ParsedDescriptor}
    (accepted : parseMiniscript classes expression descriptor allowMultisig = .ok parsed) :
    parsed.isMultisig = found classes (multisigThreshold classes) expression ∧
      parsed.timelock = extractTimelock classes expression := by
  rw [parseMiniscript] at accepted
  split at accepted
  · cases accepted
  · split at accepted
    · cases accepted
    · split at accepted
      · cases accepted
      · cases accepted
        exact ⟨rfl, rfl⟩

/-- What a parsed taproot descriptor says. -/
theorem parseTaproot_facts {descriptor : BdkDescriptor} {allowMultisig : Bool}
    {parsed : ParsedDescriptor}
    (accepted : parseTaproot classes expression descriptor allowMultisig = .ok parsed) :
    parsed.isMultisig = found classes taprootMultisig expression ∧
      parsed.timelock = extractTimelock classes expression := by
  rw [parseTaproot] at accepted
  split at accepted
  · split at accepted
    · cases accepted
    · split at accepted
      · cases accepted
      · cases accepted
        exact ⟨rfl, rfl⟩
  · next plain =>
      cases accepted
      rw [not_or, Bool.not_eq_true, Option.isSome_eq_false_iff, Option.isNone_iff_eq_none,
        Bool.not_eq_true] at plain
      exact ⟨plain.2.symm, plain.1.symm⟩

/-- A parsed multisig says the timelock of its text. -/
theorem parseMultisig_timelock {descriptor : BdkDescriptor} {allowMultisig : Bool}
    {parsed : ParsedDescriptor}
    (accepted : parseMultisig classes expression descriptor allowMultisig = .ok parsed) :
    parsed.timelock = extractTimelock classes expression := by
  rw [parseMultisig] at accepted
  split at accepted
  · cases accepted
  · cases accepted
    rfl

/-- What is accepted has several keys or a timelock exactly in these cases. -/
theorem isVaultShape_iff {descriptor : BdkDescriptor} (singlePath : descriptor.isMultipath = false)
    {allowMultisig : Bool} {parsed : ParsedDescriptor}
    (accepted : parseDescriptor classes expression descriptor allowMultisig = .ok parsed) :
    parsed.isVaultShape = true ↔ VaultShaped classes expression descriptor.descType := by
  rw [parseDescriptor, if_neg (by simp [singlePath])] at accepted
  rw [ParsedDescriptor.isVaultShape, Bool.or_eq_true]
  cases type : descriptor.descType with
  | shSortedMulti | wshSortedMulti | shWshSortedMulti =>
      rw [type, if_pos (by decide)] at accepted
      exact iff_of_true (.inl (parseMultisig_isMultisig accepted)) trivial
  | wsh | sh =>
      rw [type, if_neg (by decide), if_pos (by decide)] at accepted
      obtain ⟨multisig, timelock⟩ := parseMiniscript_facts accepted
      rw [multisig, timelock, VaultShaped]
  | tr =>
      rw [type, if_neg (by decide), if_neg (by decide), if_neg (by decide), if_pos rfl] at accepted
      obtain ⟨multisig, timelock⟩ := parseTaproot_facts accepted
      rw [multisig, timelock, or_comm]
      exact Iff.rfl
  | bare | shWsh =>
      rw [type, if_neg (by decide), if_neg (by decide), if_pos (by decide)] at accepted
      cases accepted
  | pkh | wpkh | shWpkh =>
      rw [type, if_neg (by decide), if_neg (by decide), if_neg (by decide),
        if_neg (by decide)] at accepted
      cases accepted
      exact iff_of_false (by simp [parsedSingleKey]) id

/-! ### What the classifier finds -/

/-- The types and texts that step 6 takes for a vault. -/
def RoutedToVault (classes : CharClasses) (expression : String) : DescriptorType → Prop
  | .shSortedMulti | .wshSortedMulti | .shWshSortedMulti | .wsh => True
  | .sh => found classes (multisigThreshold classes) expression = true
  | .tr => TaprootVault classes expression
  | _ => False

/-- The types and texts that step 6 takes for a purse or a strongbox. -/
def RoutedToSingleKey (classes : CharClasses) (expression : String) : DescriptorType → Prop
  | .pkh | .wpkh | .shWpkh => True
  | .tr => ¬TaprootVault classes expression
  | _ => False

/-- One key is a purse or a strongbox. -/
theorem singleKeyFit_cases (classes : CharClasses) (expression : String) :
    singleKeyFit classes expression = .purse ∨ singleKeyFit classes expression = .strongbox := by
  rw [singleKeyFit]
  split
  · exact .inr rfl
  · exact .inl rfl

/-- Step 6 finds a vault, a single-key holding, or nothing. -/
theorem classifyType_cases (classes : CharClasses) (expression : String)
    (descType : DescriptorType) :
    (RoutedToVault classes expression descType ∧ ¬RoutedToSingleKey classes expression descType ∧
        classifyType classes expression descType = .ok .vault) ∨
      (RoutedToSingleKey classes expression descType ∧ ¬RoutedToVault classes expression descType ∧
        classifyType classes expression descType = .ok (singleKeyFit classes expression)) ∨
      (¬RoutedToVault classes expression descType ∧
        ¬RoutedToSingleKey classes expression descType ∧
        classifyType classes expression descType = .error .unsupportedForm) := by
  cases descType with
  | shSortedMulti | wshSortedMulti | shWshSortedMulti | wsh => exact .inl ⟨trivial, id, rfl⟩
  | sh =>
      cases multi : found classes (multisigThreshold classes) expression with
      | true =>
          refine .inl ⟨multi, id, ?_⟩
          simp [classifyType, singleKeyTypes, multisigTypes, miniscriptTypes, multi]
      | false =>
          refine .inr (.inr ⟨?_, id, ?_⟩)
          · rw [RoutedToVault, multi]
            exact Bool.false_ne_true
          · simp [classifyType, singleKeyTypes, multisigTypes, miniscriptTypes, multi]
  | tr =>
      by_cases vault : TaprootVault classes expression
      · exact .inl ⟨vault, not_not.mpr vault, by rw [classifyType, if_pos rfl]; exact if_pos vault⟩
      · refine .inr (.inl ⟨vault, vault, ?_⟩)
        rw [classifyType, if_pos rfl]
        exact if_neg vault
  | bare | shWsh => exact .inr (.inr ⟨id, id, rfl⟩)
  | pkh | wpkh | shWpkh => exact .inr (.inl ⟨trivial, id, rfl⟩)

/-! ### Agreement -/

/-- The holding type the classifier finds. -/
def bestFit (classes : CharClasses) (encoding : KeyEncoding) (library : DescriptorLibrary)
    (expression : String) (network : Network) : Option HoldingType :=
  (classifyDescriptor classes encoding library expression network).bestFit

/-- The classifier, the two readings of `parse` and the gate of `create_vault` agree on an
    expression. -/
structure ClassificationAgrees (classes : CharClasses) (encoding : KeyEncoding)
    (library : DescriptorLibrary) (expression : String) (network : Network) : Prop where
  parsed : (bestFit classes encoding library expression network).isSome = true ↔
    (parse classes library expression network true).isOk = true
  vault : bestFit classes encoding library expression network = some .vault ↔
    ∃ parsed, parse classes library expression network true = .ok parsed ∧
      parsed.isVaultShape = true
  singleKey : bestFit classes encoding library expression network = some .purse ∨
      bestFit classes encoding library expression network = some .strongbox ↔
    (parse classes library expression network false).isOk = true

/-- An expression the claims of the API are about: no surrounding blanks, within the limits, and not
    a bare key. -/
structure PlainExpression (classes : CharClasses) (encoding : KeyEncoding) (expression : String) :
    Prop where
  stripped : strip classes expression = expression
  nonempty : expression ≠ ""
  short : expression.length ≤ 4096
  notBareKey : autoWrapBareKey classes encoding expression = none

variable {encoding : KeyEncoding}

/-- An expression that reaches the classifier's tests as it is. -/
structure Unwrapped (classes : CharClasses) (encoding : KeyEncoding) (expression : String) :
    Prop where
  stripped : strip classes expression = expression
  notBareKey : autoWrapBareKey classes encoding expression = none

theorem PlainExpression.unwrapped (plain : PlainExpression classes encoding expression) :
    Unwrapped classes encoding expression :=
  ⟨plain.stripped, plain.notBareKey⟩

theorem PlainExpression.fits (plain : PlainExpression classes encoding expression) :
    ¬(expression = "" ∨ 4096 < expression.length) := by
  rintro (empty | long)
  · exact plain.nonempty empty
  · exact absurd plain.short (Nat.not_le.mpr long)

/-- What the library accepts is parsed by its descriptor. -/
theorem parse_of_accepted (fits : ¬(expression = "" ∨ 4096 < expression.length))
    {descriptor : BdkDescriptor} (accepted : library.descriptor expression network = .ok descriptor)
    (allowMultisig : Bool) :
    parse classes library expression network allowMultisig =
      parseDescriptor classes expression descriptor allowMultisig := by
  rw [parse, if_neg fits, accepted]

/-- What the library refuses is not parsed. -/
theorem parse_of_refused {text : String}
    (refused : library.descriptor expression network = .error text) (allowMultisig : Bool) :
    (parse classes library expression network allowMultisig).isOk = false := by
  rw [parse, refused]
  split
  · rfl
  · rfl

/-- The best fit of an unwrapped text is its classification. -/
theorem bestFit_eq (unwrapped : Unwrapped classes encoding expression) :
    bestFit classes encoding library expression network =
      (classifyExpression classes library expression network).toOption := by
  simp only [bestFit, classifyDescriptor, unwrapped.stripped, unwrapped.notBareKey, Option.map_none,
    Option.getD_none]

/-- Several paths in one expression are refused. -/
theorem bestFit_of_multipath (unwrapped : Unwrapped classes encoding expression)
    {descriptor : BdkDescriptor} (accepted : library.descriptor expression network = .ok descriptor)
    (multipath : descriptor.isMultipath = true) :
    bestFit classes encoding library expression network = none := by
  rw [bestFit_eq unwrapped, classifyExpression, accepted]
  simp only [multipath, if_true]
  split
  · rfl
  · rfl

/-- On an accepted descriptor the classifier finds something when its tests let the text through. -/
theorem bestFit_of_accepted (unwrapped : Unwrapped classes encoding expression)
    {descriptor : BdkDescriptor} (accepted : library.descriptor expression network = .ok descriptor)
    (singlePath : descriptor.isMultipath = false) :
    (Screened classes expression → bestFit classes encoding library expression network = none) ∧
      (¬Screened classes expression →
        bestFit classes encoding library expression network =
          (classifyType classes expression descriptor.descType).toOption) := by
  rw [bestFit_eq unwrapped, classifyExpression, accepted]
  by_cases address : matchesAtStart classes addressClassifier expression = true
  · rw [if_pos address]
    exact ⟨fun _ => rfl, fun clear => absurd (.inl address) clear⟩
  · rw [if_neg address]
    simp only [singlePath, Bool.false_eq_true, if_false]
    by_cases lsp : found classes (lspPattern classes) expression = true
    · rw [if_pos lsp]
      exact ⟨fun _ => rfl, fun clear => absurd (.inr (.inl lsp)) clear⟩
    · rw [if_neg lsp]
      by_cases unsupported : found classes unsupportedFragment expression = true
      · rw [if_pos unsupported]
        exact ⟨fun _ => rfl, fun clear => absurd (.inr (.inr unsupported)) clear⟩
      · rw [if_neg unsupported]
        refine ⟨?_, fun _ => rfl⟩
        rintro (first | second | third)
        · exact absurd first address
        · exact absurd second lsp
        · exact absurd third unsupported

/-- What the classifier finds for an accepted descriptor, in terms of its tests. -/
theorem bestFit_iff (unwrapped : Unwrapped classes encoding expression)
    {descriptor : BdkDescriptor} (accepted : library.descriptor expression network = .ok descriptor)
    (singlePath : descriptor.isMultipath = false) :
    (bestFit classes encoding library expression network = some .vault ↔
        ¬Screened classes expression ∧ RoutedToVault classes expression descriptor.descType) ∧
      (bestFit classes encoding library expression network = some .purse ∨
          bestFit classes encoding library expression network = some .strongbox ↔
        ¬Screened classes expression ∧ RoutedToSingleKey classes expression descriptor.descType) ∧
      ((bestFit classes encoding library expression network).isSome = true ↔
        ¬Screened classes expression ∧
          (RoutedToVault classes expression descriptor.descType ∨
            RoutedToSingleKey classes expression descriptor.descType)) := by
  obtain ⟨refused, routed⟩ :=
    bestFit_of_accepted unwrapped accepted singlePath
  by_cases screened : Screened classes expression
  · rw [refused screened]
    simp [screened]
  · rw [routed screened]
    rcases classifyType_cases classes expression descriptor.descType with
      ⟨vault, notSingle, type⟩ | ⟨single, notVault, type⟩ | ⟨notVault, notSingle, type⟩
    · simp [type, screened, vault, notSingle, Except.toOption]
    · rcases singleKeyFit_cases classes expression with fit | fit <;>
        simp [type, fit, screened, single, notVault, Except.toOption]
    · simp [type, notVault, notSingle, Except.toOption]

/-- The three comparisons, on the tests alone. -/
theorem tests_agree_iff (classes : CharClasses) (expression : String) (descType : DescriptorType) :
    ((¬Screened classes expression ∧ (RoutedToVault classes expression descType ∨
            RoutedToSingleKey classes expression descType) ↔
          ParseAccepts classes expression true descType) ∧
        (¬Screened classes expression ∧ RoutedToVault classes expression descType ↔
          ParseAccepts classes expression true descType ∧
            VaultShaped classes expression descType) ∧
        (¬Screened classes expression ∧ RoutedToSingleKey classes expression descType ↔
          ParseAccepts classes expression false descType)) ↔
      RoutedAlike classes expression descType := by
  by_cases screened : Screened classes expression
  · cases descType with
    | sh =>
        cases unsupported : found classes unsupportedFragment expression <;>
        cases multisig : found classes (multisigThreshold classes) expression <;>
          simp [RoutedAlike, RoutedToVault, RoutedToSingleKey, ParseAccepts, VaultShaped, screened,
            unsupported, multisig]
    | wsh =>
        cases unsupported : found classes unsupportedFragment expression <;>
          simp [RoutedAlike, RoutedToVault, RoutedToSingleKey, ParseAccepts, VaultShaped, screened,
            unsupported]
    | tr =>
        by_cases taproot : TaprootVault classes expression <;>
        cases unsupported : found classes unsupportedFragment expression <;>
          simp [RoutedAlike, RoutedToVault, RoutedToSingleKey, ParseAccepts, VaultShaped, screened,
            unsupported, taproot]
    | _ => simp [RoutedAlike, RoutedToVault, RoutedToSingleKey, ParseAccepts, VaultShaped, screened]
  · have clear : found classes unsupportedFragment expression = false := by
      rw [Bool.eq_false_iff]
      exact fun unsupported => screened (.inr (.inr unsupported))
    cases descType with
    | sh =>
        cases multisig : found classes (multisigThreshold classes) expression <;>
          simp [RoutedAlike, RoutedToVault, RoutedToSingleKey, ParseAccepts, VaultShaped, screened,
            clear, multisig]
    | tr =>
        by_cases taproot : TaprootVault classes expression <;>
          simp [RoutedAlike, RoutedToVault, RoutedToSingleKey, ParseAccepts, VaultShaped, screened,
            clear, taproot]
    | _ =>
        simp [RoutedAlike, RoutedToVault, RoutedToSingleKey, ParseAccepts, VaultShaped, screened,
          clear]

/-- When the classification and the parser agree on what the library accepts. -/
theorem accepted_agrees_iff (plain : PlainExpression classes encoding expression)
    {descriptor : BdkDescriptor} (accepted : library.descriptor expression network = .ok descriptor)
    (singlePath : descriptor.isMultipath = false) :
    ClassificationAgrees classes encoding library expression network ↔
      RoutedAlike classes expression descriptor.descType := by
  obtain ⟨vault, single, some⟩ :=
    bestFit_iff plain.unwrapped accepted singlePath
  have gate : (∃ parsed, parse classes library expression network true = .ok parsed ∧
      parsed.isVaultShape = true) ↔
        ParseAccepts classes expression true descriptor.descType ∧
          VaultShaped classes expression descriptor.descType := by
    rw [parse_of_accepted plain.fits accepted, ← parseDescriptor_isOk_iff singlePath true]
    cases result : parseDescriptor classes expression descriptor true with
    | error error => simp [Except.isOk, Except.toBool]
    | ok parsed => simp [Except.isOk, Except.toBool, isVaultShape_iff singlePath result]
  rw [← tests_agree_iff, ← vault, ← single, ← some, ← gate,
    ← parseDescriptor_isOk_iff singlePath true, ← parseDescriptor_isOk_iff singlePath false,
    ← parse_of_accepted plain.fits accepted, ← parse_of_accepted plain.fits accepted]
  constructor
  · rintro ⟨parsed, vault, single⟩
    exact ⟨parsed, vault, single⟩
  · rintro ⟨parsed, vault, single⟩
    exact ⟨parsed, vault, single⟩

/-- What nothing accepts, nothing disagrees on. -/
theorem agrees_of_refused
    (nothing : bestFit classes encoding library expression network = none)
    (refused : ∀ allowMultisig,
      (parse classes library expression network allowMultisig).isOk = false) :
    ClassificationAgrees classes encoding library expression network := by
  refine ⟨?_, ?_, ?_⟩
  · rw [nothing, refused]
    exact Iff.rfl
  · rw [nothing]
    refine iff_of_false (by simp) ?_
    rintro ⟨parsed, accepted, -⟩
    have never := refused true
    rw [accepted] at never
    cases never
  · rw [nothing, refused]
    exact iff_of_false (by simp) Bool.false_ne_true

/-- Classification, parsing and creation agree on an expression exactly when the library refuses it,
    or calls it multipath, or their tests come to the same for the type it reports. -/
theorem classificationAgrees_iff (plain : PlainExpression classes encoding expression) :
    ClassificationAgrees classes encoding library expression network ↔
      ∀ descriptor, library.descriptor expression network = .ok descriptor →
        descriptor.isMultipath = false → RoutedAlike classes expression descriptor.descType := by
  cases answer : library.descriptor expression network with
  | error text =>
      have nothing : bestFit classes encoding library expression network = none := by
        rw [bestFit_eq plain.unwrapped, classifyExpression, answer]
        split
        · rfl
        · rfl
      refine iff_of_true (agrees_of_refused nothing (parse_of_refused answer)) ?_
      intro descriptor accepted
      cases accepted
  | ok descriptor =>
      cases path : descriptor.isMultipath with
      | false =>
          rw [accepted_agrees_iff plain answer path]
          constructor
          · intro alike other same _
            cases same
            exact alike
          · intro alike
            exact alike descriptor rfl path
      | true =>
          have nothing : bestFit classes encoding library expression network = none :=
            bestFit_of_multipath plain.unwrapped answer path
          have refused : ∀ allowMultisig,
              (parse classes library expression network allowMultisig).isOk = false := by
            intro allowMultisig
            rw [parse_of_accepted plain.fits answer, parseDescriptor, if_pos path]
            rfl
          refine iff_of_true (agrees_of_refused nothing refused) ?_
          intro other same single
          cases same
          rw [path] at single
          cases single

/-- A `wsh` descriptor of one plain key. -/
def plainKeyScript : String :=
  "wsh(pk(02c6047f9441ed7d6d3045406e95c07cd85c778e4b8cef3ca7abac09b95c709ee5))"

/-- A library that accepts every text as a `wsh` descriptor. -/
def scriptLibrary : DescriptorLibrary where
  descriptor text _ := .ok ⟨.wsh, false, text, text⟩
  deriveAddress text _ _ := text

theorem plainExpression_plainKeyScript :
    PlainExpression .ascii ⟨.ok, .ok⟩ plainKeyScript where
  stripped := by decide
  nonempty := by decide
  short := by decide
  notBareKey := by decide

/-- The equivalence for a `wsh` descriptor of one plain key. -/
theorem classificationAgrees_plainKeyScript :
    ClassificationAgrees .ascii ⟨.ok, .ok⟩ scriptLibrary plainKeyScript .mainnet ↔
      ∀ descriptor, scriptLibrary.descriptor plainKeyScript .mainnet = .ok descriptor →
        descriptor.isMultipath = false → RoutedAlike .ascii plainKeyScript descriptor.descType :=
  classificationAgrees_iff plainExpression_plainKeyScript

/-- The classifier calls a `wsh` descriptor of one plain key a vault, and `create_vault` refuses
    it. -/
theorem plainKeyScript_disagrees :
    ¬∀ classes encoding library expression network, PlainExpression classes encoding expression →
      ClassificationAgrees classes encoding library expression network := by
  intro agrees
  have alike := (accepted_agrees_iff plainExpression_plainKeyScript rfl rfl).mp
    (agrees .ascii ⟨.ok, .ok⟩ scriptLibrary plainKeyScript .mainnet plainExpression_plainKeyScript)
  have unsupported : found .ascii unsupportedFragment plainKeyScript = false := by decide
  have multisig : found .ascii (multisigThreshold .ascii) plainKeyScript = false := by
    decide
  have timelock : (extractTimelock .ascii plainKeyScript).isSome = false := by decide
  rcases alike with fragment | ⟨-, clause | lock⟩
  · rw [unsupported] at fragment
    cases fragment
  · rw [multisig] at clause
    cases clause
  · rw [timelock] at lock
    cases lock

end TallyKeep
