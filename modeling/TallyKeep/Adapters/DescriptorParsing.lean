/-
Module: TallyKeep.Adapters.DescriptorParsing
Layer: Adapters
Purpose: `DescriptorAdapter.parse`, `derive_addresses` and `classify_descriptor`: what is read off a
  descriptor's text, and which descriptors are accepted where.
Trusted boundary: translation of `adapters/descriptor_adapter.py`.  The descriptor
  library (`bdkpython`) is a parameter: what it answers for a text and a network, and the address it
  derives at an index.  So is the re-encoding of an extended key with another version prefix
Main exports: DescriptorType, BdkDescriptor, DescriptorLibrary, TimelockKind, ParsedDescriptor,
  extractTimelock, parse, deriveAddresses, RejectionCategory, ClassifiedDescriptor,
  classifyDescriptor
-/
import TallyKeep.Domain
import TallyKeep.Library.Regex

namespace TallyKeep

open Regex

/-! ### The descriptor library -/

inductive DescriptorType where
  | bare
  | sh
  | pkh
  | wpkh
  | wsh
  | shWsh
  | shWpkh
  | shSortedMulti
  | wshSortedMulti
  | shWshSortedMulti
  | tr
deriving Repr, DecidableEq

/-- The name of a descriptor type, as error messages quote it. -/
def DescriptorType.name : DescriptorType → String
  | .bare => "BARE"
  | .sh => "SH"
  | .pkh => "PKH"
  | .wpkh => "WPKH"
  | .wsh => "WSH"
  | .shWsh => "SH_WSH"
  | .shWpkh => "SH_WPKH"
  | .shSortedMulti => "SH_SORTED_MULTI"
  | .wshSortedMulti => "WSH_SORTED_MULTI"
  | .shWshSortedMulti => "SH_WSH_SORTED_MULTI"
  | .tr => "TR"

/-- A `bdk.Descriptor`: what its methods answer. -/
structure BdkDescriptor where
  descType : DescriptorType
  isMultipath : Bool
  canonical : String
  descriptorId : String
deriving DecidableEq

/-- The calls of `bdkpython`; an error carries the exception's text. -/
structure DescriptorLibrary where
  descriptor : String → Network → Except String BdkDescriptor
  deriveAddress : String → Network → Nat → String

/-! ### Patterns -/

namespace DescriptorPatterns

variable (classes : CharClasses)

def spaces : Pattern := .star (.char classes.space)

/-- `\s*(\d+)\s*`. -/
def spacedNumber : Pattern :=
  .sequence [spaces classes, .group (.plus (.char classes.digit)), spaces classes]

/-- `_MULTISIG_THRESHOLD_RE`. -/
def multisigThreshold : Pattern :=
  .sequence [.optional (.text "sorted"), .text "multi", .optional (.text "_a"), .text "(",
    spacedNumber classes, .text ","]

/-- `_XPUB_RE`. -/
def xpub : Pattern :=
  .sequence [.between (.char Char.isAlpha) 1 4, .text "pub", .plus (.char Char.isAlphanum)]

/-- `_TIMELOCK_AFTER_RE`. -/
def timelockAfter : Pattern := .sequence [.text "after(", spacedNumber classes, .text ")"]

/-- `_TIMELOCK_OLDER_RE`. -/
def timelockOlder : Pattern := .sequence [.text "older(", spacedNumber classes, .text ")"]

def isHexDigit (c : Char) : Bool :=
  c.isDigit || decide ('a' ≤ c ∧ c ≤ 'f') || decide ('A' ≤ c ∧ c ≤ 'F')

/-- `_FINGERPRINT_RE`. -/
def fingerprint : Pattern :=
  .sequence [.text "[", .group (.between (.char isHexDigit) 8 8),
    .char fun c => decide (c = '/' ∨ c = ']')]

/-- `_TAPROOT_MULTISIG_RE`. -/
def taprootMultisig : Pattern := .sequence [.optional (.text "sorted"), .text "multi_a("]

/-- `_UNSUPPORTED_FRAGMENT_RE`. -/
def unsupportedFragment : Pattern :=
  .anyOf
    [.sequence [.boundary, .text "or_", .char fun c => decide (c ∈ ['i', 'd', 'c', 'b']), .text "("],
      .sequence [.boundary, .text "thresh("],
      .sequence [.boundary, .text "sha256("],
      .sequence [.boundary, .text "hash256("],
      .sequence [.boundary, .text "ripemd160("],
      .sequence [.boundary, .text "hash160("]]

/-- `[^)]+`. -/
def untilParenthesis : Pattern := .plus (.char fun c => decide (c ≠ ')'))

/-- `_LSP_PATTERN_RE`. -/
def lspPattern : Pattern :=
  let s := spaces classes
  .sequence
    [.boundary, .text "or_", .char fun c => decide (c ∈ ['d', 'c', 'i', 'b']), s, .text "(", s,
      .text "pk", s, .text "(", untilParenthesis, .text ")", s, .text ",", s, .text "and_v", s,
      .text "(", s, .text "v:pk", s, .text "(", untilParenthesis, .text ")", s, .text ",", s,
      .text "older", s, .text "(", s, .plus (.char classes.digit), s, .text ")", s, .text ")", s,
      .text ")"]

/-- `[a-zA-HJ-NP-Z0-9]`. -/
def isBech32Char (c : Char) : Bool :=
  c.isAlphanum && !decide (c ∈ ['I', 'O'])

/-- `[a-km-zA-HJ-NP-Z1-9]`. -/
def isBase58Char (c : Char) : Bool :=
  c.isAlphanum && !decide (c ∈ ['l', 'I', 'O', '0'])

/-- `_ADDRESS_PATTERN_CLASSIFIER`. -/
def addressClassifier : Pattern :=
  .seq
    (.anyOf
      [.sequence [.text "bc1", .between (.char isBech32Char) 6 87],
        .sequence [.text "tb1", .between (.char isBech32Char) 6 87],
        .sequence [.text "bcrt1", .between (.char isBech32Char) 6 87],
        .sequence [.char fun c => decide (c ∈ ['1', '3', 'm', 'n', '2']),
          .between (.char isBase58Char) 24 34]])
    .atEnd

end DescriptorPatterns

open DescriptorPatterns

/-! ### Bare keys -/

/-- `_recode_extended_key_version` for the version prefixes of `xpub` and of `tpub`; an error is a
    `ValueError` or a `KeyError`. -/
structure KeyEncoding where
  toXpub : String → Except PyError String
  toTpub : String → Except PyError String

variable (classes : CharClasses)

/-- `str.strip`. -/
def strip (text : String) : String :=
  String.ofList (((text.toList.dropWhile classes.space).reverse.dropWhile classes.space).reverse)

/-- A key inside `wpkh`, or nested in `sh`, on its two branches. -/
def wrapped (opening closing key : String) : String × String :=
  (opening ++ key ++ "/0/*" ++ closing, opening ++ key ++ "/1/*" ++ closing)

/-- `_auto_wrap_bare_key`. -/
def autoWrapBareKey (encoding : KeyEncoding) (expression : String) : Option (String × String) :=
  let s := strip classes expression
  if s = "" ∨ s.toList.any (fun c => decide (c ∈ ['(', ')', '[', ']', '/'])) then none
  else
    let lo := String.ofList (s.toList.map Char.toLower)
    if lo.startsWith "zpub" then (encoding.toXpub s).toOption.map (wrapped "wpkh(" ")")
    else if lo.startsWith "ypub" then (encoding.toXpub s).toOption.map (wrapped "sh(wpkh(" "))")
    else if lo.startsWith "xpub" then some (wrapped "wpkh(" ")" s)
    else if lo.startsWith "vpub" then (encoding.toTpub s).toOption.map (wrapped "wpkh(" ")")
    else if lo.startsWith "upub" then (encoding.toTpub s).toOption.map (wrapped "sh(wpkh(" "))")
    else if lo.startsWith "tpub" then some (wrapped "wpkh(" ")" s)
    else none

/-! ### What is read off a text -/

inductive TimelockKind where
  | cltv
  | csv
deriving Repr, DecidableEq

/-- The wire value of a kind of timelock. -/
def TimelockKind.value : TimelockKind → String
  | .cltv => "cltv"
  | .csv => "csv"

/-- `int(m.group(1))`. -/
def firstNumber (stop : Position) : Nat := number classes (stop.groups.getD 0 [])

/-- `_extract_multisig_params`. -/
def extractMultisigParams (expression : String) (isTaprootMultisig : Bool) :
    Option Nat × Option Nat :=
  match search classes (multisigThreshold classes) expression with
  | none => (none, none)
  | some stop =>
      let keys := (findAll classes xpub expression).length
      -- The internal key of a taproot output is no signer.
      let total := if isTaprootMultisig then keys - 1 else keys
      (some (firstNumber classes stop), if 0 < total then some total else none)

/-- `_extract_timelock`. -/
def extractTimelock (expression : String) : Option (TimelockKind × Nat) :=
  match search classes (timelockAfter classes) expression with
  | some stop => some (.cltv, firstNumber classes stop)
  | none =>
      match search classes (timelockOlder classes) expression with
      | some stop => some (.csv, firstNumber classes stop)
      | none => none

/-- `_extract_fingerprints`. -/
def extractFingerprints (expression : String) : List String :=
  ((findAll classes fingerprint expression).map fun stop =>
      String.ofList ((stop.groups.getD 0 []).map Char.toLower)).foldl
    (fun seen text => if text ∈ seen then seen else seen ++ [text]) []

/-! ### `parse` -/

structure ParsedDescriptor where
  expression : String
  canonicalExpression : String
  addressType : AddressType
  descriptorId : String
  isMultipath : Bool
  isMultisig : Bool
  requiredSigners : Option Nat
  totalSigners : Option Nat
  timelock : Option (TimelockKind × Nat)
  cosignerFingerprints : List String
deriving DecidableEq

/-- `_SINGLE_KEY_TYPES`. -/
def singleKeyTypes : List DescriptorType := [.pkh, .wpkh, .shWpkh, .tr]

/-- `_MULTISIG_TYPES`. -/
def multisigTypes : List DescriptorType := [.shSortedMulti, .wshSortedMulti, .shWshSortedMulti]

/-- `_MINISCRIPT_TYPES`. -/
def miniscriptTypes : List DescriptorType := [.wsh, .sh]

/-- `_BDK_TYPE_TO_ADDRESS_TYPE`; the types it has no entry for are never looked up. -/
def bdkTypeToAddressType : DescriptorType → AddressType
  | .pkh => .legacy
  | .shWpkh => .nestedSegwit
  | .wpkh => .nativeSegwit
  | .tr => .taproot
  | .shSortedMulti => .p2shMultisig
  | .wshSortedMulti => .p2wsh
  | .shWshSortedMulti => .p2shP2wsh
  | .wsh => .p2wsh
  | .sh => .p2shMultisig
  | .bare => .legacy
  | .shWsh => .p2shP2wsh

/-- The refusal of branching and hash-lock fragments. -/
def unsupportedFragmentError : PyError :=
  ⟨.unsupportedDescriptorError,
    "Descriptor contains branching or hash-lock fragments " ++
      "(or_i / or_d / or_c / or_b / thresh / sha256 / hash256 / " ++
      "ripemd160 / hash160) that are not in the v1 Vault accept " ++
      "set. This is an unsupported descriptor form."⟩

/-- The result for a descriptor with multisig or timelock facts. -/
def parsedVault (expression : String) (descriptor : BdkDescriptor) (addressType : AddressType)
    (isMultisig : Bool) (signers : Option Nat × Option Nat) : ParsedDescriptor where
  expression := expression
  canonicalExpression := descriptor.canonical
  addressType := addressType
  descriptorId := descriptor.descriptorId
  isMultipath := false
  isMultisig := isMultisig
  requiredSigners := signers.1
  totalSigners := signers.2
  timelock := extractTimelock classes expression
  cosignerFingerprints := extractFingerprints classes expression

/-- The result for a single-key descriptor. -/
def parsedSingleKey (expression : String) (descriptor : BdkDescriptor) : ParsedDescriptor where
  expression := expression
  canonicalExpression := descriptor.canonical
  addressType := bdkTypeToAddressType descriptor.descType
  descriptorId := descriptor.descriptorId
  isMultipath := false
  isMultisig := false
  requiredSigners := none
  totalSigners := none
  timelock := none
  cosignerFingerprints := []

/-- `parse` on the sorted multisig types. -/
def parseMultisig (expression : String) (descriptor : BdkDescriptor) (allowMultisig : Bool) :
    Except PyError ParsedDescriptor :=
  if allowMultisig = false then
    .error ⟨.unsupportedDescriptorError,
      "Descriptor type " ++ descriptor.descType.name ++ " is a multisig descriptor " ++
        "and is not accepted here. Multisig descriptors are only " ++
        "valid for Vault holdings."⟩
  else .ok
    (parsedVault classes expression descriptor (bdkTypeToAddressType descriptor.descType) true
      (extractMultisigParams classes expression false))

/-- `parse` on `wsh` and `sh`. -/
def parseMiniscript (expression : String) (descriptor : BdkDescriptor) (allowMultisig : Bool) :
    Except PyError ParsedDescriptor :=
  let isMultisigExpr := found classes (multisigThreshold classes) expression
  if allowMultisig = false then
    .error ⟨.unsupportedDescriptorError,
      "Descriptor type " ++ descriptor.descType.name ++ " is a Vault descriptor " ++
        "(multisig or timelock) and is not accepted here. Vault " ++
        "descriptors are only valid for Vault holdings."⟩
  else if found classes unsupportedFragment expression then .error unsupportedFragmentError
  else if descriptor.descType = .sh ∧ isMultisigExpr = false then
    .error ⟨.unsupportedDescriptorError,
      "sh() descriptors without a multi/sortedmulti clause are not " ++
        "supported. Use wsh() or one of the standard multisig wrappers."⟩
  else .ok
    (parsedVault classes expression descriptor (bdkTypeToAddressType descriptor.descType)
      isMultisigExpr
      (if isMultisigExpr then extractMultisigParams classes expression false
        else (some 1, some 1)))

/-- `parse` on `tr`. -/
def parseTaproot (expression : String) (descriptor : BdkDescriptor) (allowMultisig : Bool) :
    Except PyError ParsedDescriptor :=
  let hasTaprootMultisig := found classes taprootMultisig expression
  if (extractTimelock classes expression).isSome ∨ hasTaprootMultisig = true then
    if allowMultisig = false then
      .error ⟨.unsupportedDescriptorError,
        "Taproot descriptors with a timelock or multi_a clause are " ++
          "Vault descriptors and are not accepted here. Set this up " ++
          "as a Vault instead."⟩
    else if found classes unsupportedFragment expression then .error unsupportedFragmentError
    else .ok
      (parsedVault classes expression descriptor .taproot hasTaprootMultisig
        (if hasTaprootMultisig then extractMultisigParams classes expression true
          else (some 1, some 1)))
  else .ok (parsedSingleKey expression descriptor)

/-- `parse` after the library's answer. -/
def parseDescriptor (expression : String) (descriptor : BdkDescriptor) (allowMultisig : Bool) :
    Except PyError ParsedDescriptor :=
  if descriptor.isMultipath then
    .error ⟨.unsupportedDescriptorError,
      "Multipath descriptors (\x60<0;1>\x60 shorthand) are not supported. " ++
        "Provide the external and change descriptors separately."⟩
  else if descriptor.descType ∈ multisigTypes then
    parseMultisig classes expression descriptor allowMultisig
  else if descriptor.descType ∈ miniscriptTypes then
    parseMiniscript classes expression descriptor allowMultisig
  else if descriptor.descType ∉ singleKeyTypes then
    .error ⟨.unsupportedDescriptorError,
      "Descriptor type " ++ descriptor.descType.name ++ " is not supported. " ++
        "Bare scripts and other exotic forms are not accepted."⟩
  else if descriptor.descType = .tr then
    parseTaproot classes expression descriptor allowMultisig
  else .ok (parsedSingleKey expression descriptor)

/-- `parse`. -/
def parse (library : DescriptorLibrary) (expression : String) (network : Network)
    (allowMultisig : Bool) : Except PyError ParsedDescriptor :=
  if expression = "" ∨ 4096 < expression.length then
    .error ⟨.descriptorParseError,
      "Descriptor expression must be 1..4096 characters (defense against " ++
        "spec module 10 S6 — malicious descriptor as input)."⟩
  else
    match library.descriptor expression network with
    | .error text =>
        .error ⟨.descriptorParseError, "bdkpython failed to parse descriptor: " ++ text⟩
    | .ok descriptor => parseDescriptor classes expression descriptor allowMultisig

/-- `derive_addresses`: the addresses at the first indices. -/
def deriveAddresses (library : DescriptorLibrary) (expression : String) (network : Network)
    (count : Nat) (allowMultisig : Bool) : Except PyError (List (String × Nat)) :=
  (parse classes library expression network allowMultisig).map fun _ =>
    (List.range count).map fun index => (library.deriveAddress expression network index, index)

/-! ### `classify_descriptor` -/

inductive RejectionCategory where
  | unparseable
  | singleAddressInput
  | lspCoordinatedWallet
  | multiPathMiniscript
  | unsupportedForm
deriving Repr, DecidableEq

structure ClassifiedDescriptor where
  bestFit : Option HoldingType
  rejectionCategory : Option RejectionCategory
  canonicalExpression : Option String
  canonicalChangeExpression : Option String
deriving DecidableEq

/-- The routing of an expression: a holding type, or why there is none. -/
abbrev Routing := Except RejectionCategory HoldingType

/-- The routing of the single-key descriptors: key-origin metadata makes the difference. -/
def singleKeyFit (expression : String) : HoldingType :=
  if found classes fingerprint expression then .strongbox else .purse

/-- Step 6: by the type the library reports. -/
def classifyType (expression : String) (descType : DescriptorType) : Routing :=
  if descType = .tr then
    if (extractTimelock classes expression).isSome ∨
        found classes taprootMultisig expression = true then .ok .vault
    else .ok (singleKeyFit classes expression)
  else if descType ∈ singleKeyTypes then .ok (singleKeyFit classes expression)
  else if descType ∈ multisigTypes ∨ descType ∈ miniscriptTypes then
    if descType = .sh ∧ found classes (multisigThreshold classes) expression = false then
      .error .unsupportedForm
    else .ok .vault
  else .error .unsupportedForm

/-- Steps 2 to 6, on an expression that is wrapped where that applies. -/
def classifyExpression (library : DescriptorLibrary) (expression : String) (network : Network) :
    Routing :=
  if matchesAtStart classes addressClassifier expression then .error .singleAddressInput
  else
    match library.descriptor expression network with
    | .error _ => .error .unparseable
    | .ok descriptor =>
        if descriptor.isMultipath then .error .unsupportedForm
        else if found classes (lspPattern classes) expression then .error .lspCoordinatedWallet
        else if found classes unsupportedFragment expression then .error .multiPathMiniscript
        else classifyType classes expression descriptor.descType

/-- `classify_descriptor`. -/
def classifyDescriptor (encoding : KeyEncoding) (library : DescriptorLibrary) (raw : String)
    (network : Network) : ClassifiedDescriptor :=
  let stripped := strip classes raw
  let wrapping := autoWrapBareKey classes encoding stripped
  let routing := classifyExpression classes library ((wrapping.map Prod.fst).getD stripped) network
  { bestFit := routing.toOption
    rejectionCategory :=
      match routing with
      | .error category => some category
      | .ok _ => none
    canonicalExpression := wrapping.map Prod.fst
    canonicalChangeExpression := wrapping.map Prod.snd }

end TallyKeep
