/-
Module: TallyKeep.Proofs.MultisigParameters
Layer: Proofs
Purpose: Which threshold and how many keys `parse` and the analysis read off the text of a tree with
  one multisig clause.
Trusted boundary: none
Main exports: parseDescriptor_signers, extractMultisigParams_tree, readsClause_iff
-/
import TallyKeep.Proofs.ClauseTexts
import TallyKeep.Proofs.ShownKeys
import TallyKeep.Proofs.VaultAcceptSet

namespace TallyKeep

open CallText Regex DescriptorPatterns

variable {classes : CharClasses}

/-! ### What `parse` returns -/

section Parse

variable {expression : String} {bdk : BdkDescriptor} {allowMultisig : Bool}
  {parsed : ParsedDescriptor}

/-- A parsed multisig has the parameters of its text. -/
theorem parseMultisig_signers
    (accepted : parseMultisig classes expression bdk allowMultisig = .ok parsed) :
    (parsed.requiredSigners, parsed.totalSigners) =
      extractMultisigParams classes expression false := by
  rw [parseMultisig] at accepted
  split at accepted
  · cases accepted
  · cases accepted
    rfl

/-- A parsed miniscript has the parameters of its text. -/
theorem parseMiniscript_signers
    (accepted : parseMiniscript classes expression bdk allowMultisig = .ok parsed)
    (multisig : parsed.isMultisig = true) :
    (parsed.requiredSigners, parsed.totalSigners) =
      extractMultisigParams classes expression false := by
  rw [(parseMiniscript_facts accepted).1] at multisig
  rw [parseMiniscript] at accepted
  split at accepted
  · cases accepted
  · split at accepted
    · cases accepted
    · split at accepted
      · cases accepted
      · cases accepted
        rfl

/-- A parsed taproot multisig has the parameters of its text. -/
theorem parseTaproot_signers
    (accepted : parseTaproot classes expression bdk allowMultisig = .ok parsed)
    (multisig : parsed.isMultisig = true) :
    (parsed.requiredSigners, parsed.totalSigners) =
      extractMultisigParams classes expression true := by
  rw [(parseTaproot_facts accepted).1] at multisig
  rw [parseTaproot] at accepted
  split at accepted
  · split at accepted
    · cases accepted
    · split at accepted
      · cases accepted
      · cases accepted
        rfl
  · next plain => exact absurd (.inr multisig) plain

/-- The signers of whatever is accepted as multisig are read off the text, for `tr` with the
    internal key taken off. -/
theorem parseDescriptor_signers
    (accepted : TallyKeep.parseDescriptor classes expression bdk allowMultisig = .ok parsed)
    (multisig : parsed.isMultisig = true) :
    (parsed.requiredSigners, parsed.totalSigners) =
      extractMultisigParams classes expression (decide (bdk.descType = .tr)) := by
  have single : ∀ {parsed : ParsedDescriptor}, parsedSingleKey expression bdk = parsed →
      parsed.isMultisig = false := by
    intro parsed same
    rw [← same]
    rfl
  rw [TallyKeep.parseDescriptor] at accepted
  split at accepted
  · cases accepted
  · split at accepted
    · next listed =>
        rw [decide_eq_false (by intro tap; rw [tap] at listed; exact absurd listed (by decide))]
        exact parseMultisig_signers accepted
    · split at accepted
      · next listed =>
          rw [decide_eq_false (by intro tap; rw [tap] at listed; exact absurd listed (by decide))]
          exact parseMiniscript_signers accepted multisig
      · split at accepted
        · cases accepted
        · split at accepted
          · next tap =>
              rw [decide_eq_true tap]
              exact parseTaproot_signers accepted multisig
          · rw [single (Except.ok.inj accepted)] at multisig
            cases multisig

end Parse

/-! ### The law -/

section Law

variable {library : DescriptorLibrary} {network : Network} {descriptor : Descriptor}
  {checksum : Option Operand} {clause : MultisigClause} {mark : Char} {forms : List KeyExpression}
  {parsed : ParsedDescriptor}

/-- What `_extract_multisig_params` returns on a tree with one clause: its threshold, and the number
    of all extended keys of the tree. -/
theorem extractMultisigParams_tree (one : descriptor.clauses = [clause])
    (standard : StandardForm descriptor checksum mark forms) (taproot : Bool) :
    let keys := forms.countP fun form => isExtendedKey form.key.text
    let total := if taproot then keys - 1 else keys
    extractMultisigParams classes (descriptor.text checksum) taproot =
      (some clause.threshold, if 0 < total then some total else none) := by
  have known : ∃ fragment ∈ descriptor.fragments, fragment.isMulti = true := by
    have shown : clause.head ∈ multiHeads descriptor.expr := by
      rw [descriptor.multiHeads_eq, one]
      exact List.mem_singleton_self _
    obtain ⟨head, named⟩ := List.mem_filter.mp shown
    have listed := List.contains_iff_mem.mp named
    rcases descriptor.shows.known _ head with ⟨fragment, known, heads⟩ | ⟨outer, known, same⟩
    · rw [heads.1] at listed
      exact ⟨fragment, known, Fragment.mem_multiNames_iff.mp listed⟩
    · rw [same] at listed
      exact absurd listed (outer_not_mem_multiNames known)
  obtain ⟨stop, result⟩ := Option.isSome_iff_exists.mp
    ((@Descriptor.found_threshold_iff classes descriptor checksum).mpr known)
  have found : (findAll classes xpub (descriptor.text checksum)).length =
      forms.countP fun form => isExtendedKey form.key.text := by
    rw [← standard.keysIn_text]
    rfl
  rw [extractMultisigParams, result]
  simp only [found, Descriptor.firstNumber_threshold checksum one result]

/-- `parse` and the analysis read the clause right exactly when the extended keys of the tree are as
    many as the keys of the clause, and one more in a taproot output. -/
theorem readsClause_iff (one : descriptor.clauses = [clause])
    (typed : 0 < clause.threshold ∧ clause.threshold ≤ clause.keys.length)
    (standard : StandardForm descriptor checksum mark forms)
    (reports : Reports library network descriptor checksum)
    (run : parse classes library (descriptor.text checksum) network true = .ok parsed)
    (multisig : parsed.isMultisig = true) :
    ReadsClause classes clause parsed (descriptor.text checksum) ↔
      (forms.countP fun form => isExtendedKey form.key.text) =
        clause.keys.length + if descriptor.descType = .tr then 1 else 0 := by
  have some : 0 < clause.keys.length := Nat.lt_of_lt_of_le typed.1 typed.2
  have surface := @parseDescriptor_multisig classes descriptor clause checksum one
    (List.ne_nil_of_length_pos some) fun key known => standard.nonempty key
      (Descriptor.mem_keys_of_clause (by rw [one]; exact List.mem_singleton_self _) key known)
  have signers : (parsed.requiredSigners, parsed.totalSigners) =
      extractMultisigParams classes (descriptor.text checksum)
        (decide (descriptor.descType = .tr)) := by
    obtain ⟨canonical, descriptorId, accepted⟩ := reports
    rw [parse] at run
    split at run
    · cases run
    · rw [accepted] at run
      exact parseDescriptor_signers run multisig
  rw [extractMultisigParams_tree one standard, Prod.mk.injEq] at signers
  obtain ⟨required, total⟩ := signers
  have law : ReadsClause classes clause parsed (descriptor.text checksum) ↔
      parsed.totalSigners = Option.some clause.keys.length :=
    ⟨ReadsClause.total, fun total => ⟨required, total, surface⟩⟩
  rw [law, total]
  generalize (forms.countP fun form => isExtendedKey form.key.text) = keys
  by_cases tap : descriptor.descType = .tr
  · simp only [tap, decide_true, if_true]
    by_cases positive : 0 < keys - 1
    · rw [if_pos positive, Option.some_inj]
      omega
    · rw [if_neg positive]
      exact iff_of_false (fun none => by cases none) (by omega)
  · simp only [tap, decide_false, Bool.false_eq_true, if_false, Nat.add_zero]
    by_cases positive : 0 < keys
    · rw [if_pos positive, Option.some_inj]
    · rw [if_neg positive]
      exact iff_of_false (fun none => by cases none) (by omega)

end Law

/-! ### Two wallets -/

/-- A library that accepts every text as a descriptor of one type. -/
def typedLibrary (descType : DescriptorType) : DescriptorLibrary where
  descriptor text _ := .ok ⟨descType, false, text, text⟩
  deriveAddress text _ _ := text

/-- An extended key as it is written, of some length. -/
structure SignerKey where
  text : List Char
  extended : isExtendedKey text = true
  short : text.length ≤ 1000

namespace SignerKey

variable (key : SignerKey)

theorem legal_text : ∀ c ∈ key.text, isOperandChar c = true :=
  fun c member => (Bool.or_eq_true _ _).mpr
    (.inl (alphanum_of_isExtendedKey key.extended c member))

/-- The key with the path `/0/*`. -/
def form : KeyExpression where
  origin := none
  key := ⟨key.text, key.legal_text⟩
  steps := [⟨0, false⟩]
  wildcard := some false

theorem form_text : key.form.text 'h' = key.text ++ ['/', '0', '/', '*'] := rfl

/-- The same as an operand. -/
def operand : Operand where
  text := key.form.text 'h'
  legal := by
    rw [form_text, List.forall_mem_append]
    exact ⟨key.legal_text, List.all_eq_true.mp (by decide)⟩

theorem single_path : '<' ∉ key.operand.text := by
  change '<' ∉ key.text ++ ['/', '0', '/', '*']
  rw [List.mem_append, not_or]
  refine ⟨fun inside => ?_, by decide⟩
  exact absurd (alphanum_of_isExtendedKey key.extended _ inside) (by decide)

theorem length_operand : key.operand.text.length ≤ 1004 := by
  change (key.text ++ ['/', '0', '/', '*']).length ≤ 1004
  rw [List.length_append]
  exact Nat.add_le_add_right key.short 4

end SignerKey

def firstKey : SignerKey where
  text := "tpubD6NzVbkrYhZ4XHndKkuB8FifXm8r5FQHwrN6oZuWCz13qb93rtgKvD4PQsqC4HP4y".toList ++
    "hV3tA2fqr2RbY5mNXfM7RxXUoeABoDtsFUq2zJq6YK".toList
  extended := by decide
  short := by decide

def secondKey : SignerKey where
  text := "tpubD6NzVbkrYhZ4XYa9MoLt4BiMZ4gkt2faZ4BcmKu2a9te4LDpQmvEz2L2yDERivHxF".toList ++
    "PnxXXhqDRkUNnQCpZggCyEZLBktV7VaSmwayqMJy1s".toList
  extended := by decide
  short := by decide

/-- The point without a known private key that disables the key path of a taproot output. -/
def unspendableKey : KeyExpression where
  origin := none
  key :=
    { text := "50929b74c1a04954b78b4b6035e97a5e078a5a0f28ec96d547bfee9ace803ac0".toList
      legal := List.all_eq_true.mp (by decide) }
  steps := []
  wildcard := none

/-- `wsh(sortedmulti(2,A/0/*,B/0/*))`. -/
def cosignedWallet (first second : SignerKey) : Descriptor :=
  .wsh (.multi .sortedMulti 2 [first.operand, second.operand])

/-- `tr(U,multi_a(2,A/0/*,B/0/*))`. -/
def scriptPathWallet (first second : SignerKey) : Descriptor :=
  .tr unspendableKey.key (some (.leaf (.multi .multiA 2 [first.operand, second.operand])))

section Wallets

variable (first second : SignerKey)

/-- The cosigned wallet is in standard form. -/
theorem standardForm_cosignedWallet :
    StandardForm (cosignedWallet first second) none 'h' [first.form, second.form] where
  marks := .inl rfl
  keys := rfl
  accepted := by
    rw [List.forall_mem_cons, List.forall_mem_singleton]
    exact ⟨.inl first.extended, .inl second.extended⟩
  digests := fun _ none => absurd none List.not_mem_nil
  checksum := fun _ none => absurd none (by simp)

/-- The script-path wallet is in standard form. -/
theorem standardForm_scriptPathWallet :
    StandardForm (scriptPathWallet first second) none 'h'
      [unspendableKey, first.form, second.form] where
  marks := .inl rfl
  keys := by
    have whole : unspendableKey.text 'h' = unspendableKey.key.text := List.append_nil _
    rw [List.map_cons, whole]
    rfl
  accepted := by
    rw [List.forall_mem_cons, List.forall_mem_cons, List.forall_mem_singleton]
    exact ⟨.inr (by decide), .inl first.extended, .inl second.extended⟩
  digests := fun _ none => absurd none List.not_mem_nil
  checksum := fun _ none => absurd none (by simp)

/-- Only the two signers have extended keys. -/
theorem extended_scriptPathWallet : ([unspendableKey, first.form, second.form].countP
    fun form => isExtendedKey form.key.text) = 2 := by
  have internal : isExtendedKey unspendableKey.key.text = false := by decide
  have signers : ([first.form, second.form].countP
      fun form => isExtendedKey form.key.text) = 2 := by
    rw [List.countP_eq_length.mpr]
    · rfl
    · rw [List.forall_mem_cons, List.forall_mem_singleton]
      exact ⟨first.extended, second.extended⟩
  rw [List.countP_cons, signers, internal]
  rfl

theorem single_cosignedWallet : (cosignedWallet first second).isMultipath = false := by
  have digits : '<' ∉ Nat.toDigits 10 2 := by decide
  have name : '<' ∉ (Fragment.multi .sortedMulti 2).name.toList := by
    rw [Fragment.name]
    decide
  rw [Descriptor.isMultipath, decide_eq_false_iff_not]
  simp [cosignedWallet, Descriptor.expr, Script.expr, Fragment.call, keyList, decimal, Expr.print,
    List.intercalate, first.single_path, second.single_path, digits, name]

theorem single_scriptPathWallet : (scriptPathWallet first second).isMultipath = false := by
  have digits : '<' ∉ Nat.toDigits 10 2 := by decide
  have name : '<' ∉ (Fragment.multi .multiA 2).name.toList := by
    rw [Fragment.name]
    decide
  have internal : '<' ∉ unspendableKey.key.text := by decide
  rw [Descriptor.isMultipath, decide_eq_false_iff_not]
  simp [scriptPathWallet, Descriptor.expr, TapTree.expr, Script.expr, Fragment.call, keyList,
    decimal, Expr.print, List.intercalate, first.single_path, second.single_path, digits, name,
    internal]

/-- Few characters are no obstacle to a tree. -/
theorem fits_of_length {descriptor : Descriptor} (short : descriptor.expr.print.length ≤ 4096) :
    ¬(descriptor.text none = "" ∨ 4096 < (descriptor.text none).length) := by
  have length : (descriptor.text none).length = descriptor.expr.print.length := by
    rw [Descriptor.text, Descriptor.checksumPart, List.append_nil, String.length_ofList]
  rintro (empty | long)
  · have parenthesis := descriptor.parenthesis_mem_text none
    rw [empty] at parenthesis
    exact absurd parenthesis (by decide)
  · omega

theorem fits_cosignedWallet :
    ¬((cosignedWallet first second).text none = "" ∨
      4096 < ((cosignedWallet first second).text none).length) := by
  have digits : (Nat.toDigits 10 2).length = 1 := rfl
  have name : (Fragment.multi .sortedMulti 2).name.toList.length = 11 := rfl
  have outer : "wsh".toList.length = 3 := rfl
  have lengths := Nat.add_le_add first.length_operand second.length_operand
  apply fits_of_length
  simp only [cosignedWallet, Descriptor.expr, Script.expr, Fragment.call, keyList, decimal,
    Expr.print, List.map_cons, List.map_nil, List.intercalate_cons_cons,
    List.intercalate_singleton, List.length_append, List.length_cons, List.length_nil, digits, name,
    outer]
  omega

theorem fits_scriptPathWallet :
    ¬((scriptPathWallet first second).text none = "" ∨
      4096 < ((scriptPathWallet first second).text none).length) := by
  have digits : (Nat.toDigits 10 2).length = 1 := rfl
  have name : (Fragment.multi .multiA 2).name.toList.length = 7 := rfl
  have outer : "tr".toList.length = 2 := rfl
  have internal : unspendableKey.key.text.length = 64 := by decide
  have lengths := Nat.add_le_add first.length_operand second.length_operand
  apply fits_of_length
  simp only [scriptPathWallet, Descriptor.expr, TapTree.expr, Script.expr, Fragment.call, keyList,
    decimal, Expr.print, List.map_cons, List.map_nil, List.intercalate_cons_cons,
    List.intercalate_singleton, List.length_append, List.length_cons, List.length_nil, digits, name,
    outer, internal]
  omega

/-- The library reports the cosigned wallet. -/
theorem reports_cosignedWallet :
    Reports (typedLibrary .wshSortedMulti) .regtest (cosignedWallet first second) none :=
  ⟨_, _, by rw [single_cosignedWallet]; rfl⟩

/-- The library reports the script-path wallet. -/
theorem reports_scriptPathWallet :
    Reports (typedLibrary .tr) .regtest (scriptPathWallet first second) none :=
  ⟨_, _, by rw [single_scriptPathWallet]; rfl⟩

/-- What `parse` returns for the wallet in `wsh`. -/
def cosignedParsed : ParsedDescriptor :=
  let text := (cosignedWallet first second).text none
  parsedVault .ascii text ⟨.wshSortedMulti, false, text, text⟩ .p2wsh true
    (extractMultisigParams .ascii text false)

/-- What the parser makes of the cosigned wallet. -/
theorem parse_cosignedWallet :
    parse .ascii (typedLibrary .wshSortedMulti) ((cosignedWallet first second).text none) .regtest
      true = .ok (cosignedParsed first second) := by
  rw [parse_of_accepted (fits_cosignedWallet first second) rfl]
  rfl

/-- The wallet in `tr` is parsed as multisig. -/
theorem parse_scriptPathWallet : ∃ parsed,
    parse .ascii (typedLibrary .tr) ((scriptPathWallet first second).text none) .regtest true =
        .ok parsed ∧
      parsed.isMultisig = true ∧
      (parsed.requiredSigners, parsed.totalSigners) =
        extractMultisigParams .ascii ((scriptPathWallet first second).text none) true := by
  have tree : ∃ fragment ∈ (scriptPathWallet first second).fragments, fragment.isMultiA = true :=
    ⟨.multi .multiA 2, List.mem_singleton_self _, rfl⟩
  have straight : ¬∃ fragment ∈ (scriptPathWallet first second).fragments,
      fragment.isBranching = true := by
    rintro ⟨fragment, member, branching⟩
    rw [List.mem_singleton.mp member] at branching
    cases branching
  have finds :=
    (@Descriptor.found_taprootMultisig_iff .ascii (scriptPathWallet first second) none).mpr tree
  have unmarked : ¬found .ascii unsupportedFragment ((scriptPathWallet first second).text none) =
      true := by
    rw [Descriptor.found_unsupported_iff]
    exact straight
  obtain ⟨parsed, accepted⟩ : ∃ parsed, parseTaproot .ascii
      ((scriptPathWallet first second).text none) ⟨.tr, false,
        (scriptPathWallet first second).text none, (scriptPathWallet first second).text none⟩ true =
          .ok parsed := by
    rw [parseTaproot, if_pos (.inr finds), if_neg (by decide), if_neg unmarked]
    exact ⟨_, rfl⟩
  have multisig : parsed.isMultisig = true := by
    rw [(parseTaproot_facts accepted).1]
    exact finds
  refine ⟨parsed, ?_, multisig, parseTaproot_signers accepted multisig⟩
  rw [parse_of_accepted (fits_scriptPathWallet first second) rfl, TallyKeep.parseDescriptor,
    if_neg Bool.false_ne_true, if_neg (show DescriptorType.tr ∉ multisigTypes by decide),
    if_neg (show DescriptorType.tr ∉ miniscriptTypes by decide),
    if_neg (show ¬DescriptorType.tr ∉ singleKeyTypes by decide), if_pos rfl]
  exact accepted

end Wallets

/-- The equivalence for two extended keys in `wsh`. -/
theorem readsClause_cosignedWallet :
    ReadsClause .ascii ⟨.sortedMulti, 2, [firstKey.operand, secondKey.operand]⟩
        (cosignedParsed firstKey secondKey) ((cosignedWallet firstKey secondKey).text none) ↔
      ([firstKey.form, secondKey.form].countP fun form => isExtendedKey form.key.text) =
        [firstKey.operand, secondKey.operand].length +
          if (cosignedWallet firstKey secondKey).descType = .tr then 1 else 0 :=
  readsClause_iff rfl ⟨by decide, by decide⟩ (standardForm_cosignedWallet firstKey secondKey)
    (reports_cosignedWallet firstKey secondKey) (parse_cosignedWallet firstKey secondKey) rfl

/-- Two of two signers behind a key path that nobody can spend are read as two of one. -/
theorem not_readsClause_of_unspendableKey :
    ¬∀ (classes : CharClasses) (library : DescriptorLibrary) (network : Network)
      (descriptor : Descriptor) (checksum : Option Operand) (clause : MultisigClause) (mark : Char)
      (forms : List KeyExpression) (parsed : ParsedDescriptor),
      descriptor.clauses = [clause] →
        0 < clause.threshold ∧ clause.threshold ≤ clause.keys.length →
        StandardForm descriptor checksum mark forms →
        Reports library network descriptor checksum →
        parse classes library (descriptor.text checksum) network true = .ok parsed →
        parsed.isMultisig = true →
          ReadsClause classes clause parsed (descriptor.text checksum) := by
  intro law
  have standard := standardForm_scriptPathWallet firstKey secondKey
  obtain ⟨parsed, run, multisig, signers⟩ := parse_scriptPathWallet firstKey secondKey
  have reads := law .ascii _ .regtest (scriptPathWallet firstKey secondKey) none _ 'h' _ parsed rfl
    ⟨by decide, by decide⟩ standard (reports_scriptPathWallet firstKey secondKey) run multisig
  rw [@extractMultisigParams_tree .ascii _ none _ _ _ rfl standard, reads.total,
    extended_scriptPathWallet] at signers
  exact absurd (Prod.mk.inj signers).2 (by decide)

end TallyKeep
