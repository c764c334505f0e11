/-
Module: TallyKeep.Proofs.WalletUniqueness
Layer: Proofs
Purpose: When a wallet is watched by one descriptor at most: the table refuses a text it has, and
  wallets are told apart by the canonical form of the library.
Trusted boundary: none
Main exports: SameWallet, WalletsOnce, ImportCall, HoldingOperation.importCalls, refused_iff,
  perform_of_refused, SpeltAsStored, walletsOnce_throughout_iff
-/
import TallyKeep.Proofs.HoldingSteps

namespace TallyKeep

open Regex Relational Transition

variable {classes : CharClasses} {library : DescriptorLibrary} {db db' : HoldingDatabase}

/-! ### Wallets -/

/-- Two expressions with one canonical form on a network. -/
def SameWallet (library : DescriptorLibrary) (network : Network) (expression other : String) :
    Prop :=
  ∃ descriptor otherDescriptor, library.descriptor expression network = .ok descriptor ∧
    library.descriptor other network = .ok otherDescriptor ∧
      descriptor.canonical = otherDescriptor.canonical

/-- Being of one wallet is symmetric. -/
theorem SameWallet.symm {network : Network} {expression other : String}
    (same : SameWallet library network expression other) :
    SameWallet library network other expression := by
  obtain ⟨descriptor, otherDescriptor, parsed, otherParsed, equal⟩ := same
  exact ⟨otherDescriptor, descriptor, otherParsed, parsed, equal.symm⟩

/-- No two descriptors on one network have one canonical form. -/
def WalletsOnce (library : DescriptorLibrary) (db : HoldingDatabase) : Prop :=
  ∀ row ∈ db.descriptors.rows, ∀ other ∈ db.descriptors.rows, row.network = other.network →
    SameWallet library row.network row.expression other.expression → row = other

/-- The canonical expression is what the library writes. -/
theorem parseDescriptor_canonical {expression : String} {descriptor : BdkDescriptor}
    {allowMultisig : Bool} {parsed : ParsedDescriptor}
    (accepted : parseDescriptor classes expression descriptor allowMultisig = .ok parsed) :
    parsed.canonicalExpression = descriptor.canonical := by
  rw [parseDescriptor] at accepted
  split at accepted
  · cases accepted
  · split at accepted
    · rw [parseMultisig] at accepted
      split at accepted
      · cases accepted
      · cases accepted
        rfl
    · split at accepted
      · rw [parseMiniscript] at accepted
        split at accepted
        · cases accepted
        · split at accepted
          · cases accepted
          · split at accepted
            · cases accepted
            · cases accepted
              rfl
      · split at accepted
        · cases accepted
        · split at accepted
          · rw [parseTaproot] at accepted
            split at accepted
            · split at accepted
              · cases accepted
              · split at accepted
                · cases accepted
                · cases accepted
                  rfl
            · cases accepted
              rfl
          · cases accepted
            rfl

/-- The canonical form is the one `parse` returns. -/
theorem sameWallet_of_parse {expression other : String} {network : Network}
    {allowMultisig otherAllow : Bool} {parsed otherParsed : ParsedDescriptor}
    (accepted : parse classes library expression network allowMultisig = .ok parsed)
    (otherAccepted : parse classes library other network otherAllow = .ok otherParsed) :
    SameWallet library network expression other ↔
      parsed.canonicalExpression = otherParsed.canonicalExpression := by
  have answered : ∀ {text : String} {allow : Bool} {result : ParsedDescriptor},
      parse classes library text network allow = .ok result →
        ∃ descriptor, library.descriptor text network = .ok descriptor ∧
          result.canonicalExpression = descriptor.canonical := by
    intro text allow result run
    rw [parse] at run
    split at run
    · cases run
    · split at run
      · cases run
      · rename_i descriptor answer
        exact ⟨descriptor, answer, parseDescriptor_canonical run⟩
  obtain ⟨descriptor, answer, canonical⟩ := answered accepted
  obtain ⟨otherDescriptor, otherAnswer, otherCanonical⟩ := answered otherAccepted
  rw [canonical, otherCanonical]
  constructor
  · rintro ⟨first, second, firstAnswer, secondAnswer, same⟩
    rw [answer] at firstAnswer
    rw [otherAnswer] at secondAnswer
    cases firstAnswer
    cases secondAnswer
    exact same
  · intro same
    exact ⟨descriptor, otherDescriptor, answer, otherAnswer, same⟩

/-! ### Imports -/

/-- An import that gets past the checks on its expressions: the tables of its moment, and what is
    written. -/
structure ImportCall where
  db : HoldingDatabase
  holdingId : Uuid
  spec : DescriptorInput
  addressType : AddressType
  allowMultisig : Bool

namespace ImportCall

/-- The row and the addresses are written. -/
def run (classes : CharClasses) (library : DescriptorLibrary) (call : ImportCall) :
    Except PyError (HoldingDatabase × Uuid) :=
  writeDescriptor classes library call.db call.holdingId call.spec call.addressType
    call.allowMultisig

/-- Nothing else is wrong with the specification. -/
structure Admissible (classes : CharClasses) (library : DescriptorLibrary) (call : ImportCall) :
    Prop where
  positive : 1 ≤ call.spec.gapLimit
  external : (parse classes library call.spec.expression call.spec.network
    call.allowMultisig).isOk = true
  change : ∀ expression ∈ call.spec.changeExpression,
    (parse classes library expression call.spec.network call.allowMultisig).isOk = true

/-- The wallet is watched on the network already. -/
def KnownWallet (library : DescriptorLibrary) (call : ImportCall) : Prop :=
  ∃ row ∈ call.db.descriptors.rows, row.network = call.spec.network ∧
    SameWallet library call.spec.network row.expression call.spec.expression

/-- The very text is stored already. -/
def KnownText (call : ImportCall) : Prop :=
  ∃ row ∈ call.db.descriptors.rows, row.expression = call.spec.expression

end ImportCall

/-- The checks `_import_descriptor` makes on the expressions. -/
def importType (classes : CharClasses) (library : DescriptorLibrary) (spec : DescriptorInput)
    (allowMultisig : Bool) : Except PyError AddressType := do
  let parsedExternal ← asServiceError "external descriptor: "
    (parse classes library spec.expression spec.network allowMultisig)
  match spec.changeExpression with
  | none => pure parsedExternal.addressType
  | some changeExpression =>
      let parsedChange ← asServiceError "change descriptor: "
        (parse classes library changeExpression spec.network allowMultisig)
      if parsedChange.addressType ≠ parsedExternal.addressType then
        throw ⟨.holdingServiceError,
          "external and change descriptors must have the same address type"⟩
      pure parsedExternal.addressType

/-- An import is its type check and then its write. -/
theorem importDescriptor_eq (db : HoldingDatabase) (holdingId : Uuid) (spec : DescriptorInput)
    (allowMultisig : Bool) :
    importDescriptor classes library db holdingId spec allowMultisig =
      importType classes library spec allowMultisig >>= fun addressType =>
        (⟨db, holdingId, spec, addressType, allowMultisig⟩ : ImportCall).run classes library := by
  rw [importDescriptor, importType]
  cases asServiceError "external descriptor: "
      (parse classes library spec.expression spec.network allowMultisig) with
  | error error => rfl
  | ok parsed =>
      cases change : spec.changeExpression with
      | none => rfl
      | some changeExpression =>
          simp only [bind, Except.bind]
          cases asServiceError "change descriptor: "
              (parse classes library changeExpression spec.network allowMultisig) with
          | error error => rfl
          | ok parsedChange =>
              simp only
              split
              · rfl
              · rfl

/-- The imports of a creation, up to the one that raises. -/
def callsOf (classes : CharClasses) (library : DescriptorLibrary) (holdingId : Uuid)
    (allowMultisig : Bool) : HoldingDatabase → List DescriptorInput → List ImportCall
  | _, [] => []
  | db, spec :: rest =>
      match importType classes library spec allowMultisig with
      | .error _ => []
      | .ok addressType =>
          ⟨db, holdingId, spec, addressType, allowMultisig⟩ ::
            match writeDescriptor classes library db holdingId spec addressType allowMultisig with
            | .error _ => []
            | .ok written => callsOf classes library holdingId allowMultisig written.1 rest

/-- The import of an attached descriptor, where it gets that far. -/
def HoldingOperation.attachCalls (classes : CharClasses) (library : DescriptorLibrary)
    (db : HoldingDatabase) : HoldingOperation → List ImportCall
  | .attachDescriptor holdingId spec =>
      match db.holdings.get? holdingId, parse classes library spec.expression spec.network false with
      | some target, .ok parsed =>
          if target.holdingType = .account then []
          else [⟨db, holdingId, spec, parsed.addressType, false⟩]
      | _, _ => []
  | _ => []

/-- The imports an operation makes one after another, each with the tables of its moment. -/
def HoldingOperation.importCalls (classes : CharClasses) (library : DescriptorLibrary)
    (db : HoldingDatabase) (operation : HoldingOperation) : List ImportCall :=
  match operation.creation classes library with
  | some creation =>
      callsOf classes library db.freshHoldingId creation.allowMultisig
        (HoldingRepo.insertRow db (creation.details.row db.freshHoldingId creation.holdingType)
          (creation.details.columns creation.subtypeData)) creation.specs
  | none => operation.attachCalls classes library db

/-! ### One import -/

namespace ImportCall

variable {call : ImportCall}

/-- An import of a known text is refused as already there. -/
theorem run_of_knownText (positive : 1 ≤ call.spec.gapLimit) (known : call.KnownText) :
    ∃ error, call.run classes library = .error error ∧ error.cls = .descriptorAlreadyExists := by
  obtain ⟨row, stored, same⟩ := known
  have refused : ∀ descriptorId,
      (call.db.descriptors.rows.any fun other =>
        decide (other.expression =
          (call.spec.row descriptorId call.holdingId call.addressType).expression)) = true :=
    fun _ => List.any_eq_true.mpr ⟨row, stored, decide_eq_true same⟩
  rw [run, writeDescriptor, if_neg (by omega)]
  simp only [DescriptorRows.insertDescriptor, refused, true_or, if_true]
  exact ⟨_, rfl, rfl⟩

/-- Addresses are derived from every expression that parses. -/
theorem deriveAddresses_of_isOk {expression : String} {network : Network} {allowMultisig : Bool}
    (count : Nat)
    (accepted : (parse classes library expression network allowMultisig).isOk = true) :
    ∃ derived, deriveAddresses classes library expression network count allowMultisig =
      .ok derived := by
  rw [deriveAddresses]
  cases outcome : parse classes library expression network allowMultisig with
  | error error =>
      rw [outcome] at accepted
      cases accepted
  | ok parsed => exact ⟨_, rfl⟩

/-- An import of an unknown text goes through. -/
theorem run_of_unknownText (admissible : call.Admissible classes library)
    (held : (call.db.holdings.get? call.holdingId).isSome) (unknown : ¬call.KnownText) :
    ∃ written, call.run classes library = .ok written := by
  have admitted : ∀ descriptorId,
      DescriptorRows.insertDescriptor call.db
          (call.spec.row descriptorId call.holdingId call.addressType) =
        .ok { call.db with
          descriptors := call.db.descriptors.insert
            (call.spec.row descriptorId call.holdingId call.addressType) } := by
    intro descriptorId
    rw [DescriptorRows.insertDescriptor, if_neg]
    rw [not_or, List.any_eq_true]
    refine ⟨?_, Option.isSome_iff_ne_none.mp held⟩
    rintro ⟨row, stored, same⟩
    exact unknown ⟨row, stored, of_decide_eq_true same⟩
  obtain ⟨external, derived⟩ := deriveAddresses_of_isOk call.spec.gapLimit
    admissible.external
  rw [run, writeDescriptor, if_neg (by have := admissible.positive; omega)]
  simp only [admitted, bind, Except.bind, derived]
  cases change : call.spec.changeExpression with
  | none => exact ⟨_, rfl⟩
  | some changeExpression =>
      obtain ⟨changeAddresses, derivedChange⟩ := deriveAddresses_of_isOk call.spec.gapLimit
        (admissible.change changeExpression (Option.mem_def.mpr change))
      simp only [derivedChange]
      exact ⟨_, rfl⟩

/-- An import with nothing else wrong is refused as a duplicate exactly when its text is stored. -/
theorem refused_iff (admissible : call.Admissible classes library)
    (held : (call.db.holdings.get? call.holdingId).isSome) :
    (∃ error, call.run classes library = .error error ∧
      error.cls = .descriptorAlreadyExists) ↔ call.KnownText := by
  constructor
  · rintro ⟨error, refused, -⟩
    by_contra unknown
    obtain ⟨written, accepted⟩ := run_of_unknownText admissible held unknown
    rw [accepted] at refused
    cases refused
  · exact run_of_knownText admissible.positive

/-- What is imported was admissible. -/
theorem admissible_of_ok {written : HoldingDatabase × Uuid}
    (accepted : call.run classes library = .ok written) : call.Admissible classes library := by
  have parses : ∀ {expression : String} {derived : List (String × Nat)},
      deriveAddresses classes library expression call.spec.network call.spec.gapLimit
          call.allowMultisig = .ok derived →
        (parse classes library expression call.spec.network call.allowMultisig).isOk = true := by
    intro expression derived run
    rw [deriveAddresses, map_ok_iff] at run
    obtain ⟨parsed, outcome, -⟩ := run
    rw [outcome]
    rfl
  rw [run, writeDescriptor] at accepted
  split at accepted
  · cases accepted
  · rename_i positive
    rw [bind_ok_iff] at accepted
    obtain ⟨inserted, -, accepted⟩ := accepted
    rw [bind_ok_iff] at accepted
    obtain ⟨external, derived, accepted⟩ := accepted
    refine ⟨by omega, parses derived, ?_⟩
    intro expression given
    rw [Option.mem_def] at given
    rw [given] at accepted
    simp only [bind_ok_iff] at accepted
    obtain ⟨change, derivedChange, -⟩ := accepted
    exact parses derivedChange

/-- A wallet that is watched already is spelt as some stored text. -/
def SpeltAsStored (classes : CharClasses) (library : DescriptorLibrary) (call : ImportCall) : Prop :=
  call.Admissible classes library → call.KnownWallet library → call.KnownText

/-- An import that is spelt so and succeeds leaves every wallet watched once. -/
theorem once (once : WalletsOnce library call.db) (spelt : call.SpeltAsStored classes library)
    {written : HoldingDatabase × Uuid} (accepted : call.run classes library = .ok written) :
    WalletsOnce library written.1 := by
  obtain ⟨imported, -⟩ := writeDescriptor_ok accepted
  have unknown : ¬call.KnownWallet library := by
    intro known
    obtain ⟨row, stored, same⟩ := spelt (admissible_of_ok accepted) known
    exact imported.unused row stored same
  obtain ⟨new, added, descriptors, ⟨addressType, same⟩, -, -⟩ := imported.rows
  have apart : ∀ row ∈ call.db.descriptors.rows, row.network = new.network →
      ¬SameWallet library row.network row.expression new.expression := by
    intro row stored network wallet
    rw [same] at network wallet
    rw [show row.network = call.spec.network from network] at wallet
    exact unknown ⟨row, stored, network, wallet⟩
  intro row stored other otherStored network wallet
  rw [descriptors, List.mem_append, List.mem_singleton] at stored otherStored
  rcases stored with before | rfl
  · rcases otherStored with otherBefore | rfl
    · exact once row before other otherBefore network wallet
    · exact absurd wallet (apart row before network)
  · rcases otherStored with otherBefore | rfl
    · rw [network] at wallet
      exact absurd wallet.symm (apart other otherBefore network.symm)
    · rfl

end ImportCall

/-! ### The imports of an operation -/

/-- One round of the loop over the descriptors of a new holding. -/
def importRound (classes : CharClasses) (library : DescriptorLibrary) (holdingId : Uuid)
    (allowMultisig : Bool) (state : HoldingDatabase × List Uuid) (spec : DescriptorInput) :
    Except PyError (HoldingDatabase × List Uuid) :=
  (importDescriptor classes library state.1 holdingId spec allowMultisig).map fun written =>
    (written.1, state.2 ++ [written.2])

/-- Several imports run one after the other. -/
theorem importDescriptors_eq (db : HoldingDatabase) (holdingId : Uuid)
    (specs : List DescriptorInput) (allowMultisig : Bool) :
    importDescriptors classes library db holdingId specs allowMultisig =
      specs.foldlM (importRound classes library holdingId allowMultisig) (db, []) := rfl

section Creations

variable {holdingId : Uuid} {allowMultisig : Bool}

/-- The holding of a creation exists at each of its imports. -/
theorem held_of_callsOf {specs : List DescriptorInput} {call : ImportCall}
    (held : (db.holdings.get? holdingId).isSome)
    (member : call ∈ callsOf classes library holdingId allowMultisig db specs) :
    (call.db.holdings.get? call.holdingId).isSome := by
  induction specs generalizing db with
  | nil => cases member
  | cons spec rest inductionHypothesis =>
      rw [callsOf] at member
      split at member
      · cases member
      · rcases List.mem_cons.mp member with rfl | later
        · exact held
        · split at later
          · cases later
          · rename_i written accepted
            have frame := (writeDescriptor_ok accepted).1.frame
            refine inductionHypothesis ?_ later
            rw [frame]
            exact held

/-- An import that raises ends the loop. -/
theorem importDescriptors_of_refused {specs : List DescriptorInput} {call : ImportCall}
    {error : PyError} (descriptorIds : List Uuid)
    (member : call ∈ callsOf classes library holdingId allowMultisig db specs)
    (refused : call.run classes library = .error error) :
    specs.foldlM (importRound classes library holdingId allowMultisig) (db, descriptorIds) =
      .error error := by
  induction specs generalizing db descriptorIds with
  | nil => cases member
  | cons spec rest inductionHypothesis =>
      rw [callsOf] at member
      rw [List.foldlM_cons, importRound, importDescriptor_eq]
      split at member
      · cases member
      · rename_i addressType checked
        rw [checked]
        rcases List.mem_cons.mp member with rfl | later
        · change Except.bind (Except.map _ (ImportCall.run _ _ _)) _ = _
          rw [refused]
          rfl
        · split at later
          · cases later
          · rename_i written accepted
            change Except.bind (Except.map _ (writeDescriptor _ _ _ _ _ _ _)) _ = _
            rw [accepted]
            exact inductionHypothesis _ later

/-- Imports that are spelt as stored leave every wallet watched once. -/
theorem once_of_imports {specs : List DescriptorInput} {descriptorIds descriptorIds' : List Uuid}
    (once : WalletsOnce library db)
    (spelt : ∀ call ∈ callsOf classes library holdingId allowMultisig db specs,
      call.SpeltAsStored classes library)
    (run : specs.foldlM (importRound classes library holdingId allowMultisig) (db, descriptorIds) =
      .ok (db', descriptorIds')) : WalletsOnce library db' := by
  induction specs generalizing db descriptorIds with
  | nil =>
      cases run
      exact once
  | cons spec rest inductionHypothesis =>
      rw [List.foldlM_cons, bind_ok_iff] at run
      obtain ⟨middle, first, later⟩ := run
      obtain ⟨written, imported, rfl⟩ := map_ok_iff.mp first
      rw [importDescriptor_eq, bind_ok_iff] at imported
      obtain ⟨addressType, checked, accepted⟩ := imported
      have calls : callsOf classes library holdingId allowMultisig db (spec :: rest) =
          ⟨db, holdingId, spec, addressType, allowMultisig⟩ ::
            callsOf classes library holdingId allowMultisig written.1 rest := by
        rw [callsOf, checked]
        simp only
        rw [show writeDescriptor classes library db holdingId spec addressType allowMultisig =
          .ok written from accepted]
      rw [calls] at spelt
      have next : WalletsOnce library written.1 :=
        ImportCall.once once (spelt _ List.mem_cons_self) accepted
      exact inductionHypothesis next
        (fun call member => spelt call (List.mem_cons_of_mem _ member)) later

end Creations

section Operations

variable {operation : HoldingOperation} {call : ImportCall}

/-- Without a creation the imports are those of an attachment. -/
theorem importCalls_of_none (none : operation.creation classes library = none) :
    operation.importCalls classes library db = operation.attachCalls classes library db := by
  rw [HoldingOperation.importCalls, none]

/-- The import of an attached descriptor. -/
theorem attach_of_importCalls (none : operation.creation classes library = none)
    (member : call ∈ operation.importCalls classes library db) :
    ∃ holdingId spec target parsed, operation = .attachDescriptor holdingId spec ∧
      db.holdings.get? holdingId = some target ∧ target.holdingType ≠ .account ∧
        parse classes library spec.expression spec.network false = .ok parsed ∧
          call = ⟨db, holdingId, spec, parsed.addressType, false⟩ := by
  rw [importCalls_of_none none] at member
  cases operation with
  | attachDescriptor holdingId spec =>
      rw [HoldingOperation.attachCalls] at member
      split at member
      · rename_i target parsed found accepted
        split at member
        · cases member
        · rename_i notAccount
          exact ⟨holdingId, spec, target, parsed, rfl, found, notAccount, accepted,
            List.mem_singleton.mp member⟩
      · cases member
  | createPurse | createStrongbox | createVault | createAccount | updateHolding
  | changeHoldingType | patchDescriptor | deleteDescriptor | fixMetadataReexport
  | fixMetadataManual | rescan => cases member

/-- The holding of every import is there. -/
theorem held_of_importCalls (member : call ∈ operation.importCalls classes library db) :
    (call.db.holdings.get? call.holdingId).isSome := by
  cases requested : operation.creation classes library with
  | none =>
      obtain ⟨holdingId, spec, target, parsed, -, found, -, -, rfl⟩ :=
        attach_of_importCalls requested member
      rw [found]
      rfl
  | some creation =>
      rw [HoldingOperation.importCalls, requested] at member
      refine held_of_callsOf ?_ member
      have fresh : db.holdings.get?
          (key (creation.details.row db.freshHoldingId creation.holdingType)) = none :=
        (freshHoldingId_fresh db).1
      have inserted := Table.get?_insert_of_fresh fresh
        (key (creation.details.row db.freshHoldingId creation.holdingType))
      rw [if_pos rfl] at inserted
      exact Option.isSome_of_eq_some inserted

/-- An import that raises is the outcome of its operation. -/
theorem perform_of_refused {error : PyError}
    (member : call ∈ operation.importCalls classes library db)
    (refused : call.run classes library = .error error) :
    holdingPerform classes library db operation = .error error := by
  cases requested : operation.creation classes library with
  | none =>
      obtain ⟨holdingId, spec, target, parsed, rfl, found, notAccount, accepted, rfl⟩ :=
        attach_of_importCalls requested member
      rw [holdingPerform, attachDescriptor, found]
      simp only [if_neg notAccount, accepted]
      change (ImportCall.run classes library ⟨_, _, _, _, _⟩).map Prod.fst = _
      rw [refused]
      rfl
  | some creation =>
      rw [HoldingOperation.importCalls, requested] at member
      rw [holdingPerform_of_creation requested, Creation.run, createHoldingWithDescriptors]
      simp only [importDescriptors_eq, importDescriptors_of_refused [] member refused]
      rfl

end Operations

/-! ### Runs -/

/-- An import of a wallet that is watched already is refused as a duplicate, and so is its
    operation. -/
def RefusesKnown (classes : CharClasses) (library : DescriptorLibrary) (db : HoldingDatabase)
    (operation : HoldingOperation) : Prop :=
  ∀ call ∈ operation.importCalls classes library db, call.Admissible classes library →
    call.KnownWallet library → ∃ error, call.run classes library = .error error ∧
      error.cls = .descriptorAlreadyExists ∧
        holdingPerform classes library db operation = .error error

/-- Wallets that are watched already are spelt as they are stored, and no fix spells a descriptor as
    a wallet that another one watches. -/
structure SpellsAsStored (classes : CharClasses) (library : DescriptorLibrary)
    (db : HoldingDatabase) (operation : HoldingOperation) : Prop where
  imports : ∀ call ∈ operation.importCalls classes library db, call.SpeltAsStored classes library
  fixes : ∀ holdingId expression network descriptor,
    Fixes classes library db operation holdingId expression network descriptor →
      ∀ other ∈ db.descriptors.rows, other.id ≠ descriptor.id →
        other.network = descriptor.network →
          ¬SameWallet library descriptor.network other.expression expression

/-- Known wallets are refused exactly when they are spelt as they are stored. -/
theorem refusesKnown_iff {operation : HoldingOperation} :
    RefusesKnown classes library db operation ↔
      ∀ call ∈ operation.importCalls classes library db, call.SpeltAsStored classes library := by
  constructor
  · intro refuses call member admissible known
    obtain ⟨error, refused, duplicate, -⟩ := refuses call member admissible known
    exact (ImportCall.refused_iff admissible (held_of_importCalls member)).mp
      ⟨error, refused, duplicate⟩
  · intro spelt call member admissible known
    obtain ⟨error, refused, duplicate⟩ :=
      (ImportCall.refused_iff admissible (held_of_importCalls member)).mpr
        (spelt call member admissible known)
    exact ⟨error, refused, duplicate, perform_of_refused member refused⟩

/-- The same descriptors but for what tells no wallets apart. -/
theorem WalletsOnce.congr (once : WalletsOnce library db) {f : DescriptorRow → DescriptorRow}
    (descriptors : db'.descriptors.rows = db.descriptors.rows.map f)
    (network : ∀ row, (f row).network = row.network)
    (expression : ∀ row, (f row).expression = row.expression) : WalletsOnce library db' := by
  intro row stored other otherStored sameNetwork wallet
  rw [descriptors] at stored otherStored
  obtain ⟨before, known, rfl⟩ := List.mem_map.mp stored
  obtain ⟨otherBefore, otherKnown, rfl⟩ := List.mem_map.mp otherStored
  rw [network, network] at sameNetwork
  rw [network, expression, expression] at wallet
  rw [once before known otherBefore otherKnown sameNetwork wallet]

/-- A rewrite that leaves texts and networks keeps the wallets unique. -/
theorem WalletsOnce.update (once : WalletsOnce library db) (descriptorId : Uuid)
    (f : DescriptorRow → DescriptorRow) (keeps : ∀ row, (f row).id = row.id)
    (network : ∀ row, (f row).network = row.network)
    (expression : ∀ row, (f row).expression = row.expression)
    (descriptors : db'.descriptors = db.descriptors.update descriptorId f keeps) :
    WalletsOnce library db' := by
  apply once.congr (by rw [descriptors, Table.update, Table.rows_updateAll])
  · intro row
    split
    · exact network row
    · rfl
  · intro row
    split
    · exact expression row
    · rfl

/-- A fix leaves every wallet watched once exactly when no other descriptor watches its own. -/
theorem walletsOnce_withFix_iff {holdingId : Uuid} {expression : String} {row : DescriptorRow}
    (stored : row ∈ db.descriptors.rows) (once : WalletsOnce library db) :
    WalletsOnce library (withFix db holdingId row.id expression) ↔
      ∀ other ∈ db.descriptors.rows, other.id ≠ row.id → other.network = row.network →
        ¬SameWallet library row.network other.expression expression := by
  have rows : (withFix db holdingId row.id expression).descriptors.rows =
      db.descriptors.rows.map fun other =>
        if key other = row.id then { other with expression := expression } else other := rfl
  constructor
  · intro after other listed apart network wallet
    have own : { row with expression := expression } ∈
        (withFix db holdingId row.id expression).descriptors.rows := by
      rw [rows]
      exact List.mem_map.mpr ⟨row, stored, if_pos rfl⟩
    have kept : other ∈ (withFix db holdingId row.id expression).descriptors.rows := by
      rw [rows]
      exact List.mem_map.mpr ⟨other, listed, if_neg apart⟩
    rw [← network] at wallet
    have same := after other kept { row with expression := expression } own network wallet
    have sameId := congrArg DescriptorRow.id same
    exact apart sameId
  · intro apart first firstStored second secondStored network wallet
    rw [rows] at firstStored secondStored
    obtain ⟨before, known, rfl⟩ := List.mem_map.mp firstStored
    obtain ⟨otherBefore, otherKnown, rfl⟩ := List.mem_map.mp secondStored
    by_cases own : key before = row.id
    · have only : before = row := Table.eq_of_key_eq known stored own
      subst only
      by_cases otherOwn : key otherBefore = before.id
      · rw [Table.eq_of_key_eq otherKnown stored otherOwn]
      · rw [if_pos own, if_neg otherOwn] at network wallet
        exact absurd wallet.symm (apart otherBefore otherKnown otherOwn network.symm)
    · rw [if_neg own] at network wallet ⊢
      by_cases otherOwn : key otherBefore = row.id
      · have only : otherBefore = row := Table.eq_of_key_eq otherKnown stored otherOwn
        subst only
        rw [if_pos otherOwn] at network wallet
        rw [network] at wallet
        exact absurd wallet (apart before known own network)
      · rw [if_neg otherOwn] at network wallet ⊢
        exact once before known otherBefore otherKnown network wallet

/-- A creation whose imports are spelt as stored leaves every wallet watched once. -/
theorem once_of_creation {operation : HoldingOperation} {creation : Creation}
    {holding : LoadedHolding} (requested : operation.creation classes library = some creation)
    (run : creation.run classes library db = .ok (db', holding)) (once : WalletsOnce library db)
    (spelt : ∀ call ∈ operation.importCalls classes library db,
      call.SpeltAsStored classes library) : WalletsOnce library db' := by
  obtain ⟨descriptorIds, imports, -⟩ := createHoldingWithDescriptors_ok run
  rw [importDescriptors_eq] at imports
  rw [HoldingOperation.importCalls, requested] at spelt
  have inserted : WalletsOnce library
      (HoldingRepo.insertRow db (creation.details.row db.freshHoldingId creation.holdingType)
        (creation.details.columns creation.subtypeData)) := once
  exact once_of_imports inserted spelt imports

/-- An attached descriptor that is spelt as stored leaves every wallet watched once. -/
theorem once_of_attach {holdingId : Uuid} {spec : DescriptorInput}
    (run : holdingPerform classes library db (.attachDescriptor holdingId spec) = .ok db')
    (once : WalletsOnce library db)
    (spelt : ∀ call ∈ (HoldingOperation.attachDescriptor holdingId spec).importCalls classes
      library db, call.SpeltAsStored classes library) : WalletsOnce library db' := by
  rw [holdingPerform, attachDescriptor] at run
  split at run
  · cases run
  · rename_i target found
    split at run
    · cases run
    · rename_i notAccount
      rw [bind_ok_iff] at run
      obtain ⟨parsed, accepted, run⟩ := run
      obtain ⟨written, write, rfl⟩ := map_ok_iff.mp run
      have calls : (HoldingOperation.attachDescriptor holdingId spec).importCalls classes library
          db = [⟨db, holdingId, spec, parsed.addressType, false⟩] := by
        rw [importCalls_of_none rfl, HoldingOperation.attachCalls, found, accepted]
        exact if_neg notAccount
      rw [calls] at spelt
      exact ImportCall.once once (spelt _ (List.mem_singleton_self _)) write

/-- A step watches every wallet once and refuses those it knows exactly when it spells them as they
    are stored. -/
theorem walletsOnce_step_iff (operation : HoldingOperation) (once : WalletsOnce library db) :
    (RefusesKnown classes library db operation ∧
        WalletsOnce library (holdingStep classes library db operation)) ↔
      SpellsAsStored classes library db operation := by
  rw [refusesKnown_iff]
  have write := holdingWrite_of_step classes library db operation
  have elsewhere : ∀ {db' : HoldingDatabase}, (∀ holdingId expression network descriptor,
      ¬Fixes classes library db operation holdingId expression network descriptor) →
        ((∀ call ∈ operation.importCalls classes library db,
          call.SpeltAsStored classes library) → WalletsOnce library db') →
            (((∀ call ∈ operation.importCalls classes library db,
              call.SpeltAsStored classes library) ∧ WalletsOnce library db') ↔
                SpellsAsStored classes library db operation) := by
    intro db' noFix after
    constructor
    · rintro ⟨spelt, -⟩
      exact ⟨spelt, fun holdingId expression network descriptor fixes =>
        absurd fixes (noFix holdingId expression network descriptor)⟩
    · intro spells
      exact ⟨spells.imports, after spells.imports⟩
  have noRequest : operation.fix classes db = none → ∀ holdingId expression network descriptor,
      ¬Fixes classes library db operation holdingId expression network descriptor := by
    intro none holdingId expression network descriptor fixes
    rw [fixes.requested] at none
    cases none
  generalize step : holdingStep classes library db operation = db' at write
  cases write with
  | kept noFix _ => exact elsewhere noFix fun _ => once
  | created requested run =>
      obtain ⟨-, -, noFix, -⟩ := creation_requested requested
      exact elsewhere (noRequest noFix) (once_of_creation requested run once)
  | accountCreated run =>
      obtain ⟨rfl, -⟩ := createAccountRows_ok run
      exact elsewhere (noRequest rfl) fun _ => once
  | updated run =>
      obtain ⟨-, rfl, -⟩ := updateHolding_ok run
      exact elsewhere (noRequest rfl) fun _ => once
  | typeChanged run =>
      obtain ⟨row, -, -, -, -, rfl, -⟩ := changeHoldingType_ok run
      exact elsewhere (noRequest rfl) fun _ => once
  | @attached holdingId spec _ _ _ _ _ =>
      refine elsewhere (noRequest rfl) fun spelt => ?_
      rw [holdingStep] at step
      cases outcome : holdingPerform classes library db (.attachDescriptor holdingId spec) with
      | error error =>
          rw [outcome] at step
          rw [← step]
          exact once
      | ok committed =>
          rw [outcome] at step
          rw [← step]
          exact once_of_attach outcome once spelt
  | @gapChanged _ row gapLimit patches =>
      refine elsewhere (noRequest ?_) fun _ => once.update row.id
        (fun row => { row with gapLimit := gapLimit }) (fun _ => rfl) (fun _ => rfl) (fun _ => rfl)
        rfl
      obtain ⟨patch, rfl, -⟩ := patches.requested
      rfl
  | descriptorDeleted stored bare =>
      refine elsewhere (noRequest rfl) fun _ => ?_
      intro row kept other otherKept
      exact once row (List.mem_of_mem_filter kept) other (List.mem_of_mem_filter otherKept)
  | @fixed _ holdingId expression network descriptor fixes =>
      rw [walletsOnce_withFix_iff fixes.applies.stored.1 once]
      constructor
      · rintro ⟨spelt, apart⟩
        refine ⟨spelt, ?_⟩
        intro otherHolding otherExpression otherNetwork otherDescriptor other
        have requested := other.requested
        rw [fixes.requested] at requested
        cases requested
        have first := other.applies.first
        rw [fixes.applies.first] at first
        cases first
        exact apart
      · intro spells
        exact ⟨spells.imports, spells.fixes holdingId expression network descriptor fixes⟩
  | scanned wrote =>
      obtain ⟨descriptorId, height, descriptors⟩ := wrote.descriptors
      exact elsewhere (noRequest rfl) fun _ => once.update descriptorId
        (fun row => { row with lastScannedHeight := max row.lastScannedHeight height })
        (fun _ => rfl) (fun _ => rfl) (fun _ => rfl) descriptors

/-- In exactly the runs whose imports and fixes spell known wallets as they are stored, every wallet
    is watched once in every state and a second import of one is refused. -/
theorem walletsOnce_throughout_iff (classes : CharClasses) (library : DescriptorLibrary)
    (operations : List HoldingOperation) (db : HoldingDatabase) :
    Throughout (stepOf (holdingStep classes library)) (WalletsOnce library)
        (RefusesKnown classes library) .empty operations db ↔
      Run (guarded (stepOf (holdingStep classes library)) (SpellsAsStored classes library)) .empty
        operations db := by
  apply Run.throughout_iff (I := fun _ => True)
  · intro before operation after _ _
    trivial
  · rintro before operation after - once rfl
    exact walletsOnce_step_iff operation once
  · trivial
  · intro row stored
    cases stored

/-- One wallet, as it is exported with and without its checksum. -/
def checksumLibrary : DescriptorLibrary where
  descriptor text _ := .ok ⟨.wpkh, false, accountDescriptor ++ "#kj7aqcx6", text⟩
  deriveAddress := accountLibrary.deriveAddress

/-- The wallet is imported twice, the second time with the checksum of its descriptor. -/
def importedTwice : List HoldingOperation :=
  [.createPurse purseDetails [⟨"main", accountDescriptor, none, .mainnet, 1⟩] .watchOnly,
    .createPurse purseDetails [⟨"again", accountDescriptor ++ "#kj7aqcx6", none, .mainnet, 1⟩]
      .watchOnly]

/-- Both descriptors are stored. -/
theorem importedTwice_not_once :
    ¬∀ classes library operations db,
      Run (stepOf (holdingStep classes library)) .empty operations db →
        WalletsOnce library db := by
  intro once
  have watched := once .ascii checksumLibrary importedTwice _
    (Run.of_steps (holdingStep .ascii checksumLibrary) importedTwice .empty)
  have ids : (importedTwice.foldl (holdingStep .ascii checksumLibrary) .empty).descriptors.rows.map
      (fun row => (row.id, row.network)) = [(1, .mainnet), (2, .mainnet)] := by
    decide +kernel
  obtain ⟨first, rest, rows, firstPair, restPairs⟩ := List.map_eq_cons_iff.mp ids
  obtain ⟨second, last, restRows, secondPair, -⟩ := List.map_eq_cons_iff.mp restPairs
  rw [WalletsOnce, rows, restRows] at watched
  have same := watched first List.mem_cons_self second (by simp)
    ((congrArg Prod.snd firstPair).trans (congrArg Prod.snd secondPair).symm)
    ⟨_, _, rfl, rfl, rfl⟩
  rw [same, secondPair] at firstPair
  cases firstPair

end TallyKeep
