/-
Module: TallyKeep.Proofs.FreshAddress
Layer: Proofs
Purpose: When the address that `next_unused_address` hands out has never received a coin.
Trusted boundary: none
Main exports: Funded, NextUnusedFresh, FundedPreceded, AddressBook, nextUnusedFresh_iff
-/
import TallyKeep.Proofs.CoinOwners
import TallyKeep.Proofs.InvoiceSettlement

namespace TallyKeep

open Relational Transition

/-- A coin, spent or not, is recorded at the address. -/
def Funded (db : Database) (addressId : Uuid) : Prop :=
  ∃ coin ∈ db.utxos.rows, coin.addressId = addressId

instance (db : Database) (addressId : Uuid) : Decidable (Funded db addressId) :=
  inferInstanceAs (Decidable (∃ coin ∈ db.utxos.rows, coin.addressId = addressId))

/-- The address that is handed out for the branch has no coin and is held by no OPEN invoice. -/
def NextUnusedFresh (db : Database) (descriptorId : Uuid) (isChange : Bool) : Prop :=
  ∀ address, DescriptorRepo.nextUnusedAddress db descriptorId isChange = some address →
    ¬Funded db address.id ∧ DescriptorRepo.isReserved db address.id = false

/-- The addresses of the branch that no OPEN invoice holds. -/
def freeAddresses (db : Database) (descriptorId : Uuid) (isChange : Bool) : List AddressRow :=
  (DescriptorRepo.listAddressesForDescriptor db descriptorId isChange).filter fun row =>
    !DescriptorRepo.isReserved db row.id

/-- Every address of the branch with a coin is held by an OPEN invoice, or comes after an address
    with neither. -/
def FundedPreceded (db : Database) (descriptorId : Uuid) (isChange : Bool) : Prop :=
  ∀ row ∈ freeAddresses db descriptorId isChange, Funded db row.id →
    ∃ earlier ∈ freeAddresses db descriptorId isChange,
      ¬Funded db earlier.id ∧ earlier.derivationIndex < row.derivationIndex

/-! ### The addresses of a reachable database -/

/-- `uq_address_descriptor_branch_index`. -/
def AddressRow.slot (row : AddressRow) : Uuid × Bool × Nat :=
  (row.descriptorId, row.isChange, row.derivationIndex)

/-- The part of an address row that is written once. -/
def AddressRow.fixed (row : AddressRow) : AddressRow :=
  { row with label := none, isReused := false }

/-- No address was ever marked as seen, and no two have the same place. -/
structure AddressBook (db : Database) : Prop where
  unseen : ∀ row ∈ db.addresses.rows, row.firstSeenHeight = none
  slots : (db.addresses.rows.map AddressRow.slot).Nodup
  holders : ∀ row ∈ db.addresses.rows, (db.descriptors.get? row.descriptorId).isSome

/-- Addresses and descriptors stay, up to labels and reuse flags. -/
structure AddressesKept (db db' : Database) : Prop where
  addresses : db'.addresses.rows.map AddressRow.fixed = db.addresses.rows.map AddressRow.fixed
  descriptors : ∀ descriptorId, (db.descriptors.get? descriptorId).isSome →
    (db'.descriptors.get? descriptorId).isSome

namespace AddressesKept

variable {db db' db'' : Database}

theorem refl (db : Database) : AddressesKept db db := ⟨rfl, fun _ => id⟩

/-- What two stretches keep of the addresses is kept by both. -/
theorem trans (first : AddressesKept db db') (second : AddressesKept db' db'') :
    AddressesKept db db'' :=
  ⟨second.addresses.trans first.addresses,
    fun descriptorId held => second.descriptors _ (first.descriptors descriptorId held)⟩

theorem of_tables (sameAddresses : db'.addresses = db.addresses)
    (sameDescriptors : db'.descriptors = db.descriptors) : AddressesKept db db' := by
  refine ⟨by rw [sameAddresses], fun descriptorId held => ?_⟩
  rw [sameDescriptors]
  exact held

theorem of_core
    (sameAddresses : db'.addresses.rows.map AddressRow.core = db.addresses.rows.map AddressRow.core)
    (sameDescriptors : db'.descriptors = db.descriptors) : AddressesKept db db' := by
  refine ⟨?_, fun descriptorId held => ?_⟩
  · have same := congrArg (List.map AddressRow.fixed) sameAddresses
    rw [List.map_map, List.map_map] at same
    exact same
  · rw [sameDescriptors]
    exact held

end AddressesKept

/-- The book of addresses depends on what is kept of them. -/
theorem AddressBook.kept {db db' : Database} (book : AddressBook db) (kept : AddressesKept db db') :
    AddressBook db' := by
  have origin : ∀ row' ∈ db'.addresses.rows, ∃ row ∈ db.addresses.rows, row'.fixed = row.fixed := by
    intro row' stored
    have listed : row'.fixed ∈ db.addresses.rows.map AddressRow.fixed := by
      rw [← kept.addresses]
      exact List.mem_map_of_mem stored
    obtain ⟨row, member, same⟩ := List.mem_map.mp listed
    exact ⟨row, member, same.symm⟩
  refine ⟨?_, ?_, ?_⟩
  · intro row' stored
    obtain ⟨row, member, same⟩ := origin row' stored
    have sameHeight := congrArg AddressRow.firstSeenHeight same
    exact sameHeight.trans (book.unseen row member)
  · have same := congrArg (List.map AddressRow.slot) kept.addresses
    rw [List.map_map, List.map_map] at same
    have slots : db'.addresses.rows.map AddressRow.slot = db.addresses.rows.map AddressRow.slot :=
      same
    rw [slots]
    exact book.slots
  · intro row' stored
    obtain ⟨row, member, same⟩ := origin row' stored
    have sameDescriptor : row.descriptorId = row'.descriptorId :=
      (congrArg (fun row : AddressRow => row.descriptorId) same).symm
    have held := kept.descriptors _ (book.holders row member)
    rw [sameDescriptor] at held
    exact held

/-! ### Registration -/

/-- One branch is appended: an unseen row for each address, at the index of its place. -/
theorem entries_registerAddresses (addresses : Table AddressRow) (descriptorId : Uuid)
    (isChange : Bool) (derived : List String) :
    ∃ added, (registerAddresses addresses descriptorId isChange derived).rows =
        addresses.rows ++ added ∧
      added.map (fun row => (row.slot, row.address)) =
        derived.zipIdx.map (fun entry => ((descriptorId, isChange, entry.2), entry.1)) ∧
      ∀ row ∈ added, row.firstSeenHeight = none := by
  rw [registerAddresses]
  generalize 0 = start
  induction derived generalizing addresses start with
  | nil => exact ⟨[], by simp, rfl, by simp⟩
  | cons address rest inductionHypothesis =>
      let row : AddressRow :=
        ⟨addresses.freshKey, descriptorId, address, isChange, start, none, none, false⟩
      obtain ⟨added, rows, entries, unseen⟩ := inductionHypothesis (addresses.insert row) (start + 1)
      have fresh : addresses.get? (key row) = none := Table.get?_freshKey addresses
      rw [Table.rows_insert_of_fresh fresh] at rows
      refine ⟨row :: added, ?_, ?_, ?_⟩
      · rw [List.append_assoc] at rows
        exact rows
      · rw [List.map_cons, entries]
        rfl
      · intro other member
        rcases List.mem_cons.mp member with rfl | later
        · rfl
        · exact unseen other later

/-- One branch is appended, with the indices from zero on and nothing seen. -/
theorem rows_registerAddresses (addresses : Table AddressRow) (descriptorId : Uuid)
    (isChange : Bool) (derived : List String) :
    ∃ added, (registerAddresses addresses descriptorId isChange derived).rows =
        addresses.rows ++ added ∧
      added.map AddressRow.slot =
        (List.range derived.length).map (fun index => (descriptorId, isChange, index)) ∧
      ∀ row ∈ added, row.firstSeenHeight = none := by
  obtain ⟨added, rows, entries, unseen⟩ :=
    entries_registerAddresses addresses descriptorId isChange derived
  refine ⟨added, rows, ?_, unseen⟩
  have slots := congrArg (List.map Prod.fst) entries
  have indices : derived.zipIdx.map Prod.snd = List.range derived.length := by
    rw [List.zipIdx_map_snd, List.range_eq_range']
  rw [← indices, List.map_map]
  rw [List.map_map, List.map_map] at slots
  exact slots

/-- A new branch of a descriptor without addresses on it. -/
theorem slots_registerAddresses {addresses : Table AddressRow} (descriptorId : Uuid)
    (isChange : Bool) (derived : List String)
    (slots : (addresses.rows.map AddressRow.slot).Nodup)
    (absent : ∀ row ∈ addresses.rows, row.descriptorId = descriptorId → row.isChange ≠ isChange) :
    ((registerAddresses addresses descriptorId isChange derived).rows.map AddressRow.slot).Nodup := by
  obtain ⟨added, rows, newSlots, -⟩ := rows_registerAddresses addresses descriptorId isChange derived
  rw [rows, List.map_append, newSlots]
  apply List.Nodup.append slots
  · apply List.Nodup.map _ List.nodup_range
    intro first second same
    exact congrArg (fun slot => slot.2.2) same
  · intro slot old new
    obtain ⟨row, stored, rfl⟩ := List.mem_map.mp old
    obtain ⟨index, -, same⟩ := List.mem_map.mp new
    exact absent row stored (congrArg Prod.fst same).symm (congrArg (fun slot => slot.2.1) same).symm

/-- What holds of the old addresses and of new unseen ones of a branch holds of all. -/
theorem forall_registerAddresses {P : AddressRow → Prop} {addresses : Table AddressRow}
    (descriptorId : Uuid) (isChange : Bool) (derived : List String)
    (old : ∀ row ∈ addresses.rows, P row)
    (new : ∀ row : AddressRow, row.descriptorId = descriptorId → row.isChange = isChange →
      row.firstSeenHeight = none → P row) :
    ∀ row ∈ (registerAddresses addresses descriptorId isChange derived).rows, P row := by
  intro row stored
  obtain ⟨added, rows, slots, unseen⟩ :=
    rows_registerAddresses addresses descriptorId isChange derived
  rw [rows] at stored
  rcases List.mem_append.mp stored with before | member
  · exact old row before
  · have slot : row.slot ∈ added.map AddressRow.slot := List.mem_map_of_mem member
    rw [slots] at slot
    obtain ⟨index, -, same⟩ := List.mem_map.mp slot
    exact new row (congrArg Prod.fst same).symm (congrArg (fun slot => slot.2.1) same).symm
      (unseen row member)

/-- Registering a descriptor keeps the book of addresses. -/
theorem AddressBook.registerDescriptor {db db' : Database} (book : AddressBook db)
    {holdingId : Uuid} {spec : DescriptorSpec}
    (run : TallyKeep.registerDescriptor db holdingId spec = .ok db') : AddressBook db' := by
  have absent : ∀ row ∈ db.addresses.rows, row.descriptorId ≠ db.descriptors.freshKey := by
    intro row stored same
    have held := book.holders row stored
    rw [same, Table.get?_freshKey] at held
    cases held
  have fresh := Table.get?_freshKey db.descriptors
  simp only [TallyKeep.registerDescriptor] at run
  split at run
  · cases run
  · split at run
    · cases run
    · cases run
      have heldAfter : ∀ descriptorId, (db.descriptors.get? descriptorId).isSome ∨
          descriptorId = db.descriptors.freshKey →
            ((db.descriptors.insert ⟨db.descriptors.freshKey, holdingId, spec.expression,
              spec.changeExpression, spec.network, spec.addressType, spec.gapLimit, 0⟩).get?
                descriptorId).isSome := by
        intro descriptorId held
        rw [Table.get?_insert_of_fresh fresh]
        split
        · rfl
        · rename_i other
          exact held.resolve_right other
      have externalSlots := slots_registerAddresses db.descriptors.freshKey false spec.derived
        book.slots fun row stored same => absurd same (absent row stored)
      have external : ∀ row ∈ (registerAddresses db.addresses db.descriptors.freshKey false
          spec.derived).rows, row.firstSeenHeight = none ∧
            ((db.descriptors.get? row.descriptorId).isSome ∨
              row.descriptorId = db.descriptors.freshKey) ∧
            (row.descriptorId = db.descriptors.freshKey → row.isChange ≠ true) := by
        apply forall_registerAddresses
        · intro row stored
          exact ⟨book.unseen row stored, .inl (book.holders row stored),
            fun same => absurd same (absent row stored)⟩
        · intro row sameDescriptor notChange unseen
          refine ⟨unseen, .inr sameDescriptor, fun _ => ?_⟩
          rw [notChange]
          exact Bool.false_ne_true
      have changeSlots := slots_registerAddresses db.descriptors.freshKey true spec.derivedChange
        externalSlots fun row stored => (external row stored).2.2
      have change : ∀ row ∈ (registerAddresses (registerAddresses db.addresses
          db.descriptors.freshKey false spec.derived) db.descriptors.freshKey true
          spec.derivedChange).rows, row.firstSeenHeight = none ∧
            ((db.descriptors.get? row.descriptorId).isSome ∨
              row.descriptorId = db.descriptors.freshKey) := by
        apply forall_registerAddresses
        · intro row stored
          exact ⟨(external row stored).1, (external row stored).2.1⟩
        · intro row sameDescriptor _ unseen
          exact ⟨unseen, .inr sameDescriptor⟩
      by_cases branches : spec.changeExpression.isSome
      · refine ⟨?_, ?_, ?_⟩ <;> simp only [branches, if_true]
        · exact fun row stored => (change row stored).1
        · exact changeSlots
        · exact fun row stored => heldAfter row.descriptorId (change row stored).2
      · refine ⟨?_, ?_, ?_⟩ <;> simp only [branches]
        · exact fun row stored => (external row stored).1
        · exact externalSlots
        · exact fun row stored => heldAfter row.descriptorId (external row stored).2.1

/-! ### Every operation -/

/-- A deletion keeps the book of addresses. -/
theorem AddressBook.deletionResult {db : Database} (book : AddressBook db) (holdingId : Uuid)
    (policyIds : List Uuid) : AddressBook (TallyKeep.deletionResult db holdingId policyIds) := by
  have sub : (TallyKeep.deletionResult db holdingId policyIds).addresses.rows.Sublist
      db.addresses.rows := List.filter_sublist
  refine ⟨?_, ?_, ?_⟩
  · intro row stored
    exact book.unseen row (sub.subset stored)
  · exact (sub.map AddressRow.slot).nodup book.slots
  · intro row stored
    obtain ⟨before, stays⟩ := List.mem_filter.mp stored
    obtain ⟨descriptor, found⟩ := Option.isSome_iff_exists.mp (book.holders row before)
    have other : descriptor.holdingId ≠ holdingId := by
      simpa [Database.heldBy, Database.holdingOf, found] using stays
    simp only [TallyKeep.deletionResult, Table.get?_delete, found, Option.filter_some]
    rw [decide_eq_false other]
    rfl

/-- A scan keeps the addresses. -/
theorem initialScan_addresses {node : ScanNode} {db db' : Database} {descriptor : DescriptorRow}
    {report : ScanReport} (run : initialScan node db descriptor = .ok (db', report)) :
    AddressesKept db db' := by
  have records : RecordKeeps (AddressesKept db) node descriptor := by
    intro before address unspent after kept unknown _ run
    have recorded := recorded_of_ok unknown run
    exact kept.trans (.of_core recorded.addresses recorded.descriptors)
  obtain ⟨scanned, height, kept, rfl⟩ := initialScan_invariant records run (.refl db)
  apply kept.trans
  refine ⟨rfl, fun other held => ?_⟩
  simp only [Table.get?_update]
  split
  · rename_i same
    rw [same] at held
    simpa using held
  · exact held

/-- An invoice keeps the addresses. -/
theorem createInvoice_addresses {db db' : Database} {order : InvoiceOrder}
    (run : createInvoice db order = .ok db') : AddressesKept db db' := by
  rw [createInvoice, bind_ok_iff] at run
  obtain ⟨address, -, run⟩ := run
  rw [bind_ok_iff] at run
  obtain ⟨invoice, -, run⟩ := run
  cases run
  refine ⟨?_, fun _ => id⟩
  simp only [InvoiceRepo.insert, DescriptorRepo.updateAddressLabel, Table.update,
    Table.rows_updateAll, List.map_map]
  apply List.map_congr_left
  intro row _
  simp only [Function.comp_apply]
  split <;> rfl

/-- The database phase keeps the addresses. -/
theorem Handled.addresses {db db' : Database} {tx : DecodedTx} {ctx : TxContext}
    {direction : Direction} {postings : List Posting}
    (handled : Handled db tx ctx db' direction postings) : AddressesKept db db' := by
  obtain ⟨chainDb, result, processed, tables⟩ := handled.processed
  have sameDescriptors : chainDb.descriptors = db.descriptors := by rw [processed.tables]
  have kept : AddressesKept db chainDb := .of_core processed.addresses sameDescriptors
  rw [tables]
  exact kept.trans (.of_tables rfl rfl)

variable {Psbt Tx : Type}

/-- Every operation keeps the address book in order. -/
theorem AddressBook.step (bdk : Bdk Psbt Tx) {db : Database} (wellFormed : ChainWellFormed db)
    (book : AddressBook db) (operation : Operation) :
    AddressBook (TallyKeep.step bdk db operation) := by
  have effect := chainEffect_of_step bdk wellFormed operation
  generalize TallyKeep.step bdk db operation = db' at effect
  cases effect with
  | kept descriptors addresses => exact book.kept (.of_tables addresses descriptors)
  | registered run => exact book.registerDescriptor run
  | deleted holdingId policyIds => exact book.deletionResult holdingId policyIds
  | scanned found run => exact book.kept (initialScan_addresses run)
  | frozen outpoint frozen => exact book.kept (.of_tables rfl rfl)
  | invoiced run => exact book.kept (createInvoice_addresses run)
  | handled handled => exact book.kept handled.addresses

/-- The book of addresses holds in every state reached. -/
theorem addressBook_of_reached {bdk : Bdk Psbt Tx} {chain : Chain} {db : Database}
    (reached : Reached bdk chain db) : AddressBook db := by
  have both : Sound chain db ∧ AddressBook db := by
    apply reached.invariant
    · rintro db rfl
      exact ⟨.ofEmpty chain, by simp [Database.empty], by simp [Database.empty],
        by simp [Database.empty]⟩
    · rintro db operation db' ⟨sound, book⟩ taken
      refine ⟨sound_step db operation db' sound taken, ?_⟩
      obtain ⟨-, rfl⟩ := taken
      exact book.step bdk sound.wellFormed operation
  exact both.2

/-! ### The address that is handed out -/

/-- The addresses of a branch are told apart by their indices. -/
theorem AddressBook.eq_of_index {db : Database} (book : AddressBook db) {descriptorId : Uuid}
    {isChange : Bool} {first second : AddressRow}
    (one : first ∈ freeAddresses db descriptorId isChange)
    (two : second ∈ freeAddresses db descriptorId isChange)
    (same : first.derivationIndex = second.derivationIndex) : first = second := by
  obtain ⟨storedOne, placeOne⟩ := Table.mem_select.mp (List.mem_filter.mp one).1
  obtain ⟨storedTwo, placeTwo⟩ := Table.mem_select.mp (List.mem_filter.mp two).1
  rw [Bool.and_eq_true, decide_eq_true_eq, decide_eq_true_eq] at placeOne placeTwo
  apply List.inj_on_of_nodup_map book.slots storedOne storedTwo
  rw [AddressRow.slot, AddressRow.slot, placeOne.1, placeOne.2, placeTwo.1, placeTwo.2, same]

/-- Since no address is ever marked as seen, the choice is by index alone among the free ones. -/
theorem AddressBook.nextUnusedAddress_eq {db : Database} (book : AddressBook db)
    (descriptorId : Uuid) (isChange : Bool) :
    DescriptorRepo.nextUnusedAddress db descriptorId isChange =
      (freeAddresses db descriptorId isChange).find? fun row =>
        (freeAddresses db descriptorId isChange).all fun other =>
          decide (row.derivationIndex ≤ other.derivationIndex) := by
  have same : (DescriptorRepo.listAddressesForDescriptor db descriptorId isChange).filter
      (fun row => row.firstSeenHeight.isNone && !DescriptorRepo.isReserved db row.id) =
        freeAddresses db descriptorId isChange := by
    apply List.filter_congr
    intro row listed
    rw [book.unseen row (Table.mem_select.mp listed).1, Option.isNone_none, Bool.true_and]
  rw [DescriptorRepo.nextUnusedAddress, same]

/-- The next unused address is the free one with the least index. -/
theorem AddressBook.nextUnusedAddress_eq_some_iff {db : Database} (book : AddressBook db)
    {descriptorId : Uuid} {isChange : Bool} {address : AddressRow} :
    DescriptorRepo.nextUnusedAddress db descriptorId isChange = some address ↔
      address ∈ freeAddresses db descriptorId isChange ∧
        ∀ other ∈ freeAddresses db descriptorId isChange,
          address.derivationIndex ≤ other.derivationIndex := by
  rw [book.nextUnusedAddress_eq]
  constructor
  · intro chosen
    exact ⟨List.mem_of_find?_eq_some chosen, by simpa using List.find?_some chosen⟩
  · intro ⟨free, least⟩
    cases chosen : List.find? _ (freeAddresses db descriptorId isChange) with
    | none =>
        have refused := List.find?_eq_none.mp chosen address free
        simp only [List.all_eq_true, decide_eq_true_eq] at refused
        exact absurd least refused
    | some other =>
        have freeOther := List.mem_of_find?_eq_some chosen
        have leastOther : ∀ row ∈ freeAddresses db descriptorId isChange,
            other.derivationIndex ≤ row.derivationIndex := by
          simpa using List.find?_some chosen
        rw [book.eq_of_index freeOther free
          (Nat.le_antisymm (leastOther address free) (least other freeOther))]

/-- Among free addresses there is one with the least index. -/
theorem exists_least {rows : List AddressRow} {row : AddressRow} (member : row ∈ rows) :
    ∃ least ∈ rows, ∀ other ∈ rows, least.derivationIndex ≤ other.derivationIndex := by
  induction rows generalizing row with
  | nil => cases member
  | cons head rest inductionHypothesis =>
      cases rest with
      | nil => exact ⟨head, List.mem_cons_self, by simp⟩
      | cons next later =>
          obtain ⟨least, listed, below⟩ := inductionHypothesis (List.mem_cons_self (a := next))
          rcases Nat.le_total head.derivationIndex least.derivationIndex with first | second
          · refine ⟨head, List.mem_cons_self, fun other here => ?_⟩
            rcases List.mem_cons.mp here with rfl | there
            · exact Nat.le_refl _
            · exact Nat.le_trans first (below other there)
          · refine ⟨least, List.mem_cons_of_mem head listed, fun other here => ?_⟩
            rcases List.mem_cons.mp here with rfl | there
            · exact second
            · exact below other there

/-- In every reachable state, the address handed out for a branch has no coin and is not reserved
    exactly when every address of the branch with a coin is held by an OPEN invoice or comes after
    an address with neither. -/
theorem nextUnusedFresh_iff {bdk : Bdk Psbt Tx} {chain : Chain} {db : Database}
    (reached : Reached bdk chain db) (descriptorId : Uuid) (isChange : Bool) :
    NextUnusedFresh db descriptorId isChange ↔ FundedPreceded db descriptorId isChange := by
  have book := addressBook_of_reached reached
  constructor
  · intro fresh row free funded
    obtain ⟨least, freeLeast, below⟩ := exists_least free
    have unfunded := (fresh least (book.nextUnusedAddress_eq_some_iff.mpr ⟨freeLeast, below⟩)).1
    refine ⟨least, freeLeast, unfunded, ?_⟩
    apply Nat.lt_of_le_of_ne (below row free)
    intro same
    rw [book.eq_of_index freeLeast free same] at unfunded
    exact unfunded funded
  · intro preceded address chosen
    obtain ⟨free, least⟩ := book.nextUnusedAddress_eq_some_iff.mp chosen
    refine ⟨?_, by simpa using (List.mem_filter.mp free).2⟩
    intro funded
    obtain ⟨earlier, freeEarlier, -, before⟩ := preceded address free funded
    exact absurd (least earlier freeEarlier) (Nat.not_le.mpr before)

/-! ### A payment to a later address -/

/-- A branch of two addresses, the second of which is paid. -/
def laterPaidOperations : List Operation :=
  [.registerHolding ⟨10, .purse, .spending, .hardwareOffline⟩,
    .registerDescriptor 10
      ⟨"wpkh(a/0/*)", some "wpkh(a/1/*)", .regtest, .nativeSegwit, 2, ["bcrt1qzero", "bcrt1qa"],
        ["bcrt1qzerochange", "bcrt1qachange"]⟩,
    .handleTx samplePayment (sampleCall none)]

/-- Where the second address is paid. -/
def laterPaid : Database := laterPaidOperations.foldl (step sampleBdk) Database.empty

/-- The state with the later address paid is reached. -/
theorem laterPaid_reached : Reached sampleBdk sampleChain laterPaid := by
  apply reached_of_legal
  simp only [laterPaidOperations, List.forall_mem_cons, List.not_mem_nil, false_implies,
    implies_true, Legal, and_true, true_and]
  exact sampleChain_payment

/-- The first address is handed out beside a paid one of larger index. -/
theorem nextUnusedFresh_iff_laterPaid :
    (DescriptorRepo.nextUnusedAddress laterPaid 1 false).map AddressRow.address =
        some "bcrt1qzero" ∧
      (freeAddresses laterPaid 1 false).map (fun row => (row.address, decide (Funded laterPaid row.id)))
        = [("bcrt1qzero", false), ("bcrt1qa", true)] ∧
      NextUnusedFresh laterPaid 1 false := by
  refine ⟨by decide +kernel, by decide +kernel, ?_⟩
  apply (nextUnusedFresh_iff laterPaid_reached 1 false).mpr
  have preceded : ∀ row ∈ freeAddresses laterPaid 1 false, Funded laterPaid row.id →
      ∃ earlier ∈ freeAddresses laterPaid 1 false,
        ¬Funded laterPaid earlier.id ∧ earlier.derivationIndex < row.derivationIndex := by
    decide +kernel
  exact preceded

/-! ### An invoice that is paid -/

/-- The invoice is paid by a transaction of the block at height 100. -/
def invoicePaidOperations : List Operation :=
  invoiceOperations 100000 ++ [.handleTx samplePayment (sampleCall (some 100))]

/-- Where the invoice is paid. -/
def invoicePaid : Database := invoicePaidOperations.foldl (step sampleBdk) Database.empty

/-- The state with the paid invoice is reached. -/
theorem invoicePaid_reached : Reached sampleBdk sampleChain invoicePaid := by
  apply reached_of_legal
  simp only [invoicePaidOperations, invoiceOperations, setupOperations, List.cons_append,
    List.nil_append, List.forall_mem_cons, List.not_mem_nil, false_implies, implies_true, Legal,
    and_true, true_and]
  exact sampleChain_payment

/-- The payment frees the address of the invoice, and it is handed out again with its coin on it. -/
theorem not_nextUnusedFresh_of_paidInvoice :
    Reached sampleBdk sampleChain invoicePaid ∧ ¬NextUnusedFresh invoicePaid 1 false := by
  refine ⟨invoicePaid_reached, ?_⟩
  intro fresh
  have again : ∃ address ∈ invoicePaid.addresses.rows,
      DescriptorRepo.nextUnusedAddress invoicePaid 1 false = some address ∧
        Funded invoicePaid address.id := by
    decide +kernel
  obtain ⟨address, -, chosen, funded⟩ := again
  exact (fresh address chosen).1 funded

end TallyKeep
