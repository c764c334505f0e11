/-
Module: TallyKeep.Proofs.Conservation
Layer: Proofs
Purpose: On the live path the ledger of every holding adds up to its unspent coins, whatever is
  delivered again and as what.
Trusted boundary: none
Main exports: UniqueAddresses, coinWeight, Posted, onchainLinkTotal_eq_unspentTotal
-/
import TallyKeep.Proofs.CoinBook
import Mathlib.Algebra.BigOperators.Ring.Finset

namespace TallyKeep

open Relational CoinMarks

/-- No two address rows watch one address text. -/
def UniqueAddresses (db : Database) : Prop := (db.addresses.rows.map AddressRow.address).Nodup

instance (db : Database) : Decidable (UniqueAddresses db) :=
  inferInstanceAs (Decidable (List.Nodup _))

/-! ### Found outputs of one transaction -/

/-- With unique addresses no output of a transaction is found twice. -/
theorem watchedOutputs_nodup {base : Database} (unique : UniqueAddresses base) (tx : DecodedTx) :
    ((watchedOutputs base tx).map DiscoveredOutput.vout).Nodup := by
  rw [watchedOutputs]
  have paysOf : ∀ (row : AddressRow) (found : DiscoveredOutput), found ∈ discoverForRow base tx row →
      (row.address, found.valueSats, found.vout) ∈ tx.payments := by
    intro row found member
    rw [discoverForRow] at member
    cases holder : base.holdingOf row.descriptorId with
    | none => simp [holder] at member
    | some holdingId =>
        simp only [holder, List.mem_map, List.mem_filter, decide_eq_true_eq] at member
        obtain ⟨⟨address, value, vout⟩, ⟨paid, rfl⟩, rfl⟩ := member
        exact paid
  rw [UniqueAddresses] at unique
  generalize base.addresses.rows = addresses at unique ⊢
  induction addresses with
  | nil => simp
  | cons row rest inductionHypothesis =>
      rw [List.map_cons, List.nodup_cons] at unique
      rw [List.flatMap_cons, List.map_append, List.nodup_append]
      refine ⟨?_, inductionHypothesis unique.2, ?_⟩
      · rw [discoverForRow]
        cases base.holdingOf row.descriptorId with
        | none => simp
        | some holdingId =>
            simp only [List.map_map]
            exact (payments_nodup tx).sublist
              ((List.filter_sublist (l := tx.payments)).map _)
      · rintro vout here vout' there rfl
        obtain ⟨found, member, rfl⟩ := List.mem_map.mp here
        obtain ⟨found', member', sameVout⟩ := List.mem_map.mp there
        obtain ⟨row', rowMember, member'⟩ := List.mem_flatMap.mp member'
        have same := List.inj_on_of_nodup_map (payments_nodup tx) (paysOf row found member)
          (paysOf row' found' member') sameVout.symm
        refine unique.1 (List.mem_map.mpr ⟨row', rowMember, ?_⟩)
        exact (congrArg Prod.fst same).symm

/-! ### The weight of an outpoint -/

/-- What the found output at an index is worth to a holding. -/
def outputCredit (base : Database) (holdingId : Uuid) (tx : DecodedTx) (vout : Nat) : Nat :=
  receivedValue ((watchedOutputs base tx).filter fun found => decide (found.vout = vout)) holdingId

/-- What an outpoint is worth to a holding, given the transactions of a run. -/
def coinWeight (base : Database) (txs : List DecodedTx) (holdingId : Uuid) (outpoint : Outpoint) :
    Nat :=
  match txs.find? fun tx => tx.txid = outpoint.txid with
  | none => 0
  | some tx => outputCredit base holdingId tx outpoint.vout

theorem coinWeight_of_mem {base : Database} {txs : List DecodedTx} (oneTx : OneTxPerId txs)
    {tx : DecodedTx} (member : tx ∈ txs) (holdingId : Uuid) (vout : Nat) :
    coinWeight base txs holdingId ⟨tx.txid, vout⟩ = outputCredit base holdingId tx vout := by
  rw [coinWeight]
  cases found : txs.find? fun other => other.txid = tx.txid with
  | none =>
      have absent := List.find?_eq_none.mp found tx member
      simp at absent
  | some other =>
      have same : other.txid = tx.txid := by simpa using List.find?_some found
      rw [oneTx other (List.mem_of_find?_eq_some found) tx member same]

theorem outputCredit_of_mem {base : Database} (unique : UniqueAddresses base) {tx : DecodedTx}
    {found : DiscoveredOutput} (watched : found ∈ watchedOutputs base tx) (holdingId : Uuid) :
    outputCredit base holdingId tx found.vout =
      if found.holdingId = holdingId then found.valueSats else 0 := by
  have only := filter_eq_singleton (watchedOutputs_nodup unique tx) watched
  rw [outputCredit, only, receivedValue]
  by_cases held : found.holdingId = holdingId <;> simp [held]

/-- What a transaction pays a holding is the weight of the outpoints it creates. -/
theorem receivedValue_eq_sum {base : Database} (unique : UniqueAddresses base)
    {txs : List DecodedTx} (oneTx : OneTxPerId txs) {tx : DecodedTx} (member : tx ∈ txs)
    (holdingId : Uuid) :
    receivedValue (watchedOutputs base tx) holdingId =
      ∑ outpoint ∈ watchedOutpoints base tx, coinWeight base txs holdingId outpoint := by
  have outpointsNodup : ((watchedOutputs base tx).map fun found =>
      (⟨tx.txid, found.vout⟩ : Outpoint)).Nodup := by
    refine List.Nodup.of_map Outpoint.vout ?_
    rw [List.map_map]
    exact watchedOutputs_nodup unique tx
  rw [watchedOutpoints, List.sum_toFinset _ outpointsNodup, List.map_map]
  have weights : (watchedOutputs base tx).map
      (coinWeight base txs holdingId ∘ fun found => ⟨tx.txid, found.vout⟩) =
      (watchedOutputs base tx).map fun found =>
        if found.holdingId = holdingId then found.valueSats else 0 := by
    refine List.map_congr_left fun found watched => ?_
    rw [Function.comp_apply, coinWeight_of_mem oneTx member, outputCredit_of_mem unique watched]
  rw [weights, receivedValue]
  induction watchedOutputs base tx with
  | nil => rfl
  | cons found rest inductionHypothesis =>
      rw [List.filter_cons, List.map_cons, List.sum_cons, ← inductionHypothesis]
      by_cases held : found.holdingId = holdingId <;> simp [held]

/-- Every coin is worth to a holding what its outpoint is. -/
theorem inputValue_of_represents {base db : Database} {book : Marks DecodedTx Outpoint}
    {done txs : List DecodedTx} (unique : UniqueAddresses base) (oneTx : OneTxPerId txs)
    (within : ∀ tx ∈ done, tx ∈ txs) (represents : Represents base db book)
    (provenance : Provenance base db done) (holdingId : Uuid) (outpoint : Outpoint) :
    inputValue db holdingId outpoint =
      if outpoint ∈ book.known then coinWeight base txs holdingId outpoint else 0 := by
  rw [inputValue_eq_coinAt]
  cases coin : db.coinAt outpoint with
  | none =>
      have unknown : outpoint ∉ book.known := fun member => by
        simpa [coin] using (represents.known outpoint).mpr member
      rw [if_neg unknown]
  | some row =>
      have known : outpoint ∈ book.known := (represents.known outpoint).mp (by simp [coin])
      obtain ⟨tx, member, found, watched, rfl, descriptor, -, value⟩ := provenance outpoint row coin
      obtain ⟨address, -, held, -, -, -, sameDescriptor⟩ := mem_watchedOutputs.mp watched
      rw [if_pos known, coinWeight_of_mem oneTx (within tx member),
        outputCredit_of_mem unique watched]
      simp only [represents.holdingOf, descriptor, sameDescriptor, held, value, Option.some.injEq]

/-- Every unspent coin counts for its holding with the weight of its outpoint. -/
theorem unspentTotal_of_represents {base db : Database} {txs : List DecodedTx}
    (unique : UniqueAddresses base) (oneTx : OneTxPerId txs)
    (represents : Represents base db (bookOf base txs)) (provenance : Provenance base db txs)
    (holdingId : Uuid) :
    db.unspentTotal holdingId =
      ∑ outpoint ∈ (bookOf base txs).known with (bookOf base txs).spender outpoint = none,
        (coinWeight base txs holdingId outpoint : Int) := by
  rw [Finset.sum_filter, Database.unspentTotal]
  refine Table.total_eq_sum ?_ ?_
  · intro outpoint
    rw [← represents.known, Database.coinAt_isSome]
  · intro outpoint row found
    have coin : db.coinAt outpoint = some row.core := by rw [Database.coinAt, found, Option.map_some]
    have known := (represents.known outpoint).mp (by simp [coin])
    have weight := inputValue_of_represents unique oneTx (fun _ member => member) represents
      provenance holdingId outpoint
    rw [if_pos known, inputValue, found] at weight
    have unspentIff : row.isSpent = false ↔ (bookOf base txs).spender outpoint = none := by
      have spender := represents.spender outpoint row.core coin
      rw [UtxoRow.core_spentInTxid] at spender
      rw [row.spentConsistent, spender]
      simp
    rw [← weight]
    by_cases held : db.holdingOf row.descriptorId = some holdingId <;>
      by_cases unspent : row.isSpent = false <;> simp [held, unspent, ← unspentIff]

/-! ### What a run posts -/

/-- What a transaction pays a holding. -/
def creditOf (base : Database) (txs : List DecodedTx) (holdingId : Uuid) (tx : DecodedTx) : Nat :=
  ∑ outpoint ∈ watchedOutpoints base tx, coinWeight base txs holdingId outpoint

/-- What a transaction takes from a holding, counting the coins that the whole run makes known. -/
def debitOf (base : Database) (txs : List DecodedTx) (holdingId : Uuid) (tx : DecodedTx) : Nat :=
  ∑ outpoint ∈ spentOutpoints tx ∩ (bookOf base txs).known, coinWeight base txs holdingId outpoint

/-- The ledger after the deliveries `done` of a longer run over `txs`: each delivered transaction is
    posted once, the others not at all. -/
structure Posted (base db : Database) (txs done : List DecodedTx) : Prop where
  totals : ∀ holdingId, db.onchainLinkTotal holdingId =
    ∑ tx ∈ done.toFinset, ((creditOf base txs holdingId tx : Int) - debitOf base txs holdingId tx)
  pending : ∀ tx ∈ txs, tx ∉ done → ∀ holdingId, linksFor db tx.txid holdingId = []
  idle : ∀ tx ∈ done, ∀ holdingId, linksFor db tx.txid holdingId = [] →
    creditOf base txs holdingId tx = 0 ∧ debitOf base txs holdingId tx = 0

theorem Posted.start {base : Database} (noLinks : base.ledgerLinks = .empty)
    (txs : List DecodedTx) : Posted base base txs [] where
  totals := by simp [Database.onchainLinkTotal, noLinks]
  pending := by simp [linksFor, Table.select, noLinks]
  idle := by simp

/-- At its turn in a parents-first run a transaction takes from the known coins what it takes from
    the coins of the whole run. -/
theorem holdingInputValue_of_parentsFirst {base db : Database} {txs done rest : List DecodedTx}
    {tx : DecodedTx} (unique : UniqueAddresses base) (oneTx : OneTxPerId txs)
    (ordered : ParentsFirst (watchedOutpoints base) spentOutpoints txs)
    (split : txs = done ++ tx :: rest) (represents : Represents base db (bookOf base done))
    (provenance : Provenance base db done) (holdingId : Uuid) :
    holdingInputValue db tx holdingId = debitOf base txs holdingId tx := by
  have within : ∀ other ∈ done, other ∈ txs := fun other member => by simp [split, member]
  rw [debitOf, ← Finset.filter_mem_eq_inter, Finset.sum_filter, spentOutpoints,
    List.sum_toFinset _ tx.prevouts_nodup]
  refine congrArg List.sum (List.map_congr_left fun outpoint consumed => ?_)
  rw [inputValue_of_represents unique oneTx within represents provenance]
  have sameKnown : outpoint ∈ (bookOf base done).known ↔ outpoint ∈ (bookOf base txs).known := by
    rw [bookOf, bookOf, Marks.mem_known_run, Marks.mem_known_run]
    constructor
    · rintro ⟨payer, member, created⟩
      exact ⟨payer, within payer member, created⟩
    · exact ordered done tx rest split outpoint (List.mem_toFinset.mpr consumed)
  simp only [sameKnown]

theorem Posted.processed {base db db' : Database} {txs done rest : List DecodedTx} {tx : DecodedTx}
    {ctx : TxContext} {result : TxProcessingResult} {direction : Direction}
    {postings : List Posting} (unique : UniqueAddresses base) (oneTx : OneTxPerId txs)
    (ordered : ParentsFirst (watchedOutpoints base) spentOutpoints txs)
    (split : txs = done ++ tx :: rest) (represents : Represents base db (bookOf base done))
    (provenance : Provenance base db done) (posted : Posted base db txs done)
    (processed : Processed db tx ctx db' result direction postings) :
    Posted base db' txs (done ++ [tx]) := by
  have member : tx ∈ txs := by simp [split]
  have credit : ∀ holdingId, receivedValue (watchedOutputs db tx) holdingId =
      creditOf base txs holdingId tx := by
    intro holdingId
    rw [represents.watchedOutputs, receivedValue_eq_sum unique oneTx member, creditOf]
  have debit := holdingInputValue_of_parentsFirst unique oneTx ordered split represents provenance
  have growth : ∀ holdingId, db'.onchainLinkTotal holdingId = db.onchainLinkTotal holdingId +
      if linksFor db tx.txid holdingId = [] then
        (creditOf base txs holdingId tx : Int) - debitOf base txs holdingId tx
      else 0 := by
    intro holdingId
    rw [processed.onchainLinkTotal represents.wellFormed.ledger, processed.postedSum, holdingNet,
      credit, debit]
  have links := fun txid holdingId =>
    processed.linksFor represents.wellFormed.ledger txid holdingId
  refine ⟨?_, ?_, ?_⟩
  · intro holdingId
    rw [growth, posted.totals]
    by_cases again : tx ∈ done
    · -- A delivery again: either the link is there, or nothing moves.
      have sameSet : (done ++ [tx]).toFinset = done.toFinset := by
        ext other
        simp only [List.mem_toFinset, List.mem_append, List.mem_singleton]
        constructor
        · rintro (earlier | rfl)
          exacts [earlier, again]
        · exact Or.inl
      rw [sameSet]
      by_cases unlinked : linksFor db tx.txid holdingId = []
      · obtain ⟨noCredit, noDebit⟩ := posted.idle tx again holdingId unlinked
        simp [unlinked, noCredit, noDebit]
      · simp [unlinked]
    · rw [if_pos (posted.pending tx member again holdingId), List.toFinset_append,
        Finset.sum_union (by simpa using again)]
      simp
  · intro other otherMember otherPending holdingId
    simp only [List.mem_append, List.mem_singleton, not_or] at otherPending
    have otherId : tx.txid ≠ other.txid := fun same =>
      otherPending.2 (oneTx tx member other otherMember same).symm
    rw [links, if_neg otherId, List.append_nil]
    exact posted.pending other otherMember otherPending.1 holdingId
  · intro other otherDone holdingId unlinked
    rw [links, List.append_eq_nil_iff] at unlinked
    by_cases same : other = tx
    · subst same
      rw [if_pos rfl, List.map_eq_nil_iff, List.filter_eq_nil_iff] at unlinked
      rw [← credit, ← debit]
      refine processed.idle_of_not_posted unlinked.1 fun posting postedHere sameHolder => ?_
      exact unlinked.2 posting postedHere (by simpa using sameHolder)
    · refine posted.idle other ?_ holdingId unlinked.1
      rcases List.mem_append.mp otherDone with earlier | now
      · exact earlier
      · exact absurd (List.mem_singleton.mp now) same

/-- Every prefix of a parents-first run returns, with the coins of the book and each transaction
    posted once. -/
theorem deliverAll_posted {base : Database} (wellFormed : ChainWellFormed base)
    (unique : UniqueAddresses base) (noCoins : base.utxos = .empty)
    (noLinks : base.ledgerLinks = .empty)
    {txs : List DecodedTx} (oneTx : OneTxPerId txs)
    (ordered : ParentsFirst (watchedOutpoints base) spentOutpoints txs)
    (done : List Delivery) (rest : List DecodedTx) (split : txs = done.map Delivery.tx ++ rest) :
    ∃ db, deliverAll base done = .ok db ∧
      Represents base db (bookOf base (done.map Delivery.tx)) ∧
      Provenance base db (done.map Delivery.tx) ∧ Posted base db txs (done.map Delivery.tx) := by
  induction done using List.reverseRecOn generalizing rest with
  | nil => exact ⟨base, rfl, .start wellFormed noCoins, .start noCoins, .start noLinks txs⟩
  | append_singleton before last inductionHypothesis =>
      have split' : txs = before.map Delivery.tx ++ last.tx :: rest := by simpa using split
      obtain ⟨db, run, represents, provenance, posted⟩ :=
        inductionHypothesis (last.tx :: rest) split'
      obtain ⟨db', _, _, _, step, processed⟩ := deliver_processed represents.wellFormed last
      refine ⟨db', (deliverAll_concat run last).trans step, ?_, ?_, ?_⟩
      · rw [List.map_append, bookOf, List.map_singleton, Marks.run_concat]
        exact represents.processed processed
      · rw [List.map_append, List.map_singleton]
        exact provenance.processed represents processed
      · rw [List.map_append, List.map_singleton]
        exact posted.processed unique oneTx ordered split' represents provenance processed

/-- Conservation on the live path: for unique addresses and an empty ledger, every conflict-free
    parents-first list of deliveries, each repeated in any pattern, returns and leaves every holding
    with links that add up to its unspent coins. -/
theorem onchainLinkTotal_eq_unspentTotal {base : Database} (wellFormed : ChainWellFormed base)
    (unique : UniqueAddresses base) (noCoins : base.utxos = .empty)
    (noLinks : base.ledgerLinks = .empty)
    (deliveries : List Delivery) (oneTx : OneTxPerId (deliveries.map Delivery.tx))
    (free : ConflictFree spentOutpoints (deliveries.map Delivery.tx))
    (ordered : ParentsFirst (watchedOutpoints base) spentOutpoints (deliveries.map Delivery.tx)) :
    ∃ db, deliverAll base deliveries = .ok db ∧
      ∀ holdingId, db.onchainLinkTotal holdingId = db.unspentTotal holdingId := by
  obtain ⟨db, run, represents, provenance, posted⟩ :=
    deliverAll_posted wellFormed unique noCoins noLinks oneTx ordered deliveries []
      (by simp)
  refine ⟨db, run, fun holdingId => ?_⟩
  have once : Marks.CreatedOnce (watchedOutpoints base) (deliveries.map Delivery.tx) := by
    intro outpoint tx member tx' member' created created'
    exact oneTx tx member tx' member' ((txid_of_mem_watchedOutpoints created).symm.trans
      (txid_of_mem_watchedOutpoints created'))
  have conserved := Marks.unspent_sum free ordered once
    fun outpoint => (coinWeight base (deliveries.map Delivery.tx) holdingId outpoint : Int)
  rw [unspentTotal_of_represents unique oneTx represents provenance, bookOf, conserved,
    posted.totals]
  simp only [creditOf, debitOf, bookOf, Nat.cast_sum]

/-- The sample transactions, both seen in the mempool and then confirmed. -/
theorem onchainLinkTotal_eq_unspentTotal_confirmedLater :
    ∃ db,
      deliverAll sampleWallet
          [⟨samplePayment, sampleCall none⟩, ⟨sampleTransfer, sampleCall none⟩,
            ⟨samplePayment, sampleCall (some 7)⟩, ⟨sampleTransfer, sampleCall (some 8)⟩] = .ok db ∧
        ∀ holdingId, db.onchainLinkTotal holdingId = db.unspentTotal holdingId := by
  refine onchainLinkTotal_eq_unspentTotal sampleWallet_wellFormed (by decide) rfl rfl _
    (by decide) (sampleTxs_conflictFree _ (by simp)) ?_
  intro before tx after split outpoint spends _
  simp only [List.map_cons, List.map_nil] at split
  have head : before.head? = some samplePayment := by
    cases before with
    | nil =>
        rw [List.nil_append, List.cons.injEq] at split
        rw [← split.1] at spends
        simp [spentOutpoints, DecodedTx.prevouts, samplePayment, DecodedInput.prevout?] at spends
    | cons first rest =>
        rw [List.cons_append, List.cons.injEq] at split
        rw [← split.1]
        rfl
  have listed : tx ∈ [samplePayment, sampleTransfer, samplePayment, sampleTransfer] := by
    rw [split]
    simp
  have consumed : outpoint = ⟨.repeated 'a', 0⟩ := by
    have either : tx = samplePayment ∨ tx = sampleTransfer := by
      simp only [List.mem_cons, List.not_mem_nil, or_false] at listed
      tauto
    rcases either with rfl | rfl
    · simp [spentOutpoints, DecodedTx.prevouts, samplePayment, DecodedInput.prevout?] at spends
    · simpa [spentOutpoints, DecodedTx.prevouts, sampleTransfer, DecodedInput.prevout?] using spends
  refine ⟨samplePayment, List.mem_of_head? head, ?_⟩
  rw [consumed]
  decide

end TallyKeep
