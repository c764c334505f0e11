/-
Module: TallyKeep.Proofs.LedgerOrder
Layer: Proofs
Purpose: When the ledger feed makes the same entries of a page in any order, and leaves out nothing.
Trusted boundary: none
Main exports: Kraken.ledgerOf, Kraken.ParsedExactly, Kraken.TradesAlone, Kraken.parsedExactly_iff,
  Kraken.trade_lost_after_fee
-/
import TallyKeep.Proofs.LedgerPages

namespace TallyKeep.Kraken

/-! ### The entries of a page -/

/-- An exchange whose ledger is one page. -/
def onePage (page : List RawLedgerItem) : Exchange :=
  ⟨.ok none, .ok [], fun _ _ => .ok (some page), fun _ _ => .ok none⟩

/-- The entries `fetch_ledger_since` returns of a page. -/
def ledgerOf (since : Option Timestamp) (page : List RawLedgerItem) : List CustodialLedgerEntry :=
  match fetchLedgerSince (onePage page) since with
  | .ok (entries, _) => entries
  | .error _ => []

/-- Any exchange that answers with the page gives these entries. -/
theorem fetched_eq_ledgerOf {exchange : Exchange} {since : Option Timestamp}
    {page : List RawLedgerItem}
    (answered : exchange.fetchLedger (since.map sinceMs) 200 = .ok (some page)) :
    (fetchLedgerSince exchange since).map Prod.fst = .ok (ledgerOf since page) := by
  rw [fetchLedgerSince, answered]
  rfl

section Entries

variable {since : Option Timestamp} {rows page raw : List RawLedgerItem}

theorem mem_ledgerOf {entry : CustodialLedgerEntry} :
    entry ∈ ledgerOf since page ↔
      ∃ item, MaterialisedIn page item ∧ materialise since page item = entry := by
  have answered : (onePage page).fetchLedger (since.map sinceMs) 200 = .ok (some page) := rfl
  exact (pageRead_of_fetched answered rfl).materialised entry

/-- An entry carries its row. -/
theorem materialise_row {raw' : List RawLedgerItem} {item item' : RawLedgerItem}
    (same : materialise since raw item = materialise since raw' item') : item = item' :=
  congrArg (fun entry => entry.raw.item) same

/-- An entry of a row is returned only where the row materialises, with the same legs. -/
theorem materialised_of_entry {item : RawLedgerItem}
    (returned : materialise since raw item ∈ ledgerOf since page) :
    MaterialisedIn page item ∧ materialise since page item = materialise since raw item := by
  obtain ⟨other, materialised, same⟩ := mem_ledgerOf.mp returned
  cases materialise_row same
  exact ⟨materialised, same⟩

/-- A BTC row that comes first materialises. -/
theorem materialisedIn_head {item : RawLedgerItem} (btc : item.isBtc = true)
    (rest : List RawLedgerItem) : MaterialisedIn (item :: rest) item :=
  ⟨[], rest, rfl, btc, fun _ _ absent => absurd absent List.not_mem_nil⟩

/-- A trade does not materialise where another BTC row of its refid comes first. -/
theorem not_materialisedIn_behind {first trade : RawLedgerItem} (btc : first.isBtc = true)
    (kind : trade.kind = .trade) (same : first.refid = trade.refid) (other : first ≠ trade)
    (rest : List RawLedgerItem) : ¬MaterialisedIn (first :: rest) trade := by
  rintro ⟨before, after, split, materialises⟩
  cases before with
  | nil => exact other (List.cons.inj split).1
  | cons head before =>
      cases (List.cons.inj split).1
      exact materialises.first kind first List.mem_cons_self btc same

end Entries

/-! ### The law -/

/-- The entries of some rows are the same in any order, one for each BTC row but for further trades
    of a refid that has one, and none besides. -/
structure ParsedExactly (since : Option Timestamp) (rows : List RawLedgerItem) : Prop where
  orderFree : ∀ page, page.Perm rows →
    ∀ entry, entry ∈ ledgerOf since page ↔ entry ∈ ledgerOf since rows
  complete : ∀ row ∈ rows, row.isBtc = true →
    materialise since rows row ∈ ledgerOf since rows ∨
      (row.kind = .trade ∧ ∃ other ∈ rows, other ≠ row ∧ other.isBtc = true ∧
        other.kind = .trade ∧ other.refid = row.refid ∧
        materialise since rows other ∈ ledgerOf since rows)
  only : ∀ entry ∈ ledgerOf since rows,
    ∃ row ∈ rows, row.isBtc = true ∧ entry = materialise since rows row
  once : ∀ row ∈ rows, ∀ other ∈ rows, row.kind = .trade → other.kind = .trade →
    row.refid = other.refid → materialise since rows row ∈ ledgerOf since rows →
      materialise since rows other ∈ ledgerOf since rows → row = other

/-- A BTC trade shares its refid with no other BTC row, and with at most one in another currency. -/
def TradesAlone (rows : List RawLedgerItem) : Prop :=
  ∀ trade ∈ rows, trade.isBtc = true → trade.kind = .trade →
    (∀ other ∈ rows, other.isBtc = true → other.refid = trade.refid → other = trade) ∧
      (fiatLegs rows trade).length ≤ 1

section Law

variable {since : Option Timestamp} {rows page : List RawLedgerItem}

theorem materialisedIn_iff_of_alone (alone : TradesAlone rows) (distinct : rows.Nodup)
    (perm : page.Perm rows) {row : RawLedgerItem} :
    MaterialisedIn page row ↔ row ∈ rows ∧ row.isBtc = true := by
  constructor
  · intro materialised
    exact ⟨perm.mem_iff.mp materialised.mem, materialised.btc⟩
  · rintro ⟨member, btc⟩
    obtain ⟨before, after, rfl⟩ := List.append_of_mem (perm.mem_iff.mpr member)
    refine ⟨before, after, rfl, btc, fun trade other earlier otherBtc same => ?_⟩
    have inside : other ∈ rows := perm.mem_iff.mp (by simp [earlier])
    cases (alone row member btc trade).1 other inside otherBtc same
    have unique := perm.nodup_iff.mpr distinct
    rw [List.nodup_append] at unique
    exact unique.2.2 row earlier row List.mem_cons_self rfl

/-- With at most one leg, the order of the rows does not show. -/
theorem materialise_perm (alone : TradesAlone rows) (perm : page.Perm rows) {row : RawLedgerItem}
    (member : row ∈ rows) (btc : row.isBtc = true) :
    materialise since page row = materialise since rows row := by
  by_cases trade : row.kind = .trade
  · have legs : fiatLegs page row = fiatLegs rows row := by
      have permuted : (fiatLegs page row).Perm (fiatLegs rows row) := perm.filter _
      have few := (alone row member btc trade).2
      cases legs : fiatLegs rows row with
      | nil =>
          rw [legs] at permuted
          exact permuted.eq_nil
      | cons leg rest =>
          rw [legs, List.length_cons] at few
          cases List.length_eq_zero_iff.mp (Nat.le_zero.mp (Nat.le_of_succ_le_succ few))
          rw [legs] at permuted
          exact permuted.eq_singleton
    simp only [materialise, legs]
  · simp only [materialise, trade, if_false]

theorem parsedExactly_of_alone (alone : TradesAlone rows) (distinct : rows.Nodup) :
    ParsedExactly since rows := by
  have entries : ∀ page, page.Perm rows → ∀ entry, entry ∈ ledgerOf since page ↔
      ∃ row, (row ∈ rows ∧ row.isBtc = true) ∧ materialise since rows row = entry := by
    intro page perm entry
    rw [mem_ledgerOf]
    constructor
    · rintro ⟨row, materialised, rfl⟩
      have known := (materialisedIn_iff_of_alone alone distinct perm).mp materialised
      exact ⟨row, known, (materialise_perm alone perm known.1 known.2).symm⟩
    · rintro ⟨row, known, rfl⟩
      exact ⟨row, (materialisedIn_iff_of_alone alone distinct perm).mpr known,
        materialise_perm alone perm known.1 known.2⟩
  have returned := entries rows (List.Perm.refl rows)
  constructor
  · intro page perm entry
    rw [entries page perm, returned]
  · intro row member btc
    exact .inl ((returned _).mpr ⟨row, ⟨member, btc⟩, rfl⟩)
  · intro entry inside
    obtain ⟨row, ⟨member, btc⟩, rfl⟩ := (returned entry).mp inside
    exact ⟨row, member, btc, rfl⟩
  · intro row member other otherMember trade _ same inside _
    exact ((alone row member (materialised_of_entry inside).1.btc trade).1 other otherMember
      (materialised_of_entry ‹_›).1.btc same.symm).symm

/-- Where the order does not matter, no other BTC row has the refid of a trade: each of the two put
    first would be the one that is kept. -/
theorem alone_of_orderFree
    (orderFree : ∀ page, page.Perm rows →
      ∀ entry, entry ∈ ledgerOf since page ↔ entry ∈ ledgerOf since rows)
    {trade other : RawLedgerItem} (member : trade ∈ rows) (btc : trade.isBtc = true)
    (kind : trade.kind = .trade) (otherMember : other ∈ rows) (otherBtc : other.isBtc = true)
    (same : other.refid = trade.refid) : other = trade := by
  by_contra different
  have kept : materialise since (trade :: rows.erase trade) trade ∈
      ledgerOf since (trade :: rows.erase trade) :=
    mem_ledgerOf.mpr ⟨trade, materialisedIn_head btc _, rfl⟩
  have behind := (orderFree _ (List.perm_cons_erase otherMember).symm _).mpr
    ((orderFree _ (List.perm_cons_erase member).symm _).mp kept)
  exact not_materialisedIn_behind otherBtc kind same different _ (materialised_of_entry behind).1

/-- A list without repetition that is its own reverse has at most one item. -/
theorem length_le_one_of_reverse_eq {α : Type} {items : List α} (distinct : items.Nodup)
    (same : items.reverse = items) : items.length ≤ 1 := by
  cases items with
  | nil => exact Nat.zero_le 1
  | cons head rest =>
      rcases List.eq_nil_or_concat rest with rfl | ⟨init, last, rfl⟩
      · exact Nat.le_refl 1
      · have ends : last = head := by
          rw [List.concat_eq_append, List.reverse_cons, List.reverse_concat] at same
          exact (List.cons.inj same).1
        refine absurd ?_ (List.nodup_cons.mp distinct).1
        rw [ends]
        simp

/-- Where the order does not matter, a trade has at most one leg in another currency: they would be
    stored in their order. -/
theorem few_legs_of_orderFree (distinct : rows.Nodup)
    (orderFree : ∀ page, page.Perm rows →
      ∀ entry, entry ∈ ledgerOf since page ↔ entry ∈ ledgerOf since rows)
    {trade : RawLedgerItem} (member : trade ∈ rows) (btc : trade.isBtc = true)
    (kind : trade.kind = .trade) : (fiatLegs rows trade).length ≤ 1 := by
  apply length_le_one_of_reverse_eq (distinct.filter _)
  have kept : materialise since (trade :: rows.erase trade) trade ∈
      ledgerOf since (trade :: rows.erase trade) :=
    mem_ledgerOf.mpr ⟨trade, materialisedIn_head btc _, rfl⟩
  have inRows := (orderFree _ (List.perm_cons_erase member).symm _).mp kept
  have inReverse := (orderFree _ (List.reverse_perm rows) _).mpr inRows
  have same := (materialised_of_entry inReverse).2.trans (materialised_of_entry inRows).2.symm
  have legs := congrArg (fun entry => entry.raw.fiatLegRaw) same
  simp only [materialise, kind, if_true] at legs
  calc (fiatLegs rows trade).reverse = fiatLegs rows.reverse trade := List.filter_reverse.symm
    _ = fiatLegs rows trade := legs

end Law

/-- The entries of rows with distinct ids are the same in any order, and none is missing, exactly
    when no BTC trade shares its refid with another BTC row, or with two in other currencies. -/
theorem parsedExactly_iff {since : Option Timestamp} {rows : List RawLedgerItem}
    (distinct : (rows.map RawLedgerItem.id).Nodup) :
    ParsedExactly since rows ↔ TradesAlone rows := by
  have unique : rows.Nodup := List.Nodup.of_map _ distinct
  constructor
  · intro parsed trade member btc kind
    constructor
    · intro other otherMember otherBtc same
      exact alone_of_orderFree parsed.orderFree member btc kind otherMember otherBtc same
    · exact few_legs_of_orderFree unique parsed.orderFree member btc kind
  · intro alone
    exact parsedExactly_of_alone alone unique

/-- A BTC row of a refid. -/
def btcRow (id referenceId type direction : String) (amount : ℚ) : RawLedgerItem :=
  ⟨some id, some referenceId, some "BTC", some type, some direction, some amount, none, some 0,
    none, ""⟩

/-- A trade with its leg in euros, and a deposit. -/
def tradedPage : List RawLedgerItem :=
  [btcRow "L1" "T1" "trade" "in" 1,
    { btcRow "L2" "T1" "trade" "out" 50000 with currency := some "EUR" },
    btcRow "L3" "D1" "deposit" "in" 2]

theorem parsedExactly_tradedPage : ParsedExactly none tradedPage :=
  (parsedExactly_iff (by decide)).mpr (by unfold TradesAlone; decide)

/-- The rollover fee of a position stands before the trade that closes it, under one refid. -/
def rolledPage : List RawLedgerItem :=
  [btcRow "L1" "T1" "rollover" "out" (1 / 1000), btcRow "L2" "T1" "margin" "in" 1]

/-- The trade leaves no entry; in the other order it does. -/
theorem trade_lost_after_fee :
    (rolledPage.map RawLedgerItem.id).Nodup ∧
      (ledgerOf none rolledPage).map CustodialLedgerEntry.providerEntryId = ["L1"] ∧
      (ledgerOf none rolledPage.reverse).map CustodialLedgerEntry.providerEntryId = ["L2", "L1"] ∧
      ¬ParsedExactly none rolledPage := by
  refine ⟨by decide, by decide, by decide, ?_⟩
  intro parsed
  let trade := materialise none rolledPage (btcRow "L2" "T1" "margin" "in" 1)
  have found : trade ∈ ledgerOf none rolledPage.reverse := by decide
  have lost : trade ∉ ledgerOf none rolledPage := by decide
  exact lost ((parsed.orderFree _ (List.reverse_perm rolledPage) trade).mp found)

end TallyKeep.Kraken
