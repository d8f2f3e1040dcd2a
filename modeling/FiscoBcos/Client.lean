/-
# The client's transaction-queue sync

`Client::syncTransactionQueue` (`libethereum/Client.cpp`) moves queued transactions into the
working block, copies the working block to `m_postSeal`, and tells the watches about each new
transaction: `appendFromNewPending` records the transaction's hash for the pending-changes
filter and the receipt's logs for every installed filter that matches them. The `i`-th new
receipt goes out with `m_postSeal.pending()[i]`, counted from the start of the pending list,
while the new transactions sit after the `k` the block already held.

* `syncTransactionQueue_pendingChanged`: for every working block and every batch, the hashes
  the pending-changes filter receives are those of the first `m` pending transactions;
* `syncTransactionQueue_pendingChanged_of_empty`: from an empty block they are the hashes of
  the new transactions;
* `sync_reports_old_hash`: with one transaction already pending, the new transaction's receipt
  goes out with the old transaction's hash.

`Client::updateConfig` reads the chain parameters from the system contract and clamps each. The
floor of `BlockHeader::maxBlockHeadGas` is the `u256` product `(m_maxBlockTransactions + 100) *
TransactionBase::maxGas`, and `maxGas` is bounded only from below.

* `updateConfig_maxBlockHeadGas`: the configured block gas is the larger of the contract's value
  and the floor reduced modulo `2^256`;
* `updateConfig_floor_wraps`: with `maxTransactionGas = 2^255` the floor wraps to `0`.
-/
import FiscoBcos.Basic

namespace Eth

/-- A log entry of a receipt; watches compare them only through their filters. -/
abbrev LogEntry := Nat

/-- The part of a `Transaction` the sync reads: `sha3()`. -/
structure Transaction where
  sha3 : H256
  deriving DecidableEq, Repr

/-- The part of a `TransactionReceipt` the filters read: its logs. -/
structure TransactionReceipt where
  log : List LogEntry
  deriving DecidableEq, Repr

/-- The part of the working block the sync reads: `isSealed()` and `pending()`. -/
structure Block where
  sealed : Bool
  pending : List Transaction
  deriving DecidableEq, Repr

/-- Modelled from the spec: a `LogFilter` (declared outside `src/`), read only through
`matches(receipt)`, the receipt's log entries it accepts. -/
structure LogFilter where
  accepts : LogEntry → Bool

/-- `filter.matches(receipt)`. -/
def LogFilter.matches (f : LogFilter) (r : TransactionReceipt) : List LogEntry :=
  r.log.filter f.accepts

/-- An installed filter and the changes it has collected. -/
structure InstalledFilter where
  filter : LogFilter
  changes : List LogEntry

/-- Modelled from the spec: `PendingChangedFilter`, the id of the special filter of pending
transactions (`u256(0)`, declared outside `src/`). -/
def pendingChangedFilter : H256 := 0

/-- The members of `Client` the sync uses. `moreToSync` is `m_syncTransactionQueue` (the last
sync left transactions queued) and `pendingChanged` is `m_specialFilters[PendingChangedFilter]`. -/
structure Client where
  working : Block
  postSeal : Block
  maxBlockTransactions : Nat
  moreToSync : Bool
  pendingChanged : List H256
  filters : List (H256 × InstalledFilter)

/-- `h256Hash::insert`: add an id to the set of changed filters. -/
def insertId (changed : List H256) (id : H256) : List H256 :=
  if id ∈ changed then changed else changed ++ [id]

/-- Modelled from the spec: `Block::sync(bc, tq, gp)` (outside `src/`) executes queued
transactions on the working block, appends them to its pending list in order and returns one
receipt per transaction, and whether more are queued. What it executes is its input here. -/
def Block.sync (b : Block) (batch : List (Transaction × TransactionReceipt)) :
    List TransactionReceipt × Block :=
  (batch.map Prod.snd, { b with pending := b.pending ++ batch.map Prod.fst })

namespace Client

/-- One installed filter on a new receipt: its matches are added to its changes, and its id to
the changed set when there are some. -/
def matchFilter (r : TransactionReceipt) (changed : List H256) (e : H256 × InstalledFilter) :
    (H256 × InstalledFilter) × List H256 :=
  let m := e.2.filter.matches r
  if m.isEmpty then (e, changed)
  else ((e.1, { e.2 with changes := e.2.changes ++ m }), insertId changed e.1)

/-- The loop of `appendFromNewPending` over the installed filters. -/
def matchFilters (r : TransactionReceipt) :
    List H256 → List (H256 × InstalledFilter) → List (H256 × InstalledFilter) × List H256
  | changed, [] => ([], changed)
  | changed, e :: es =>
    let (e', changed) := matchFilter r changed e
    let (es', changed) := matchFilters r changed es
    (e' :: es', changed)

/-- `appendFromNewPending(receipt, io_changed, sha3)`: the pending-changes filter gets the hash,
and every installed filter its matches of the receipt. -/
def appendFromNewPending (c : Client) (r : TransactionReceipt) (changed : List H256)
    (h : H256) : Client × List H256 :=
  let changed := insertId changed pendingChangedFilter
  let (filters, changed) := matchFilters r changed c.filters
  ({ c with pendingChanged := c.pendingChanged ++ [h], filters }, changed)

/-- The loop of `syncTransactionQueue`: receipt `i` with `m_postSeal.pending()[i].sha3()`. The
pending list holds at least as many transactions as there are receipts, so the pairs are the
receipts zipped with the first hashes of the pending list. -/
def appendAll (c : Client) (changed : List H256) :
    List (TransactionReceipt × H256) → Client × List H256
  | [] => (c, changed)
  | (r, h) :: rest =>
    let (c, changed) := c.appendFromNewPending r changed h
    appendAll c changed rest

/-- `syncTransactionQueue()`, with the outcome of `m_working.sync` as input (the executed
transactions with their receipts, and whether more are queued). It returns the changed filter
ids handed to `noteChanged`. -/
def syncTransactionQueue (c : Client) (batch : List (Transaction × TransactionReceipt))
    (more : Bool) : Client × List H256 :=
  if c.working.sealed then (c, [])
  else if c.working.pending.length ≥ c.maxBlockTransactions then (c, [])
  else
    let (receipts, working) := c.working.sync batch
    let c := { c with working, moreToSync := more }
    if receipts.isEmpty then (c, [])
    else
      let c := { c with postSeal := c.working }
      c.appendAll [] (receipts.zip (c.postSeal.pending.map Transaction.sha3))

/-! ## The hashes the pending-changes filter receives -/

@[simp] theorem appendFromNewPending_pendingChanged (c : Client) (r : TransactionReceipt)
    (changed : List H256) (h : H256) :
    (c.appendFromNewPending r changed h).1.pendingChanged = c.pendingChanged ++ [h] := rfl

/-- The loop hands the pending-changes filter the hashes of its pairs, in order. -/
theorem appendAll_pendingChanged (c : Client) (changed : List H256)
    (ps : List (TransactionReceipt × H256)) :
    (c.appendAll changed ps).1.pendingChanged = c.pendingChanged ++ ps.map Prod.snd := by
  induction ps generalizing c changed with
  | nil => simp [appendAll]
  | cons p ps ih =>
    obtain ⟨r, h⟩ := p
    simp only [appendAll, ih, appendFromNewPending_pendingChanged, List.map_cons,
      List.append_assoc, List.singleton_append]

/-- Zipping with a list at least as long pairs with its first elements. -/
theorem map_snd_zip_of_le {α β : Type} :
    ∀ (l₁ : List α) (l₂ : List β), l₁.length ≤ l₂.length →
      (l₁.zip l₂).map Prod.snd = l₂.take l₁.length
  | [], _, _ => rfl
  | _ :: as, b :: bs, h => by simp [map_snd_zip_of_le as bs (by simpa using h)]
  | _ :: _, [], h => by simp at h

/-- **The hashes that go with the new receipts.** For every working block with room for more
transactions and every non-empty batch of `m` executed transactions, the pending-changes filter
receives the hashes of the first `m` transactions of the pending list, which starts with the
`k` transactions the block already held. -/
theorem syncTransactionQueue_pendingChanged (c : Client)
    (batch : List (Transaction × TransactionReceipt)) (more : Bool)
    (hs : c.working.sealed = false) (hroom : c.working.pending.length < c.maxBlockTransactions)
    (hne : batch ≠ []) :
    (c.syncTransactionQueue batch more).1.pendingChanged = c.pendingChanged ++
      ((c.working.pending ++ batch.map Prod.fst).take batch.length).map Transaction.sha3 := by
  have hr : (batch.map Prod.snd).isEmpty = false := by simpa using hne
  simp only [syncTransactionQueue, hs, Bool.false_eq_true, ite_false, Block.sync,
    if_neg (Nat.not_le.mpr hroom), hr]
  rw [appendAll_pendingChanged, map_snd_zip_of_le _ _ (by simp), List.length_map, List.map_take]

/-- From an empty working block the hashes are those of the new transactions, which is all a
first sync shows. -/
theorem syncTransactionQueue_pendingChanged_of_empty (c : Client)
    (batch : List (Transaction × TransactionReceipt)) (more : Bool)
    (hs : c.working.sealed = false) (hempty : c.working.pending = [])
    (hroom : 0 < c.maxBlockTransactions) (hne : batch ≠ []) :
    (c.syncTransactionQueue batch more).1.pendingChanged =
      c.pendingChanged ++ batch.map (·.1.sha3) := by
  rw [syncTransactionQueue_pendingChanged c batch more hs (by rw [hempty]; exact hroom) hne,
    hempty, List.nil_append, List.take_of_length_le (by simp), List.map_map]
  rfl

/-- A working block holding transaction `1`, with room for ten. -/
def oneTxClient : Client where
  working := ⟨false, [⟨1⟩]⟩
  postSeal := ⟨false, [⟨1⟩]⟩
  maxBlockTransactions := 10
  moreToSync := false
  pendingChanged := []
  filters := []

/-- The sync executes transaction `2`; its receipt goes out with the hash of transaction `1`,
which the pending-changes filter receives in place of `2`. -/
theorem sync_reports_old_hash :
    ∃ c, c = (oneTxClient.syncTransactionQueue [(⟨2⟩, ⟨[]⟩)] false).1 ∧
      c.postSeal.pending = [⟨1⟩, ⟨2⟩] ∧ c.pendingChanged = [1] :=
  ⟨_, rfl, by decide⟩

/-! ## The chain parameters from the system contract -/

/-- The system contract's answers to `getValue` for the keys `updateConfig` reads: the numbers as
`fromBigEndian<u256>(fromHex(value))` decodes them, and the two flags as text. -/
structure SystemConfig where
  maxBlockTransactions : U256
  maxTransactionGas : U256
  maxBlockHeadGas : U256
  intervalBlockTime : U256
  updateHeight : U256
  maxNonceCheckBlock : U256
  maxBlockLimit : U256
  caVerify : String
  omitEmptyBlock : String
  deriving DecidableEq, Repr

/-- What `updateConfig` writes: `m_maxBlockTransactions` (the bound `syncTransactionQueue`
reads), `TransactionBase::maxGas`, `BlockHeader::maxBlockHeadGas`, the seal engine's block
interval, `BlockHeader::updateHeight`, `NonceCheck::maxblocksize`, `BlockChain::maxBlockLimit`,
`NodeConnParamsManager::CAVerify` and `m_omit_empty_block`. -/
structure ChainConfig where
  maxBlockTransactions : U256
  maxGas : U256
  maxBlockHeadGas : U256
  intervalBlockTime : U256
  updateHeight : U256
  maxblocksize : U256
  maxBlockLimit : U256
  caVerify : Bool
  omitEmptyBlock : Bool
  deriving DecidableEq, Repr

/-- `updateConfig()`. Each number is clamped as the code does; `min_block_gas`, the floor of
`maxBlockHeadGas`, is the `u256` product `(m_maxBlockTransactions + 100) * maxGas`, taken
modulo `2^256`. -/
def updateConfig (v : SystemConfig) : ChainConfig :=
  let maxBlockTransactions : U256 :=
    let u := if v.maxBlockTransactions > 2000 then 2000 else v.maxBlockTransactions
    if u > 0 then u else 1000
  let maxGas : U256 := if v.maxTransactionGas < 30000000 then 30000000 else v.maxTransactionGas
  let minBlockGas := (maxBlockTransactions + 100) * maxGas
  { maxBlockTransactions, maxGas
    maxBlockHeadGas := if v.maxBlockHeadGas < minBlockGas then minBlockGas else v.maxBlockHeadGas
    intervalBlockTime := if v.intervalBlockTime < 1000 then 1000 else v.intervalBlockTime
    updateHeight := v.updateHeight
    maxblocksize := if v.maxNonceCheckBlock < 1000 then 1000 else v.maxNonceCheckBlock
    maxBlockLimit := if v.maxBlockLimit < 1000 then 1000 else v.maxBlockLimit
    caVerify := v.caVerify == "true"
    omitEmptyBlock := !(v.omitEmptyBlock == "false") }

/-- The block-size bound lies in `1..2000` and the transaction gas limit is at least
`30000000`, whatever the contract holds. -/
theorem updateConfig_bounds (v : SystemConfig) :
    1 ≤ (updateConfig v).maxBlockTransactions.toNat ∧
      (updateConfig v).maxBlockTransactions.toNat ≤ 2000 ∧
      30000000 ≤ (updateConfig v).maxGas.toNat := by
  simp only [updateConfig, gt_iff_lt]
  refine ⟨?_, ?_, ?_⟩ <;> split_ifs <;>
    simp_all [BitVec.lt_def, Nat.one_le_iff_ne_zero, Nat.pos_iff_ne_zero]

/-- **The block gas floor, exactly.** `maxBlockHeadGas` is the larger of the contract's value
and the unbounded floor `(m_maxBlockTransactions + 100) * maxGas` reduced modulo `2^256`. -/
theorem updateConfig_maxBlockHeadGas (v : SystemConfig) :
    (updateConfig v).maxBlockHeadGas.toNat = max v.maxBlockHeadGas.toNat
      (((updateConfig v).maxBlockTransactions.toNat + 100) * (updateConfig v).maxGas.toNat
        % 2 ^ 256) := by
  have hadd : ((updateConfig v).maxBlockTransactions + 100).toNat =
      (updateConfig v).maxBlockTransactions.toNat + 100 := by
    rw [BitVec.toNat_add]
    exact Nat.mod_eq_of_lt (by have := (updateConfig_bounds v).2.1; simp; omega)
  show (if v.maxBlockHeadGas <
      ((updateConfig v).maxBlockTransactions + 100) * (updateConfig v).maxGas
    then ((updateConfig v).maxBlockTransactions + 100) * (updateConfig v).maxGas
    else v.maxBlockHeadGas).toNat = _
  split_ifs with h <;> rw [BitVec.lt_def, BitVec.toNat_mul, hadd] at * <;> omega

/-- While the floor fits in 256 bits (`maxGas` below `2^256 / 2100` suffices), the configured
block gas is at least the floor. -/
theorem floor_le_maxBlockHeadGas (v : SystemConfig)
    (h : ((updateConfig v).maxBlockTransactions.toNat + 100) * (updateConfig v).maxGas.toNat <
      2 ^ 256) :
    ((updateConfig v).maxBlockTransactions.toNat + 100) * (updateConfig v).maxGas.toNat ≤
      (updateConfig v).maxBlockHeadGas.toNat := by
  rw [updateConfig_maxBlockHeadGas, Nat.mod_eq_of_lt h]
  exact le_max_right _ _

/-- The contract leaves every number at zero except `maxTransactionGas = 2^255`. -/
def wrapGasConfig : SystemConfig where
  maxBlockTransactions := 0
  maxTransactionGas := BitVec.ofNat 256 (2 ^ 255)
  maxBlockHeadGas := 0
  intervalBlockTime := 0
  updateHeight := 0
  maxNonceCheckBlock := 0
  maxBlockLimit := 0
  caVerify := ""
  omitEmptyBlock := ""

/-- The block size defaults to `1000`, so the floor is `1100 · 2^255`, which is `0` modulo
`2^256`: `maxBlockHeadGas` is left at `0`, below the floor. -/
theorem updateConfig_floor_wraps :
    ∃ c, c = updateConfig wrapGasConfig ∧ c.maxBlockHeadGas = 0 ∧
      (c.maxBlockTransactions.toNat + 100) * c.maxGas.toNat = 1100 * 2 ^ 255 :=
  ⟨_, rfl, by decide, by decide⟩

end Client

end Eth
