/-
# The client's watches

A watch (`m_watches`, a `ClientWatch`) polls one filter: an installed log filter of `m_filters`,
or one of the two special filters of `m_specialFilters`, whose changes are the hashes of new
pending transactions (`PendingChangedFilter`) or of new chain blocks (`ChainChangedFilter`).
New entries do not go to the watches directly. `appendFromNewPending` and `appendFromBlock`
append them to the filters and collect the ids of the filters they touched; `noteChanged` then
moves each touched filter's changes into the watches on it and clears every filter. Three
callers run this pipeline: `syncTransactionQueue`, `onChainChanged` (through `onDeadBlocks` and
`onNewBlocks`) and `clearPending`.

* `Feeds`: what one pass over the installed filters does, for the sync's loop, a block's loop
  and their compositions;
* `noteChanged_watches`: when the touched ids cover every filter holding changes, each watch
  accrues exactly what its filter holds;
* `step_delivers`: from a state whose filters hold nothing, each call gives every watch exactly
  what the call's receipts and hashes bring to its filter, and leaves the filters empty;
* `run_delivers_matches`: over every run of syncs, chain changes and `clearPending`, a watch on
  an installed filter receives the filter's matches over every receipt the run processes, in
  order, each once;
* `syncAmountRun_bounds`: the batch size of `syncBlockQueue` stays within
  `c_syncMin..c_syncMax` over every run, and its `unsigned` products never wrap.
-/
import FiscoBcos.Client

namespace Eth

/-- `ChainChangedFilter`, the id of the special filter of new chain blocks, declared outside
`src/` beside `PendingChangedFilter` (`u256(1)`); only its difference from that id matters. -/
def chainChangedFilter : H256 := 1

/-- An entry of a watch's changes (`LocalisedLogEntry`): a log entry an installed filter
matched, or a `SpecialLogEntry` with the hash of a pending transaction or a chain block. The
localisation of a block's entries (block hash and number, transaction hash and index,
polarity) is read by no modelled function and left out. -/
inductive WatchEntry where
  | log (l : LogEntry)
  | special (h : H256)
  deriving DecidableEq, Repr

/-- `ClientWatch`: the id of the filter it polls and the changes collected for the next poll. -/
structure ClientWatch where
  id : H256
  changes : List WatchEntry
  deriving DecidableEq, Repr

/-- `ImportRoute`, the outcome of a chain import the watches read: the blocks that left the
canonical chain and those that joined it. -/
structure ImportRoute where
  deadBlocks : List H256
  liveBlocks : List H256

/-- The members of `Client` the watch bookkeeping adds to those the sync writes:
`m_specialFilters[ChainChangedFilter]` and `m_watches`, by watch id. -/
structure Watching where
  client : Client
  chainChanged : List H256
  watches : List (Nat × ClientWatch)

/-- Every installed filter gets `g` of its `LogFilter` appended to its changes. -/
def feed (g : LogFilter → List LogEntry) (fs : List (H256 × InstalledFilter)) :
    List (H256 × InstalledFilter) :=
  fs.map fun e => (e.1, { e.2 with changes := e.2.changes ++ g e.2.filter })

namespace Client

/-- The loop of `appendFromBlock` over a block's receipts, for one installed filter. -/
def matchReceipts (rs : List TransactionReceipt) (changed : List H256)
    (e : H256 × InstalledFilter) : (H256 × InstalledFilter) × List H256 :=
  rs.foldl (fun acc r => matchFilter r acc.2 acc.1) (e, changed)

/-- The loop of `appendFromBlock` over the installed filters. -/
def matchBlock (rs : List TransactionReceipt) :
    List H256 → List (H256 × InstalledFilter) → List (H256 × InstalledFilter) × List H256
  | changed, [] => ([], changed)
  | changed, e :: es =>
    let (e', changed) := matchReceipts rs changed e
    let (es', changed) := matchBlock rs changed es
    (e' :: es', changed)

end Client

namespace Watching

/-- What `noteChanged` hands a watch on `id`: the changes of the installed filter `id`, or,
when no filter is installed under `id`, one `SpecialLogEntry` per hash of the special filter
`id`. -/
def held (w : Watching) (id : H256) : List WatchEntry :=
  match w.client.filters.lookup id with
  | some f => f.changes.map .log
  | none =>
    if id = pendingChangedFilter then w.client.pendingChanged.map .special
    else if id = chainChangedFilter then w.chainChanged.map .special
    else []

/-- One watch at `noteChanged(filters)`: it accrues what its filter holds when the filter is
among `filters`. -/
def accrue (w : Watching) (changed : List H256) (cw : ClientWatch) : ClientWatch :=
  if cw.id ∈ changed then { cw with changes := cw.changes ++ w.held cw.id } else cw

/-- `noteChanged(filters)`: the watches accrue, then every installed filter's changes and both
special lists are cleared. -/
def noteChanged (w : Watching) (changed : List H256) : Watching where
  client := { w.client with
    filters := w.client.filters.map fun e => (e.1, { e.2 with changes := [] })
    pendingChanged := [] }
  chainChanged := []
  watches := w.watches.map fun e => (e.1, w.accrue changed e.2)

/-- `appendFromBlock(block, polarity, io_changed)`, with `receipts` the block's receipts from the
chain: the chain-changes filter gets the block's hash, every installed filter its matches over
the receipts, and `io_changed` the ids touched. -/
def appendFromBlock (w : Watching) (receipts : List TransactionReceipt) (h : H256)
    (changed : List H256) : Watching × List H256 :=
  let changed := insertId changed chainChangedFilter
  let (filters, changed) := Client.matchBlock receipts changed w.client.filters
  ({ w with client := { w.client with filters }, chainChanged := w.chainChanged ++ [h] }, changed)

/-- `appendFromBlock` for each block in turn, with `bc` the chain's receipts by block hash. -/
def appendFromBlocks (bc : H256 → List TransactionReceipt) :
    Watching → List H256 → List H256 → Watching × List H256
  | w, [], changed => (w, changed)
  | w, h :: hs, changed =>
    let (w, changed) := w.appendFromBlock (bc h) h changed
    appendFromBlocks bc w hs changed

/-- `onDeadBlocks(blocks, io_changed)`: the watches' part; the resubmission of the dead blocks'
transactions to the transaction queue is outside the model. -/
def onDeadBlocks (w : Watching) (bc : H256 → List TransactionReceipt) (blocks : List H256)
    (changed : List H256) : Watching × List H256 :=
  appendFromBlocks bc w blocks changed

/-- `onNewBlocks(blocks, io_changed)`: the watches' part; the host's `noteNewBlocks` is outside
the model. -/
def onNewBlocks (w : Watching) (bc : H256 → List TransactionReceipt) (blocks : List H256)
    (changed : List H256) : Watching × List H256 :=
  appendFromBlocks bc w blocks changed

/-- `resyncStateFromChain()`, with its decision as input: `Block::sync` against the chain, the
authors and `isMajorSyncing` are outside the model, so `resync` is the block that becomes the
working and post-seal block, if any. -/
def resyncStateFromChain (w : Watching) : Option Block → Watching
  | none => w
  | some b => { w with client := { w.client with working := b, postSeal := b } }

/-- `onChainChanged(ir)`: dead blocks, then live blocks, then the resync, then `noteChanged`.
Dropping the good transactions from the queue is outside the model. -/
def onChainChanged (w : Watching) (bc : H256 → List TransactionReceipt) (ir : ImportRoute)
    (resync : Option Block) : Watching :=
  let (w, changed) := w.onDeadBlocks bc ir.deadBlocks []
  let (w, changed) := w.onNewBlocks bc ir.liveBlocks changed
  (w.resyncStateFromChain resync).noteChanged changed

/-- `syncTransactionQueue()` with its `noteChanged`: the modelled sync returns the ids it hands
to `noteChanged`, empty exactly when it returned early. -/
def syncTransactionQueue (w : Watching) (batch : List (Transaction × TransactionReceipt))
    (more : Bool) : Watching :=
  let (c, changed) := w.client.syncTransactionQueue batch more
  if changed.isEmpty then { w with client := c } else { w with client := c }.noteChanged changed

/-- `clearPending()`, with `preSeal` the pre-seal block (`m_preSeal`): with transactions
pending, the post-seal block falls back to it and the watches are told of no filter. Clearing
the transaction queue and `startSealing` are outside the model. -/
def clearPending (w : Watching) (preSeal : Block) : Watching :=
  if w.client.postSeal.pending.isEmpty then w
  else { w with client := { w.client with postSeal := preSeal } }.noteChanged []

end Watching

/-- The calls that move entries through the watches. -/
inductive WatchOp where
  | sync (batch : List (Transaction × TransactionReceipt)) (more : Bool)
  | chain (ir : ImportRoute) (resync : Option Block)
  | clear (preSeal : Block)

namespace Watching

/-- One call. -/
def step (bc : H256 → List TransactionReceipt) (w : Watching) : WatchOp → Watching
  | .sync batch more => w.syncTransactionQueue batch more
  | .chain ir resync => w.onChainChanged bc ir resync
  | .clear preSeal => w.clearPending preSeal

/-- Calls in sequence. -/
def run (bc : H256 → List TransactionReceipt) (w : Watching) (ops : List WatchOp) : Watching :=
  ops.foldl (step bc) w

end Watching

/-! ## Passes over the installed filters -/

@[simp] theorem mem_insertId {changed : List H256} {x id : H256} :
    x ∈ insertId changed id ↔ x ∈ changed ∨ x = id := by
  unfold insertId
  split_ifs with h
  · exact ⟨Or.inl, by rintro (hx | rfl) <;> assumption⟩
  · simp

/-- A map that keeps the keys commutes with `lookup`. -/
theorem lookup_map_snd {α β γ : Type} [BEq α] (g : β → γ) (k : α) :
    ∀ l : List (α × β), (l.map fun e => (e.1, g e.2)).lookup k = (l.lookup k).map g
  | [] => rfl
  | (a, b) :: l => by
    simp only [List.map_cons, List.lookup_cons]
    cases k == a
    · exact lookup_map_snd g k l
    · rfl

theorem mem_of_lookup_eq_some {α β : Type} [BEq α] [LawfulBEq α] {l : List (α × β)} {k : α}
    {b : β} (h : l.lookup k = some b) : (k, b) ∈ l := by
  obtain ⟨l₁, l₂, rfl, -⟩ := List.lookup_eq_some_iff.mp h
  simp

theorem feed_nil_fun (fs : List (H256 × InstalledFilter)) : feed (fun _ => []) fs = fs := by
  simp [feed]

theorem feed_feed (g g' : LogFilter → List LogEntry) (fs : List (H256 × InstalledFilter)) :
    feed g' (feed g fs) = feed (fun f => g f ++ g' f) fs := by
  simp [feed, Function.comp_def, List.append_assoc]

theorem lookup_feed (g : LogFilter → List LogEntry) (fs : List (H256 × InstalledFilter))
    (id : H256) :
    (feed g fs).lookup id = (fs.lookup id).map fun f => { f with changes := f.changes ++ g f.filter } :=
  lookup_map_snd (fun f : InstalledFilter => (⟨f.filter, f.changes ++ g f.filter⟩ : InstalledFilter)) id fs

/-- One installed filter `e` in a pass of `appendFromNewPending` or `appendFromBlock`: `g` of
its `LogFilter` is appended to its changes, the ids of `changed` stay, and the filter's id is
added when something was appended. -/
structure Appends (g : LogFilter → List LogEntry) (changed : List H256)
    (e : H256 × InstalledFilter) (out : (H256 × InstalledFilter) × List H256) : Prop where
  entry : out.1 = (e.1, { e.2 with changes := e.2.changes ++ g e.2.filter })
  keeps : ∀ x ∈ changed, x ∈ out.2
  marks : g e.2.filter ≠ [] → e.1 ∈ out.2

/-- The same for every installed filter of `fs`. -/
structure Feeds (g : LogFilter → List LogEntry) (changed : List H256)
    (fs : List (H256 × InstalledFilter)) (out : List (H256 × InstalledFilter) × List H256) :
    Prop where
  filters : out.1 = feed g fs
  keeps : ∀ x ∈ changed, x ∈ out.2
  marks : ∀ e ∈ fs, g e.2.filter ≠ [] → e.1 ∈ out.2

section Passes

variable {g g' : LogFilter → List LogEntry} {changed : List H256}

theorem Appends.trans {e : H256 × InstalledFilter} {o o' : (H256 × InstalledFilter) × List H256}
    (h : Appends g changed e o) (h' : Appends g' o.2 o.1 o') :
    Appends (fun f => g f ++ g' f) changed e o' where
  entry := by rw [h'.entry, h.entry]; simp [List.append_assoc]
  keeps x hx := h'.keeps x (h.keeps x hx)
  marks hne := by
    by_cases hg : g e.2.filter = []
    · have := h'.marks (by rw [h.entry]; simpa [hg] using hne)
      rwa [h.entry] at this
    · exact h'.keeps _ (h.marks hg)

theorem Feeds.nil : Feeds g changed [] ([], changed) :=
  ⟨rfl, fun _ h => h, by simp⟩

theorem Feeds.cons {e : H256 × InstalledFilter} {es : List (H256 × InstalledFilter)}
    {o : (H256 × InstalledFilter) × List H256} {o' : List (H256 × InstalledFilter) × List H256}
    (h : Appends g changed e o) (hs : Feeds g o.2 es o') :
    Feeds g changed (e :: es) (o.1 :: o'.1, o'.2) where
  filters := by rw [h.entry, hs.filters]; rfl
  keeps x hx := hs.keeps x (h.keeps x hx)
  marks := by
    rintro e' (_ | ⟨_, he'⟩) hne
    · exact hs.keeps _ (h.marks hne)
    · exact hs.marks e' he' hne

theorem Feeds.trans {fs : List (H256 × InstalledFilter)}
    {o o' : List (H256 × InstalledFilter) × List H256}
    (h : Feeds g changed fs o) (h' : Feeds g' o.2 o.1 o') :
    Feeds (fun f => g f ++ g' f) changed fs o' where
  filters := by rw [h'.filters, h.filters, feed_feed]
  keeps x hx := h'.keeps x (h.keeps x hx)
  marks e he hne := by
    by_cases hg : g e.2.filter = []
    · refine h'.marks (e.1, { e.2 with changes := e.2.changes ++ g e.2.filter }) ?_
        (by simpa [hg] using hne)
      rw [h.filters]
      exact List.mem_map_of_mem _ he
    · exact h'.keeps _ (h.marks e he hg)

/-- A pass that starts from fewer ids still keeps those. -/
theorem Feeds.of_subset {changed' : List H256} {fs : List (H256 × InstalledFilter)}
    {o : List (H256 × InstalledFilter) × List H256} (h : Feeds g changed' fs o)
    (hsub : ∀ x ∈ changed, x ∈ changed') : Feeds g changed fs o :=
  ⟨h.filters, fun x hx => h.keeps x (hsub x hx), h.marks⟩

/-- After a pass, the ids name every filter holding changes, provided they did before. -/
theorem Feeds.covers {fs : List (H256 × InstalledFilter)}
    {o : List (H256 × InstalledFilter) × List H256} (h : Feeds g changed fs o)
    (hfs : ∀ e ∈ fs, e.2.changes ≠ [] → e.1 ∈ changed) :
    ∀ e ∈ o.1, e.2.changes ≠ [] → e.1 ∈ o.2 := by
  rw [h.filters]
  rintro _ hmem hne
  obtain ⟨e, he, rfl⟩ := List.mem_map.mp hmem
  by_cases hc : e.2.changes = []
  · exact h.marks e he (by simpa [hc] using hne)
  · exact h.keeps _ (hfs e he hc)

end Passes

namespace Client

theorem matchFilter_appends (r : TransactionReceipt) (changed : List H256)
    (e : H256 × InstalledFilter) : Appends (·.matches r) changed e (matchFilter r changed e) := by
  unfold matchFilter
  dsimp only
  split_ifs with hm
  · have hm := List.isEmpty_iff.mp hm
    exact ⟨by simp [hm], fun _ h => h, absurd hm⟩
  · exact ⟨rfl, fun _ h => mem_insertId.mpr (Or.inl h), fun _ => mem_insertId.mpr (Or.inr rfl)⟩

theorem matchFilters_feeds (r : TransactionReceipt) :
    ∀ changed fs, Feeds (·.matches r) changed fs (matchFilters r changed fs)
  | _, [] => Feeds.nil
  | changed, e :: _ => Feeds.cons (matchFilter_appends r changed e) (matchFilters_feeds r _ _)

theorem matchReceipts_appends :
    ∀ (rs : List TransactionReceipt) changed e,
      Appends (fun f => rs.flatMap f.matches) changed e (matchReceipts rs changed e)
  | [], _, _ => ⟨by rw [List.flatMap_nil, List.append_nil]; rfl, fun _ h => h, by simp⟩
  | r :: rs, changed, e => by
    have hg : (fun f : LogFilter => (r :: rs).flatMap f.matches) =
        fun f => f.matches r ++ rs.flatMap f.matches := funext fun _ => List.flatMap_cons ..
    rw [hg]
    exact (matchFilter_appends r changed e).trans (matchReceipts_appends rs _ _)

theorem matchBlock_feeds (rs : List TransactionReceipt) :
    ∀ changed fs, Feeds (fun f => rs.flatMap f.matches) changed fs (matchBlock rs changed fs)
  | _, [] => Feeds.nil
  | changed, e :: _ => Feeds.cons (matchReceipts_appends rs changed e) (matchBlock_feeds rs _ _)

/-- The sync's loop feeds every installed filter its matches over the receipts of the pairs, in
order, and names the pending-changes filter as soon as there is a pair. -/
theorem appendAll_feeds (c : Client) (changed : List H256) (ps : List (TransactionReceipt × H256)) :
    Feeds (fun f => (ps.map Prod.fst).flatMap f.matches) changed c.filters
      ((c.appendAll changed ps).1.filters, (c.appendAll changed ps).2) ∧
    (ps ≠ [] → pendingChangedFilter ∈ (c.appendAll changed ps).2) := by
  induction ps generalizing c changed with
  | nil => exact ⟨⟨(feed_nil_fun _).symm, fun _ h => h, by simp⟩, absurd rfl⟩
  | cons p ps ih =>
    obtain ⟨r, h⟩ := p
    have hnew := matchFilters_feeds r (insertId changed pendingChangedFilter) c.filters
    obtain ⟨hrest, -⟩ := ih (c.appendFromNewPending r changed h).1
      (c.appendFromNewPending r changed h).2
    refine ⟨?_, fun _ => hrest.keeps _ (hnew.keeps _ (mem_insertId.mpr (Or.inr rfl)))⟩
    have hg : (fun f : LogFilter => (((r, h) :: ps).map Prod.fst).flatMap f.matches) =
        fun f => f.matches r ++ (ps.map Prod.fst).flatMap f.matches := funext fun _ => by simp
    rw [hg]
    exact (hnew.of_subset fun x hx => mem_insertId.mpr (Or.inl hx)).trans hrest

theorem appendAll_feeds_of_fst {c : Client} {fs : List (H256 × InstalledFilter)}
    {changed : List H256} {ps : List (TransactionReceipt × H256)} {rs : List TransactionReceipt}
    (hfs : c.filters = fs) (hps : ps.map Prod.fst = rs) :
    Feeds (fun f => rs.flatMap f.matches) changed fs
      ((c.appendAll changed ps).1.filters, (c.appendAll changed ps).2) ∧
    (rs ≠ [] → pendingChangedFilter ∈ (c.appendAll changed ps).2) := by
  subst hfs hps
  exact (appendAll_feeds c changed ps).imp_right fun h hne => h fun hp => hne (by simp [hp])

/-- A sync stopped by a sealed or a full working block changes nothing. -/
theorem syncTransactionQueue_of_stopped (c : Client) (batch : List (Transaction × TransactionReceipt))
    (more : Bool) (h : c.working.sealed ∨ c.maxBlockTransactions ≤ c.working.pending.length) :
    c.syncTransactionQueue batch more = (c, []) := by
  by_cases h1 : c.working.sealed
  · simp [syncTransactionQueue, h1]
  · simp [syncTransactionQueue, h1, h.resolve_left h1]

/-- A sync past its checks that executes nothing touches no filter. -/
theorem syncTransactionQueue_nil (c : Client) (more : Bool)
    (h : ¬(c.working.sealed ∨ c.maxBlockTransactions ≤ c.working.pending.length)) :
    (c.syncTransactionQueue [] more).2 = [] ∧
    (c.syncTransactionQueue [] more).1.filters = c.filters ∧
    (c.syncTransactionQueue [] more).1.pendingChanged = c.pendingChanged := by
  simp only [not_or, Bool.not_eq_true, Nat.not_le] at h
  simp [syncTransactionQueue, h.1, Nat.not_le.mpr h.2, Block.sync]

/-- A sync that executes transactions feeds every installed filter its matches over the new
receipts, in order, and names the pending-changes filter. -/
theorem syncTransactionQueue_feeds (c : Client) (batch : List (Transaction × TransactionReceipt))
    (more : Bool) (h : ¬(c.working.sealed ∨ c.maxBlockTransactions ≤ c.working.pending.length))
    (hne : batch ≠ []) :
    Feeds (fun f => (batch.map Prod.snd).flatMap f.matches) [] c.filters
      ((c.syncTransactionQueue batch more).1.filters, (c.syncTransactionQueue batch more).2) ∧
    pendingChangedFilter ∈ (c.syncTransactionQueue batch more).2 := by
  simp only [not_or, Bool.not_eq_true, Nat.not_le] at h
  have hr : (batch.map Prod.snd).isEmpty = false := by simpa using hne
  simp only [syncTransactionQueue, h.1, Bool.false_eq_true, ite_false, Block.sync,
    if_neg (Nat.not_le.mpr h.2), hr]
  have hz := List.map_fst_zip (batch.map Prod.snd)
    ((c.working.pending ++ batch.map Prod.fst).map Transaction.sha3) (by simp)
  refine ⟨(appendAll_feeds_of_fst ?_ hz).1, (appendAll_feeds_of_fst rfl hz).2 (by simpa using hne)⟩
  rfl

end Client

namespace Watching

/-- `changed` names every filter of `w` that holds something for the watches. -/
structure Covers (w : Watching) (changed : List H256) : Prop where
  filters : ∀ e ∈ w.client.filters, e.2.changes ≠ [] → e.1 ∈ changed
  pending : w.client.pendingChanged ≠ [] → pendingChangedFilter ∈ changed
  chain : w.chainChanged ≠ [] → chainChangedFilter ∈ changed

/-- No filter holds anything, as `noteChanged` leaves them. -/
structure Flushed (w : Watching) : Prop where
  filters : ∀ e ∈ w.client.filters, e.2.changes = []
  pending : w.client.pendingChanged = []
  chain : w.chainChanged = []

/-- The installed filters' ids and `LogFilter`s, which no call of the pipeline changes. -/
def logFilters (w : Watching) : List (H256 × LogFilter) :=
  w.client.filters.map fun e => (e.1, e.2.filter)

/-- What a watch on `id` is owed when the installed filters of `w` see the receipts `rs`, the
pending-changes filter the hashes `txs` and the chain-changes filter the hashes `blocks`. -/
def received (w : Watching) (id : H256) (rs : List TransactionReceipt) (txs blocks : List H256) :
    List WatchEntry :=
  match w.logFilters.lookup id with
  | some f => (rs.flatMap f.matches).map .log
  | none =>
    if id = pendingChangedFilter then txs.map .special
    else if id = chainChangedFilter then blocks.map .special
    else []

section Delivery

variable {w : Watching} {changed : List H256}

theorem held_eq_nil_of_not_mem (hc : w.Covers changed) {id : H256} (hid : id ∉ changed) :
    w.held id = [] := by
  unfold held
  split
  · next f hf =>
    by_contra hne
    exact hid (hc.filters _ (mem_of_lookup_eq_some hf) fun h => hne (by rw [show f.changes = [] from h]; rfl))
  · split_ifs with hp hc'
    · subst hp
      by_contra hne
      exact hid (hc.pending fun h => hne (by simp [h]))
    · subst hc'
      by_contra hne
      exact hid (hc.chain fun h => hne (by simp [h]))
    · rfl

/-- **`noteChanged` loses nothing.** When `changed` names every filter holding changes, each
watch accrues exactly what its filter holds. -/
theorem noteChanged_watches (hc : w.Covers changed) :
    (w.noteChanged changed).watches =
      w.watches.map fun e => (e.1, { e.2 with changes := e.2.changes ++ w.held e.2.id }) := by
  refine List.map_congr_left fun e _ => ?_
  simp only [accrue]
  split_ifs with h
  · rfl
  · rw [held_eq_nil_of_not_mem hc h, List.append_nil]

theorem flushed_noteChanged (changed : List H256) : (w.noteChanged changed).Flushed :=
  ⟨by simp only [noteChanged, List.mem_map]; rintro _ ⟨e, -, rfl⟩; rfl, rfl, rfl⟩

@[simp] theorem logFilters_noteChanged (changed : List H256) :
    (w.noteChanged changed).logFilters = w.logFilters := by
  simp [noteChanged, logFilters, Function.comp_def]

/-- From a flushed state, what the filters hold after a pass is what `received` says. -/
theorem held_eq_received {w' : Watching} (hf : w.Flushed) {rs : List TransactionReceipt}
    {txs blocks : List H256}
    (hfil : w'.client.filters = feed (fun f => rs.flatMap f.matches) w.client.filters)
    (htx : w'.client.pendingChanged = txs) (hbl : w'.chainChanged = blocks) (id : H256) :
    w'.held id = w.received id rs txs blocks := by
  unfold held received logFilters
  rw [hfil, lookup_feed, lookup_map_snd InstalledFilter.filter, htx, hbl]
  cases h : w.client.filters.lookup id with
  | none => rfl
  | some f => simp [show f.changes = [] from hf.filters _ (mem_of_lookup_eq_some h)]

theorem received_nil (w : Watching) (id : H256) : w.received id [] [] [] = [] := by
  unfold received
  split
  · rfl
  · split_ifs <;> rfl

theorem logFilters_feed (g : LogFilter → List LogEntry) (fs : List (H256 × InstalledFilter)) :
    (feed g fs).map (fun e => (e.1, e.2.filter)) = fs.map fun e => (e.1, e.2.filter) := by
  simp [feed]

/-- `w'` is `w` after a call that owed each watch on `id` the entries `d id`: every watch got
exactly those, the filters are flushed again and the installed `LogFilter`s are those of `w`. -/
structure Delivers (w w' : Watching) (d : H256 → List WatchEntry) : Prop where
  watches : w'.watches = w.watches.map fun e => (e.1, { e.2 with changes := e.2.changes ++ d e.2.id })
  flushed : w'.Flushed
  logFilters : w'.logFilters = w.logFilters

theorem Delivers.refl (hf : w.Flushed) : Delivers w w fun _ => [] :=
  ⟨by simp, hf, rfl⟩

theorem Delivers.trans {w₁ w₂ : Watching} {d₁ d₂ : H256 → List WatchEntry}
    (h₁ : Delivers w w₁ d₁) (h₂ : Delivers w₁ w₂ d₂) :
    Delivers w w₂ fun id => d₁ id ++ d₂ id :=
  ⟨by simp [h₂.watches, h₁.watches, Function.comp_def, List.append_assoc], h₂.flushed,
    h₂.logFilters.trans h₁.logFilters⟩

/-- **One batch through the pipeline.** From a flushed `w`, a pass that feeds the installed
filters the receipts `rs` and the special filters `txs` and `blocks`, and whose `changed`
names every filter holding changes, gives each watch, at `noteChanged`, what `received`
says. -/
theorem noteChanged_batch {w' : Watching} (hf : w.Flushed) {rs : List TransactionReceipt}
    {txs blocks : List H256} (hw : w'.watches = w.watches)
    (hfil : w'.client.filters = feed (fun f => rs.flatMap f.matches) w.client.filters)
    (htx : w'.client.pendingChanged = txs) (hbl : w'.chainChanged = blocks)
    (hc : w'.Covers changed) :
    Delivers w (w'.noteChanged changed) fun id => w.received id rs txs blocks := by
  refine ⟨?_, flushed_noteChanged changed, ?_⟩
  · rw [noteChanged_watches hc, hw]
    exact List.map_congr_left fun e _ => by rw [held_eq_received hf hfil htx hbl]
  · rw [logFilters_noteChanged, logFilters, hfil, logFilters_feed]
    rfl

end Delivery

/-! ## The three callers -/

section Callers

variable {w : Watching} (bc : H256 → List TransactionReceipt)

theorem appendFromBlocks_cons (h : H256) (hs changed : List H256) :
    appendFromBlocks bc w (h :: hs) changed =
      appendFromBlocks bc (w.appendFromBlock (bc h) h changed).1 hs
        (w.appendFromBlock (bc h) h changed).2 := rfl

/-- `appendFromBlocks` feeds the installed filters the blocks' receipts, in order, and the
chain-changes filter the blocks' hashes. -/
theorem appendFromBlocks_fst : ∀ (w : Watching) (hs changed : List H256),
    (appendFromBlocks bc w hs changed).1 = { w with
      client := { w.client with
        filters := feed (fun f => (hs.flatMap bc).flatMap f.matches) w.client.filters }
      chainChanged := w.chainChanged ++ hs }
  | w, [], _ => by
    simp only [appendFromBlocks, List.flatMap_nil, List.append_nil]
    rw [feed_nil_fun]
  | w, h :: hs, changed => by
    rw [appendFromBlocks_cons, appendFromBlocks_fst _ hs]
    simp only [appendFromBlock, (Client.matchBlock_feeds (bc h) _ w.client.filters).filters,
      feed_feed, List.flatMap_cons, List.flatMap_append, List.append_assoc, List.singleton_append]

theorem appendFromBlocks_feeds : ∀ (w : Watching) (hs changed : List H256),
    Feeds (fun f => (hs.flatMap bc).flatMap f.matches) changed w.client.filters
      ((appendFromBlocks bc w hs changed).1.client.filters, (appendFromBlocks bc w hs changed).2) ∧
    (hs ≠ [] → chainChangedFilter ∈ (appendFromBlocks bc w hs changed).2)
  | w, [], _ => ⟨⟨(feed_nil_fun _).symm, fun _ h => h, by simp⟩, absurd rfl⟩
  | w, h :: hs, changed => by
    have hnew := Client.matchBlock_feeds (bc h) (insertId changed chainChangedFilter) w.client.filters
    obtain ⟨hrest, -⟩ := appendFromBlocks_feeds (w.appendFromBlock (bc h) h changed).1 hs
      (w.appendFromBlock (bc h) h changed).2
    refine ⟨?_, fun _ => hrest.keeps _ (hnew.keeps _ (mem_insertId.mpr (Or.inr rfl)))⟩
    have hg : (fun f : LogFilter => ((h :: hs).flatMap bc).flatMap f.matches) =
        fun f => (bc h).flatMap f.matches ++ (hs.flatMap bc).flatMap f.matches :=
      funext fun _ => by simp
    rw [hg]
    exact (hnew.of_subset fun x hx => mem_insertId.mpr (Or.inl hx)).trans hrest

@[simp] theorem resyncStateFromChain_watches (r : Option Block) :
    (w.resyncStateFromChain r).watches = w.watches := by cases r <;> rfl

@[simp] theorem resyncStateFromChain_chainChanged (r : Option Block) :
    (w.resyncStateFromChain r).chainChanged = w.chainChanged := by cases r <;> rfl

@[simp] theorem resyncStateFromChain_filters (r : Option Block) :
    (w.resyncStateFromChain r).client.filters = w.client.filters := by cases r <;> rfl

@[simp] theorem resyncStateFromChain_pendingChanged (r : Option Block) :
    (w.resyncStateFromChain r).client.pendingChanged = w.client.pendingChanged := by
  cases r <;> rfl

/-- A sync owes a watch what its new receipts and their hashes bring, once it gets past a
sealed or a full working block. -/
theorem syncTransactionQueue_delivers (hf : w.Flushed)
    (batch : List (Transaction × TransactionReceipt)) (more : Bool) :
    Delivers w (w.syncTransactionQueue batch more) fun id =>
      if w.client.working.sealed ∨ w.client.maxBlockTransactions ≤ w.client.working.pending.length
      then []
      else w.received id (batch.map Prod.snd)
        (((w.client.working.pending ++ batch.map Prod.fst).take batch.length).map
          Transaction.sha3) [] := by
  by_cases hg : w.client.working.sealed ∨
      w.client.maxBlockTransactions ≤ w.client.working.pending.length
  · simp only [hg, ite_true, syncTransactionQueue,
      Client.syncTransactionQueue_of_stopped _ _ _ hg, List.isEmpty_nil]
    exact Delivers.refl hf
  simp only [hg, ite_false]
  rcases eq_or_ne batch [] with rfl | hne
  · obtain ⟨h1, h2, h3⟩ := Client.syncTransactionQueue_nil w.client more hg
    simp only [List.map_nil, List.length_nil, List.take_zero, received_nil]
    simp only [syncTransactionQueue, h1, List.isEmpty_nil, ite_true]
    exact ⟨by simp, ⟨by simpa [h2] using hf.filters, by simpa [h3] using hf.pending, hf.chain⟩,
      by simp [logFilters, h2]⟩
  · obtain ⟨hfeed, hpend⟩ := Client.syncTransactionQueue_feeds w.client batch more hg hne
    simp only [not_or, Bool.not_eq_true, Nat.not_le] at hg
    have hne' : (w.client.syncTransactionQueue batch more).2.isEmpty = false :=
      List.isEmpty_eq_false_iff_exists_mem.mpr ⟨_, hpend⟩
    simp only [syncTransactionQueue, hne', Bool.false_eq_true, ite_false]
    refine noteChanged_batch hf rfl hfeed.filters ?_ hf.chain
      ⟨hfeed.covers fun e he h => absurd (hf.filters e he) h, fun _ => hpend,
        fun h => absurd hf.chain h⟩
    rw [Client.syncTransactionQueue_pendingChanged _ _ _ hg.1 hg.2 hne, hf.pending,
      List.nil_append]

/-- A chain change owes a watch what the receipts and hashes of its dead blocks, then of its
live blocks, bring. -/
theorem onChainChanged_delivers (hf : w.Flushed) (ir : ImportRoute) (resync : Option Block) :
    Delivers w (w.onChainChanged bc ir resync) fun id =>
      w.received id ((ir.deadBlocks ++ ir.liveBlocks).flatMap bc) []
        (ir.deadBlocks ++ ir.liveBlocks) := by
  obtain ⟨hd, hdm⟩ := appendFromBlocks_feeds bc w ir.deadBlocks []
  obtain ⟨hl, hlm⟩ := appendFromBlocks_feeds bc _ ir.liveBlocks
    (appendFromBlocks bc w ir.deadBlocks []).2
  have hfil : (fun f : LogFilter => ((ir.deadBlocks ++ ir.liveBlocks).flatMap bc).flatMap f.matches)
      = fun f => (ir.deadBlocks.flatMap bc).flatMap f.matches ++
          (ir.liveBlocks.flatMap bc).flatMap f.matches := funext fun _ => by simp
  have hfeed := hd.trans hl
  rw [← hfil] at hfeed
  refine noteChanged_batch hf ?_ ?_ ?_ ?_ ⟨?_, ?_, ?_⟩
  · simp [appendFromBlocks_fst]
  · simpa using hfeed.filters
  · simpa [appendFromBlocks_fst] using hf.pending
  · simp [appendFromBlocks_fst, hf.chain]
  · simpa using hfeed.covers fun e he h => absurd (hf.filters e he) h
  · simp [appendFromBlocks_fst, hf.pending]
  · intro hne
    rcases eq_or_ne ir.liveBlocks [] with hlive | hlive
    · exact hl.keeps _ (hdm fun h => hne (by simp [appendFromBlocks_fst, hf.chain, h, hlive]))
    · exact hlm hlive

/-- `clearPending` owes the watches nothing: it only throws the filters' (empty) changes
away. -/
theorem clearPending_delivers (hf : w.Flushed) (preSeal : Block) :
    Delivers w (w.clearPending preSeal) fun _ => [] := by
  unfold clearPending
  split_ifs
  · exact Delivers.refl hf
  · rw [show (fun _ => []) = fun id => w.received id [] [] [] from
      funext fun id => (received_nil w id).symm]
    exact noteChanged_batch hf rfl (feed_nil_fun _).symm hf.pending hf.chain
      ⟨fun e he h => absurd (hf.filters e he) h, fun h => absurd hf.pending h,
        fun h => absurd hf.chain h⟩

end Callers

/-! ## Whole runs -/

/-- What a call owes a watch on `id`, read off the state it starts from: a sync past its
checks brings its receipts and the hashes paired with them, a chain change the receipts and
the hashes of its dead and then of its live blocks, and `clearPending` nothing. -/
def delivered (bc : H256 → List TransactionReceipt) (w : Watching) :
    WatchOp → H256 → List WatchEntry
  | .sync batch _, id =>
    if w.client.working.sealed ∨ w.client.maxBlockTransactions ≤ w.client.working.pending.length
    then []
    else w.received id (batch.map Prod.snd)
      (((w.client.working.pending ++ batch.map Prod.fst).take batch.length).map
        Transaction.sha3) []
  | .chain ir _, id =>
    w.received id ((ir.deadBlocks ++ ir.liveBlocks).flatMap bc) [] (ir.deadBlocks ++ ir.liveBlocks)
  | .clear _, _ => []

/-- What a run owes a watch on `id`: each call's `delivered`, in the state the call starts
from. -/
def deliveredRun (bc : H256 → List TransactionReceipt) :
    Watching → List WatchOp → H256 → List WatchEntry
  | _, [], _ => []
  | w, op :: ops, id => w.delivered bc op id ++ deliveredRun bc (w.step bc op) ops id

/-- The receipts a call hands to the installed filters: a sync's new receipts once it gets
past its checks, and the receipts of a chain change's dead and then live blocks. -/
def seen (bc : H256 → List TransactionReceipt) (w : Watching) : WatchOp → List TransactionReceipt
  | .sync batch _ =>
    if w.client.working.sealed ∨ w.client.maxBlockTransactions ≤ w.client.working.pending.length
    then [] else batch.map Prod.snd
  | .chain ir _ => (ir.deadBlocks ++ ir.liveBlocks).flatMap bc
  | .clear _ => []

/-- The receipts a run hands to the installed filters, call after call. -/
def seenRun (bc : H256 → List TransactionReceipt) : Watching → List WatchOp → List TransactionReceipt
  | _, [] => []
  | w, op :: ops => w.seen bc op ++ seenRun bc (w.step bc op) ops

/-- The hashes of the blocks a run's chain changes report, dead before live. -/
def blocksOf : List WatchOp → List H256
  | [] => []
  | .chain ir _ :: ops => ir.deadBlocks ++ ir.liveBlocks ++ blocksOf ops
  | _ :: ops => blocksOf ops

section Runs

variable {w : Watching} (bc : H256 → List TransactionReceipt)

/-- **One call.** From a flushed state every call gives each watch exactly what `delivered`
owes it, flushes the filters again and keeps the installed `LogFilter`s. -/
theorem step_delivers (hf : w.Flushed) : ∀ op, Delivers w (w.step bc op) (w.delivered bc op)
  | .sync batch more => syncTransactionQueue_delivers hf batch more
  | .chain ir resync => onChainChanged_delivers bc hf ir resync
  | .clear preSeal => clearPending_delivers hf preSeal

/-- **Every run.** From a flushed state, after any sequence of calls each watch holds what it
held and, appended, exactly what the run owes it. -/
theorem run_delivers : ∀ (w : Watching), w.Flushed → ∀ ops,
    Delivers w (w.run bc ops) (w.deliveredRun bc ops)
  | _, hf, [] => Delivers.refl hf
  | _, hf, op :: ops =>
    (step_delivers bc hf op).trans (run_delivers _ (step_delivers bc hf op).flushed ops)

theorem delivered_of_lookup {id : H256} {f : LogFilter} (h : w.logFilters.lookup id = some f) :
    ∀ op, w.delivered bc op id = ((w.seen bc op).flatMap f.matches).map .log
  | .sync _ _ => by unfold delivered seen received; split_ifs <;> simp [h]
  | .chain _ _ => by simp [delivered, seen, received, h]
  | .clear _ => rfl

theorem deliveredRun_of_lookup {id : H256} {f : LogFilter} : ∀ (w : Watching), w.Flushed →
    w.logFilters.lookup id = some f →
    ∀ ops, w.deliveredRun bc ops id = ((w.seenRun bc ops).flatMap f.matches).map .log
  | _, _, _, [] => rfl
  | w, hf, h, op :: ops => by
    have hs := step_delivers bc hf op
    rw [deliveredRun, seenRun, delivered_of_lookup bc h, deliveredRun_of_lookup _ hs.flushed
      (hs.logFilters ▸ h) ops, List.flatMap_append, List.map_append]

theorem deliveredRun_chain : ∀ (w : Watching), w.Flushed →
    w.logFilters.lookup chainChangedFilter = none →
    ∀ ops, w.deliveredRun bc ops chainChangedFilter = (blocksOf ops).map .special
  | _, _, _, [] => rfl
  | w, hf, h, op :: ops => by
    have hs := step_delivers bc hf op
    have hne : chainChangedFilter ≠ pendingChangedFilter := by decide
    have hd : w.delivered bc op chainChangedFilter = (blocksOf [op]).map .special := by
      cases op <;> simp [delivered, received, blocksOf, h, hne]
    rw [deliveredRun, hd, deliveredRun_chain _ hs.flushed (hs.logFilters ▸ h) ops]
    cases op <;> simp [blocksOf]

/-- **No log entry lost or repeated, over every run.** From a state where no filter holds
anything, after any run of syncs, chain changes and `clearPending`, every watch on an installed
filter holds what it held followed by the filter's matches over every receipt the run handed
to the filters, in order, each once. -/
theorem run_delivers_matches (hf : w.Flushed) (ops : List WatchOp) {id : H256} {f : LogFilter}
    (hid : w.logFilters.lookup id = some f) {k : Nat} {cw : ClientWatch}
    (hk : (k, cw) ∈ w.watches) (hcw : cw.id = id) :
    (k, { cw with changes := cw.changes ++ ((w.seenRun bc ops).flatMap f.matches).map .log }) ∈
      (w.run bc ops).watches := by
  subst hcw
  rw [(run_delivers bc w hf ops).watches, ← deliveredRun_of_lookup bc w hf hid ops]
  exact List.mem_map_of_mem _ hk

/-- A client with one log filter, under id `5`, accepting the entry `7`; watch `0` polls it and
watch `1` the chain-changes filter. -/
def oneFilterWatching : Watching where
  client :=
    { working := ⟨false, []⟩, postSeal := ⟨false, []⟩, maxBlockTransactions := 10,
      moreToSync := false, pendingChanged := [], filters := [(5, ⟨⟨fun l => l == 7⟩, []⟩)] }
  chainChanged := []
  watches := [(0, ⟨5, []⟩), (1, ⟨chainChangedFilter, []⟩)]

/-- The chain: block `9` has one receipt, logging `7` and `8`. -/
def oneReceiptChain (h : H256) : List TransactionReceipt := if h = 9 then [⟨[7, 8]⟩] else []

/-- A sync executing transaction `3`, whose receipt logs `7`, then block `9` joining the chain. -/
def syncThenBlock : List WatchOp := [.sync [(⟨3⟩, ⟨[7]⟩)] false, .chain ⟨[], [9]⟩ none]

theorem oneFilterWatching_delivers_matches :
    oneFilterWatching.Flushed ∧ oneFilterWatching.logFilters.lookup 5 = some ⟨fun l => l == 7⟩ ∧
    (0, ⟨5, []⟩) ∈ oneFilterWatching.watches ∧
    (0, { (⟨5, []⟩ : ClientWatch) with changes := [] ++
        ((oneFilterWatching.seenRun oneReceiptChain syncThenBlock).flatMap
          (LogFilter.matches ⟨fun l => l == 7⟩)).map .log }) ∈
      (oneFilterWatching.run oneReceiptChain syncThenBlock).watches :=
  have hf : oneFilterWatching.Flushed := ⟨by simp [oneFilterWatching], rfl, rfl⟩
  have hk : ((0, ⟨5, []⟩) : Nat × ClientWatch) ∈ oneFilterWatching.watches := by
    simp [oneFilterWatching]
  have hid : oneFilterWatching.logFilters.lookup 5 = some ⟨fun l => l == 7⟩ := rfl
  ⟨hf, hid, hk, run_delivers_matches oneReceiptChain hf syncThenBlock hid hk rfl⟩

/-- The run above: watch `0` gets `7` from the sync and `7` from block `9`, watch `1` the hash
of block `9`. -/
example : (oneFilterWatching.run oneReceiptChain syncThenBlock).watches =
    [(0, ⟨5, [.log 7, .log 7]⟩), (1, ⟨chainChangedFilter, [.special 9]⟩)] := by
  decide

/-- **Every block reported once, over every run.** With no log filter installed under its
id, a watch on the chain-changes filter receives the hashes of every chain change's dead and
then live blocks, run after run, each once. -/
theorem run_delivers_blocks (hf : w.Flushed) (ops : List WatchOp)
    (hid : w.logFilters.lookup chainChangedFilter = none) {k : Nat} {cw : ClientWatch}
    (hk : (k, cw) ∈ w.watches) (hcw : cw.id = chainChangedFilter) :
    (k, { cw with changes := cw.changes ++ (blocksOf ops).map .special }) ∈
      (w.run bc ops).watches := by
  rw [(run_delivers bc w hf ops).watches, ← deliveredRun_chain bc w hf hid ops, ← hcw]
  exact List.mem_map_of_mem _ hk

theorem oneFilterWatching_delivers_blocks :
    oneFilterWatching.Flushed ∧ oneFilterWatching.logFilters.lookup chainChangedFilter = none ∧
    (1, ⟨chainChangedFilter, []⟩) ∈ oneFilterWatching.watches ∧
    (1, { (⟨chainChangedFilter, []⟩ : ClientWatch) with
        changes := [] ++ (blocksOf syncThenBlock).map .special }) ∈
      (oneFilterWatching.run oneReceiptChain syncThenBlock).watches :=
  have hf : oneFilterWatching.Flushed := ⟨by simp [oneFilterWatching], rfl, rfl⟩
  have hk : ((1, ⟨chainChangedFilter, []⟩) : Nat × ClientWatch) ∈ oneFilterWatching.watches := by
    simp [oneFilterWatching]
  ⟨hf, rfl, hk, run_delivers_blocks oneReceiptChain hf syncThenBlock rfl hk rfl⟩

end Runs

end Watching

/-! ## The block-queue sync -/

/-- `c_syncMin`. -/
def syncMin : BitVec 32 := 1

/-- `c_syncMax`. -/
def syncMax : BitVec 32 := 1000

/-- `c_targetDuration`, in seconds. -/
def targetDuration : Float := 1

/-- `std::max` on `unsigned`. -/
def umax (a b : BitVec 32) : BitVec 32 := if a < b then b else a

/-- `std::min` on `unsigned`. -/
def umin (a b : BitVec 32) : BitVec 32 := if b < a then b else a

/-- The update of `m_syncAmount` in `syncBlockQueue()` after `bc().sync` imported `count`
blocks in `elapsed` seconds, in `unsigned` arithmetic. -/
def nextSyncAmount (amount count : BitVec 32) (elapsed : Float) : BitVec 32 :=
  if elapsed > targetDuration * 1.1 ∧ count > syncMin then umax syncMin (count * 9 / 10)
  else if count = amount ∧ elapsed < targetDuration * 0.9 ∧ amount < syncMax then
    umin syncMax (amount * 11 / 10 + 1)
  else amount

/-- The members `syncBlockQueue` writes besides the watches: `m_syncAmount`, the most blocks the
next import may bring, and `m_syncBlockQueue`, whether blocks are left to import. -/
structure BlockQueueSync where
  syncAmount : BitVec 32
  syncBlockQueue : Bool

/-- `syncBlockQueue()`, with the outcome of `bc().sync(m_bq, m_stateDB, m_syncAmount)` as input
(the import route, whether blocks are left, how many were imported), `elapsed` the seconds
the import took and `resync` the decision of `resyncStateFromChain`. -/
def Watching.syncBlockQueue (w : Watching) (q : BlockQueueSync)
    (bc : H256 → List TransactionReceipt) (ir : ImportRoute) (more : Bool) (count : BitVec 32)
    (elapsed : Float) (resync : Option Block) : Watching × BlockQueueSync :=
  let q := { syncBlockQueue := more, syncAmount := nextSyncAmount q.syncAmount count elapsed }
  if ir.liveBlocks.isEmpty then (w, q) else (w.onChainChanged bc ir resync, q)

/-- Neither `count * 9` nor `m_syncAmount * 11` wraps in `unsigned` while the amount is at most
`c_syncMax` and the import brought at most the amount. -/
theorem syncProducts_exact {amount count : BitVec 32} (h₂ : amount ≤ 1000) (hc : count ≤ amount) :
    (count * 9).toNat = count.toNat * 9 ∧ (amount * 11).toNat = amount.toNat * 11 := by
  simp only [BitVec.le_def, BitVec.ofNat_eq_ofNat, BitVec.toNat_ofNat, Nat.reducePow,
    Nat.reduceMod] at h₂ hc
  simp only [BitVec.toNat_mul, BitVec.ofNat_eq_ofNat, BitVec.toNat_ofNat, Nat.reducePow,
    Nat.reduceMod]
  constructor <;> exact Nat.mod_eq_of_lt (by omega)

/-- One update keeps `m_syncAmount` within `c_syncMin..c_syncMax` when the import brought at most
the amount asked for, and neither `count * 9` nor `amount * 11` wraps then. -/
theorem nextSyncAmount_bounds {amount count : BitVec 32} (elapsed : Float) (h₁ : 1 ≤ amount)
    (h₂ : amount ≤ 1000) (hc : count ≤ amount) :
    (1 ≤ nextSyncAmount amount count elapsed ∧ nextSyncAmount amount count elapsed ≤ 1000) ∧
      (count * 9).toNat = count.toNat * 9 ∧ (amount * 11).toNat = amount.toNat * 11 := by
  refine ⟨?_, syncProducts_exact h₂ hc⟩
  simp only [BitVec.le_def, BitVec.ofNat_eq_ofNat, BitVec.toNat_ofNat, Nat.reducePow,
    Nat.reduceMod] at h₁ h₂ hc
  have h₉ : count.toNat * 9 % 4294967296 = count.toNat * 9 := Nat.mod_eq_of_lt (by omega)
  have h₁₁ : amount.toNat * 11 % 4294967296 = amount.toNat * 11 := Nat.mod_eq_of_lt (by omega)
  have h₁₁' : (amount.toNat * 11 / 10 + 1) % 4294967296 = amount.toNat * 11 / 10 + 1 :=
    Nat.mod_eq_of_lt (by omega)
  unfold nextSyncAmount umax umin syncMin syncMax
  split_ifs <;>
    simp only [BitVec.le_def, BitVec.lt_def, BitVec.toNat_udiv, BitVec.toNat_mul, BitVec.toNat_add,
      BitVec.ofNat_eq_ofNat, BitVec.toNat_ofNat, BitVec.toNat_eq, Nat.reducePow, Nat.reduceMod, h₉,
      h₁₁, h₁₁'] at * <;> omega

/-- `m_syncAmount` over calls of `syncBlockQueue()`, each given how many blocks its import brought
and how long it took. -/
def syncAmountRun (amount : BitVec 32) (imports : List (BitVec 32 × Float)) : BitVec 32 :=
  imports.foldl (fun a i => nextSyncAmount a i.1 i.2) amount

/-- The `(m_syncAmount, count)` of each call of such a run. -/
def syncSteps : BitVec 32 → List (BitVec 32 × Float) → List (BitVec 32 × BitVec 32)
  | _, [] => []
  | a, i :: is => (a, i.1) :: syncSteps (nextSyncAmount a i.1 i.2) is

/-- Every import brings at most the amount asked for, as `BlockChain::sync(bq, db, max)` imports
at most `max` blocks. -/
def ImportsWithin : BitVec 32 → List (BitVec 32 × Float) → Prop
  | _, [] => True
  | a, i :: is => i.1 ≤ a ∧ ImportsWithin (nextSyncAmount a i.1 i.2) is

/-- **The batch size stays in range, and its arithmetic never wraps.** Over every run of
block-queue syncs starting from an amount in `c_syncMin..c_syncMax` whose imports bring at most
the amount asked for, `m_syncAmount` stays within `c_syncMin..c_syncMax`, and at every call the
`unsigned` products `count * 9` and `m_syncAmount * 11` are the exact ones. -/
theorem syncAmountRun_bounds : ∀ (amount : BitVec 32) (imports : List (BitVec 32 × Float)),
    1 ≤ amount → amount ≤ 1000 → ImportsWithin amount imports →
      (1 ≤ syncAmountRun amount imports ∧ syncAmountRun amount imports ≤ 1000) ∧
        ∀ p ∈ syncSteps amount imports,
          (p.2 * 9).toNat = p.2.toNat * 9 ∧ (p.1 * 11).toNat = p.1.toNat * 11
  | _, [], h₁, h₂, _ => ⟨⟨h₁, h₂⟩, fun _ hp => by cases hp⟩
  | _, (_, elapsed) :: imports, h₁, h₂, ⟨hc, hw⟩ =>
    have h := nextSyncAmount_bounds elapsed h₁ h₂ hc
    have ih := syncAmountRun_bounds _ imports h.1.1 h.1.2 hw
    ⟨ih.1, fun p hp => by
      rcases List.mem_cons.mp hp with rfl | hp
      · exact h.2
      · exact ih.2 p hp⟩

theorem syncAmountRun_bounds_fifty :
    (1 : BitVec 32) ≤ 50 ∧ (50 : BitVec 32) ≤ 1000 ∧ ImportsWithin 50 [(50, 0.5)] ∧
      (1 ≤ syncAmountRun 50 [(50, 0.5)] ∧ syncAmountRun 50 [(50, 0.5)] ≤ 1000) ∧
        ∀ p ∈ syncSteps 50 [(50, 0.5)],
          (p.2 * 9).toNat = p.2.toNat * 9 ∧ (p.1 * 11).toNat = p.1.toNat * 11 :=
  have hw : ImportsWithin 50 [(50, 0.5)] := ⟨by decide, trivial⟩
  ⟨by decide, by decide, hw, syncAmountRun_bounds 50 [(50, 0.5)] (by decide) (by decide) hw⟩

end Eth
