/-
# The raw proposal and the executed proposal

`m_raw_prepare_cache` holds a proposal as it was received (or made), `m_prepare_cache` the
proposal re-sealed after execution, which the votes are counted for; `checkAndCommit`
checkpoints the raw one when the executed one gathers its sign quorum. The handlers only ever
write the executed proposal right after writing the raw one it came from, except
`generateCommit`, which installs the node's own block as executed and leaves the raw slot as
it finds it. The host calls `generateSeal` and `generateCommit` under separate locks, so a
proposal received in between stays raw:

* `generateCommit_keeps_raw`: `generateCommit` writes the executed slot only;
* `foreign_prepare_between_seal_and_commit`: a run in which the two slots end up holding the
  proposals of different authors, derived from `generateCommit_keeps_raw`.

A proposal for a later height or view waits in a third slot, `m_future_prepare_cache`, which
`recvFutureBlock` overwrites only with a proposal for another block hash, and which no other
branch of `handlePrepareMsg` touches:

* `handlePrepareMsg_future`: a Prepare packet parks its proposal (`parks`) or leaves the slot
  alone;
* `future_slot_settles`: after any sequence of Prepare packets, the slot holds, of the parked
  proposals, the earliest of the last stretch that carries one block hash (`settle`);
* `reissued_proposal_not_parked`: a proposal re-issued with the same hash in a higher view is
  dropped, and the slot keeps the one of the lower view.
-/
import FiscoBcos.Node

namespace PBFT

variable (env : Env) (s : PBFT)

/-- The two proposal slots, raw and executed. -/
def proposals : PrepareReq × PrepareReq := (s.rawPrepareCache, s.prepareCache)

/-! ## Calls that leave both slots alone -/

theorem checkAndSave_proposals : s.checkAndSave.proposals = s.proposals := by
  unfold checkAndSave; dsimp only
  split_ifs <;> simp only [proposals, emit, markCommitted, touchCommit, touchSign]

theorem broadcastSignReq_proposals (r : PrepareReq) :
    (s.broadcastSignReq env r).1.proposals = s.proposals := by
  rw [broadcastSignReq_fst]; split_ifs <;> rfl

theorem broadcastCommitReq_proposals (r : PrepareReq) :
    (s.broadcastCommitReq env r).1.proposals = s.proposals := by
  rw [broadcastCommitReq_fst]; split_ifs <;> rfl

theorem backupMsg_proposals (r : PrepareReq) : (s.backupMsg env r).proposals = s.proposals := by
  unfold backupMsg; split_ifs <;> rfl

theorem checkAndCommit_proposals : (s.checkAndCommit env).proposals = s.proposals := by
  unfold checkAndCommit; dsimp only
  split_ifs
  · rfl
  · rw [checkAndSave_proposals, broadcastCommitReq_proposals, backupMsg_proposals]; rfl
  · rw [checkAndSave_proposals, backupMsg_proposals]; rfl
  · rfl

/-! ## Where the executed slot is written -/

/-- **`generateCommit` writes the executed slot only.** Still in the current view, it installs
the node's own block as the executed proposal and leaves whatever proposal is raw. -/
theorem generateCommit_keeps_raw (b : BlockHeader) (data : Bytes) :
    (s.generateCommit env b data s.view).1.proposals = (s.rawPrepareCache,
      { s.signedMsg b.number s.view s.nodeIdx env.utcTime b.hash with block := data }) := by
  unfold generateCommit
  rw [if_neg (by simp)]
  dsimp only
  split_ifs
  · rw [checkAndCommit_proposals, broadcastSignReq_proposals]; rfl
  · rw [broadcastSignReq_proposals]; rfl

/-- The block miner `1` was asked to seal while it was primary: height `10`, hash `77`. -/
def sealedHeader : BlockHeader := { number := 10, hash := 77, valid := true }

/-- In view `1` the host seals `sealedHeader`, miner `2`'s proposal arrives, and the host
commits `sealedHeader` for view `1`. -/
def sealRaceRun : List (Env × Input) :=
  [(scenarioEnv, .generateSeal sealedHeader 88),
   (scenarioEnv, .msg 2 (.prepare (proposal 2 1 50 60)) true),
   (scenarioEnv, .generateCommit sealedHeader 88 1)]

set_option maxRecDepth 4000 in
/-- `shouldSeal` lets miner `1` seal in view `0`; the view changes before the host calls
`generateSeal`, which proposes in view `1` and succeeds; the primary of view `1`, miner `2`,
gets its proposal accepted; `generateCommit` for view `1` then succeeds too. The executed
proposal is miner `1`'s own, the raw one miner `2`'s. -/
theorem foreign_prepare_between_seal_and_commit :
    ∃ s₃ s, s₃ = (scenarioNode 1).run viewOneRun ∧ s = s₃.run sealRaceRun ∧
      ((scenarioNode 1).shouldSeal scenarioEnv).2 = true ∧
      (s₃.generateSeal scenarioEnv sealedHeader 88).2 = (true, 1) ∧ Reachable s ∧
      s.prepareCache ≠ {} ∧ s.rawPrepareCache.idx = 2 ∧ s.prepareCache.idx = 1 := by
  refine ⟨_, _, rfl, rfl, by decide, by decide, ((scenarioNode_reachable 1).run _).run _, ?_⟩
  have hv : (((scenarioNode 1).run viewOneRun).run (sealRaceRun.take 2)).view = 1 := by decide
  have h := generateCommit_keeps_raw scenarioEnv
    (((scenarioNode 1).run viewOneRun).run (sealRaceRun.take 2)) sealedHeader 88
  simp only [hv, proposals, Prod.mk.injEq] at h
  rw [show sealRaceRun = sealRaceRun.take 2 ++ [(scenarioEnv, .generateCommit sealedHeader 88 1)]
    from rfl, run_append, run_cons, run_nil]
  dsimp only [step]
  rw [h.1, h.2]
  decide

/-! ## The future slot -/

theorem checkAndSave_future : s.checkAndSave.futurePrepareCache = s.futurePrepareCache := by
  unfold checkAndSave; dsimp only
  split_ifs <;> simp only [emit, markCommitted, touchCommit, touchSign]

theorem broadcastSignReq_future (r : PrepareReq) :
    (s.broadcastSignReq env r).1.futurePrepareCache = s.futurePrepareCache := by
  rw [broadcastSignReq_fst]; split_ifs <;> rfl

theorem broadcastCommitReq_future (r : PrepareReq) :
    (s.broadcastCommitReq env r).1.futurePrepareCache = s.futurePrepareCache := by
  rw [broadcastCommitReq_fst]; split_ifs <;> rfl

theorem backupMsg_future (r : PrepareReq) :
    (s.backupMsg env r).futurePrepareCache = s.futurePrepareCache := by
  unfold backupMsg; split_ifs <;> rfl

theorem checkAndCommit_future :
    (s.checkAndCommit env).futurePrepareCache = s.futurePrepareCache := by
  unfold checkAndCommit; dsimp only
  split_ifs
  · rfl
  · rw [checkAndSave_future, broadcastCommitReq_future, backupMsg_future]; rfl
  · rw [checkAndSave_future, backupMsg_future]; rfl
  · rfl

theorem executePrepare_future (req : PrepareReq) :
    (s.executePrepare env req).futurePrepareCache = s.futurePrepareCache := by
  unfold executePrepare
  split
  · rfl
  · split_ifs
    · rfl
    · rfl
    · split
      · rfl
      · dsimp only
        rw [checkAndCommit_future]
        split_ifs
        · rw [broadcastSignReq_future]; rfl
        · rfl

/-- The guards `handlePrepareMsg(from, req, false)` passes before `recvFutureBlock`: `req` is
not the proposal held raw, not the node's own, not below the current height or view, and
above one of them. -/
def parks (req : PrepareReq) : Bool :=
  !s.isExistPrepare req && !(req.idx == s.nodeIdx) &&
    !(req.height < s.consensusBlockNumber || req.view < s.view) &&
    (req.height > s.consensusBlockNumber || req.view > s.view)

theorem handlePrepareMsg_future (frm : U256) (req : PrepareReq) :
    (s.handlePrepareMsg env frm req).futurePrepareCache =
      if s.parks req then (s.recvFutureBlock frm req).futurePrepareCache
      else s.futurePrepareCache := by
  unfold handlePrepareMsg parks
  simp only [Bool.not_false, Bool.true_and]
  by_cases hA : s.isExistPrepare req = true
  · simp [hA]
  by_cases hB : (req.idx == s.nodeIdx) = true
  · simp [hA, hB]
  by_cases hC : (req.height < s.consensusBlockNumber || req.view < s.view) = true
  · simp [hA, hB, hC]
  by_cases hD : (req.height > s.consensusBlockNumber || req.view > s.view) = true
  · simp [hA, hB, hC, hD]
  · rw [if_neg hA, if_neg hB, if_neg hC, if_neg hD]
    simp only [hA, hB, hC, hD, Bool.not_false, Bool.and_false, Bool.false_eq_true, ite_false]
    split_ifs
    · rfl
    · rfl
    · rfl
    · exact executePrepare_future env _ req

/-- `recvFutureBlock` replaces the slot's proposal by `req` when the two block hashes differ. -/
theorem recvFutureBlock_future (frm : U256) (req : PrepareReq) :
    (s.recvFutureBlock frm req).futurePrepareCache =
      if s.futurePrepareCache.2.blockHash = req.blockHash then s.futurePrepareCache
      else (frm, req) := by
  unfold recvFutureBlock
  by_cases h : s.futurePrepareCache.2.blockHash = req.blockHash <;> simp [h, setFuture]

/-- The delivery of a Prepare packet parks its proposal, by the rule of `recvFutureBlock`, or
leaves the slot alone. -/
theorem step_prepare_future (frm : U256) (req : PrepareReq) (alive : Bool) :
    (s.step env (.msg frm (.prepare req) alive)).futurePrepareCache =
      if s.parks req then
        (if s.futurePrepareCache.2.blockHash = req.blockHash then s.futurePrepareCache
         else (frm, req))
      else s.futurePrepareCache := by
  show (s.handleMsg env frm (.prepare req) alive).futurePrepareCache = _
  have hr : ∀ t : PBFT, (t.relayMsg env (.prepare req)).futurePrepareCache =
      t.futurePrepareCache := fun t => by unfold relayMsg; split_ifs <;> rfl
  unfold handleMsg; dsimp only
  rw [← recvFutureBlock_future, ← handlePrepareMsg_future]
  split_ifs
  · exact hr _
  · rfl

/-- The deliveries of Prepare packets, each with its environment, its sender, the proposal and
the session state, as calls of the engine. -/
def prepareInputs (ds : List (Env × U256 × PrepareReq × Bool)) : List (Env × Input) :=
  ds.map fun d => (d.1, .msg d.2.1 (.prepare d.2.2.1) d.2.2.2)

/-- The proposals the deliveries `ds` park, in order, from the state `s`. -/
def parkedOf : PBFT → List (Env × U256 × PrepareReq × Bool) → List (U256 × PrepareReq)
  | _, [] => []
  | s, d :: ds => (if s.parks d.2.2.1 then [(d.2.1, d.2.2.1)] else []) ++
      parkedOf (s.step d.1 (.msg d.2.1 (.prepare d.2.2.1) d.2.2.2)) ds

/-- Of a history of the slot's proposals, newest first (`q`, then the older `rs`), the earliest
of the newest stretch that carries `q`'s block hash. -/
def stretchStart (q : U256 × PrepareReq) : List (U256 × PrepareReq) → U256 × PrepareReq
  | [] => q
  | r :: rs => if r.2.blockHash = q.2.blockHash then stretchStart r rs else q

/-- What a slot with the history `h`, newest first, holds: the start of its newest stretch. -/
def settle : List (U256 × PrepareReq) → U256 × PrepareReq
  | [] => (invalid256, {})
  | q :: rs => stretchStart q rs

theorem stretchStart_hash (q : U256 × PrepareReq) (rs : List (U256 × PrepareReq)) :
    (stretchStart q rs).2.blockHash = q.2.blockHash := by
  induction rs generalizing q with
  | nil => rfl
  | cons r rs ih =>
    unfold stretchStart; split_ifs with h
    · exact (ih r).trans h
    · rfl

/-- A newer proposal starts a new stretch unless it carries the hash of the newest one. -/
theorem settle_cons {h : List (U256 × PrepareReq)} (hne : h ≠ []) (p : U256 × PrepareReq) :
    settle (p :: h) = if (settle h).2.blockHash = p.2.blockHash then settle h else p := by
  obtain ⟨q, rs, rfl⟩ := List.exists_cons_of_ne_nil hne
  simp only [settle, stretchStart, stretchStart_hash]

theorem run_prepareInputs_future (ds : List (Env × U256 × PrepareReq × Bool)) :
    ∀ (s : PBFT) (h : List (U256 × PrepareReq)), h ≠ [] → s.futurePrepareCache = settle h →
      (s.run (prepareInputs ds)).futurePrepareCache = settle ((parkedOf s ds).reverse ++ h) := by
  induction ds with
  | nil => exact fun _ _ _ hs => hs
  | cons d ds ih =>
    intro s h hne hs
    have hstep := step_prepare_future d.1 s d.2.1 d.2.2.1 d.2.2.2
    rw [prepareInputs, List.map_cons, run_cons, parkedOf, List.reverse_append,
      List.append_assoc]
    refine ih _ _ ?_ ?_
    · split_ifs <;> simp [hne]
    · rw [hstep]; split_ifs
      · rw [List.reverse_singleton, List.singleton_append, settle_cons hne, ← hs, if_pos ‹_›]
      · rw [List.reverse_singleton, List.singleton_append, settle_cons hne, ← hs, if_neg ‹_›]
      · exact hs

/-- **What the future slot holds after any Prepare packets.** For every state and every
sequence of delivered Prepare packets, `m_future_prepare_cache` afterwards holds, of the
proposals the deliveries parked (those `handlePrepareMsg` hands to `recvFutureBlock`) preceded
by what the slot held at the start, the earliest of the final stretch that carries the block
hash of the last one. -/
theorem future_slot_settles (s : PBFT) (ds : List (Env × U256 × PrepareReq × Bool)) :
    (s.run (prepareInputs ds)).futurePrepareCache =
      settle ((parkedOf s ds).reverse ++ [s.futurePrepareCache]) :=
  run_prepareInputs_future ds s _ (List.cons_ne_nil _ _) rfl

/-- Miner `2`, primary of view `1`, proposes block `50`; the view changes again and miner `3`,
primary of view `2`, re-issues block `50` (as `reHandlePrepareReq` does). Node `0`, still in
view `0`, receives both. -/
def reissueRun : List (Env × Input) :=
  [(scenarioEnv, .msg 2 (.prepare (proposal 2 1 50 60)) true),
   (scenarioEnv, .msg 3 (.prepare (proposal 3 2 50 60)) true)]

/-- The re-issued proposal of view `2` is not parked: the slot keeps the proposal of view `1`,
which `handleFutureBlock` never handles once the node is in view `2`. -/
theorem reissued_proposal_not_parked :
    ∃ s, s = (scenarioNode 0).run reissueRun ∧ Reachable s ∧
      s.futurePrepareCache = (2, proposal 2 1 50 60) ∧ (proposal 3 2 50 60).view = 2 :=
  ⟨_, rfl, (scenarioNode_reachable 0).run _, by decide⟩

end PBFT
