/-
# Views only move forward within a height

Four operations write the view or the target view: `checkTimeout` targets the next view,
the fast path of `handleViewChangeMsg` jumps to just below the least view more than `f`
peers ask for, `checkAndChangeView` enters the target view, and `reportBlock` restarts both at
`0` for a new height. Every other call leaves view, target view and height alone.

* `fastScan_minView_gt`: the fast path's least view lies above the target view, so the jump
  never lowers it;
* `advances_step`: one call keeps `view ≤ toView` and, while the height stays, lowers
  neither, as long as the target view is not `2^256 - 1` and no reported block has that
  number;
* `views_advance_within_height`: over every run of a node, `view ≤ toView` throughout, and
  without a report of block `2^256 - 1` neither view goes down within a height;
* `block_number_wrap_resets_view`: a reported block numbered `2^256 - 1` makes the next
  height wrap to the height being agreed on, and the views restart without a height change;
* `run_consensusBlockNumber`: the height after a run follows from the reported blocks alone;
  no packet, timeout or sealing call moves it;
* `consensusBlockNumber_never_decreases`: without a report of block `2^256 - 1`, the height
  never goes down along a run.
-/
import Mathlib.Data.List.Chain
import FiscoBcos.Node

/-- A call that reports a block numbered `2^256 - 1`. -/
def Input.reportsLast : Input → Bool
  | .report b => b.number == invalid256
  | _ => false

/-- The height being agreed on after a call, as `reportBlock` sets it: a reported block at or
above the height moves it to the block's number plus one. -/
def Input.nextHeight : Input → U256 → U256
  | .report b, h => if b.number ≥ h then b.number + 1 else h
  | _, h => h

namespace PBFT

variable (env : Env) (s : PBFT)

/-- The view, the target view and the height being agreed on. -/
def viewState : U256 × U256 × U256 := (s.view, s.toView, s.consensusBlockNumber)

@[simp] theorem emit_viewState (e : Event) : (s.emit e).viewState = s.viewState := rfl

@[simp] theorem touchSign_viewState (h : H256) : (s.touchSign h).viewState = s.viewState := rfl

@[simp] theorem touchCommit_viewState (h : H256) : (s.touchCommit h).viewState = s.viewState := rfl

@[simp] theorem markCommitted_viewState (h : H256) :
    (s.markCommitted h).viewState = s.viewState := rfl

@[simp] theorem addRawPrepare_viewState (req : PrepareReq) :
    (s.addRawPrepare req).viewState = s.viewState := rfl

@[simp] theorem addSignReq_viewState (req : PBFTMsg) : (s.addSignReq req).viewState = s.viewState :=
  rfl

@[simp] theorem addCommitReq_viewState (req : PBFTMsg) :
    (s.addCommitReq req).viewState = s.viewState := rfl

@[simp] theorem setFuture_viewState (frm : U256) (req : PrepareReq) :
    (s.setFuture frm req).viewState = s.viewState := rfl

@[simp] theorem insertViewChange_viewState (req : PBFTMsg) :
    (s.insertViewChange req).viewState = s.viewState := rfl

@[simp] theorem touchViewChange_viewState (v : U256) :
    (s.touchViewChange v).viewState = s.viewState := rfl

/-! ## Calls that leave the views alone -/

theorem broadcastMsg_viewState (p : Packet) : (s.broadcastMsg env p).1.viewState = s.viewState := by
  rw [broadcastMsg_fst]; split_ifs <;> rfl

theorem checkAndSave_viewState : s.checkAndSave.viewState = s.viewState := by
  unfold checkAndSave; dsimp only
  split_ifs <;> simp only [emit_viewState, markCommitted_viewState, touchCommit_viewState,
    touchSign_viewState]

theorem broadcastSignReq_viewState (r : PrepareReq) :
    (s.broadcastSignReq env r).1.viewState = s.viewState := by
  rw [broadcastSignReq_fst]; split_ifs <;> rfl

theorem broadcastCommitReq_viewState (r : PrepareReq) :
    (s.broadcastCommitReq env r).1.viewState = s.viewState := by
  rw [broadcastCommitReq_fst]; split_ifs <;> rfl

theorem backupMsg_viewState (r : PrepareReq) : (s.backupMsg env r).viewState = s.viewState := by
  unfold backupMsg; split_ifs <;> rfl

theorem checkAndCommit_viewState : (s.checkAndCommit env).viewState = s.viewState := by
  unfold checkAndCommit; dsimp only
  split_ifs
  · rfl
  · rw [checkAndSave_viewState, broadcastCommitReq_viewState, backupMsg_viewState]; rfl
  · rw [checkAndSave_viewState, backupMsg_viewState]; rfl
  · rfl

theorem executePrepare_viewState (req : PrepareReq) :
    (s.executePrepare env req).viewState = s.viewState := by
  unfold executePrepare
  split
  · rfl
  · split_ifs
    · rfl
    · rfl
    · split
      · rfl
      · dsimp only
        rw [checkAndCommit_viewState]
        split_ifs
        · rw [broadcastSignReq_viewState]; rfl
        · rfl

theorem handlePrepareMsg_viewState (frm : U256) (req : PrepareReq) (self : Bool) :
    (s.handlePrepareMsg env frm req self).viewState = s.viewState := by
  unfold handlePrepareMsg recvFutureBlock; dsimp only
  simp only [apply_ite viewState, executePrepare_viewState, addRawPrepare_viewState,
    setFuture_viewState, ite_self]

theorem handleSignMsg_viewState (req : PBFTMsg) :
    (s.handleSignMsg env req).viewState = s.viewState := by
  unfold handleSignMsg
  simp only [apply_ite viewState, checkAndCommit_viewState, addSignReq_viewState, ite_self]

theorem handleCommitMsg_viewState (req : PBFTMsg) :
    (s.handleCommitMsg env req).viewState = s.viewState := by
  unfold handleCommitMsg
  simp only [apply_ite viewState, checkAndSave_viewState, addCommitReq_viewState, ite_self]

theorem resetConfig_viewState : (s.resetConfig env).viewState = s.viewState := by
  rcases resetConfig_cases env s with h | ⟨t, b, h⟩ | ⟨t, n, idx, l, b, h⟩ <;> rw [h] <;> rfl

theorem shouldSeal_viewState : (s.shouldSeal env).1.viewState = s.viewState := by
  unfold shouldSeal reHandlePrepareReq
  exact iteInduction (motive := fun r : PBFT × Bool => r.1.viewState = s.viewState) (fun _ => rfl)
    fun _ => iteInduction (motive := fun r : PBFT × Bool => r.1.viewState = s.viewState)
      (fun _ => rfl) fun _ =>
    iteInduction (motive := fun r : PBFT × Bool => r.1.viewState = s.viewState) (fun _ => rfl)
      fun _ => iteInduction (motive := fun r : PBFT × Bool => r.1.viewState = s.viewState)
        (fun _ => iteInduction (motive := fun r : PBFT => r.viewState = s.viewState)
          (fun _ => (handlePrepareMsg_viewState env _ _ _ _).trans (broadcastMsg_viewState env s _))
          fun _ => rfl) fun _ => rfl

theorem generateSeal_viewState (b : BlockHeader) (data : Bytes) :
    (s.generateSeal env b data).1.viewState = s.viewState := by
  unfold generateSeal; dsimp only; rw [broadcastPrepareReq_fst]; dsimp only
  split_ifs <;> rfl

theorem generateCommit_viewState (b : BlockHeader) (data : Bytes) (v : U256) :
    (s.generateCommit env b data v).1.viewState = s.viewState := by
  unfold generateCommit; dsimp only
  split_ifs
  · rfl
  · rw [checkAndCommit_viewState, broadcastSignReq_viewState]; rfl
  · rw [broadcastSignReq_viewState]; rfl

/-! ## The fast path's target -/

/-- One step of the scan keeps the least view above `toView` when it counts a view above
`toView`. -/
theorem scanStep_minView_gt {toView tip w : U256} {acc : Scan} (i : U256) (e : PBFTMsg)
    (hacc : toView < acc.minView) (hw : toView < w) :
    toView < (scanStep tip w acc i e).minView := by
  unfold scanStep
  split_ifs <;> assumption

/-- **The fast path's least view is above the target view.** Every view the scan counts is
above `toView`, and it starts from `Invalid256`. -/
theorem fastScan_minView_gt {toView : U256} (tip : U256) (c : ViewChangeCache)
    (hmax : toView ≠ invalid256) : toView < (fastScan toView tip c).minView := by
  have h0 : toView < invalid256 := by
    have := toNat_lt_of_ne_invalid256 hmax
    simp only [invalid256, BitVec.lt_def, BitVec.toNat_allOnes]; omega
  unfold fastScan
  refine List.foldlRecOn (motive := fun acc : Scan => toView < acc.minView) _ _ _ h0
    fun acc hacc wb _ => ?_
  dsimp only
  split_ifs with hw
  · exact List.foldlRecOn (motive := fun acc : Scan => toView < acc.minView) _ _ _ hacc
      fun acc' hacc' ie _ => scanStep_minView_gt ie.1 ie.2 hacc' hw
  · exact hacc

/-! ## One call -/

/-- `t` follows `s` in view order: `view ≤ toView` holds in `t`, and while the height is the
same neither the view nor the target view went down. -/
def Advances (s t : PBFT) : Prop :=
  t.view ≤ t.toView ∧
    (t.consensusBlockNumber = s.consensusBlockNumber → s.view ≤ t.view ∧ s.toView ≤ t.toView)

variable {s} {t u : PBFT}

theorem Advances.of_viewState (h : t.viewState = s.viewState) (hs : s.view ≤ s.toView) :
    Advances s t := by
  simp only [viewState, Prod.mk.injEq] at h
  obtain ⟨h1, h2, -⟩ := h
  rw [Advances, h1, h2]
  exact ⟨hs, fun _ => ⟨BitVec.le_refl _, BitVec.le_refl _⟩⟩

theorem Advances.congr_left (h : t.viewState = s.viewState) (ht : Advances t u) :
    Advances s u := by
  simp only [viewState, Prod.mk.injEq] at h
  obtain ⟨h1, h2, h3⟩ := h
  rw [Advances, ← h1, ← h2, ← h3]
  exact ht

theorem Advances.trans (h1 : Advances s t) (h2 : Advances t u)
    (hc : t.consensusBlockNumber = s.consensusBlockNumber) : Advances s u := by
  refine ⟨h2.1, fun hu => ?_⟩
  obtain ⟨a, b⟩ := h1.2 hc
  obtain ⟨c, d⟩ := h2.2 (hu.trans hc.symm)
  exact ⟨BitVec.le_trans a c, BitVec.le_trans b d⟩

/-- Entering the target view of a state with the views of `s`. -/
theorem Advances.enterView (h : t.viewState = s.viewState) (hs : s.view ≤ s.toView) :
    Advances s t.enterView := by
  simp only [viewState, Prod.mk.injEq] at h
  refine ⟨BitVec.le_refl _, fun _ => ?_⟩
  show s.view ≤ t.toView ∧ s.toView ≤ t.toView
  rw [h.2.1]
  exact ⟨hs, BitVec.le_refl _⟩

theorem advances_checkAndChangeView (hs : s.view ≤ s.toView) : Advances s s.checkAndChangeView := by
  unfold checkAndChangeView; dsimp only
  split_ifs
  · exact .enterView (by simp only [emit_viewState, touchViewChange_viewState]) hs
  · exact .of_viewState (touchViewChange_viewState _ _) hs

theorem advances_fastViewChange (hs : s.view ≤ s.toView) (hmax : s.toView ≠ invalid256) :
    Advances s s.fastViewChange := by
  unfold fastViewChange; dsimp only
  split_ifs
  · have := fastScan_minView_gt s.highestBlock.number s.recvViewChangeReq hmax
    exact ⟨by simp only [jumpView]; bv_omega, fun _ => ⟨by simp only [jumpView]; bv_omega,
      by simp only [jumpView]; bv_omega⟩⟩
  · exact .of_viewState rfl hs

theorem advances_handleViewChangeMsg (hs : s.view ≤ s.toView) (hmax : s.toView ≠ invalid256)
    (frm : U256) (req : PBFTMsg) (alive : Bool) :
    Advances s (s.handleViewChangeMsg env frm req alive) := by
  have hm : (s.motivate env frm req alive).viewState = s.viewState := by
    unfold motivate; split_ifs <;> simp only [emit_viewState]
  unfold handleViewChangeMsg; dsimp only
  refine iteInduction (fun _ => .of_viewState rfl hs) fun _ =>
    iteInduction (fun _ => .of_viewState rfl hs) fun _ =>
      iteInduction (fun _ => .of_viewState hm hs) fun _ =>
        iteInduction (fun _ => .of_viewState hm hs) fun _ =>
          iteInduction (fun _ => .of_viewState hm hs) fun _ => ?_
  generalize hs3 : ((s.motivate env frm req alive).emit _).insertViewChange req = s3
  have h3 : s3.viewState = s.viewState := by
    rw [← hs3, insertViewChange_viewState, emit_viewState, hm]
  have h3' := h3
  simp only [viewState, Prod.mk.injEq] at h3'
  exact iteInduction
    (fun _ => .congr_left h3 (advances_checkAndChangeView (by rw [h3'.1, h3'.2.1]; exact hs)))
    fun _ => .congr_left h3 (advances_fastViewChange (by rw [h3'.1, h3'.2.1]; exact hs)
      (by rw [h3'.2.1]; exact hmax))

theorem advances_checkTimeout (hs : s.view ≤ s.toView) (hmax : s.toView ≠ invalid256)
    (expired : Bool) : Advances s (s.checkTimeout env expired) := by
  generalize ht : ((s.timeoutView.purgeViewChanges s.timeoutView.toView).broadcastViewChangeReq
    env).1 = t
  have hv : t.viewState = (s.view, s.toView + 1, s.consensusBlockNumber) := by
    rw [← ht]; unfold broadcastViewChangeReq; split_ifs
    · rfl
    · rw [broadcastMsg_viewState]; rfl
  simp only [viewState, Prod.mk.injEq] at hv
  have hlt := toNat_lt_of_ne_invalid256 hmax
  have h1 : Advances s t := by
    rw [Advances, hv.1, hv.2.1, hv.2.2]
    exact ⟨by bv_omega, fun _ => ⟨BitVec.le_refl _, by bv_omega⟩⟩
  unfold checkTimeout; dsimp only
  rw [ht]
  split_ifs
  · exact .of_viewState rfl hs
  · exact h1.trans (advances_checkAndChangeView h1.1) hv.2.2
  · exact h1

theorem advances_reportBlock (hs : s.view ≤ s.toView) (b : BlockHeader)
    (hb : b.number ≠ invalid256) : Advances s (s.reportBlock env b) := by
  unfold reportBlock; dsimp only
  split_ifs with hge
  · have hv : (((((s.setHighest b).startHeight (b.number + 1)).delViewChange).resetConfig
        env).delCache b.hash).viewState = (0, 0, b.number + 1) := by
      rw [show ∀ x : PBFT, (x.delCache b.hash).viewState = x.viewState from fun _ => rfl,
        resetConfig_viewState]; rfl
    simp only [viewState, Prod.mk.injEq] at hv
    have hlt := toNat_lt_of_ne_invalid256 hb
    refine ⟨by rw [hv.1, hv.2.1]; exact BitVec.le_refl _, fun hc => absurd hc ?_⟩
    rw [hv.2.2]
    exact fun h => by simp only [setHighest] at hge; bv_omega
  · exact .of_viewState (by
      rw [show ∀ x : PBFT, (x.delCache b.hash).viewState = x.viewState from fun _ => rfl,
        resetConfig_viewState]; rfl) hs

theorem advances_handleMsg (hs : s.view ≤ s.toView) (hmax : s.toView ≠ invalid256)
    (frm : U256) (p : Packet) (alive : Bool) : Advances s (s.handleMsg env frm p alive) := by
  exact handleMsg_induction env s frm p alive
    (fun req => .of_viewState (handlePrepareMsg_viewState env s frm req false) hs)
    (fun req => .of_viewState (handleSignMsg_viewState env s req) hs)
    (fun req => .of_viewState (handleCommitMsg_viewState env s req) hs)
    (fun req => advances_handleViewChangeMsg env hs hmax frm req alive) fun _ ht => ht

/-- **One call moves the views forward within a height.** From a state with `view ≤ toView`
and a target view below `2^256 - 1`, a call other than the report of a block numbered
`2^256 - 1` keeps `view ≤ toView` and, if the height stays, lowers neither. -/
theorem advances_step (hs : s.view ≤ s.toView) (hmax : s.toView ≠ invalid256) (i : Input)
    (hi : i.reportsLast = false) : Advances s (s.step env i) := by
  cases i with
  | msg frm p alive => exact advances_handleMsg env hs hmax frm p alive
  | timeout e => exact advances_checkTimeout env hs hmax e
  | futureBlock =>
    unfold step handleFutureBlock; split_ifs
    · exact .of_viewState (by rw [show ∀ x : PBFT, (x.setFuture invalid256 {}).viewState =
        x.viewState from fun _ => rfl, handlePrepareMsg_viewState]) hs
    · exact .of_viewState rfl hs
  | collect due =>
    exact .of_viewState (show (s.collectGarbage due).viewState = _ by
      unfold collectGarbage; split_ifs <;> rfl) hs
  | report b =>
    exact advances_reportBlock env hs b (by simpa [Input.reportsLast] using hi)
  | shouldSeal => exact .of_viewState (shouldSeal_viewState env s) hs
  | generateSeal b data => exact .of_viewState (generateSeal_viewState env s b data) hs
  | generateCommit b data v => exact .of_viewState (generateCommit_viewState env s b data v) hs

/-! ## Runs -/

/-- Over the states of a run from a state with `view ≤ toView`, as long as no target view is
`2^256 - 1` and no reported block has that number, `view ≤ toView` holds throughout and
neither view goes down between two states of one height. -/
theorem trace_advances (r : List (Env × Input)) (hs : s.view ≤ s.toView)
    (hview : ∀ t ∈ s.trace r, t.toView ≠ invalid256)
    (hrep : ∀ e ∈ r, e.2.reportsLast = false) :
    (∀ t ∈ s.trace r, t.view ≤ t.toView) ∧
      (s.trace r).Chain' (fun a b => b.consensusBlockNumber = a.consensusBlockNumber →
        a.view ≤ b.view ∧ a.toView ≤ b.toView) := by
  induction r generalizing s with
  | nil => exact ⟨by simpa [trace] using hs, List.chain'_singleton _⟩
  | cons e r ih =>
    have ha := advances_step e.1 hs (hview s (List.mem_cons_self _ _)) e.2
      (hrep e (List.mem_cons_self _ _))
    obtain ⟨h1, h2⟩ := ih ha.1 (fun t ht => hview t (List.mem_cons_of_mem _ ht))
      (fun e' he' => hrep e' (List.mem_cons_of_mem _ he'))
    refine ⟨fun t ht => ?_, List.chain'_cons'.mpr ⟨?_, h2⟩⟩
    · rcases List.mem_cons.mp ht with rfl | ht
      · exact hs
      · exact h1 t ht
    · rw [trace_head?]
      exact fun b hb => (Option.some.inj hb) ▸ ha.2

/-- `reportBlock` keeps `view ≤ toView` for every block, the block `2^256 - 1` included: a new
height restarts both at `0`. -/
theorem reportBlock_view_le (hs : s.view ≤ s.toView) (b : BlockHeader) :
    (s.reportBlock env b).view ≤ (s.reportBlock env b).toView := by
  have hv : ∀ x : PBFT, ((x.resetConfig env).delCache b.hash).view = x.view ∧
      ((x.resetConfig env).delCache b.hash).toView = x.toView := fun x => by
    have h := resetConfig_viewState env x
    simp only [viewState, Prod.mk.injEq] at h
    exact ⟨h.1, h.2.1⟩
  unfold reportBlock; dsimp only
  split_ifs <;> rw [(hv _).1, (hv _).2]
  · exact BitVec.le_refl _
  · exact hs

/-- One call keeps `view ≤ toView` while the target view is below `2^256 - 1`, whatever block it
reports. -/
theorem view_le_step (hs : s.view ≤ s.toView) (hmax : s.toView ≠ invalid256) (i : Input) :
    (s.step env i).view ≤ (s.step env i).toView := by
  cases i with
  | report b => exact reportBlock_view_le env hs b
  | _ => exact (advances_step env hs hmax _ (by rfl)).1

theorem trace_view_le (r : List (Env × Input)) (hs : s.view ≤ s.toView)
    (hview : ∀ t ∈ s.trace r, t.toView ≠ invalid256) : ∀ t ∈ s.trace r, t.view ≤ t.toView := by
  induction r generalizing s with
  | nil => simpa [trace] using hs
  | cons e r ih =>
    intro t ht
    rcases List.mem_cons.mp ht with rfl | ht
    · exact hs
    · exact ih (view_le_step e.1 hs (hview s (List.mem_cons_self _ _)) e.2)
        (fun t' ht' => hview t' (List.mem_cons_of_mem _ ht')) t ht

theorem initEnv_views (key : Key) (omitEmpty : Bool) (backup : Option PrepareReq)
    (events : List Event) :
    (initEnv env key omitEmpty backup events).view = 0 ∧
      (initEnv env key omitEmpty backup events).toView = 0 := by
  have h := resetConfig_viewState env (blank key omitEmpty backup events)
  simp only [viewState, Prod.mk.injEq] at h
  unfold initEnv reloadMsg; dsimp only
  split <;> exact ⟨h.1, rfl⟩

end PBFT

/-- **Views move forward within a height.** In every run of a node in which neither the view
nor the target view reaches `2^256 - 1`, every state has `m_view ≤ m_to_view`; and if no
reported block is numbered `2^256 - 1`, between two consecutive states with the same
`m_consensus_block_number` neither `m_view` nor `m_to_view` decreases. -/
theorem views_advance_within_height (env : Env) (key : Key) (omitEmpty : Bool)
    (backup : Option PrepareReq) (r : List (Env × Input))
    (hview : ∀ t ∈ (PBFT.initEnv env key omitEmpty backup []).trace r,
      t.view ≠ invalid256 ∧ t.toView ≠ invalid256) :
    (∀ t ∈ (PBFT.initEnv env key omitEmpty backup []).trace r, t.view ≤ t.toView) ∧
      ((∀ e ∈ r, e.2.reportsLast = false) →
        ((PBFT.initEnv env key omitEmpty backup []).trace r).Chain'
          (fun a b => b.consensusBlockNumber = a.consensusBlockNumber →
            a.view ≤ b.view ∧ a.toView ≤ b.toView)) := by
  obtain ⟨h1, h2⟩ := PBFT.initEnv_views env key omitEmpty backup []
  have hs : (PBFT.initEnv env key omitEmpty backup []).view ≤
      (PBFT.initEnv env key omitEmpty backup []).toView := by rw [h1, h2]; exact BitVec.le_refl _
  exact ⟨PBFT.trace_view_le r hs fun t ht => (hview t ht).2,
    fun hrep => (PBFT.trace_advances r hs (fun t ht => (hview t ht).2) hrep).2⟩

/-- Miner `1` of the scenarios, started, told of the tip and moved to view `1`. -/
theorem views_advance_within_height_scenario :
    (∀ t ∈ (PBFT.initEnv scenarioEnv 101 false none []).trace
        ((scenarioEnv, .report tip9) :: viewOneRun), t.view ≠ invalid256 ∧ t.toView ≠ invalid256) ∧
    (∀ t ∈ (PBFT.initEnv scenarioEnv 101 false none []).trace
        ((scenarioEnv, .report tip9) :: viewOneRun), t.view ≤ t.toView) ∧
      ((∀ e ∈ (scenarioEnv, Input.report tip9) :: viewOneRun, e.2.reportsLast = false) →
        ((PBFT.initEnv scenarioEnv 101 false none []).trace
          ((scenarioEnv, .report tip9) :: viewOneRun)).Chain'
          (fun a b => b.consensusBlockNumber = a.consensusBlockNumber →
            a.view ≤ b.view ∧ a.toView ≤ b.toView)) :=
  have h1 : ∀ t ∈ (PBFT.initEnv scenarioEnv 101 false none []).trace
      ((scenarioEnv, .report tip9) :: viewOneRun), t.view ≠ invalid256 ∧ t.toView ≠ invalid256 :=
    by decide
  ⟨h1, views_advance_within_height scenarioEnv 101 false none _ h1⟩

/-- The last block number a `u256` holds. -/
def lastBlock : BlockHeader := { number := invalid256, hash := 1, valid := true }

/-- From a fresh start (height `0`), a timeout targets view `1`; the report of block
`2^256 - 1` then sets the height to `2^256 - 1 + 1 = 0`, unchanged, and the target view back to
`0`. No view reaches `2^256 - 1`. -/
theorem block_number_wrap_resets_view :
    ∃ s₀ s₁ s₂, s₀ = PBFT.initEnv scenarioEnv 100 false none [] ∧
      s₁ = s₀.step scenarioEnv (.timeout true) ∧ s₂ = s₁.step scenarioEnv (.report lastBlock) ∧
      Reachable s₂ ∧ (∀ t ∈ [s₀, s₁, s₂], t.view ≠ invalid256 ∧ t.toView ≠ invalid256) ∧
      s₂.consensusBlockNumber = s₁.consensusBlockNumber ∧ s₂.toView < s₁.toView :=
  ⟨_, _, _, rfl, rfl, rfl, .step _ _ (.step _ _ (.init _ _ _ _)), by decide, by decide, by decide⟩

/-! ## The height -/

namespace PBFT

variable (env : Env) (s : PBFT)

theorem consensusBlockNumber_of_viewState {s t : PBFT} (h : t.viewState = s.viewState) :
    t.consensusBlockNumber = s.consensusBlockNumber := congrArg (fun v => v.2.2) h

theorem checkAndChangeView_consensusBlockNumber :
    s.checkAndChangeView.consensusBlockNumber = s.consensusBlockNumber := by
  simp only [checkAndChangeView, apply_ite consensusBlockNumber, enterView, emit, touchViewChange,
    ite_self]

theorem fastViewChange_consensusBlockNumber :
    s.fastViewChange.consensusBlockNumber = s.consensusBlockNumber := by
  rcases fastViewChange_cases s with h | ⟨tv, h⟩ <;> rw [h]
  rfl

theorem handleViewChangeMsg_consensusBlockNumber (frm : U256) (req : PBFTMsg) (alive : Bool) :
    (s.handleViewChangeMsg env frm req alive).consensusBlockNumber = s.consensusBlockNumber := by
  have hm : (s.motivate env frm req alive).consensusBlockNumber = s.consensusBlockNumber := by
    unfold motivate; split_ifs <;> rfl
  unfold handleViewChangeMsg; dsimp only
  generalize s.motivate env frm req alive = m at hm ⊢
  simp only [apply_ite consensusBlockNumber, checkAndChangeView_consensusBlockNumber,
    fastViewChange_consensusBlockNumber, insertViewChange, emit, hm, ite_self]

theorem checkTimeout_consensusBlockNumber (expired : Bool) :
    (s.checkTimeout env expired).consensusBlockNumber = s.consensusBlockNumber := by
  have hb : ∀ t : PBFT, (t.broadcastViewChangeReq env).1.consensusBlockNumber =
      t.consensusBlockNumber := fun t => by
    unfold broadcastViewChangeReq; split_ifs
    · rfl
    · exact consensusBlockNumber_of_viewState (broadcastMsg_viewState env t _)
  unfold checkTimeout; dsimp only
  split_ifs
  · rfl
  · rw [checkAndChangeView_consensusBlockNumber, hb]; rfl
  · rw [hb]; rfl

theorem reportBlock_consensusBlockNumber (b : BlockHeader) :
    (s.reportBlock env b).consensusBlockNumber =
      (Input.report b).nextHeight s.consensusBlockNumber := by
  unfold reportBlock Input.nextHeight; dsimp only [setHighest]
  rw [show ∀ x : PBFT, (x.delCache b.hash).consensusBlockNumber = x.consensusBlockNumber from
    fun _ => rfl, consensusBlockNumber_of_viewState (resetConfig_viewState env _)]
  split_ifs <;> rfl

/-- Only `reportBlock` writes the height. -/
theorem step_consensusBlockNumber (i : Input) :
    (s.step env i).consensusBlockNumber = i.nextHeight s.consensusBlockNumber := by
  cases i with
  | msg frm p alive =>
    exact handleMsg_induction env s frm p alive (P := fun t => t.consensusBlockNumber = _)
      (fun req => consensusBlockNumber_of_viewState (handlePrepareMsg_viewState env s frm req false))
      (fun req => consensusBlockNumber_of_viewState (handleSignMsg_viewState env s req))
      (fun req => consensusBlockNumber_of_viewState (handleCommitMsg_viewState env s req))
      (fun req => handleViewChangeMsg_consensusBlockNumber env s frm req alive) fun _ ht => ht
  | timeout e => exact checkTimeout_consensusBlockNumber env s e
  | futureBlock =>
    unfold step handleFutureBlock; split_ifs
    · exact consensusBlockNumber_of_viewState (handlePrepareMsg_viewState env s _ _ false)
    · rfl
  | collect due =>
    show (s.collectGarbage due).consensusBlockNumber = _
    unfold collectGarbage; split_ifs <;> rfl
  | report b => exact reportBlock_consensusBlockNumber env s b
  | shouldSeal => exact consensusBlockNumber_of_viewState (shouldSeal_viewState env s)
  | generateSeal b data =>
    exact consensusBlockNumber_of_viewState (generateSeal_viewState env s b data)
  | generateCommit b data v =>
    exact consensusBlockNumber_of_viewState (generateCommit_viewState env s b data v)

/-- **Only reported blocks move the height.** After any run of calls, `m_consensus_block_number`
is what `reportBlock`'s rule gives from the reported blocks in turn: no packet from a peer, no
timeout, no garbage collection and no sealing call changes it. -/
theorem run_consensusBlockNumber (r : List (Env × Input)) :
    (s.run r).consensusBlockNumber = r.foldl (fun h e => e.2.nextHeight h) s.consensusBlockNumber := by
  induction r generalizing s with
  | nil => rfl
  | cons e r ih => rw [run_cons, ih, step_consensusBlockNumber]; rfl

/-- A report other than of block `2^256 - 1` never lowers the height. -/
theorem le_nextHeight (i : Input) (h : U256) (hi : i.reportsLast = false) : h ≤ i.nextHeight h := by
  cases i with
  | report b =>
    have hlt := toNat_lt_of_ne_invalid256
      (by simpa [Input.reportsLast] using hi : b.number ≠ invalid256)
    show h ≤ if b.number ≥ h then b.number + 1 else h
    split_ifs
    · bv_omega
    · exact BitVec.le_refl _
  | _ => exact BitVec.le_refl _

variable {s}

theorem le_consensusBlockNumber_of_mem_trace {r : List (Env × Input)}
    (hrep : ∀ e ∈ r, e.2.reportsLast = false) {t : PBFT} (ht : t ∈ s.trace r) :
    s.consensusBlockNumber ≤ t.consensusBlockNumber := by
  induction r generalizing s with
  | nil => rw [List.mem_singleton.mp ht]; exact BitVec.le_refl _
  | cons e r ih =>
    rcases List.mem_cons.mp ht with rfl | ht
    · exact BitVec.le_refl _
    · have h1 := le_nextHeight e.2 s.consensusBlockNumber (hrep e (List.mem_cons_self _ _))
      rw [← step_consensusBlockNumber e.1] at h1
      exact BitVec.le_trans h1 (ih (fun e' he' => hrep e' (List.mem_cons_of_mem _ he')) ht)

/-- **The height never goes down.** Along every run in which no reported block is numbered
`2^256 - 1`, each state's `m_consensus_block_number` is at most that of every later state. -/
theorem consensusBlockNumber_never_decreases (s : PBFT) (r : List (Env × Input))
    (hrep : ∀ e ∈ r, e.2.reportsLast = false) :
    (s.trace r).Pairwise fun a b => a.consensusBlockNumber ≤ b.consensusBlockNumber := by
  induction r generalizing s with
  | nil => exact List.pairwise_singleton _ _
  | cons e r ih =>
    exact List.Pairwise.cons (fun t ht => le_consensusBlockNumber_of_mem_trace hrep
      (List.mem_cons_of_mem _ ht)) (ih _ fun e' he' => hrep e' (List.mem_cons_of_mem _ he'))

/-- Miner `1` of the scenarios, started, told of the tip and moved to view `1`. -/
theorem consensusBlockNumber_never_decreases_scenario :
    (∀ e ∈ (scenarioEnv, Input.report tip9) :: viewOneRun, e.2.reportsLast = false) ∧
      ((initEnv scenarioEnv 101 false none []).trace ((scenarioEnv, .report tip9) :: viewOneRun)).Pairwise
        fun a b => a.consensusBlockNumber ≤ b.consensusBlockNumber :=
  have h : ∀ e ∈ (scenarioEnv, Input.report tip9) :: viewOneRun, e.2.reportsLast = false := by
    decide
  ⟨h, consensusBlockNumber_never_decreases _ _ h⟩

end PBFT
