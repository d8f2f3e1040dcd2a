/-
# Votes are counted only in the view they were cast in

The sign and commit caches hold votes for any block hash, including votes cached early for a
proposal not yet received (`future_msg`) and votes left over from earlier views. Only the bucket
of the executed proposal's hash is ever counted (`checkAndCommit`, `checkAndSave`) or copied
into a sealed block's signature list, and this file shows that this bucket only holds votes of
the proposal's own view:

* `VotesInView` is the invariant; `Fits` is the side condition under which a vote may join;
* one preservation lemma per cache operation, then per handler, then `votesInView_step`;
* `votes_in_prepare_view`: the invariant in every reachable state.

The purge loops of `addPrepareReq` establish it when a proposal is adopted; the view tests of
`handleSignMsg`/`handleCommitMsg` and the hash test of their `future_msg` branch keep it.
-/
import FiscoBcos.Node

namespace PBFT

/-- Every vote cached for `h` in `c` was cast in view `v`. -/
def AllInView (c : VoteCache) (h : H256) (v : U256) : Prop :=
  ∀ b, c.lookup h = some b → ∀ k e, b.lookup k = some e → e.view = v

theorem allInView_empty (h : H256) (v : U256) : AllInView ∅ h v := by
  intro b hb; simp at hb

theorem allInView_erase {c : VoteCache} {h : H256} {v : U256} (k : H256) (hc : AllInView c h v) :
    AllInView (c.erase k) h v := by
  intro b hb
  by_cases hk : h = k
  · subst hk; simp [AList.lookup_erase] at hb
  · rw [AList.lookup_erase_ne hk] at hb; exact hc b hb

theorem allInView_touch {c : VoteCache} {h : H256} {v : U256} (k : H256) (hc : AllInView c h v) :
    AllInView (c.touch k) h v := by
  unfold Dict.touch
  split_ifs with hk
  · exact hc
  · intro b hb
    by_cases hh : h = k
    · subst hh; simp only [AList.lookup_insert, Option.some.injEq] at hb; subst hb; simp
    · rw [AList.lookup_insert_ne hh] at hb; exact hc b hb

theorem allInView_insertVote {c : VoteCache} {h : H256} {v : U256} (req : PBFTMsg)
    (hc : AllInView c h v) (hreq : req.blockHash = h → req.view = v) :
    AllInView (insertVote c req) h v := by
  intro b hb k e he
  by_cases hh : h = req.blockHash
  · subst hh
    simp only [insertVote, Dict.lookup_modify_self, Option.some.injEq] at hb
    subst hb
    by_cases hk : k = req.sig
    · subst hk; simp only [AList.lookup_insert, Option.some.injEq] at he; exact he ▸ hreq rfl
    · rw [AList.lookup_insert_ne hk] at he
      unfold Dict.findD at he
      rcases hf : c.lookup req.blockHash with _ | b0
      · simp [hf] at he
      · rw [hf, Option.getD_some] at he; exact hc b0 hf k e he
  · rw [insertVote, Dict.lookup_modify_ne _ _ hh] at hb; exact hc b hb k e he

theorem allInView_purgeOtherViews (c : VoteCache) (h : H256) (v : U256) :
    AllInView (purgeOtherViews c h v) h v := by
  intro b hb k e he
  unfold purgeOtherViews at hb
  rcases hf : c.lookup h with _ | b0
  · simp [hf] at hb
  · simp only [hf, AList.lookup_insert, Option.some.injEq] at hb
    subst hb
    simpa using (Dict.lookup_filter_eq_some.mp he).2

theorem allInView_keepCurrent {c : VoteCache} {h : H256} {v tip : U256} (hc : AllInView c h v) :
    AllInView ((c.mapVals fun _ b => keepCurrent tip b).filter fun _ b => b.size != 0) h v := by
  intro b hb k e he
  obtain ⟨hb, -⟩ := Dict.lookup_filter_eq_some.mp hb
  rw [Dict.lookup_mapVals] at hb
  rcases hf : c.lookup h with _ | b0
  · simp [hf] at hb
  · simp only [hf, Option.map_some', Option.some.injEq] at hb
    subst hb
    exact hc b0 hf k e (Dict.lookup_filter_eq_some.mp he).1

/-- The votes held for the executed proposal's hash were all cast in its view. -/
def VotesInView (s : PBFT) : Prop :=
  s.prepareCache ≠ {} →
    AllInView s.signCache s.prepareCache.blockHash s.prepareCache.view ∧
    AllInView s.commitCache s.prepareCache.blockHash s.prepareCache.view

/-- A vote may join a cache unless it is for the executed proposal's hash in another view. -/
def Fits (s : PBFT) (req : PBFTMsg) : Prop :=
  s.prepareCache ≠ {} → req.blockHash = s.prepareCache.blockHash → req.view = s.prepareCache.view

variable {s : PBFT} (env : Env)

theorem votesInView_of_empty {s' : PBFT} (h : s'.prepareCache = {}) : VotesInView s' :=
  fun hne => absurd h hne

theorem votesInView_addRawPrepare (req : PrepareReq) : VotesInView (s.addRawPrepare req) :=
  votesInView_of_empty rfl

theorem votesInView_addPrepareReq (req : PrepareReq) : VotesInView (s.addPrepareReq req) :=
  fun _ => ⟨allInView_purgeOtherViews _ _ _, allInView_purgeOtherViews _ _ _⟩

theorem votesInView_addSignReq {req : PBFTMsg} (hs : VotesInView s) (hr : Fits s req) :
    VotesInView (s.addSignReq req) :=
  fun hne => ⟨allInView_insertVote req (hs hne).1 (hr hne), (hs hne).2⟩

theorem votesInView_addCommitReq {req : PBFTMsg} (hs : VotesInView s) (hr : Fits s req) :
    VotesInView (s.addCommitReq req) :=
  fun hne => ⟨(hs hne).1, allInView_insertVote req (hs hne).2 (hr hne)⟩

theorem votesInView_touchSign (h : H256) (hs : VotesInView s) : VotesInView (s.touchSign h) :=
  fun hne => ⟨allInView_touch h (hs hne).1, (hs hne).2⟩

theorem votesInView_touchCommit (h : H256) (hs : VotesInView s) : VotesInView (s.touchCommit h) :=
  fun hne => ⟨(hs hne).1, allInView_touch h (hs hne).2⟩

theorem votesInView_emit {e : Event} (hs : VotesInView s) : VotesInView (s.emit e) := hs

theorem votesInView_insertViewChange {req : PBFTMsg} (hs : VotesInView s) :
    VotesInView (s.insertViewChange req) := hs

theorem votesInView_delCache (h : H256) (hs : VotesInView s) : VotesInView (s.delCache h) := by
  unfold delCache
  split_ifs with hh
  · exact votesInView_of_empty rfl
  · exact fun hne => ⟨allInView_erase h (hs hne).1, allInView_erase h (hs hne).2⟩

theorem votesInView_collectGarbage (due : Bool) (hs : VotesInView s) :
    VotesInView (s.collectGarbage due) := by
  unfold collectGarbage
  split_ifs
  · exact hs
  · exact fun hne => ⟨allInView_keepCurrent (hs hne).1, allInView_keepCurrent (hs hne).2⟩

theorem votesInView_backupMsg (req : PrepareReq) (hs : VotesInView s) :
    VotesInView (s.backupMsg env req) := by
  unfold backupMsg; split_ifs <;> exact hs

theorem votesInView_broadcastMsg (p : Packet) (hs : VotesInView s) :
    VotesInView (s.broadcastMsg env p).1 := by
  unfold broadcastMsg; split_ifs <;> exact hs

theorem votesInView_broadcastSignReq {r : PrepareReq} (hs : VotesInView s)
    (hr : Fits s r.toPBFTMsg) : VotesInView (s.broadcastSignReq env r).1 := by
  rw [broadcastSignReq_fst]; dsimp only
  split_ifs
  · exact votesInView_addSignReq hs hr
  · exact hs

theorem votesInView_broadcastCommitReq {r : PrepareReq} (hs : VotesInView s)
    (hr : Fits s r.toPBFTMsg) : VotesInView (s.broadcastCommitReq env r).1 := by
  rw [broadcastCommitReq_fst]; dsimp only
  split_ifs
  · exact votesInView_addCommitReq hs hr
  · exact hs

theorem votesInView_checkAndSave (hs : VotesInView s) : VotesInView s.checkAndSave := by
  have ht := votesInView_touchCommit s.prepareCache.blockHash
    (votesInView_touchSign s.prepareCache.blockHash hs)
  have hm : VotesInView (((s.touchSign s.prepareCache.blockHash).touchCommit
    s.prepareCache.blockHash).markCommitted s.prepareCache.blockHash) := ht
  unfold checkAndSave
  exact iteInduction (fun _ => iteInduction (fun _ => hm) fun _ =>
    iteInduction (fun _ => votesInView_emit hm) fun _ => hm) fun _ => ht

theorem votesInView_checkAndCommit (hs : VotesInView s) : VotesInView (s.checkAndCommit env) := by
  have ht := votesInView_touchSign s.prepareCache.blockHash hs
  unfold checkAndCommit; dsimp only
  split_ifs
  · exact ht
  · exact votesInView_checkAndSave (votesInView_broadcastCommitReq env
      (votesInView_backupMsg env _ ht) fun _ _ => rfl)
  · exact votesInView_checkAndSave (votesInView_backupMsg env _ ht)
  · exact ht

theorem votesInView_checkAndChangeView (hs : VotesInView s) :
    VotesInView s.checkAndChangeView := by
  unfold checkAndChangeView; dsimp only
  split_ifs
  · exact fun _ => ⟨allInView_empty _ _, allInView_empty _ _⟩
  · exact hs

theorem votesInView_resetConfig (hs : VotesInView s) : VotesInView (s.resetConfig env) := by
  rcases resetConfig_cases env s with h | ⟨t, b, h⟩ | ⟨t, n, idx, l, b, h⟩ <;> rw [h]
  · exact hs
  · exact hs
  · exact votesInView_of_empty rfl

theorem votesInView_reportBlock (b : BlockHeader) (hs : VotesInView s) :
    VotesInView (s.reportBlock env b) := by
  unfold reportBlock; dsimp only
  refine votesInView_delCache _ (votesInView_resetConfig env ?_)
  split_ifs <;> exact hs

theorem votesInView_executePrepare (req : PrepareReq) (hs : VotesInView s) :
    VotesInView (s.executePrepare env req) := by
  unfold executePrepare
  split
  · exact hs
  · split_ifs
    · exact hs
    · exact hs
    · split
      · exact hs
      · dsimp only
        apply votesInView_checkAndCommit
        split_ifs
        · exact votesInView_broadcastSignReq env (votesInView_addPrepareReq _) fun _ _ => rfl
        · exact votesInView_addPrepareReq _

theorem votesInView_handlePrepareMsg (frm : U256) (req : PrepareReq) (self : Bool)
    (hs : VotesInView s) : VotesInView (s.handlePrepareMsg env frm req self) := by
  unfold handlePrepareMsg recvFutureBlock; dsimp only
  refine iteInduction (fun _ => hs) fun _ => iteInduction (fun _ => hs) fun _ =>
    iteInduction (fun _ => hs) fun _ => iteInduction (fun _ => iteInduction (fun _ => hs)
      fun _ => hs) fun _ => ?_
  exact iteInduction (fun _ => hs) fun _ => iteInduction (fun _ => hs) fun _ =>
    iteInduction (fun _ => hs) fun _ =>
      votesInView_executePrepare env req (votesInView_addRawPrepare req)

theorem votesInView_handleSignMsg (req : PBFTMsg) (hs : VotesInView s) :
    VotesInView (s.handleSignMsg env req) := by
  unfold handleSignMsg
  exact iteInduction (fun _ => hs) fun _ => iteInduction (fun _ => hs) fun _ =>
    iteInduction (fun hh => iteInduction (fun _ => votesInView_addSignReq hs fun _ h =>
      absurd h.symm (bne_iff_ne.mp hh)) fun _ => hs) fun _ =>
    iteInduction (fun _ => hs) fun hv => iteInduction (fun _ => hs) fun _ =>
      votesInView_checkAndCommit env (votesInView_addSignReq hs fun _ _ =>
        (by simpa using hv : s.prepareCache.view = req.view).symm)

theorem votesInView_handleCommitMsg (req : PBFTMsg) (hs : VotesInView s) :
    VotesInView (s.handleCommitMsg env req) := by
  unfold handleCommitMsg
  exact iteInduction (fun _ => hs) fun _ => iteInduction (fun _ => hs) fun _ =>
    iteInduction (fun hh => iteInduction (fun _ => votesInView_addCommitReq hs fun _ h =>
      absurd h.symm (bne_iff_ne.mp hh)) fun _ => hs) fun _ =>
    iteInduction (fun _ => hs) fun hv => iteInduction (fun _ => hs) fun _ =>
      votesInView_checkAndSave (votesInView_addCommitReq hs fun _ _ =>
        (by simpa using hv : s.prepareCache.view = req.view).symm)

theorem votesInView_fastViewChange (hs : VotesInView s) : VotesInView s.fastViewChange := by
  rcases fastViewChange_cases s with h | ⟨tv, h⟩ <;> rw [h]
  · exact hs
  · exact hs

theorem votesInView_handleViewChangeMsg (frm : U256) (req : PBFTMsg) (alive : Bool)
    (hs : VotesInView s) : VotesInView (s.handleViewChangeMsg env frm req alive) := by
  have hm : VotesInView (s.motivate env frm req alive) := by
    unfold motivate; split_ifs <;> exact hs
  unfold handleViewChangeMsg; dsimp only
  exact iteInduction (fun _ => hs) fun _ => iteInduction (fun _ => hs) fun _ =>
    iteInduction (fun _ => hm) fun _ => iteInduction (fun _ => hm) fun _ =>
      iteInduction (fun _ => hm) fun _ =>
        iteInduction (fun _ => votesInView_checkAndChangeView (votesInView_insertViewChange
          (votesInView_emit hm))) fun _ =>
            votesInView_fastViewChange (votesInView_insertViewChange (votesInView_emit hm))

theorem votesInView_checkTimeout (expired : Bool) (hs : VotesInView s) :
    VotesInView (s.checkTimeout env expired) := by
  have hp : VotesInView (s.timeoutView.purgeViewChanges s.timeoutView.toView) := hs
  have hb : VotesInView
      ((s.timeoutView.purgeViewChanges s.timeoutView.toView).broadcastViewChangeReq env).1 := by
    unfold broadcastViewChangeReq
    exact iteInduction (motive := fun r : PBFT × Bool => VotesInView r.1) (fun _ => hp) fun _ =>
      votesInView_broadcastMsg env _ hp
  unfold checkTimeout
  exact iteInduction (fun _ => hs) fun _ =>
    iteInduction (fun _ => votesInView_checkAndChangeView hb) fun _ => hb

theorem votesInView_handleFutureBlock (hs : VotesInView s) :
    VotesInView (s.handleFutureBlock env) := by
  unfold handleFutureBlock
  split_ifs
  · exact votesInView_handlePrepareMsg env _ _ _ hs
  · exact hs

theorem votesInView_shouldSeal (hs : VotesInView s) : VotesInView (s.shouldSeal env).1 := by
  unfold shouldSeal reHandlePrepareReq
  exact iteInduction (motive := fun r : PBFT × Bool => VotesInView r.1) (fun _ => hs) fun _ =>
    iteInduction (motive := fun r : PBFT × Bool => VotesInView r.1) (fun _ => hs) fun _ =>
    iteInduction (motive := fun r : PBFT × Bool => VotesInView r.1) (fun _ => hs) fun _ =>
    iteInduction (motive := fun r : PBFT × Bool => VotesInView r.1)
      (fun _ => iteInduction (motive := VotesInView) (fun _ =>
        votesInView_handlePrepareMsg env _ _ _ (votesInView_broadcastMsg env _ hs)) fun _ => hs)
      fun _ => hs

theorem votesInView_generateSeal (b : BlockHeader) (data : Bytes) (hs : VotesInView s) :
    VotesInView (s.generateSeal env b data).1 := by
  unfold generateSeal; dsimp only; rw [broadcastPrepareReq_fst]; dsimp only
  split_ifs
  · exact votesInView_addRawPrepare _
  · exact hs

theorem votesInView_generateCommit (b : BlockHeader) (data : Bytes) (v : U256)
    (hs : VotesInView s) : VotesInView (s.generateCommit env b data v).1 := by
  unfold generateCommit
  exact iteInduction (motive := fun r : PBFT × Bool => VotesInView r.1) (fun _ => hs) fun _ =>
    iteInduction (motive := VotesInView)
      (fun _ => votesInView_checkAndCommit env
        (votesInView_broadcastSignReq env (votesInView_addPrepareReq _) fun _ _ => rfl))
      fun _ => votesInView_broadcastSignReq env (votesInView_addPrepareReq _) fun _ _ => rfl

theorem votesInView_step (i : Input) (hs : VotesInView s) : VotesInView (s.step env i) := by
  cases i with
  | msg frm p alive =>
    exact handleMsg_induction env s frm p alive
      (fun req => votesInView_handlePrepareMsg env frm req false hs)
      (fun req => votesInView_handleSignMsg env req hs)
      (fun req => votesInView_handleCommitMsg env req hs)
      (fun req => votesInView_handleViewChangeMsg env frm req alive hs) fun _ => votesInView_emit
  | timeout e => exact votesInView_checkTimeout env e hs
  | futureBlock => exact votesInView_handleFutureBlock env hs
  | collect due => exact votesInView_collectGarbage due hs
  | report b => exact votesInView_reportBlock env b hs
  | shouldSeal => exact votesInView_shouldSeal env hs
  | generateSeal b data => exact votesInView_generateSeal env b data hs
  | generateCommit b data v => exact votesInView_generateCommit env b data v hs

theorem votesInView_initEnv (key : Key) (omitEmpty : Bool) (backup : Option PrepareReq) :
    VotesInView (initEnv env key omitEmpty backup []) := by
  unfold initEnv reloadMsg; dsimp only
  have h0 : VotesInView (blank key omitEmpty backup []) := votesInView_of_empty rfl
  have h := votesInView_resetConfig env h0
  split <;> exact h

end PBFT

/-- **Votes are counted only in their own view.** In every reachable state in which a proposal
is held executed, every sign vote and every commit vote cached for its hash was cast in its
view. -/
theorem votes_in_prepare_view {s : PBFT} (hs : Reachable s) (hne : s.prepareCache ≠ {}) :
    (∀ e ∈ (s.signCache.findD s.prepareCache.blockHash).vals, e.view = s.prepareCache.view) ∧
    (∀ e ∈ (s.commitCache.findD s.prepareCache.blockHash).vals, e.view = s.prepareCache.view) := by
  have hv : s.VotesInView := Reachable.induction PBFT.votesInView_initEnv
    (fun _ env i h => PBFT.votesInView_step env i h) hs
  replace hv := hv hne
  constructor <;> intro e he <;> obtain ⟨k, hk⟩ := Dict.mem_vals.mp he <;> unfold Dict.findD at hk
  · rcases hb : s.signCache.lookup s.prepareCache.blockHash with _ | b
    · simp [hb] at hk
    · rw [hb, Option.getD_some] at hk; exact hv.1 b hb k e hk
  · rcases hb : s.commitCache.lookup s.prepareCache.blockHash with _ | b
    · simp [hb] at hk
    · rw [hb, Option.getD_some] at hk; exact hv.2 b hb k e hk

/-- The scenario's miner `0` after it executed miner `1`'s proposal for height `10`. -/
theorem votes_in_prepare_view_scenario :
    let s := (scenarioNode 0).step scenarioEnv (.msg 1 (.prepare (proposal 1 0 50 60)) true)
    s.prepareCache ≠ {} ∧
    (∀ e ∈ (s.signCache.findD s.prepareCache.blockHash).vals, e.view = s.prepareCache.view) ∧
    (∀ e ∈ (s.commitCache.findD s.prepareCache.blockHash).vals, e.view = s.prepareCache.view) :=
  ⟨by decide, votes_in_prepare_view (.step _ _ (scenarioNode_reachable 0)) (by decide)⟩
