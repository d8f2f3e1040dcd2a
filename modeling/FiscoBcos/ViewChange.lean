/-
# Every view change is justified

`checkAndChangeView` enters the view `toView` once `m_recv_view_change_req[toView]` holds
`quorum() - 1` requests (the node's own request counts implicitly). Requests get there only
through `handleViewChangeMsg`, which keys them by sender, refuses the node's own index, and
checks both signatures and the height against the tip; every other operation only drops
requests, and a new configuration drops them all. The engine's log records each accepted
request with the key it was checked against and the tip's height (`viewChangeAccepted`), and
each view change with the bucket it counted (`newView`).

* `VCInv`: the cached requests sit in their view's bucket under their sender, none is the
  node's own, each was accepted; every logged view change counted enough such requests;
* one preservation lemma per operation, then per handler, then `vcInv_step`;
* `view_change_justified`: in every reachable state, each view change the log records counted
  at least `quorum() - 1` requests for its view, from distinct senders other than the node,
  each accepted with a verified signature.
-/
import FiscoBcos.Node

namespace PBFT

/-- `e` was accepted by `handleViewChangeMsg`: it is logged with a key both its signatures
verify against and a tip not above its height. -/
def Accepted (evs : List Event) (e : PBFTMsg) : Prop :=
  ∃ pub tip, .viewChangeAccepted e pub tip ∈ evs ∧ verify pub e.sig (.hash e.blockHash) = true ∧
    verify pub e.sig2 e.fieldsWithoutBlock = true ∧ tip ≤ e.height

/-- A bucket of view changes for view `v` as `checkAndChangeView` may count it: keyed by
sender, all for `v`, none from `self`, all accepted. -/
def BucketOk (evs : List Event) (v self : U256) (b : Dict U256 PBFTMsg) : Prop :=
  ∀ i e, b.lookup i = some e → e.idx = i ∧ e.view = v ∧ i ≠ self ∧ Accepted evs e

/-- The view-change invariants. -/
structure VCInv (s : PBFT) : Prop where
  /-- Every cached request sits in its view's bucket under its sender and was accepted. -/
  cached : ∀ w b, s.recvViewChangeReq.lookup w = some b → BucketOk s.events w s.nodeIdx b
  /-- Every view change the node made counted enough such requests. -/
  justified : ∀ v votes q self, .newView v votes q self ∈ s.events →
    count votes ≥ q - 1 ∧ BucketOk s.events v self votes

theorem Accepted.mono {evs : List Event} {e : PBFTMsg} (l : List Event) (h : Accepted evs e) :
    Accepted (evs ++ l) e :=
  let ⟨pub, tip, hm, h1, h2, h3⟩ := h
  ⟨pub, tip, List.mem_append_left _ hm, h1, h2, h3⟩

theorem BucketOk.mono {evs : List Event} {v self : U256} {b : Dict U256 PBFTMsg} (l : List Event)
    (h : BucketOk evs v self b) : BucketOk (evs ++ l) v self b :=
  fun i e he => let ⟨h1, h2, h3, h4⟩ := h i e he; ⟨h1, h2, h3, h4.mono l⟩

theorem BucketOk.empty (evs : List Event) (v self : U256) : BucketOk evs v self ∅ :=
  fun _ _ he => by simp at he

theorem BucketOk.sub {evs : List Event} {v self : U256} {b b' : Dict U256 PBFTMsg}
    (hsub : ∀ i e, b'.lookup i = some e → b.lookup i = some e) (h : BucketOk evs v self b) :
    BucketOk evs v self b' :=
  fun i e he => h i e (hsub i e he)

/-! ## Operations -/

variable {s t : PBFT}

/-- An operation that leaves the cached requests, the index and the log alone keeps the
invariants. -/
theorem VCInv.of_eq (hs : VCInv s) (hr : t.recvViewChangeReq = s.recvViewChangeReq)
    (hn : t.nodeIdx = s.nodeIdx) (he : t.events = s.events) : VCInv t where
  cached := by rw [hr, hn, he]; exact hs.cached
  justified := by rw [he]; exact hs.justified

theorem VCInv.emit (hs : VCInv s) (e : Event) (he : e.isNewView = false) : VCInv (s.emit e) where
  cached w b hb := (hs.cached w b hb).mono [e]
  justified v votes q self hm := by
    rcases List.mem_append.mp hm with hm | hm
    · exact ⟨(hs.justified v votes q self hm).1, (hs.justified v votes q self hm).2.mono [e]⟩
    · obtain rfl := List.mem_singleton.mp hm
      cases he

theorem VCInv.touchViewChange (hs : VCInv s) (v : U256) : VCInv (s.touchViewChange v) where
  cached w b hb := by
    rcases Dict.lookup_touch_eq_some hb with hb | ⟨-, rfl⟩
    · exact hs.cached w b hb
    · exact BucketOk.empty _ _ _
  justified := hs.justified

theorem VCInv.insertViewChange (hs : VCInv s) {req : PBFTMsg} (hidx : req.idx ≠ s.nodeIdx)
    (hacc : Accepted s.events req) : VCInv (s.insertViewChange req) where
  cached w b hb := by
    rcases Dict.lookup_modify_eq_some hb with ⟨rfl, rfl⟩ | hb
    · intro i e he
      by_cases hi : i = req.idx
      · subst hi
        rw [AList.lookup_insert, Option.some.injEq] at he
        subst he
        exact ⟨rfl, rfl, hidx, hacc⟩
      · rw [AList.lookup_insert_ne hi] at he
        obtain ⟨b0, hb0, he⟩ := Dict.lookup_findD_eq_some he
        exact hs.cached _ b0 hb0 i e he
    · exact hs.cached w b hb
  justified := hs.justified

theorem VCInv.purgeViewChanges (hs : VCInv s) (v : U256) : VCInv (s.purgeViewChanges v) where
  cached w b hb := by
    rcases Dict.lookup_modify_eq_some hb with ⟨rfl, rfl⟩ | hb
    · intro i e he
      obtain ⟨he, -⟩ := Dict.lookup_filter_eq_some.mp he
      obtain ⟨b0, hb0, he⟩ := Dict.lookup_findD_eq_some he
      exact hs.cached _ b0 hb0 i e he
    · exact hs.cached w b hb
  justified := hs.justified

theorem VCInv.delViewChange (hs : VCInv s) : VCInv s.delViewChange where
  cached w b hb := by
    obtain ⟨hb, -⟩ := Dict.lookup_filter_eq_some.mp hb
    rw [Dict.lookup_mapVals] at hb
    rcases hb0 : s.recvViewChangeReq.lookup w with _ | b0
    · simp [hb0] at hb
    · simp only [hb0, Option.map_some', Option.some.injEq] at hb
      subst hb
      exact (hs.cached w b0 hb0).sub fun i e he => (Dict.lookup_filter_eq_some.mp he).1
  justified := hs.justified

theorem VCInv.enterView (hs : VCInv s) : VCInv s.enterView where
  cached w b hb := hs.cached w b (Dict.lookup_filter_eq_some.mp hb).1
  justified := hs.justified

theorem VCInv.delCache (hs : VCInv s) (h : H256) : VCInv (s.delCache h) := hs.of_eq rfl rfl rfl

theorem VCInv.adoptConfig (hs : VCInv s) (n idx : U256) : VCInv (s.adoptConfig n idx) where
  cached w b hb := by simp [PBFT.adoptConfig] at hb
  justified := hs.justified

/-! ## Handlers -/

variable (env : Env)

theorem VCInv.broadcastMsg (hs : VCInv s) (p : Packet) : VCInv (s.broadcastMsg env p).1 := by
  rw [broadcastMsg_fst]; split_ifs
  · exact hs.emit (.broadcast p) rfl
  · exact hs

theorem VCInv.checkAndSave (hs : VCInv s) : VCInv s.checkAndSave := by
  have ht : VCInv ((s.touchSign s.prepareCache.blockHash).touchCommit s.prepareCache.blockHash) :=
    hs.of_eq rfl rfl rfl
  unfold PBFT.checkAndSave; dsimp only
  split_ifs
  · exact ht.of_eq rfl rfl rfl
  · apply VCInv.emit
    · exact ht.of_eq rfl rfl rfl
    · rfl
  · exact ht.of_eq rfl rfl rfl
  · exact ht

theorem VCInv.broadcastSignReq (hs : VCInv s) (r : PrepareReq) :
    VCInv (s.broadcastSignReq env r).1 := by
  rw [broadcastSignReq_fst]; split_ifs
  · exact (hs.emit (.broadcast (.sign _)) rfl).of_eq rfl rfl rfl
  · exact hs

theorem VCInv.broadcastCommitReq (hs : VCInv s) (r : PrepareReq) :
    VCInv (s.broadcastCommitReq env r).1 := by
  rw [broadcastCommitReq_fst]; split_ifs
  · exact (hs.emit (.broadcast (.commit _)) rfl).of_eq rfl rfl rfl
  · exact hs

theorem VCInv.backupMsg (hs : VCInv s) (r : PrepareReq) : VCInv (s.backupMsg env r) := by
  unfold PBFT.backupMsg; split_ifs
  · exact hs.of_eq rfl rfl rfl
  · exact hs

theorem VCInv.checkAndCommit (hs : VCInv s) : VCInv (s.checkAndCommit env) := by
  have ht : VCInv (s.touchSign s.prepareCache.blockHash) := hs.of_eq rfl rfl rfl
  unfold PBFT.checkAndCommit; dsimp only
  split_ifs
  · exact ht
  · apply VCInv.checkAndSave; apply VCInv.broadcastCommitReq; apply VCInv.backupMsg
    exact ht.of_eq rfl rfl rfl
  · apply VCInv.checkAndSave; apply VCInv.backupMsg
    exact ht.of_eq rfl rfl rfl
  · exact ht

theorem VCInv.checkAndChangeView (hs : VCInv s) : VCInv s.checkAndChangeView := by
  have ht := hs.touchViewChange s.toView
  unfold PBFT.checkAndChangeView; dsimp only
  split_ifs with hq
  · refine VCInv.enterView ⟨fun w b hb => (ht.cached w b hb).mono _, ?_⟩
    intro v votes q self hm
    rcases List.mem_append.mp hm with hm | hm
    · exact ⟨(ht.justified v votes q self hm).1, (ht.justified v votes q self hm).2.mono _⟩
    · obtain ⟨rfl, rfl, rfl, rfl⟩ := Event.newView.inj (List.mem_singleton.mp hm)
      refine ⟨hq, (ht.cached _ _ ?_).mono _⟩
      simp only [PBFT.touchViewChange, Dict.lookup_touch_self, Dict.findD_touch]
  · exact ht

theorem VCInv.executePrepare (hs : VCInv s) (req : PrepareReq) :
    VCInv (s.executePrepare env req) := by
  unfold PBFT.executePrepare
  split
  · exact hs
  · split_ifs
    · exact hs
    · exact hs.of_eq rfl rfl rfl
    · split
      · exact hs
      · dsimp only
        apply VCInv.checkAndCommit
        split_ifs
        · apply VCInv.broadcastSignReq; exact hs.of_eq rfl rfl rfl
        · exact hs.of_eq rfl rfl rfl

theorem VCInv.handlePrepareMsg (hs : VCInv s) (frm : U256) (req : PrepareReq) (self : Bool) :
    VCInv (s.handlePrepareMsg env frm req self) := by
  unfold PBFT.handlePrepareMsg recvFutureBlock; dsimp only
  exact iteInduction (fun _ => hs) fun _ => iteInduction (fun _ => hs) fun _ =>
    iteInduction (fun _ => hs) fun _ =>
      iteInduction (fun _ => iteInduction (fun _ => hs.of_eq rfl rfl rfl) fun _ => hs) fun _ =>
        iteInduction (fun _ => hs) fun _ => iteInduction (fun _ => hs) fun _ =>
          iteInduction (fun _ => hs) fun _ =>
            .executePrepare env (hs.of_eq rfl rfl rfl : VCInv (s.addRawPrepare req)) req

theorem VCInv.handleSignMsg (hs : VCInv s) (req : PBFTMsg) : VCInv (s.handleSignMsg env req) := by
  have ha : VCInv (s.addSignReq req) := hs.of_eq rfl rfl rfl
  unfold PBFT.handleSignMsg
  exact iteInduction (fun _ => hs) fun _ => iteInduction (fun _ => hs) fun _ =>
    iteInduction (fun _ => iteInduction (fun _ => ha) fun _ => hs) fun _ =>
      iteInduction (fun _ => hs) fun _ => iteInduction (fun _ => hs) fun _ => ha.checkAndCommit env

theorem VCInv.handleCommitMsg (hs : VCInv s) (req : PBFTMsg) :
    VCInv (s.handleCommitMsg env req) := by
  have ha : VCInv (s.addCommitReq req) := hs.of_eq rfl rfl rfl
  unfold PBFT.handleCommitMsg
  exact iteInduction (fun _ => hs) fun _ => iteInduction (fun _ => hs) fun _ =>
    iteInduction (fun _ => iteInduction (fun _ => ha) fun _ => hs) fun _ =>
      iteInduction (fun _ => hs) fun _ => iteInduction (fun _ => hs) fun _ => ha.checkAndSave

/-- The insertion of `handleViewChangeMsg`: a request from another node whose signatures
verify and whose height is not below the tip is logged as accepted and cached. -/
theorem VCInv.accept (hs : VCInv s) {req : PBFTMsg} (hidx : req.idx ≠ s.nodeIdx)
    (hsig : checkSign env req = true) (hlow : s.highestBlock.number ≤ req.height) :
    VCInv ((s.emit (.viewChangeAccepted req ((env.nodeConnManager.getPublicKey req.idx).getD 0)
      s.highestBlock.number)).insertViewChange req) := by
  obtain ⟨pub, hpub, h1, h2⟩ := checkSign_eq_true env hsig
  rw [hpub, Option.getD_some]
  exact (hs.emit (.viewChangeAccepted req pub s.highestBlock.number) rfl).insertViewChange hidx
    ⟨pub, _, List.mem_append_right _ (List.mem_singleton_self _), h1, h2, hlow⟩

theorem VCInv.handleViewChangeMsg (hs : VCInv s) (frm : U256) (req : PBFTMsg) (alive : Bool) :
    VCInv (s.handleViewChangeMsg env frm req alive) := by
  have hm : VCInv (s.motivate env frm req alive) := by
    unfold motivate; split_ifs
    · exact hs.emit (.reply _) rfl
    · exact hs
  have hn : (s.motivate env frm req alive).nodeIdx = s.nodeIdx := by
    unfold motivate; split_ifs <;> rfl
  unfold PBFT.handleViewChangeMsg; dsimp only
  refine iteInduction (fun _ => hs) fun _ => iteInduction (fun _ => hs) fun hidx =>
    iteInduction (fun _ => hm) fun hlow => iteInduction (fun _ => hm) fun _ =>
      iteInduction (fun _ => hm) fun hsig => ?_
  have ha := hm.accept env (by rw [hn]; simpa using hidx) (by simpa using hsig)
    (by
      simp only [Bool.or_eq_true, decide_eq_true_eq, not_or] at hlow
      exact BitVec.not_lt.mp hlow.1)
  refine iteInduction (fun _ => ha.checkAndChangeView) fun _ => ?_
  rcases fastViewChange_cases (_ : PBFT) with h | ⟨tv, h⟩ <;> rw [h]
  · exact ha
  · exact ha.of_eq rfl rfl rfl

theorem VCInv.checkTimeout (hs : VCInv s) (expired : Bool) :
    VCInv (s.checkTimeout env expired) := by
  have hp : VCInv (s.timeoutView.purgeViewChanges s.timeoutView.toView) :=
    VCInv.purgeViewChanges (hs.of_eq rfl rfl rfl : VCInv s.timeoutView) _
  have hb : VCInv ((s.timeoutView.purgeViewChanges s.timeoutView.toView).broadcastViewChangeReq
      env).1 := by
    unfold broadcastViewChangeReq; split_ifs
    · exact hp
    · exact hp.broadcastMsg env _
  unfold PBFT.checkTimeout; dsimp only
  split_ifs
  · exact hs
  · exact hb.checkAndChangeView
  · exact hb

theorem VCInv.handleFutureBlock (hs : VCInv s) : VCInv (s.handleFutureBlock env) := by
  unfold PBFT.handleFutureBlock; split_ifs
  · exact (hs.handlePrepareMsg env _ _ _).of_eq rfl rfl rfl
  · exact hs

theorem VCInv.shouldSeal (hs : VCInv s) : VCInv (s.shouldSeal env).1 := by
  unfold PBFT.shouldSeal reHandlePrepareReq
  exact iteInduction (motive := fun r : PBFT × Bool => VCInv r.1) (fun _ => hs) fun _ =>
    iteInduction (motive := fun r : PBFT × Bool => VCInv r.1) (fun _ => hs) fun _ =>
    iteInduction (motive := fun r : PBFT × Bool => VCInv r.1) (fun _ => hs) fun _ =>
    iteInduction (motive := fun r : PBFT × Bool => VCInv r.1)
      (fun _ => iteInduction (motive := VCInv)
        (fun _ => (hs.broadcastMsg env _).handlePrepareMsg env _ _ _) fun _ => hs) fun _ => hs

theorem VCInv.generateSeal (hs : VCInv s) (b : BlockHeader) (data : Bytes) :
    VCInv (s.generateSeal env b data).1 := by
  unfold PBFT.generateSeal; dsimp only; rw [broadcastPrepareReq_fst]; dsimp only
  split_ifs
  · exact (hs.emit (.broadcast (.prepare _)) rfl).of_eq rfl rfl rfl
  · exact hs

theorem VCInv.generateCommit (hs : VCInv s) (b : BlockHeader) (data : Bytes) (v : U256) :
    VCInv (s.generateCommit env b data v).1 := by
  unfold PBFT.generateCommit
  exact iteInduction (motive := fun r : PBFT × Bool => VCInv r.1) (fun _ => hs) fun _ =>
    iteInduction (motive := VCInv)
      (fun _ => ((hs.of_eq rfl rfl rfl : VCInv (s.addPrepareReq _)).broadcastSignReq env _
        ).checkAndCommit env)
      fun _ => (hs.of_eq rfl rfl rfl : VCInv (s.addPrepareReq _)).broadcastSignReq env _

theorem VCInv.collectGarbage (hs : VCInv s) (due : Bool) : VCInv (s.collectGarbage due) := by
  unfold PBFT.collectGarbage; split_ifs
  · exact hs
  · exact hs.of_eq rfl rfl rfl

theorem VCInv.resetConfig (hs : VCInv s) : VCInv (s.resetConfig env) := by
  rcases resetConfig_cases env s with h | ⟨t, b, h⟩ | ⟨t, n, idx, l, b, h⟩ <;> rw [h]
  · exact hs.of_eq rfl rfl rfl
  · exact hs.of_eq rfl rfl rfl
  · exact ((hs.of_eq rfl rfl rfl : VCInv (s.setAccountType t)).adoptConfig n idx).of_eq rfl rfl rfl

theorem VCInv.reportBlock (hs : VCInv s) (b : BlockHeader) : VCInv (s.reportBlock env b) := by
  unfold PBFT.reportBlock; dsimp only
  apply VCInv.delCache
  apply VCInv.resetConfig
  split_ifs
  · exact (hs.of_eq rfl rfl rfl :
      VCInv ((s.setHighest b).startHeight (b.number + 1))).delViewChange
  · exact hs.of_eq rfl rfl rfl

theorem VCInv.step (hs : VCInv s) (i : Input) : VCInv (s.step env i) := by
  cases i with
  | msg frm p alive =>
    exact handleMsg_induction env s frm p alive (fun req => hs.handlePrepareMsg env frm req false)
      (hs.handleSignMsg env) (hs.handleCommitMsg env)
      (fun req => hs.handleViewChangeMsg env frm req alive) fun _ ht => ht.emit (.relay p) rfl
  | timeout e => exact hs.checkTimeout env e
  | futureBlock => exact hs.handleFutureBlock env
  | collect due => exact hs.collectGarbage due
  | report b => exact hs.reportBlock env b
  | shouldSeal => exact hs.shouldSeal env
  | generateSeal b data => exact hs.generateSeal env b data
  | generateCommit b data v => exact hs.generateCommit env b data v

theorem vcInv_initEnv (key : Key) (omitEmpty : Bool) (backup : Option PrepareReq) :
    VCInv (initEnv env key omitEmpty backup []) := by
  have h0 : VCInv (blank key omitEmpty backup []) :=
    ⟨fun w b hb => by simp [blank] at hb, fun v votes q self hm => by simp [blank] at hm⟩
  unfold initEnv reloadMsg; dsimp only
  split <;> exact (h0.resetConfig env).of_eq rfl rfl rfl

end PBFT

/-- **Every view change is justified.** In every reachable state, each time
`checkAndChangeView` entered a view `v`, the bucket it counted held at least `quorum() - 1`
requests, from pairwise distinct senders, all for view `v`, none from the node's own index at
that time, and each accepted by `handleViewChangeMsg`: logged with a key both its signatures
verify against and a tip not above its height. -/
theorem view_change_justified {s : PBFT} (hs : Reachable s) (v : U256)
    (votes : Dict U256 PBFTMsg) (q idx : U256) (hv : .newView v votes q idx ∈ s.events) :
    PBFT.count votes ≥ q - 1 ∧ (votes.vals.map (·.idx)).Nodup ∧
      ∀ e ∈ votes.vals, e.view = v ∧ e.idx ≠ idx ∧ PBFT.Accepted s.events e := by
  have hinv : s.VCInv := Reachable.induction PBFT.vcInv_initEnv (fun _ env i h => h.step env i) hs
  obtain ⟨hq, hok⟩ := hinv.justified v votes q idx hv
  have hkeys : votes.vals.map (·.idx) = votes.keys := by
    simp only [Dict.vals, AList.keys, List.keys, List.map_map]
    refine List.map_congr_left fun e he => (hok e.1 e.2 (AList.mem_lookup_iff.mpr he)).1
  refine ⟨hq, hkeys ▸ votes.keys_nodup, fun e he => ?_⟩
  obtain ⟨i, hi⟩ := Dict.mem_vals.mp he
  obtain ⟨rfl, h1, h2, h3⟩ := hok i e hi
  exact ⟨h1, h2, h3⟩

/-- Miner `1` of the scenarios enters view `1` on the requests of miners `2` and `3`. -/
theorem view_change_justified_scenario :
    ((scenarioNode 1).run viewOneRun).events.any Event.isNewView = true ∧
    ∀ v votes q idx, .newView v votes q idx ∈ ((scenarioNode 1).run viewOneRun).events →
      PBFT.count votes ≥ q - 1 ∧ (votes.vals.map (·.idx)).Nodup ∧
      ∀ e ∈ votes.vals, e.view = v ∧ e.idx ≠ idx ∧
        PBFT.Accepted ((scenarioNode 1).run viewOneRun).events e :=
  ⟨by decide, view_change_justified ((scenarioNode_reachable 1).run _)⟩
