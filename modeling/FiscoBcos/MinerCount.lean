/-
# The configured miner count

`resetConfig` adopts the roster's miner count `N` as `m_node_num` and sets `m_f = (N - 1) / 3`.
Three places read the pair: `quorum() = N - f` is what `checkAndSave` waits for and what
`checkAndChangeView` lowers by one (the node's own vote), an importing node asks `checkBlockSign`
for `|M| - (|M| - 1) / 3` signatures, and `getLeader` takes the view plus the tip modulo
`m_node_num` whenever `m_cfg_err` is clear. `resetConfig` sets and clears `m_cfg_err` on several
paths, one of which adopts the new count before it fails.

* `quorum_intersection`: for every count `N ≥ 1`, two sets of `quorum()` indices below `N` share
  `f + 1`, `quorum() - 1` does not wrap, and the signature threshold of `checkBlockSign` is
  `quorum()`;
* `CfgInv`: a clear error flag only with a count, and `m_f` computed from the count; every call
  other than `resetConfig` leaves both untouched (the `_cfgState` lemmas), and `resetConfig`
  establishes the invariant from any state;
* `getLeader_divisor_ne_zero`: in every state of every run in which each roster's count fits the
  `u256` it is stored in, `getLeader` never takes a remainder modulo zero.

Naming discipline: `n` is the count as the engine stores it, `N` its value.
-/
import Mathlib.Data.Finset.Card
import FiscoBcos.Reconfig
import FiscoBcos.BlockSign

/-- `N - (N - 1) / 3` in `u256` arithmetic, for a count `N ≥ 1`, does not wrap. -/
theorem toNat_sub_pred_div_three {n : U256} (hn : n ≠ 0) :
    (n - (n - 1) / 3).toNat = n.toNat - (n.toNat - 1) / 3 := by
  have h := toNat_ofNat_sub_pred_div_three (by decide) (by bv_omega) n.isLt
  rwa [BitVec.ofNat_toNat, BitVec.setWidth_eq] at h

namespace PBFT

/-! ## Quorum arithmetic -/

section Quorum

variable (s : PBFT)

theorem adoptConfig_f_toNat {n : U256} (idx : U256) (hn : n ≠ 0) :
    (s.adoptConfig n idx).f.toNat = (n.toNat - 1) / 3 := by
  show ((n - 1) / 3).toNat = _
  rw [BitVec.toNat_udiv, BitVec.toNat_sub_of_le (by bv_omega)]
  rfl

theorem adoptConfig_quorum_toNat {n : U256} (idx : U256) (hn : n ≠ 0) :
    (s.adoptConfig n idx).quorum.toNat = n.toNat - (n.toNat - 1) / 3 :=
  toNat_sub_pred_div_three hn

/-- **Quorum arithmetic for every miner count.** After `resetConfig` adopts a count `N ≥ 1`,
with `f = (N - 1) / 3` and `q = quorum()`: `2q ≥ N + f + 1`, so any two sets of at least `q` of
the indices `0..N-1` share at least `f + 1`; `q ≥ 1`, so `quorum() - 1` in
`checkAndChangeView` does not wrap; and the threshold `|M| - (|M| - 1) / 3` of `checkBlockSign`
is `q` for a miner list of `N` keys (fewer than `2^64`, the range of its `size_t`). -/
theorem quorum_intersection (n idx : U256) (hn : n ≠ 0) :
    (n.toNat + (s.adoptConfig n idx).f.toNat + 1 ≤ 2 * (s.adoptConfig n idx).quorum.toNat ∧
      ∀ A B : Finset ℕ, A ⊆ Finset.range n.toNat → B ⊆ Finset.range n.toNat →
        (s.adoptConfig n idx).quorum.toNat ≤ A.card →
        (s.adoptConfig n idx).quorum.toNat ≤ B.card →
        (s.adoptConfig n idx).f.toNat + 1 ≤ (A ∩ B).card) ∧
    (1 ≤ (s.adoptConfig n idx).quorum ∧
      ((s.adoptConfig n idx).quorum - 1).toNat = (s.adoptConfig n idx).quorum.toNat - 1) ∧
    ∀ M : List Key, M.length = n.toNat → M.length < 2 ^ 64 →
      (minSigns M.length).toNat = (s.adoptConfig n idx).quorum.toNat := by
  have hq := s.adoptConfig_quorum_toNat idx hn
  have hf := s.adoptConfig_f_toNat idx hn
  have h0 : 0 < n.toNat := by bv_omega
  refine ⟨⟨by omega, fun A B hA hB hqA hqB => ?_⟩, ⟨by bv_omega, by bv_omega⟩, fun M hM h64 => ?_⟩
  · have hunion : (A ∪ B).card ≤ n.toNat :=
      (Finset.card_le_card (Finset.union_subset hA hB)).trans (Finset.card_range _).le
    have := Finset.card_union_add_card_inter A B
    omega
  · rw [minSigns_toNat (hM ▸ h0) h64, hq, hM]

end Quorum

/-- Four miners: `f = 1`, `quorum() = 3`. -/
theorem quorum_intersection_four :
    (4 : U256) ≠ 0 ∧
    ((4 : U256).toNat + ((scenarioNode 0).adoptConfig 4 0).f.toNat + 1 ≤
        2 * ((scenarioNode 0).adoptConfig 4 0).quorum.toNat ∧
      ∀ A B : Finset ℕ, A ⊆ Finset.range (4 : U256).toNat → B ⊆ Finset.range (4 : U256).toNat →
        ((scenarioNode 0).adoptConfig 4 0).quorum.toNat ≤ A.card →
        ((scenarioNode 0).adoptConfig 4 0).quorum.toNat ≤ B.card →
        ((scenarioNode 0).adoptConfig 4 0).f.toNat + 1 ≤ (A ∩ B).card) ∧
    (1 ≤ ((scenarioNode 0).adoptConfig 4 0).quorum ∧
      (((scenarioNode 0).adoptConfig 4 0).quorum - 1).toNat =
        ((scenarioNode 0).adoptConfig 4 0).quorum.toNat - 1) ∧
    ∀ M : List Key, M.length = (4 : U256).toNat → M.length < 2 ^ 64 →
      (minSigns M.length).toNat = ((scenarioNode 0).adoptConfig 4 0).quorum.toNat :=
  ⟨by decide, quorum_intersection (scenarioNode 0) 4 0 (by decide)⟩

/-! ## Calls that leave the configuration alone -/

section Frame

variable (env : Env) (s : PBFT)

/-- The error flag, the miner count and `m_f`. -/
def cfgState : Bool × U256 × U256 := (s.cfgErr, s.nodeNum, s.f)

@[simp] theorem emit_cfgState (e : Event) : (s.emit e).cfgState = s.cfgState := rfl

@[simp] theorem touchSign_cfgState (h : H256) : (s.touchSign h).cfgState = s.cfgState := rfl

@[simp] theorem touchCommit_cfgState (h : H256) : (s.touchCommit h).cfgState = s.cfgState := rfl

@[simp] theorem markCommitted_cfgState (h : H256) : (s.markCommitted h).cfgState = s.cfgState :=
  rfl

@[simp] theorem touchViewChange_cfgState (v : U256) :
    (s.touchViewChange v).cfgState = s.cfgState := rfl

@[simp] theorem enterView_cfgState : s.enterView.cfgState = s.cfgState := rfl

@[simp] theorem insertViewChange_cfgState (req : PBFTMsg) :
    (s.insertViewChange req).cfgState = s.cfgState := rfl

@[simp] theorem setHighest_cfgState (b : BlockHeader) : (s.setHighest b).cfgState = s.cfgState :=
  rfl

@[simp] theorem startHeight_cfgState (n : U256) : (s.startHeight n).cfgState = s.cfgState := rfl

@[simp] theorem delViewChange_cfgState : s.delViewChange.cfgState = s.cfgState := rfl

@[simp] theorem delCache_cfgState (h : H256) : (s.delCache h).cfgState = s.cfgState := rfl

theorem reloadMsg_cfgState : s.reloadMsg.cfgState = s.cfgState := by
  unfold reloadMsg; split <;> rfl

/-- A choice between two states that both keep the configuration keeps it. -/
theorem ite_cfgState {c : Prop} [Decidable c] {a b : PBFT} (ha : a.cfgState = s.cfgState)
    (hb : b.cfgState = s.cfgState) : (if c then a else b).cfgState = s.cfgState :=
  iteInduction (motive := fun t : PBFT => t.cfgState = s.cfgState) (fun _ => ha) fun _ => hb

theorem broadcastMsg_cfgState (p : Packet) : (s.broadcastMsg env p).1.cfgState = s.cfgState := by
  rw [broadcastMsg_fst]; exact ite_cfgState s rfl rfl

theorem broadcastSignReq_cfgState (r : PrepareReq) :
    (s.broadcastSignReq env r).1.cfgState = s.cfgState := by
  rw [broadcastSignReq_fst]; exact ite_cfgState s rfl rfl

theorem broadcastCommitReq_cfgState (r : PrepareReq) :
    (s.broadcastCommitReq env r).1.cfgState = s.cfgState := by
  rw [broadcastCommitReq_fst]; exact ite_cfgState s rfl rfl

theorem broadcastViewChangeReq_cfgState :
    (s.broadcastViewChangeReq env).1.cfgState = s.cfgState := by
  unfold broadcastViewChangeReq
  exact iteInduction (motive := fun r : PBFT × Bool => r.1.cfgState = s.cfgState) (fun _ => rfl)
    fun _ => broadcastMsg_cfgState env s _

theorem backupMsg_cfgState (r : PrepareReq) : (s.backupMsg env r).cfgState = s.cfgState :=
  ite_cfgState s rfl rfl

theorem checkAndSave_cfgState : s.checkAndSave.cfgState = s.cfgState := by
  unfold checkAndSave; dsimp only
  split_ifs <;> simp only [emit_cfgState, markCommitted_cfgState, touchCommit_cfgState,
    touchSign_cfgState]

theorem checkAndCommit_cfgState : (s.checkAndCommit env).cfgState = s.cfgState := by
  unfold checkAndCommit; dsimp only
  split_ifs <;> simp only [checkAndSave_cfgState, broadcastCommitReq_cfgState, backupMsg_cfgState,
    touchSign_cfgState] <;> rfl

theorem executePrepare_cfgState (req : PrepareReq) :
    (s.executePrepare env req).cfgState = s.cfgState := by
  unfold executePrepare
  split
  · rfl
  · refine ite_cfgState s rfl (ite_cfgState s rfl ?_)
    split
    · rfl
    · exact (checkAndCommit_cfgState env _).trans
        (ite_cfgState _ (broadcastSignReq_cfgState env _ _) rfl)

theorem handlePrepareMsg_cfgState (frm : U256) (req : PrepareReq) (self : Bool) :
    (s.handlePrepareMsg env frm req self).cfgState = s.cfgState := by
  unfold handlePrepareMsg recvFutureBlock; dsimp only
  exact ite_cfgState s rfl <| ite_cfgState s rfl <| ite_cfgState s rfl <|
    ite_cfgState s (ite_cfgState s rfl rfl) <| ite_cfgState s rfl <| ite_cfgState s rfl <|
      ite_cfgState s rfl ((executePrepare_cfgState env (s.addRawPrepare req) req).trans rfl)

theorem handleSignMsg_cfgState (req : PBFTMsg) :
    (s.handleSignMsg env req).cfgState = s.cfgState :=
  ite_cfgState s rfl <| ite_cfgState s rfl <| ite_cfgState s (ite_cfgState s rfl rfl) <|
    ite_cfgState s rfl <| ite_cfgState s rfl (checkAndCommit_cfgState env _)

theorem handleCommitMsg_cfgState (req : PBFTMsg) :
    (s.handleCommitMsg env req).cfgState = s.cfgState :=
  ite_cfgState s rfl <| ite_cfgState s rfl <| ite_cfgState s (ite_cfgState s rfl rfl) <|
    ite_cfgState s rfl <| ite_cfgState s rfl (checkAndSave_cfgState _)

theorem checkAndChangeView_cfgState : s.checkAndChangeView.cfgState = s.cfgState := by
  unfold checkAndChangeView; dsimp only
  split_ifs <;> simp only [enterView_cfgState, emit_cfgState, touchViewChange_cfgState]

theorem fastViewChange_cfgState : s.fastViewChange.cfgState = s.cfgState :=
  ite_cfgState s rfl rfl

theorem motivate_cfgState (frm : U256) (req : PBFTMsg) (alive : Bool) :
    (s.motivate env frm req alive).cfgState = s.cfgState :=
  ite_cfgState s rfl rfl

theorem handleViewChangeMsg_cfgState (frm : U256) (req : PBFTMsg) (alive : Bool) :
    (s.handleViewChangeMsg env frm req alive).cfgState = s.cfgState := by
  have hm := motivate_cfgState env s frm req alive
  unfold handleViewChangeMsg; dsimp only
  exact ite_cfgState s rfl <| ite_cfgState s rfl <| ite_cfgState s hm <| ite_cfgState s hm <|
    ite_cfgState s hm <| ite_cfgState s
      (by simp only [checkAndChangeView_cfgState, insertViewChange_cfgState, emit_cfgState, hm])
      (by simp only [fastViewChange_cfgState, insertViewChange_cfgState, emit_cfgState, hm])

theorem checkTimeout_cfgState (expired : Bool) :
    (s.checkTimeout env expired).cfgState = s.cfgState := by
  have hb := broadcastViewChangeReq_cfgState env
    ((s.timeoutView).purgeViewChanges s.timeoutView.toView)
  exact ite_cfgState s rfl <| ite_cfgState s ((checkAndChangeView_cfgState _).trans hb) hb

theorem handleFutureBlock_cfgState : (s.handleFutureBlock env).cfgState = s.cfgState :=
  ite_cfgState s (handlePrepareMsg_cfgState env s _ _ _) rfl

theorem collectGarbage_cfgState (due : Bool) : (s.collectGarbage due).cfgState = s.cfgState :=
  ite_cfgState s rfl rfl

theorem shouldSeal_cfgState : (s.shouldSeal env).1.cfgState = s.cfgState := by
  unfold shouldSeal reHandlePrepareReq
  exact iteInduction (motive := fun r : PBFT × Bool => r.1.cfgState = s.cfgState) (fun _ => rfl)
    fun _ => iteInduction (motive := fun r : PBFT × Bool => r.1.cfgState = s.cfgState)
      (fun _ => rfl) fun _ =>
    iteInduction (motive := fun r : PBFT × Bool => r.1.cfgState = s.cfgState) (fun _ => rfl)
      fun _ => iteInduction (motive := fun r : PBFT × Bool => r.1.cfgState = s.cfgState)
        (fun _ => ite_cfgState s ((handlePrepareMsg_cfgState env _ _ _ _).trans
          (broadcastMsg_cfgState env s _)) rfl) fun _ => rfl

theorem generateSeal_cfgState (b : BlockHeader) (data : Bytes) :
    (s.generateSeal env b data).1.cfgState = s.cfgState := by
  unfold generateSeal; rw [broadcastPrepareReq_fst]; exact ite_cfgState s rfl rfl

theorem generateCommit_cfgState (b : BlockHeader) (data : Bytes) (v : U256) :
    (s.generateCommit env b data v).1.cfgState = s.cfgState := by
  unfold generateCommit
  exact iteInduction (motive := fun r : PBFT × Bool => r.1.cfgState = s.cfgState) (fun _ => rfl)
    fun _ => ite_cfgState s ((checkAndCommit_cfgState env _).trans
      (broadcastSignReq_cfgState env _ _)) (broadcastSignReq_cfgState env _ _)

theorem handleMsg_cfgState (frm : U256) (p : Packet) (alive : Bool) :
    (s.handleMsg env frm p alive).cfgState = s.cfgState :=
  handleMsg_induction (P := fun t => t.cfgState = s.cfgState) env s frm p alive
    (handlePrepareMsg_cfgState env s frm · false) (handleSignMsg_cfgState env s)
    (handleCommitMsg_cfgState env s) (handleViewChangeMsg_cfgState env s frm · alive)
    fun _ ht => ht

end Frame

/-! ## The configuration invariant -/

/-- What every call leaves of the configuration: a clear error flag only with a miner count,
and `m_f` computed from the count whenever there is one. -/
structure CfgInv (s : PBFT) : Prop where
  counted : s.cfgErr = false → s.nodeNum ≠ 0
  fOfCount : s.nodeNum ≠ 0 → s.f = (s.nodeNum - 1) / 3

variable {env : Env} {s t : PBFT}

theorem CfgInv.of_cfgState (hs : CfgInv s) (h : t.cfgState = s.cfgState) : CfgInv t := by
  simp only [cfgState, Prod.mk.injEq] at h
  obtain ⟨h1, h2, h3⟩ := h
  exact ⟨by rw [h1, h2]; exact hs.counted, by rw [h2, h3]; exact hs.fOfCount⟩

/-- `getLeader` reaches its remainder only with a clear error flag. -/
theorem cfgErr_of_getLeader (h : s.getLeader.1 = true) : s.cfgErr = false := by
  unfold getLeader at h
  split_ifs at h with hc
  simp only [Bool.or_eq_true, not_or] at hc
  simpa using hc.1.1

/-- With a count below `2^256`, a `resetConfig` that clears `m_cfg_err` leaves a non-zero
count: it got the account type, a non-zero count and the index, and adopted the count. -/
theorem nodeNum_resetConfig_ne_zero (hN : env.nodeConnManager.getMinerNum < 2 ^ 256)
    (h : (s.resetConfig env).cfgErr = false) : (s.resetConfig env).nodeNum ≠ 0 := by
  cases ht : env.nodeConnManager.getAccountType s.keyPair with
  | none => rw [resetConfig_of_getAccountType_none ht] at h; cases h
  | some t =>
    cases hr : rosterAnswers env.nodeConnManager s.keyPair with
    | false => rw [resetConfig_of_not_answers ht hr] at h; cases h
    | true =>
      simp only [rosterAnswers, ht, Option.isSome_some, Bool.true_and, Bool.and_eq_true,
        bne_iff_ne, ne_eq, Option.isSome_iff_exists] at hr
      obtain ⟨hn, idx, hi⟩ := hr
      rw [(resetConfig_configures ht hn hi).2.1]
      intro h0
      have := congrArg BitVec.toNat h0
      rw [BitVec.toNat_ofNat, Nat.mod_eq_of_lt hN] at this
      exact hn this

/-- **`resetConfig` establishes the invariant** from any state whose `m_f` was computed from its
count (the initial state has no count), whatever the roster answers, as long as its count fits
in 256 bits. -/
theorem cfgInv_resetConfig (hf : s.nodeNum ≠ 0 → s.f = (s.nodeNum - 1) / 3)
    (hN : env.nodeConnManager.getMinerNum < 2 ^ 256) : CfgInv (s.resetConfig env) where
  counted := nodeNum_resetConfig_ne_zero hN
  fOfCount := by
    rcases resetConfig_cases env s with h | ⟨t, b, h⟩ | ⟨t, n, idx, l, b, h⟩ <;> rw [h]
    · exact hf
    · exact hf
    · exact fun _ => rfl

theorem CfgInv.reportBlock (hs : CfgInv s) (hN : env.nodeConnManager.getMinerNum < 2 ^ 256)
    (b : BlockHeader) : CfgInv (s.reportBlock env b) := by
  have h : ∀ u : PBFT, u.cfgState = s.cfgState → CfgInv ((u.resetConfig env).delCache b.hash) :=
    fun u hu => (cfgInv_resetConfig (hs.of_cfgState hu).fOfCount hN).of_cfgState
      (delCache_cfgState _ _)
  unfold PBFT.reportBlock; dsimp only
  exact h _ (ite_cfgState s (by simp only [delViewChange_cfgState, startHeight_cfgState,
    setHighest_cfgState]) (setHighest_cfgState s b))

/-- **One call keeps the invariant**, when the roster's count fits in 256 bits. -/
theorem CfgInv.step (hs : CfgInv s) (hN : env.nodeConnManager.getMinerNum < 2 ^ 256) :
    ∀ i, CfgInv (s.step env i)
  | .msg frm p alive => hs.of_cfgState (handleMsg_cfgState env s frm p alive)
  | .timeout e => hs.of_cfgState (checkTimeout_cfgState env s e)
  | .futureBlock => hs.of_cfgState (handleFutureBlock_cfgState env s)
  | .collect due => hs.of_cfgState (collectGarbage_cfgState s due)
  | .report b => hs.reportBlock hN b
  | .shouldSeal => hs.of_cfgState (shouldSeal_cfgState env s)
  | .generateSeal b data => hs.of_cfgState (generateSeal_cfgState env s b data)
  | .generateCommit b data v => hs.of_cfgState (generateCommit_cfgState env s b data v)

theorem cfgInv_initEnv (hN : env.nodeConnManager.getMinerNum < 2 ^ 256) (key : Key)
    (omitEmpty : Bool) (backup : Option PrepareReq) (events : List Event) :
    CfgInv (initEnv env key omitEmpty backup events) := by
  have h := cfgInv_resetConfig (s := blank key omitEmpty backup events) (fun h => absurd rfl h) hN
  unfold initEnv; dsimp only
  generalize (blank key omitEmpty backup events).resetConfig env = r at h ⊢
  exact h.of_cfgState ((reloadMsg_cfgState _).trans rfl)

/-- In a state of the invariant with a clear error flag, `quorum()` is `N - (N - 1) / 3` for the
configured count `N ≥ 1`: the count that `quorum_intersection` is about. -/
theorem CfgInv.quorum_toNat (hs : CfgInv s) (h : s.cfgErr = false) :
    s.quorum.toNat = s.nodeNum.toNat - (s.nodeNum.toNat - 1) / 3 := by
  rw [quorum, hs.fOfCount (hs.counted h)]
  exact toNat_sub_pred_div_three (hs.counted h)

end PBFT

/-! ## Runs -/

/-- The states a node reaches in one lifetime while every roster it consults reports a miner
count below `2^256`, the range of the `u256` that `resetConfig` stores it in. -/
inductive CountReachable : PBFT → Prop
  | init (env : Env) (key : Key) (omitEmpty : Bool) (backup : Option PrepareReq) :
      env.nodeConnManager.getMinerNum < 2 ^ 256 →
        CountReachable (PBFT.initEnv env key omitEmpty backup [])
  | step {s : PBFT} (env : Env) (i : Input) :
      env.nodeConnManager.getMinerNum < 2 ^ 256 → CountReachable s →
        CountReachable (s.step env i)

namespace CountReachable

variable {s : PBFT}

theorem reachable (hs : CountReachable s) : Reachable s := by
  induction hs with
  | init env key omitEmpty backup => exact .init env key omitEmpty backup
  | step env i _ _ ih => exact .step env i ih

theorem cfgInv (hs : CountReachable s) : PBFT.CfgInv s := by
  induction hs with
  | init env key omitEmpty backup hN => exact PBFT.cfgInv_initEnv hN key omitEmpty backup []
  | step env i hN _ ih => exact ih.step hN i

end CountReachable

/-- **`getLeader` never divides by zero.** In every state a node reaches from `initEnv` through
any calls, whatever its rosters answer (each count below `2^256`) and wherever `resetConfig`
stops, a clear `m_cfg_err` comes with `m_node_num ≥ 1`; so whenever `getLeader` reaches
`(m_view + m_highest_block.number()) % m_node_num`, from `shouldSeal` or `handlePrepareMsg`,
the divisor is not zero. -/
theorem getLeader_divisor_ne_zero {s : PBFT} (hs : CountReachable s) :
    (s.cfgErr = false → 1 ≤ s.nodeNum) ∧ (s.getLeader.1 = true → s.nodeNum ≠ 0) := by
  have hc := hs.cfgInv.counted
  exact ⟨fun h => by have := hc h; bv_omega, fun h => hc (PBFT.cfgErr_of_getLeader h)⟩

/-- The spec's node `0` after its first report, on the four-miner roster. -/
theorem scenarioNode_getLeader_divisor :
    CountReachable (scenarioNode 0) ∧
      ((scenarioNode 0).cfgErr = false → 1 ≤ (scenarioNode 0).nodeNum) ∧
      ((scenarioNode 0).getLeader.1 = true → (scenarioNode 0).nodeNum ≠ 0) := by
  have h : CountReachable (scenarioNode 0) := .step _ _ (by decide) (.init _ _ _ _ (by decide))
  exact ⟨h, getLeader_divisor_ne_zero h⟩
