/-
# Reconfiguring twice

`resetConfig` adopts the roster's miner count and the node's index before it loads the miner
list. When the list does not load (an index out of range) or has the wrong length, the call
sets `m_cfg_err` and returns with the new count and index already in place. The next call with
the same roster answers then finds nothing changed, skips the list, and clears `m_cfg_err`.

* `ConfiguredBy.resetConfig`: on a state a call with the same roster answers configured,
  `resetConfig` only re-decides `m_cfg_err`, from the three lookups before the miner list;
  `ConfiguredBy.reportBlock_cfgErr` is the same for `reportBlock`;
* `reportBlock_reportBlock`: a second `reportBlock` of the same block keeps everything the first
  one left but `m_cfg_err`, for every state and every block (the last block number included);
* `retry_clears_cfgErr`: a node started on a roster whose miner list does not load is cleared
  to seal by its first `reportBlock`;
* `report_twice_differs`: after a roster change, one report of a block leaves the node stopped,
  and a second report of the same block restarts it.
-/
import FiscoBcos.Roster

namespace PBFT

variable (env : Env) (s : PBFT)

/-- The roster answers the three lookups `resetConfig` makes before it loads the miner list:
the node's account type, a non-zero miner count and the node's index. -/
def rosterAnswers (r : NodeConnManager) (key : Key) : Bool :=
  (r.getAccountType key).isSome && r.getMinerNum != 0 && (r.getIdx key).isSome

/-! ## Field lemmas -/

@[simp] theorem setCfgErr_setCfgErr (a b : Bool) : (s.setCfgErr a).setCfgErr b = s.setCfgErr b :=
  rfl

@[simp] theorem setCfgErr_cfgErr (b : Bool) : (s.setCfgErr b).cfgErr = b := rfl

@[simp] theorem setCfgErr_self : s.setCfgErr s.cfgErr = s := rfl

@[simp] theorem setAccountType_self : s.setAccountType s.accountType = s := rfl

theorem setHighest_of_highestBlock {b : BlockHeader} (h : s.highestBlock = b) :
    s.setHighest b = s := h ▸ rfl

theorem delCache_setCfgErr (h : H256) (b : Bool) :
    (s.setCfgErr b).delCache h = (s.delCache h).setCfgErr b := rfl

/-- `delCache` forgets nothing more the second time. -/
@[simp] theorem delCache_delCache (h : H256) : (s.delCache h).delCache h = s.delCache h := by
  have hp : (if h == (if h == s.prepareCache.blockHash then {} else s.prepareCache).blockHash
      then {} else if h == s.prepareCache.blockHash then {} else s.prepareCache) =
      if h == s.prepareCache.blockHash then ({} : PrepareReq) else s.prepareCache := by
    split_ifs <;> simp_all
  simp only [delCache, Dict.erase_erase_self, hp]

/-! ## A second `resetConfig` -/

section Lookups

variable {env s}

@[simp] theorem setAccountType_keyPair (t : Nat) : (s.setAccountType t).keyPair = s.keyPair := rfl

@[simp] theorem setAccountType_nodeNum (t : Nat) : (s.setAccountType t).nodeNum = s.nodeNum := rfl

@[simp] theorem setAccountType_nodeIdx (t : Nat) : (s.setAccountType t).nodeIdx = s.nodeIdx := rfl

theorem resetConfig_of_getAccountType_none
    (ht : env.nodeConnManager.getAccountType s.keyPair = none) :
    s.resetConfig env = s.setCfgErr true := by
  simp only [resetConfig, ht]

/-- Past the account type, a missing miner count or index stops the call. -/
theorem resetConfig_of_not_answers {t : Nat}
    (ht : env.nodeConnManager.getAccountType s.keyPair = some t)
    (hno : rosterAnswers env.nodeConnManager s.keyPair = false) :
    s.resetConfig env = (s.setAccountType t).setCfgErr true := by
  by_cases hn : env.nodeConnManager.getMinerNum = 0
  · simp only [resetConfig, ht, hn, beq_self_eq_true, ite_true]
  · have hi : env.nodeConnManager.getIdx s.keyPair = none := by
      simpa [rosterAnswers, ht, hn] using hno
    simp only [resetConfig, ht, setAccountType_keyPair, hi, beq_iff_eq, hn, ite_false]

/-- A call that finds the count and the index it would adopt only records the account type and
clears `m_cfg_err`; the miner list is not looked at. -/
theorem resetConfig_of_configured {t : Nat} {idx : U256}
    (ht : env.nodeConnManager.getAccountType s.keyPair = some t)
    (hn : env.nodeConnManager.getMinerNum ≠ 0)
    (hi : env.nodeConnManager.getIdx s.keyPair = some idx)
    (hnum : s.nodeNum = BitVec.ofNat 256 env.nodeConnManager.getMinerNum)
    (hidx : s.nodeIdx = idx) :
    s.resetConfig env = (s.setAccountType t).setCfgErr false := by
  simp only [resetConfig, ht, setAccountType_keyPair, hi, beq_iff_eq, hn, ite_false]
  rw [if_neg (by simp [setAccountType, hnum, hidx])]

/-- When the three lookups answer, the call leaves the roster's count and the node's index in
place, whether or not the miner list loads. -/
theorem resetConfig_configures {t : Nat} {idx : U256}
    (ht : env.nodeConnManager.getAccountType s.keyPair = some t)
    (hn : env.nodeConnManager.getMinerNum ≠ 0)
    (hi : env.nodeConnManager.getIdx s.keyPair = some idx) :
    (s.resetConfig env).accountType = t ∧
      (s.resetConfig env).nodeNum = BitVec.ofNat 256 env.nodeConnManager.getMinerNum ∧
      (s.resetConfig env).nodeIdx = idx := by
  simp only [resetConfig, ht, setAccountType_keyPair, hi, beq_iff_eq, hn, ite_false]
  split_ifs with hc
  · split <;> exact ⟨rfl, rfl, rfl⟩
  · simp only [bne_iff_ne, ne_eq, Bool.or_eq_true, decide_eq_true_eq, not_or,
      Decidable.not_not] at hc
    exact ⟨rfl, hc.1.symm, hc.2.symm⟩

end Lookups

@[simp] theorem resetConfig_keyPair : (s.resetConfig env).keyPair = s.keyPair := by
  rcases resetConfig_cases env s with h | ⟨t, b, h⟩ | ⟨t, n, idx, l, b, h⟩ <;> rw [h] <;> rfl

/-- What a call with the same roster answers finds: the configuration the last call left. A
state that some `resetConfig env` produced, then changed only outside the configuration, is
`ConfiguredBy env`. -/
structure ConfiguredBy (u : PBFT) : Prop where
  accountType : ∀ t, env.nodeConnManager.getAccountType u.keyPair = some t → u.accountType = t
  adopted : ∀ idx, env.nodeConnManager.getIdx u.keyPair = some idx →
    rosterAnswers env.nodeConnManager u.keyPair = true →
    u.nodeNum = BitVec.ofNat 256 env.nodeConnManager.getMinerNum ∧ u.nodeIdx = idx

theorem configuredBy_resetConfig : ConfiguredBy env (s.resetConfig env) := by
  rcases ht : env.nodeConnManager.getAccountType s.keyPair with _ | t
  · rw [resetConfig_of_getAccountType_none ht]
    exact ⟨fun t h => by simp [setCfgErr, ht] at h,
      fun _ _ h => by simp [rosterAnswers, setCfgErr, ht] at h⟩
  · cases hans : rosterAnswers env.nodeConnManager s.keyPair
    · rw [resetConfig_of_not_answers ht hans]
      exact ⟨fun t' h => by simpa [setCfgErr, setAccountType, ht] using h,
        fun _ _ h => by simp [setCfgErr, setAccountType, hans] at h⟩
    · simp only [rosterAnswers, ht, Option.isSome_some, Bool.true_and, Bool.and_eq_true,
        bne_iff_ne, ne_eq, Option.isSome_iff_exists] at hans
      obtain ⟨hn, idx, hi⟩ := hans
      obtain ⟨h1, h2, h3⟩ := resetConfig_configures ht hn hi
      refine ⟨fun t' h => ?_, fun idx' h _ => ?_⟩
      · rw [resetConfig_keyPair, ht, Option.some.injEq] at h; rw [h1, h]
      · rw [resetConfig_keyPair, hi, Option.some.injEq] at h; exact ⟨h2, h3 ▸ h⟩

/-- **A second call only re-decides the error flag.** On a state the roster `env` configured, `resetConfig`
sets `m_cfg_err` from the three lookups alone and changes nothing else. -/
theorem ConfiguredBy.resetConfig {u : PBFT} (hu : ConfiguredBy env u) :
    u.resetConfig env = u.setCfgErr (!rosterAnswers env.nodeConnManager u.keyPair) := by
  rcases ht : env.nodeConnManager.getAccountType u.keyPair with _ | t
  · rw [resetConfig_of_getAccountType_none ht]; simp [rosterAnswers, ht]
  · cases hans : rosterAnswers env.nodeConnManager u.keyPair
    · rw [resetConfig_of_not_answers ht hans, ← hu.accountType t ht, setAccountType_self]
      rfl
    · have hans' := hans
      simp only [rosterAnswers, ht, Option.isSome_some, Bool.true_and, Bool.and_eq_true,
        bne_iff_ne, ne_eq, Option.isSome_iff_exists] at hans'
      obtain ⟨hn, idx, hi⟩ := hans'
      obtain ⟨hnum, hidx⟩ := hu.adopted idx hi hans
      rw [resetConfig_of_configured ht hn hi hnum hidx, ← hu.accountType t ht, setAccountType_self]
      rfl

/-- Changes outside the configuration keep a state configured. -/
theorem ConfiguredBy.of_eq {env : Env} {u v : PBFT} (hu : ConfiguredBy env u) (hk : v.keyPair = u.keyPair)
    (ha : v.accountType = u.accountType) (hn : v.nodeNum = u.nodeNum)
    (hi : v.nodeIdx = u.nodeIdx) : ConfiguredBy env v where
  accountType t h := ha ▸ hu.accountType t (hk ▸ h)
  adopted idx h hans := hn ▸ hi ▸ hu.adopted idx (hk ▸ h) (hk ▸ hans)

/-! ## A second `reportBlock` -/

/-- The tip, the view, the target view, the back-off, the leader flag and the height being
agreed on: what `reportBlock` resets. -/
def heightState : BlockHeader × U256 × U256 × Nat × Bool × U256 :=
  (s.highestBlock, s.view, s.toView, s.changeCycle, s.leaderFailed, s.consensusBlockNumber)

theorem resetConfig_heightState : (s.resetConfig env).heightState = s.heightState := by
  rcases resetConfig_cases env s with h | ⟨t, b, h⟩ | ⟨t, n, idx, l, b, h⟩ <;> rw [h] <;> rfl

/-- `resetConfig` keeps the view changes, or drops them all when it adopts. -/
theorem resetConfig_recvViewChangeReq :
    (s.resetConfig env).recvViewChangeReq = s.recvViewChangeReq ∨
      (s.resetConfig env).recvViewChangeReq = ∅ := by
  rcases resetConfig_cases env s with h | ⟨t, b, h⟩ | ⟨t, n, idx, l, b, h⟩ <;> rw [h]
  · exact .inl rfl
  · exact .inl rfl
  · exact .inr rfl

/-- Starting the height `n` on the tip `b` again changes nothing once it has been started. -/
theorem startHeight_of_heightState {b : BlockHeader} {n : U256}
    (h : s.heightState = (b, 0, 0, 0, false, n)) : (s.setHighest b).startHeight n = s := by
  cases s
  simp only [heightState, Prod.mk.injEq] at h
  obtain ⟨rfl, rfl, rfl, rfl, rfl, rfl⟩ := h
  rfl

/-- `delViewChange` drops nothing from view changes it already purged on the same tip, nor from
none. -/
theorem delViewChange_of_purged {u w : PBFT} (hb : u.highestBlock = w.highestBlock)
    (hr : u.recvViewChangeReq = w.delViewChange.recvViewChangeReq ∨ u.recvViewChangeReq = ∅) :
    u.delViewChange = u := by
  cases u
  simp only at hb hr
  subst hb
  rcases hr with rfl | rfl
  · simp only [delViewChange]
    rw [Dict.filter_mapVals_idem _ _ fun _ _ => Dict.filter_filter_self _ _]
  · rfl

variable (b : BlockHeader)

/-- `reportBlock` before its roster read: the new tip, and the start of the next height when the
tip reaches the height being agreed on. -/
theorem reportBlock_eq : s.reportBlock env b =
    ((if b.number ≥ s.consensusBlockNumber then
      ((s.setHighest b).startHeight (b.number + 1)).delViewChange else s.setHighest b).resetConfig
      env).delCache b.hash := rfl

/-- A second report of the same block finds the tip and the heights the first one left: its
`resetConfig` is the only step that does anything. -/
theorem reportBlock_again : (s.reportBlock env b).reportBlock env b =
    ((s.reportBlock env b).resetConfig env).delCache b.hash := by
  rw [reportBlock_eq env (s.reportBlock env b)]
  congr 2
  set y := if b.number ≥ s.consensusBlockNumber then
    ((s.setHighest b).startHeight (b.number + 1)).delViewChange else s.setHighest b with hy
  have hx : s.reportBlock env b = (y.resetConfig env).delCache b.hash := rfl
  have hhs : (s.reportBlock env b).heightState = y.heightState := by
    rw [hx]; exact resetConfig_heightState env y
  by_cases hc : b.number ≥ s.consensusBlockNumber
  · rw [if_pos hc] at hy
    have hstart : (s.reportBlock env b).heightState = (b, 0, 0, 0, false, b.number + 1) := by
      rw [hhs, hy]; rfl
    split_ifs
    · rw [startHeight_of_heightState _ hstart, hx]
      refine delViewChange_of_purged (w := (s.setHighest b).startHeight (b.number + 1)) ?_ ?_
      · exact (congrArg Prod.fst (resetConfig_heightState env y)).trans (by rw [hy]; rfl)
      · have := resetConfig_recvViewChangeReq env y
        rwa [hy] at this ⊢
    · exact setHighest_of_highestBlock _ (congrArg Prod.fst hstart)
  · rw [if_neg hc] at hy
    have hn : (s.reportBlock env b).consensusBlockNumber = s.consensusBlockNumber := by
      simpa only [hy] using congrArg (fun p => p.2.2.2.2.2) hhs
    have hb : (s.reportBlock env b).highestBlock = b := by
      simpa only [hy] using congrArg Prod.fst hhs
    rw [if_neg (by rw [hn]; exact hc), setHighest_of_highestBlock _ hb]

/-- **Two reports of the same block with the same roster answers.** The second `reportBlock`
keeps everything the first one left but `m_cfg_err`, which it clears whenever the account
type, the miner count and the node's index are found, whether or not the miner list loads. -/
theorem reportBlock_reportBlock :
    (s.reportBlock env b).reportBlock env b =
      (s.reportBlock env b).setCfgErr (!rosterAnswers env.nodeConnManager s.keyPair) := by
  have hcfg : ConfiguredBy env (s.reportBlock env b) := by
    rw [reportBlock_eq]; exact (configuredBy_resetConfig env _).of_eq rfl rfl rfl rfl
  have hkey : (s.reportBlock env b).keyPair = s.keyPair := by
    rw [reportBlock_eq]; exact (resetConfig_keyPair env _).trans (by split_ifs <;> rfl)
  rw [reportBlock_again, hcfg.resetConfig, hkey, delCache_setCfgErr, reportBlock_eq,
    delCache_delCache]

/-- **A report only re-decides the error flag of a configured node.** On a state the roster
`env` configured, `reportBlock` sets `m_cfg_err` from the account type, the miner count and the
node's index alone, whether or not the miner list loads. -/
theorem ConfiguredBy.reportBlock_cfgErr {u : PBFT} (hu : ConfiguredBy env u) :
    (u.reportBlock env b).cfgErr = !rosterAnswers env.nodeConnManager u.keyPair := by
  rw [reportBlock_eq]
  split_ifs
  · rw [(hu.of_eq (v := ((u.setHighest b).startHeight (b.number + 1)).delViewChange)
      rfl rfl rfl rfl).resetConfig]
    rfl
  · rw [(hu.of_eq (v := u.setHighest b) rfl rfl rfl rfl).resetConfig]
    rfl

/-! ## A miner list that does not load -/

/-- The scenario roster with a fifth miner, key `104`, configured with index `5` where `4` was
meant: the miner count is `5`, so `getMinerList` fails on that index. -/
def misRoster : NodeConnManager where
  getAccountType k := if 100 ≤ k ∧ k < 105 then some enAccountTypeMiner else none
  getMinerNum := 5
  getIdx k := if 100 ≤ k ∧ k < 104 then some (BitVec.ofNat 256 (k - 100))
    else if k = 104 then some 5 else none
  getPublicKey i := if i < 4 then some (100 + i.toNat) else if i = 5 then some 104 else none
  getAllNodeConnInfo _ := [⟨100, 1, 0⟩, ⟨101, 1, 1⟩, ⟨102, 1, 2⟩, ⟨103, 1, 3⟩, ⟨104, 1, 5⟩]

/-- The scenario environment on the misconfigured roster. -/
def misEnv : Env := { scenarioEnv with nodeConnManager := misRoster }

/-- Miner `0` starts on the misconfigured roster and stops sealing; the chain reports block
`10`, the roster answers the same, and the node is cleared to seal as the primary of height
`11` with a miner list that still does not load. -/
theorem retry_clears_cfgErr :
    ∃ s₁ s₂, s₁ = initEnv misEnv 100 false none [] ∧ s₂ = s₁.step misEnv (.report tip10) ∧
      Reachable s₂ ∧ s₁.cfgErr = true ∧ s₂.cfgErr = false ∧
      (getMinerList misRoster (-1) s₂.minerList).1 = false ∧ (s₂.shouldSeal misEnv).2 = true :=
  have hcfg : ConfiguredBy misEnv (initEnv misEnv 100 false none []) :=
    (configuredBy_resetConfig _ _).of_eq rfl rfl rfl rfl
  ⟨_, _, rfl, rfl, .step _ _ (.init _ _ _ _), by decide,
    (hcfg.reportBlock_cfgErr misEnv tip10).trans (by decide), by decide, by decide⟩

/-- Miner `0` of the scenarios is told of block `10` twice after the roster changed to the
misconfigured one: the first report stops it, the second clears it to seal again. -/
theorem report_twice_differs :
    ∃ s₁ s₂, s₁ = (scenarioNode 0).step misEnv (.report tip10) ∧
      s₂ = s₁.step misEnv (.report tip10) ∧ Reachable s₂ ∧ s₁.cfgErr = true ∧ s₂.cfgErr = false :=
  ⟨_, _, rfl, rfl, .step _ _ (.step _ _ (scenarioNode_reachable 0)), by decide, by
    show (((scenarioNode 0).reportBlock misEnv tip10).reportBlock misEnv tip10).cfgErr = false
    rw [reportBlock_reportBlock]
    decide⟩

end PBFT
