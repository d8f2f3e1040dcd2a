/-
# The commit lock across views and restarts

Once the executed proposal has its sign quorum, `checkAndCommit` checkpoints the raw proposal
it came from (`m_committed_prepare_cache`) and writes it to the backup store. From then on
`handlePrepareMsg` refuses every other proposal at that height, `shouldSeal` proposes the
checkpoint again, and `initEnv` restores it from the backup after a crash.

A node's life is a sequence of `NodeAction`s: calls into the running engine, and crash-restarts
after which the chain reports its tip. The lock is stated over the node's Sign and Commit votes
(`votes`) and the block each is for, as the executor derives it from a raw proposal
(`Derived`).

* `LockInv`: the backup holds the checkpoint, the executed proposal was executed from the raw
  one, and every checkpoint is honoured at its height;
* `Kept`: what one call or restart keeps, with the checkpoint it sets; one lemma per operation,
  then per handler, then `Kept.act`;
* `commit_lock_kept`: in every run in which backups succeed, the host seals nothing through
  `generateSeal`/`generateCommit`, the chain only grows, no view reaches `2^256 - 1` and one
  executor runs every block, each vote cast at a checkpoint's height after the checkpoint was
  set is for the block executed from a proposal with the checkpoint's hash;
* `lost_backup_breaks_lock`: a backup write that fails before a restart lets the node vote at
  the checkpoint's height for the block of another proposal;
* `sealing_breaks_lock`: with every backup write succeeding, a sealing round that
  `shouldSeal` cleared before the checkpoint was set proposes and votes for another block at
  its height, since `generateSeal` and `generateCommit` do not consult the checkpoint.
-/
import Mathlib.Data.List.Chain
import FiscoBcos.Proposal

/-- What happens to a node over its life: a call into the running engine, or a crash and
restart (`initEnv` on the surviving backup store) after which the chain reports its tip. -/
inductive NodeAction where
  | call (env : Env) (i : Input)
  | restart (env : Env) (tip : BlockHeader)

/-- The environment of an action. -/
def NodeAction.env : NodeAction → Env
  | .call env _ | .restart env _ => env

/-- The number of the block an action reports to the engine. -/
def NodeAction.reported : NodeAction → Option U256
  | .call _ (.report b) | .restart _ b => some b.number
  | _ => none

/-- The host seals through `generateSeal` or `generateCommit`. -/
def NodeAction.seals : NodeAction → Bool
  | .call _ (.generateSeal ..) | .call _ (.generateCommit ..) => true
  | _ => false

/-- The vote a broadcast carries, for a Sign or Commit vote. -/
def Event.vote? : Event → Option PBFTMsg
  | .broadcast (.sign m) | .broadcast (.commit m) => some m
  | _ => none

namespace PBFT

variable (s : PBFT)

/-- The Sign and Commit votes the node has broadcast, in order. -/
def votes : List PBFTMsg := s.events.filterMap Event.vote?

/-- Vote `m` is for the block `exec` makes of the raw proposal `R`: at `R`'s height, for the
re-sealed hash of the block executed from `R`, whose hash `exec` confirmed. -/
def Derived (exec : H256 → Bytes → Option ExecutedBlock) (m : PBFTMsg) (R : PrepareReq) : Prop :=
  m.height = R.height ∧ ∃ out d, exec R.blockHash R.block = some out ∧ out.hash = R.blockHash ∧
    out.sealed = some (m.blockHash, d)

/-- `R` has the hash of every checkpoint in `L` of its height. -/
def Agrees (L : List PrepareReq) (R : PrepareReq) : Prop :=
  ∀ P ∈ L, P.height = R.height → R.blockHash = P.blockHash

/-- The checkpoints so far, with `new` added when a call changed the checkpoint from `old`. -/
def grow (L : List PrepareReq) (old new : PrepareReq) : List PrepareReq :=
  if new = old then L else L ++ [new]

@[simp] theorem grow_self (L : List PrepareReq) (c : PrepareReq) : grow L c c = L := if_pos rfl

/-- The slots the lock lives in: the raw, executed and checkpointed proposals, the backup and
the height being agreed on. -/
def lockState : PrepareReq × PrepareReq × PrepareReq × Option PrepareReq × U256 :=
  (s.rawPrepareCache, s.prepareCache, s.committedPrepareCache, s.backupCommitted,
    s.consensusBlockNumber)

/-- A crash and restart: `initEnv` with the backup store and the outputs of the crashed
engine, then the chain's report of its tip. -/
def restart (env : Env) (tip : BlockHeader) : PBFT :=
  (initEnv env s.keyPair s.omitEmptyBlock s.backupCommitted s.events).step env (.report tip)

/-- One action. -/
def act : NodeAction → PBFT
  | .call env i => s.step env i
  | .restart env tip => s.restart env tip

/-- Actions in sequence. -/
def live (acts : List NodeAction) : PBFT := acts.foldl act s

/-- The steps of a life, each as the states before and after it. -/
def lifeSteps (t : PBFT) : List NodeAction → List (PBFT × PBFT)
  | [] => []
  | a :: as => (t, t.act a) :: (t.act a).lifeSteps as

/-- A node started with an empty backup store, the chain then reporting its tip `tip`. -/
def boot (env : Env) (key : Key) (omitEmpty : Bool) (tip : BlockHeader) : PBFT :=
  (initEnv env key omitEmpty none []).step env (.report tip)

/-! ## The slots each operation writes -/

@[simp] theorem votes_emit (e : Event) : (s.emit e).votes = s.votes ++ e.vote?.toList := by
  simp only [votes, emit, List.filterMap_append, List.filterMap_cons, List.filterMap_nil]
  cases e.vote? <;> rfl

@[simp] theorem emit_lockState (e : Event) : (s.emit e).lockState = s.lockState := rfl

@[simp] theorem touchSign_lockState (h : H256) : (s.touchSign h).lockState = s.lockState := rfl

@[simp] theorem touchCommit_lockState (h : H256) : (s.touchCommit h).lockState = s.lockState := rfl

@[simp] theorem markCommitted_lockState (h : H256) :
    (s.markCommitted h).lockState = s.lockState := rfl

@[simp] theorem addSignReq_lockState (req : PBFTMsg) :
    (s.addSignReq req).lockState = s.lockState := rfl

@[simp] theorem addCommitReq_lockState (req : PBFTMsg) :
    (s.addCommitReq req).lockState = s.lockState := rfl

@[simp] theorem setFuture_lockState (frm : U256) (req : PrepareReq) :
    (s.setFuture frm req).lockState = s.lockState := rfl

@[simp] theorem changeViewForEmptyBlock_lockState :
    s.changeViewForEmptyBlock.lockState = s.lockState := rfl

@[simp] theorem touchSign_votes (h : H256) : (s.touchSign h).votes = s.votes := rfl

@[simp] theorem touchCommit_votes (h : H256) : (s.touchCommit h).votes = s.votes := rfl

@[simp] theorem markCommitted_votes (h : H256) : (s.markCommitted h).votes = s.votes := rfl

@[simp] theorem addSignReq_votes (req : PBFTMsg) : (s.addSignReq req).votes = s.votes := rfl

@[simp] theorem addCommitReq_votes (req : PBFTMsg) : (s.addCommitReq req).votes = s.votes := rfl

@[simp] theorem setFuture_votes (frm : U256) (req : PrepareReq) :
    (s.setFuture frm req).votes = s.votes := rfl

@[simp] theorem changeViewForEmptyBlock_votes : s.changeViewForEmptyBlock.votes = s.votes := rfl

theorem checkAndSave_lockState : s.checkAndSave.lockState = s.lockState := by
  unfold checkAndSave; dsimp only
  split_ifs <;> simp only [emit_lockState, markCommitted_lockState, touchCommit_lockState,
    touchSign_lockState]

theorem checkAndSave_votes : s.checkAndSave.votes = s.votes := by
  unfold checkAndSave; dsimp only
  split_ifs <;> simp only [votes_emit, markCommitted_votes, touchCommit_votes, touchSign_votes,
    Event.vote?, Option.toList_none, List.append_nil]

@[simp] theorem setCommitted_lockState (r : PrepareReq) :
    (s.setCommitted r).lockState = (s.rawPrepareCache, s.prepareCache, r, s.backupCommitted,
      s.consensusBlockNumber) := rfl

@[simp] theorem setCommitted_votes (r : PrepareReq) : (s.setCommitted r).votes = s.votes := rfl

theorem backupMsg_lockState (env : Env) (r : PrepareReq) (hput : env.putOk = true) :
    (s.backupMsg env r).lockState = (s.rawPrepareCache, s.prepareCache, s.committedPrepareCache,
      some r, s.consensusBlockNumber) := by
  simp only [backupMsg, hput, if_true]; rfl

theorem backupMsg_votes (env : Env) (r : PrepareReq) : (s.backupMsg env r).votes = s.votes := by
  unfold backupMsg; split_ifs <;> rfl

theorem broadcastSignReq_lockState (env : Env) (r : PrepareReq) :
    (s.broadcastSignReq env r).1.lockState = s.lockState := by
  rw [broadcastSignReq_fst]; dsimp only
  split_ifs <;> simp only [addSignReq_lockState, emit_lockState]

theorem broadcastCommitReq_lockState (env : Env) (r : PrepareReq) :
    (s.broadcastCommitReq env r).1.lockState = s.lockState := by
  rw [broadcastCommitReq_fst]; dsimp only
  split_ifs <;> simp only [addCommitReq_lockState, emit_lockState]

/-- The own Sign vote on `r`, when the host is up. -/
theorem broadcastSignReq_votes (env : Env) (r : PrepareReq) :
    (s.broadcastSignReq env r).1.votes = s.votes ++
      if env.hostAlive then [s.signedMsg r.height r.view s.nodeIdx env.utcTime r.blockHash]
      else [] := by
  rw [broadcastSignReq_fst]; dsimp only
  split_ifs
  · rw [addSignReq_votes, votes_emit]; rfl
  · rw [List.append_nil]

/-- The own Commit vote on `r`, when the host is up. -/
theorem broadcastCommitReq_votes (env : Env) (r : PrepareReq) :
    (s.broadcastCommitReq env r).1.votes = s.votes ++
      if env.hostAlive then [s.signedMsg r.height r.view s.nodeIdx env.utcTime r.blockHash]
      else [] := by
  rw [broadcastCommitReq_fst]; dsimp only
  split_ifs
  · rw [addCommitReq_votes, votes_emit]; rfl
  · rw [List.append_nil]

/-- The Sign vote of `executePrepare`, cast for `r` when the node is a miner, leaves the lock's
slots alone. -/
theorem signIfMiner_lockState (env : Env) (r : PrepareReq) :
    (if s.accountType == enAccountTypeMiner then (s.broadcastSignReq env r).1 else s).lockState =
      s.lockState :=
  iteInduction (motive := fun t : PBFT => t.lockState = s.lockState)
    (fun _ => broadcastSignReq_lockState s env r) fun _ => rfl

theorem signIfMiner_view (env : Env) (r : PrepareReq) :
    (if s.accountType == enAccountTypeMiner then (s.broadcastSignReq env r).1 else s).view =
      s.view :=
  iteInduction (motive := fun t : PBFT => t.view = s.view)
    (fun _ => by rw [broadcastSignReq_fst]; split_ifs <;> rfl) fun _ => rfl

/-! ## The invariant -/

variable (exec : H256 → Bytes → Option ExecutedBlock)

/-- The lock invariant for the checkpoints `L` set so far, `M` being the number of the last
block the chain reported. -/
structure LockInv (M : U256) (L : List PrepareReq) (s : PBFT) : Prop where
  /-- The backup holds the checkpoint. -/
  backed : s.committedPrepareCache = s.backupCommitted.getD {}
  /-- The height being agreed on is at most one above the last reported block. -/
  height_le : s.consensusBlockNumber.toNat ≤ M.toNat + 1
  /-- The executed proposal, if any, was executed from the raw one. -/
  sourced : s.prepareCache = {} ∨
    s.rawPrepareCache ≠ {} ∧ Derived exec s.prepareCache.toPBFTMsg s.rawPrepareCache
  /-- A raw proposal is not above the height being agreed on, -/
  raw_le : s.rawPrepareCache ≠ {} → s.rawPrepareCache.height ≤ s.consensusBlockNumber
  /-- and has the hash of every checkpoint of its height. -/
  raw_agrees : s.rawPrepareCache ≠ {} → Agrees L s.rawPrepareCache
  /-- While the height being agreed on is a checkpoint's, that checkpoint is held, and a raw
  proposal is of that height. -/
  locked : ∀ P ∈ L, s.consensusBlockNumber = P.height →
    s.committedPrepareCache.height = P.height ∧ s.committedPrepareCache.blockHash = P.blockHash ∧
      (s.rawPrepareCache = {} ∨ s.rawPrepareCache.height = P.height)
  /-- No checkpoint is above the height being agreed on. -/
  below : ∀ P ∈ L, P.height ≤ s.consensusBlockNumber

/-- What a call keeps from `s` to `t`: the invariant, with the checkpoint `t` holds added when
it is new, and every vote the call casts is for the block executed from the raw proposal `t`
holds. -/
structure Kept (M : U256) (L : List PrepareReq) (s t : PBFT) : Prop where
  inv : LockInv exec M (grow L s.committedPrepareCache t.committedPrepareCache) t
  cast : ∃ δ, t.votes = s.votes ++ δ ∧
    ∀ m ∈ δ, t.rawPrepareCache ≠ {} ∧ Derived exec m t.rawPrepareCache

section Operations

variable {exec} {M : U256} {L : List PrepareReq} {s t u : PBFT}

/-- An operation that leaves the lock's slots alone keeps the invariant. -/
theorem LockInv.of_lockState (hs : LockInv exec M L s) (h : t.lockState = s.lockState) :
    LockInv exec M L t := by
  simp only [lockState, Prod.mk.injEq] at h
  obtain ⟨h1, h2, h3, h4, h5⟩ := h
  refine ⟨?_, ?_, ?_, ?_, ?_, ?_, ?_⟩ <;> simp only [h1, h2, h3, h4, h5]
  exacts [hs.backed, hs.height_le, hs.sourced, hs.raw_le, hs.raw_agrees, hs.locked, hs.below]

/-- Writing the executed slot with nothing, or with a proposal executed from the raw one,
keeps the invariant. -/
theorem LockInv.setPrepare (hs : LockInv exec M L s) {p : PrepareReq}
    (h : t.lockState = (s.rawPrepareCache, p, s.committedPrepareCache, s.backupCommitted,
      s.consensusBlockNumber))
    (hp : p = {} ∨ s.rawPrepareCache ≠ {} ∧ Derived exec p.toPBFTMsg s.rawPrepareCache) :
    LockInv exec M L t := by
  simp only [lockState, Prod.mk.injEq] at h
  obtain ⟨h1, h2, h3, h4, h5⟩ := h
  refine ⟨?_, ?_, ?_, ?_, ?_, ?_, ?_⟩ <;> simp only [h1, h2, h3, h4, h5]
  exacts [hs.backed, hs.height_le, hp, hs.raw_le, hs.raw_agrees, hs.locked, hs.below]

/-- Emptying both proposal slots keeps the invariant. -/
theorem LockInv.clearProposals (hs : LockInv exec M L s)
    (h : t.lockState = ({}, {}, s.committedPrepareCache, s.backupCommitted,
      s.consensusBlockNumber)) : LockInv exec M L t := by
  simp only [lockState, Prod.mk.injEq] at h
  obtain ⟨h1, h2, h3, h4, h5⟩ := h
  refine ⟨?_, ?_, .inl h2, fun hne => absurd h1 hne, fun hne => absurd h1 hne, fun P hP hc => ?_,
    fun P hP => h5 ▸ hs.below P hP⟩
  · rw [h3, h4]; exact hs.backed
  · rw [h5]; exact hs.height_le
  · obtain ⟨hh, hb, -⟩ := hs.locked P hP (h5 ▸ hc)
    exact ⟨h3 ▸ hh, h3 ▸ hb, .inl h1⟩

/-- **Holding a proposal raw.** A proposal at the height being agreed on that agrees with the
checkpoint when it is of the checkpoint's height may be held raw. -/
theorem LockInv.addRawPrepare (hs : LockInv exec M L s) {req : PrepareReq}
    (hh : req.height = s.consensusBlockNumber)
    (hlock : req.height = s.committedPrepareCache.height →
      req.blockHash = s.committedPrepareCache.blockHash) :
    LockInv exec M L (s.addRawPrepare req) where
  backed := hs.backed
  height_le := hs.height_le
  sourced := .inl rfl
  raw_le _ := hh ▸ BitVec.le_refl _
  raw_agrees _ P hP hPh := by
    obtain ⟨h1, h2, -⟩ := hs.locked P hP (hh ▸ hPh.symm)
    exact (hlock (hPh.symm.trans h1.symm)).trans h2
  locked P hP hc := ⟨(hs.locked P hP hc).1, (hs.locked P hP hc).2.1, .inr (hh.trans hc)⟩
  below := hs.below

/-- **Setting the checkpoint.** Checkpointing a held raw proposal, and backing it up
successfully, keeps the invariant, with the raw proposal as a new checkpoint. -/
theorem LockInv.checkpoint (env : Env) (hs : LockInv exec M L s) (hne : s.rawPrepareCache ≠ {})
    (hput : env.putOk = true) :
    LockInv exec M (grow L s.committedPrepareCache s.rawPrepareCache)
      ((s.setCommitted s.rawPrepareCache).backupMsg env s.rawPrepareCache) := by
  have hb : (s.setCommitted s.rawPrepareCache).backupMsg env s.rawPrepareCache =
      { s with committedPrepareCache := s.rawPrepareCache,
               backupCommitted := some s.rawPrepareCache } := by
    simp only [backupMsg, hput, if_true]; rfl
  rw [hb]
  have hall : ∀ P ∈ grow L s.committedPrepareCache s.rawPrepareCache,
      P ∈ L ∨ P = s.rawPrepareCache := by
    intro P hP; unfold grow at hP; split_ifs at hP
    · exact .inl hP
    · simpa using hP
  refine ⟨rfl, hs.height_le, hs.sourced, hs.raw_le, fun _ P hP hPh => ?_, fun P hP hc => ?_,
    fun P hP => ?_⟩
  · rcases hall P hP with hP | rfl
    · exact hs.raw_agrees hne P hP hPh
    · rfl
  · rcases hall P hP with hP | rfl
    · obtain ⟨-, -, hr⟩ := hs.locked P hP hc
      have hh : s.rawPrepareCache.height = P.height := hr.resolve_left hne
      exact ⟨hh, hs.raw_agrees hne P hP hh.symm, .inr hh⟩
    · exact ⟨rfl, rfl, .inr rfl⟩
  · rcases hall P hP with hP | rfl
    · exact hs.below P hP
    · exact hs.raw_le hne

/-- A call that leaves the lock's slots and the votes alone keeps everything. -/
theorem Kept.of_frame (hs : LockInv exec M L s) (h : t.lockState = s.lockState)
    (hv : t.votes = s.votes) : Kept exec M L s t where
  inv := by
    have hc : t.committedPrepareCache = s.committedPrepareCache := congrArg (·.2.2.1) h
    rw [hc, grow_self]; exact hs.of_lockState h
  cast := ⟨[], by rw [hv, List.append_nil], by simp⟩

/-- A guard that leaves the state as it is keeps the invariant. -/
theorem Kept.guard (hs : LockInv exec M L s) {c : Prop} [Decidable c]
    (h : ¬c → Kept exec M L s t) : Kept exec M L s (if c then s else t) :=
  iteInduction (fun _ => .of_frame hs rfl rfl) h

/-- A call that casts no vote and keeps the checkpoint keeps what its invariant says. -/
theorem Kept.of_inv (ht : LockInv exec M L t)
    (hc : t.committedPrepareCache = s.committedPrepareCache)
    (hv : t.votes = s.votes) : Kept exec M L s t where
  inv := by rw [hc, grow_self]; exact ht
  cast := ⟨[], by rw [hv, List.append_nil], by simp⟩

/-- Two parts of a call, at most one of which changes the checkpoint; the votes of the first
are for the raw proposal the second ends with, or there are none. -/
theorem Kept.trans (h1 : Kept exec M L s t)
    (h2 : Kept exec M (grow L s.committedPrepareCache t.committedPrepareCache) t u)
    (hc : t.committedPrepareCache = s.committedPrepareCache ∨
      u.committedPrepareCache = t.committedPrepareCache)
    (hr : u.rawPrepareCache = t.rawPrepareCache ∨ t.votes = s.votes) : Kept exec M L s u where
  inv := by
    have hg : grow (grow L s.committedPrepareCache t.committedPrepareCache) t.committedPrepareCache
        u.committedPrepareCache = grow L s.committedPrepareCache u.committedPrepareCache := by
      rcases hc with hc | hc <;> rw [hc, grow_self]
    exact hg ▸ h2.inv
  cast := by
    obtain ⟨δ1, h1v, h1d⟩ := h1.cast
    obtain ⟨δ2, h2v, h2d⟩ := h2.cast
    refine ⟨δ1 ++ δ2, by rw [h2v, h1v, List.append_assoc], fun m hm => ?_⟩
    rcases List.mem_append.mp hm with hm | hm
    · rcases hr with hr | hr
      · rw [hr]; exact h1d m hm
      · rw [hr, List.self_eq_append_right] at h1v
        exact absurd hm (h1v ▸ List.not_mem_nil m)
    · exact h2d m hm

/-- **A vote on the executed proposal.** Casting the own vote for a proposal executed from the
held raw one keeps everything. -/
theorem Kept.of_vote (hs : LockInv exec M L s) (hne : s.rawPrepareCache ≠ {})
    (h : t.lockState = s.lockState) (δ : List PBFTMsg) (hv : t.votes = s.votes ++ δ)
    (hd : ∀ m ∈ δ, Derived exec m s.rawPrepareCache) : Kept exec M L s t := by
  have hc : t.committedPrepareCache = s.committedPrepareCache := congrArg (·.2.2.1) h
  have hr : t.rawPrepareCache = s.rawPrepareCache := congrArg (·.1) h
  refine ⟨?_, δ, hv, fun m hm => ?_⟩
  · rw [hc, grow_self]; exact hs.of_lockState h
  · rw [hr]; exact ⟨hne, hd m hm⟩

/-- **Setting the checkpoint, then voting.** A call that checkpoints and backs up the held raw
proposal, and casts only votes for proposals executed from it, keeps everything. -/
theorem Kept.of_checkpoint (env : Env) (hs : LockInv exec M L s) (hne : s.rawPrepareCache ≠ {})
    (hput : env.putOk = true)
    (h : t.lockState = (s.rawPrepareCache, s.prepareCache, s.rawPrepareCache,
      some s.rawPrepareCache, s.consensusBlockNumber)) (δ : List PBFTMsg)
    (hv : t.votes = s.votes ++ δ) (hd : ∀ m ∈ δ, Derived exec m s.rawPrepareCache) :
    Kept exec M L s t := by
  have hc : t.committedPrepareCache = s.rawPrepareCache := congrArg (·.2.2.1) h
  have hr : t.rawPrepareCache = s.rawPrepareCache := congrArg (·.1) h
  refine ⟨?_, δ, hv, fun m hm => ?_⟩
  · rw [hc]
    refine (hs.checkpoint env hne hput).of_lockState ?_
    rw [h, backupMsg_lockState _ env _ hput]; rfl
  · rw [hr]; exact ⟨hne, hd m hm⟩

/-- The invariant after a call that keeps the checkpoint. -/
theorem Kept.lockInv (h : Kept exec M L s t)
    (hc : t.committedPrepareCache = s.committedPrepareCache) : LockInv exec M L t := by
  have := h.inv
  rwa [hc, grow_self] at this

/-- Two parts of a call, the first of which keeps the checkpoint. -/
theorem Kept.trans_left (h1 : Kept exec M L s t)
    (hc : t.committedPrepareCache = s.committedPrepareCache) (h2 : Kept exec M L t u)
    (hr : u.rawPrepareCache = t.rawPrepareCache ∨ t.votes = s.votes) : Kept exec M L s u :=
  h1.trans (by rw [hc, grow_self]; exact h2) (.inl hc) hr

end Operations

/-! ## Calls that cast no vote -/

/-- A call, or part of one, that casts no vote and touches the lock only by forgetting the
executed proposal, or both proposals. -/
structure Quiet (s t : PBFT) : Prop where
  same_votes : t.votes = s.votes
  committed : t.committedPrepareCache = s.committedPrepareCache
  backup : t.backupCommitted = s.backupCommitted
  height : t.consensusBlockNumber = s.consensusBlockNumber
  slots : t.rawPrepareCache = s.rawPrepareCache ∧
      (t.prepareCache = s.prepareCache ∨ t.prepareCache = {}) ∨
    t.rawPrepareCache = {} ∧ t.prepareCache = {}

section Quiet

variable {exec} {M : U256} {L : List PrepareReq} {s t u : PBFT}

theorem Quiet.of_lockState (h : t.lockState = s.lockState) (hv : t.votes = s.votes) :
    Quiet s t := by
  simp only [lockState, Prod.mk.injEq] at h
  exact ⟨hv, h.2.2.1, h.2.2.2.1, h.2.2.2.2, .inl ⟨h.1, .inl h.2.1⟩⟩

theorem Quiet.refl (s : PBFT) : Quiet s s := .of_lockState rfl rfl

theorem Quiet.trans (h1 : Quiet s t) (h2 : Quiet t u) : Quiet s u where
  same_votes := h2.same_votes.trans h1.same_votes
  committed := h2.committed.trans h1.committed
  backup := h2.backup.trans h1.backup
  height := h2.height.trans h1.height
  slots := by
    rcases h2.slots with ⟨r2, p2⟩ | h2'
    · rw [r2]
      rcases h1.slots with ⟨r1, p1⟩ | ⟨r1, p1⟩
      · refine .inl ⟨r1, ?_⟩
        rcases p2 with p2 | p2
        · rw [p2]; exact p1
        · exact .inr p2
      · refine .inr ⟨r1, ?_⟩
        rcases p2 with p2 | p2
        · rw [p2, p1]
        · exact p2
    · exact .inr h2'

/-- A guard that leaves the state as it is is quiet. -/
theorem Quiet.guard {c : Prop} [Decidable c] (h : ¬c → Quiet s t) :
    Quiet s (if c then s else t) :=
  iteInduction (fun _ => .refl s) h

theorem Quiet.emit (s : PBFT) (e : Event) (he : e.vote? = none) : Quiet s (s.emit e) :=
  .of_lockState rfl (by rw [votes_emit, he, Option.toList_none, List.append_nil])

theorem LockInv.quiet (hs : LockInv exec M L s) (hq : Quiet s t) : LockInv exec M L t := by
  rcases hq.slots with ⟨hr, hp | hp⟩ | ⟨hr, hp⟩
  · exact hs.of_lockState (by simp only [lockState, hr, hp, hq.committed, hq.backup, hq.height])
  · exact hs.setPrepare (by simp only [lockState, hr, hp, hq.committed, hq.backup, hq.height])
      (.inl rfl)
  · exact hs.clearProposals (by simp only [lockState, hr, hp, hq.committed, hq.backup, hq.height])

theorem Kept.of_quiet (hs : LockInv exec M L s) (hq : Quiet s t) : Kept exec M L s t :=
  .of_inv (hs.quiet hq) hq.committed hq.same_votes

end Quiet

variable (env : Env)

theorem quiet_insertViewChange (req : PBFTMsg) : Quiet s (s.insertViewChange req) :=
  .of_lockState rfl rfl

theorem quiet_addCommitReq (req : PBFTMsg) : Quiet s (s.addCommitReq req) := .of_lockState rfl rfl

theorem quiet_checkAndSave : Quiet s s.checkAndSave :=
  .of_lockState (checkAndSave_lockState s) (checkAndSave_votes s)

theorem quiet_checkAndChangeView : Quiet s s.checkAndChangeView := by
  have ht : Quiet s (s.touchViewChange s.toView) := .of_lockState rfl rfl
  unfold checkAndChangeView
  exact iteInduction (fun _ => (ht.trans (Quiet.emit _ (.newView _ _ _ _) rfl)).trans
    ⟨rfl, rfl, rfl, rfl, .inr ⟨rfl, rfl⟩⟩) fun _ => ht

theorem quiet_fastViewChange : Quiet s s.fastViewChange := by
  rcases fastViewChange_cases s with h | ⟨tv, h⟩ <;> rw [h]
  · exact .refl s
  · exact .of_lockState rfl rfl

theorem quiet_handleViewChangeMsg (frm : U256) (req : PBFTMsg) (alive : Bool) :
    Quiet s (s.handleViewChangeMsg env frm req alive) := by
  have hm : Quiet s (s.motivate env frm req alive) := by
    unfold motivate; split_ifs
    · exact Quiet.emit s (.reply _) rfl
    · exact .refl s
  unfold handleViewChangeMsg; dsimp only
  exact .guard fun _ => .guard fun _ => iteInduction (fun _ => hm) fun _ =>
    iteInduction (fun _ => hm) fun _ => iteInduction (fun _ => hm) fun _ =>
      hm.trans ((Quiet.emit _ (.viewChangeAccepted req _ _) rfl).trans
        ((quiet_insertViewChange _ req).trans
          (iteInduction (fun _ => quiet_checkAndChangeView _) fun _ => quiet_fastViewChange _)))

theorem quiet_checkTimeout (expired : Bool) : Quiet s (s.checkTimeout env expired) := by
  have hp : Quiet s (s.timeoutView.purgeViewChanges s.timeoutView.toView) := .of_lockState rfl rfl
  have hb : Quiet s ((s.timeoutView.purgeViewChanges s.timeoutView.toView).broadcastViewChangeReq
      env).1 := by
    unfold broadcastViewChangeReq; split_ifs
    · exact hp
    · rw [broadcastMsg_fst]; split_ifs
      · exact hp.trans (Quiet.emit _ (.broadcast (.viewChange _)) rfl)
      · exact hp
  unfold checkTimeout; dsimp only
  split_ifs
  · exact .refl s
  · exact hb.trans (quiet_checkAndChangeView _)
  · exact hb

theorem quiet_handleCommitMsg (req : PBFTMsg) : Quiet s (s.handleCommitMsg env req) := by
  unfold handleCommitMsg
  exact .guard fun _ => .guard fun _ => iteInduction
    (fun _ => iteInduction (fun _ => quiet_addCommitReq s req) fun _ => .refl s)
    fun _ => .guard fun _ => .guard fun _ => (quiet_addCommitReq s req).trans (quiet_checkAndSave _)

theorem quiet_collectGarbage (due : Bool) : Quiet s (s.collectGarbage due) := by
  unfold collectGarbage; split_ifs
  · exact .refl s
  · exact .of_lockState rfl rfl

theorem quiet_resetConfig : Quiet s (s.resetConfig env) := by
  rcases resetConfig_cases env s with h | ⟨t, b, h⟩ | ⟨t, n, idx, l, b, h⟩ <;> rw [h]
  · exact .of_lockState rfl rfl
  · exact .of_lockState rfl rfl
  · exact ⟨rfl, rfl, rfl, rfl, .inl ⟨rfl, .inr rfl⟩⟩

theorem quiet_delCache (h : H256) : Quiet s (s.delCache h) := by
  refine ⟨rfl, rfl, rfl, rfl, .inl ⟨rfl, ?_⟩⟩
  unfold delCache; dsimp only
  split_ifs
  · exact .inr rfl
  · exact .inl rfl

/-! ## Handlers -/

section Handlers

variable {exec} {M : U256} {L : List PrepareReq} {s : PBFT}

/-- **`checkAndCommit` honours the lock.** On a sign quorum for the executed proposal in the
current view it checkpoints the raw proposal that one was executed from, and its Commit vote is
for the executed proposal. An executed slot that is empty has view `2^256 - 1`, so in a view
below that no quorum is ever taken for it. -/
theorem Kept.checkAndCommit (hs : LockInv exec M L s) (hv : s.view ≠ invalid256)
    (hput : env.putOk = true) : Kept exec M L s (s.checkAndCommit env) := by
  have hsrc : s.prepareCache.view = s.view →
      s.rawPrepareCache ≠ {} ∧ Derived exec s.prepareCache.toPBFTMsg s.rawPrepareCache :=
    fun hpv => hs.sourced.resolve_left fun hp => hv (by rw [← hpv, hp])
  unfold PBFT.checkAndCommit; dsimp only
  split_ifs with hq hview hminer
  · exact .of_frame hs (touchSign_lockState _ _) (touchSign_votes _ _)
  · obtain ⟨hne, hd⟩ := hsrc (by simpa using hview)
    refine .of_checkpoint env hs hne hput ?_ _ (by
      rw [checkAndSave_votes, broadcastCommitReq_votes, backupMsg_votes, setCommitted_votes,
        touchSign_votes]) ?_
    · rw [checkAndSave_lockState, broadcastCommitReq_lockState, backupMsg_lockState _ env _ hput]
      simp only [setCommitted, touchSign]
    · intro m hm
      split_ifs at hm
      · obtain rfl := List.mem_singleton.mp hm
        rw [backupMsg_prepareCache]
        exact hd
      · cases hm
  · obtain ⟨hne, -⟩ := hsrc (by simpa using hview)
    refine .of_checkpoint env hs hne hput ?_ [] ?_ fun m hm => by cases hm
    · rw [checkAndSave_lockState, backupMsg_lockState _ env _ hput]
      simp only [setCommitted, touchSign]
    · rw [checkAndSave_votes, backupMsg_votes, setCommitted_votes, touchSign_votes,
        List.append_nil]
  · exact .of_frame hs (touchSign_lockState _ _) (touchSign_votes _ _)

/-- A miner's Sign vote for a proposal executed from the held raw one keeps everything. -/
theorem Kept.signIfMiner (hs : LockInv exec M L s) (hne : s.rawPrepareCache ≠ {}) {r : PrepareReq}
    (hd : Derived exec r.toPBFTMsg s.rawPrepareCache) :
    Kept exec M L s
      (if s.accountType == enAccountTypeMiner then (s.broadcastSignReq env r).1 else s) := by
  refine iteInduction (fun _ => .of_vote hs hne (broadcastSignReq_lockState _ env _) _
    (broadcastSignReq_votes _ env _) fun m hm => ?_) fun _ => .of_frame hs rfl rfl
  split_ifs at hm
  · obtain rfl := List.mem_singleton.mp hm
    exact hd
  · cases hm

/-- **Executing a held proposal.** `executePrepare` on the proposal `req` held raw executes it
with the one executor, holds the re-sealed result as executed, votes for it and checks for a
sign quorum. -/
theorem Kept.executePrepare (hs : LockInv exec M L s) (hexec : env.checkBlockValid = exec)
    (hv : s.view ≠ invalid256) (hput : env.putOk = true) {req : PrepareReq}
    (hraw : s.rawPrepareCache = req) (hne : req ≠ {}) :
    Kept exec M L s (s.executePrepare env req) := by
  unfold PBFT.executePrepare
  split
  · exact .of_frame hs rfl rfl
  rename_i out hout
  split_ifs with hh hempty
  · exact .of_frame hs rfl rfl
  · exact .of_frame hs (changeViewForEmptyBlock_lockState s) rfl
  split
  · exact .of_frame hs rfl rfl
  rename_i h d hsealed
  dsimp only
  have hd : Derived exec (s.regeneratedPrepare env req h d).toPBFTMsg s.rawPrepareCache := by
    rw [hraw]
    exact ⟨rfl, out, d, hexec ▸ hout, by simpa using hh, hsealed⟩
  have hne' : s.rawPrepareCache ≠ {} := hraw ▸ hne
  have h1 : Kept exec M L s (s.addPrepareReq (s.regeneratedPrepare env req h d)) :=
    .of_inv (hs.setPrepare rfl (.inr ⟨hne', hd⟩)) rfl rfl
  have h2 := Kept.signIfMiner env (h1.lockInv rfl) hne' hd
  have hc := congrArg (·.2.2.1) (signIfMiner_lockState
    (s.addPrepareReq (s.regeneratedPrepare env req h d)) env (s.regeneratedPrepare env req h d))
  refine (h1.trans_left rfl h2 (.inr rfl)).trans_left hc (.checkAndCommit env (h2.lockInv hc) ?_
    hput) (.inl (congrArg Prod.fst (checkAndCommit_proposals env _)))
  rw [signIfMiner_view]; exact hv

/-- A proposal that passes `checkSign` is not the empty one. -/
theorem ne_empty_of_checkSign {req : PrepareReq} (h : checkSign env req.toPBFTMsg = true) :
    req ≠ {} := by
  rintro rfl
  obtain ⟨_, -, h1, -⟩ := checkSign_eq_true env h
  exact absurd h1 (by simp)

/-- **`handlePrepareMsg` honours the lock.** A proposal is held raw only at the height being
agreed on and, at the checkpoint's height, only with the checkpoint's hash. -/
theorem Kept.handlePrepareMsg (hs : LockInv exec M L s) (hexec : env.checkBlockValid = exec)
    (hv : s.view ≠ invalid256) (hput : env.putOk = true) (frm : U256) (req : PrepareReq)
    (self : Bool) : Kept exec M L s (s.handlePrepareMsg env frm req self) := by
  unfold PBFT.handlePrepareMsg recvFutureBlock; dsimp only
  refine .guard hs fun _ => .guard hs fun _ => .guard hs fun hlow => ?_
  refine iteInduction (fun _ => iteInduction (fun _ => .of_frame hs rfl rfl)
    fun _ => .of_frame hs rfl rfl) fun hhigh => ?_
  refine .guard hs fun _ => .guard hs fun hlock => .guard hs fun hsig => ?_
  have hh : req.height = s.consensusBlockNumber := by
    simp only [Bool.or_eq_true, decide_eq_true_eq, not_or] at hlow hhigh
    bv_omega
  have hne := ne_empty_of_checkSign env
    (by simpa only [Bool.not_eq_true, Bool.not_eq_false'] using hsig)
  have h1 := hs.addRawPrepare hh fun he => by
    simpa only [he, beq_self_eq_true, Bool.true_and, bne_iff_ne, ne_eq, Decidable.not_not]
      using hlock
  have h2 : Kept exec M L s (s.addRawPrepare req) := .of_inv h1 rfl rfl
  exact h2.trans_left rfl (.executePrepare env h1 hexec hv hput
    (show (s.addRawPrepare req).rawPrepareCache = req from rfl) hne) (.inr rfl)

/-- `handleSignMsg` counts a vote and checks for a sign quorum. -/
theorem Kept.handleSignMsg (hs : LockInv exec M L s) (hv : s.view ≠ invalid256)
    (hput : env.putOk = true) (req : PBFTMsg) : Kept exec M L s (s.handleSignMsg env req) := by
  unfold PBFT.handleSignMsg
  have h1 : Kept exec M L s (s.addSignReq req) := .of_frame hs rfl rfl
  exact .guard hs fun _ => .guard hs fun _ => iteInduction
    (fun _ => iteInduction (fun _ => h1) fun _ => .of_frame hs rfl rfl)
    fun _ => .guard hs fun _ => .guard hs fun _ =>
      h1.trans_left rfl (.checkAndCommit env (h1.lockInv rfl) hv hput) (.inr rfl)

/-- A call part that casts no vote and keeps the raw proposal may follow any call part. -/
theorem Kept.then_quiet {t u : PBFT} (h : Kept exec M L s t) (hq : Quiet t u)
    (hr : u.rawPrepareCache = t.rawPrepareCache) : Kept exec M L s u :=
  h.trans (.of_quiet h.inv hq) (.inr hq.committed) (.inl hr)

/-- `handleMsg`: a handler, then the relay of the message. -/
theorem Kept.handleMsg (hs : LockInv exec M L s) (hexec : env.checkBlockValid = exec)
    (hv : s.view ≠ invalid256) (hput : env.putOk = true) (frm : U256) (p : Packet)
    (alive : Bool) : Kept exec M L s (s.handleMsg env frm p alive) :=
  handleMsg_induction env s frm p alive
    (fun req => .handlePrepareMsg env hs hexec hv hput frm req false)
    (.handleSignMsg env hs hv hput) (fun req => .of_quiet hs (quiet_handleCommitMsg s env req))
    (fun req => .of_quiet hs (quiet_handleViewChangeMsg s env frm req alive))
    fun _ ht => ht.then_quiet (Quiet.emit _ (.relay p) rfl) rfl

/-- `handleFutureBlock`: the parked proposal is handled like a received one. -/
theorem Kept.handleFutureBlock (hs : LockInv exec M L s) (hexec : env.checkBlockValid = exec)
    (hv : s.view ≠ invalid256) (hput : env.putOk = true) :
    Kept exec M L s (s.handleFutureBlock env) := by
  unfold PBFT.handleFutureBlock
  split_ifs
  · exact (Kept.handlePrepareMsg env hs hexec hv hput _ _ false).then_quiet
      (.of_lockState rfl rfl) rfl
  · exact .of_frame hs rfl rfl

/-- A proposal broadcast and then handled as received, as `reHandlePrepareReq` does. -/
theorem Kept.rehandle (hs : LockInv exec M L s) (hexec : env.checkBlockValid = exec)
    (hv : s.view ≠ invalid256) (hput : env.putOk = true) (r : PrepareReq) :
    Kept exec M L s
      ((s.broadcastMsg env (.prepare r)).1.handlePrepareMsg env s.nodeIdx r true) := by
  have hq : Quiet s (s.broadcastMsg env (.prepare r)).1 := by
    rw [broadcastMsg_fst]; split_ifs
    · exact Quiet.emit s (.broadcast (.prepare r)) rfl
    · exact .refl s
  have hv' : (s.broadcastMsg env (.prepare r)).1.view ≠ invalid256 := by
    rw [broadcastMsg_fst]; split_ifs <;> exact hv
  exact (Kept.of_quiet hs hq).trans_left hq.committed
    (.handlePrepareMsg env (hs.quiet hq) hexec hv' hput _ _ true) (.inr hq.same_votes)

/-- `shouldSeal`: the checkpoint at the current height is proposed again and handled as
received. -/
theorem Kept.shouldSeal (hs : LockInv exec M L s) (hexec : env.checkBlockValid = exec)
    (hv : s.view ≠ invalid256) (hput : env.putOk = true) :
    Kept exec M L s (s.shouldSeal env).1 := by
  unfold PBFT.shouldSeal reHandlePrepareReq
  exact iteInduction (motive := fun r : PBFT × Bool => Kept exec M L s r.1)
    (fun _ => .of_frame hs rfl rfl) fun _ =>
    iteInduction (motive := fun r : PBFT × Bool => Kept exec M L s r.1)
      (fun _ => .of_frame hs rfl rfl) fun _ =>
    iteInduction (motive := fun r : PBFT × Bool => Kept exec M L s r.1)
      (fun _ => .of_frame hs rfl rfl) fun _ =>
    iteInduction (motive := fun r : PBFT × Bool => Kept exec M L s r.1)
      (fun _ => iteInduction (motive := Kept exec M L s)
        (fun _ => .rehandle env hs hexec hv hput _) fun _ => .of_frame hs rfl rfl)
      fun _ => .of_frame hs rfl rfl

/-! ## Reports and restarts -/

theorem LockInv.mono (hs : LockInv exec M L s) {M' : U256} (hM : M ≤ M') :
    LockInv exec M' L s :=
  { hs with height_le := hs.height_le.trans (by rw [BitVec.le_def] at hM; omega) }

/-- **A new height.** Moving the height being agreed on past `n ≥` the current one keeps the
invariant, `n` being the last reported block: no checkpoint is of the new height. -/
theorem LockInv.startHeight {t : PBFT} (hs : LockInv exec M L s) {n : U256}
    (hge : s.consensusBlockNumber ≤ n) (hn : n ≠ invalid256)
    (h : t.lockState = (s.rawPrepareCache, s.prepareCache, s.committedPrepareCache,
      s.backupCommitted, n + 1)) : LockInv exec n L t := by
  have hlt := toNat_lt_of_ne_invalid256 hn
  simp only [lockState, Prod.mk.injEq] at h
  obtain ⟨h1, h2, h3, h4, h5⟩ := h
  refine ⟨?_, ?_, ?_, ?_, ?_, fun P hP hc => ?_, fun P hP => ?_⟩
  · rw [h3, h4]; exact hs.backed
  · rw [h5]; bv_omega
  · rw [h1, h2]; exact hs.sourced
  · rw [h1, h5]; intro hne; have := hs.raw_le hne; bv_omega
  · rw [h1]; exact hs.raw_agrees
  · have := hs.below P hP; rw [h5] at hc; bv_omega
  · have := hs.below P hP; rw [h5]; bv_omega

/-- `reportBlock` keeps everything, `b` becoming the last reported block. -/
theorem Kept.reportBlock (hs : LockInv exec M L s) (b : BlockHeader) (hM : M ≤ b.number)
    (hb : b.number ≠ invalid256) : Kept exec b.number L s (s.reportBlock env b) := by
  have hq : ∀ t : PBFT, Quiet t ((t.resetConfig env).delCache b.hash) :=
    fun t => (quiet_resetConfig t env).trans (quiet_delCache _ b.hash)
  unfold PBFT.reportBlock; dsimp only
  split_ifs with hge
  · have h2 : LockInv exec b.number L ((s.setHighest b).startHeight (b.number + 1)).delViewChange :=
      hs.startHeight hge hb rfl
    exact .of_inv (h2.quiet (hq _)) (hq _).committed (hq _).same_votes
  · have h2 : LockInv exec b.number L (s.setHighest b) := (hs.mono hM).of_lockState rfl
    exact .of_inv (h2.quiet (hq _)) (hq _).committed (hq _).same_votes

theorem Quiet.slots_empty {t : PBFT} (hq : Quiet s t) (hr : s.rawPrepareCache = {})
    (hp : s.prepareCache = {}) : t.rawPrepareCache = {} ∧ t.prepareCache = {} := by
  rcases hq.slots with ⟨r, p | p⟩ | h
  · exact ⟨r.trans hr, p.trans hp⟩
  · exact ⟨r.trans hr, p⟩
  · exact h

/-- What a start leaves: no proposal, the backup's checkpoint, height `0`, and the votes of the
output history it is given. -/
theorem initEnv_state (key : Key) (omitEmpty : Bool) (backup : Option PrepareReq)
    (events : List Event) :
    (initEnv env key omitEmpty backup events).rawPrepareCache = {} ∧
      (initEnv env key omitEmpty backup events).prepareCache = {} ∧
      (initEnv env key omitEmpty backup events).committedPrepareCache = backup.getD {} ∧
      (initEnv env key omitEmpty backup events).backupCommitted = backup ∧
      (initEnv env key omitEmpty backup events).consensusBlockNumber = 0 ∧
      (initEnv env key omitEmpty backup events).votes = events.filterMap Event.vote? := by
  have hq := quiet_resetConfig (blank key omitEmpty backup events) env
  obtain ⟨hr, hp⟩ := hq.slots_empty rfl rfl
  have hbk : (resetConfig env (blank key omitEmpty backup events)).backupCommitted = backup :=
    hq.backup
  unfold initEnv reloadMsg; dsimp only
  split <;> rename_i hb
  · exact ⟨hr, hp, by rw [hbk.symm.trans hb]; rfl, hbk, rfl, hq.same_votes⟩
  · exact ⟨hr, hp, hq.committed.trans (by rw [hbk.symm.trans hb]; rfl), hbk, rfl, hq.same_votes⟩

/-- What a restart leaves: no proposal, the backup's checkpoint, the height after the tip, and
the votes sent before the crash. -/
theorem restart_state (tip : BlockHeader) :
    (s.restart env tip).rawPrepareCache = {} ∧ (s.restart env tip).prepareCache = {} ∧
      (s.restart env tip).committedPrepareCache = s.backupCommitted.getD {} ∧
      (s.restart env tip).backupCommitted = s.backupCommitted ∧
      (s.restart env tip).consensusBlockNumber = tip.number + 1 ∧
      (s.restart env tip).votes = s.votes := by
  obtain ⟨hr, hp, hc, hb, hh, hv⟩ :=
    initEnv_state env s.keyPair s.omitEmptyBlock s.backupCommitted s.events
  unfold restart
  generalize initEnv env s.keyPair s.omitEmptyBlock s.backupCommitted s.events = i
    at hr hp hc hb hh hv ⊢
  have hq := (quiet_resetConfig ((i.setHighest tip).startHeight (tip.number + 1)).delViewChange
    env).trans (quiet_delCache _ tip.hash)
  have hge : tip.number ≥ (i.setHighest tip).consensusBlockNumber := by
    show i.consensusBlockNumber ≤ tip.number
    rw [hh]; bv_omega
  have hrep : i.step env (.report tip) = ((((i.setHighest tip).startHeight (tip.number + 1)
      ).delViewChange).resetConfig env).delCache tip.hash := by
    show i.reportBlock env tip = _
    unfold reportBlock; dsimp only; rw [if_pos hge]
  rw [hrep]
  exact ⟨(hq.slots_empty hr hp).1, (hq.slots_empty hr hp).2, hq.committed.trans hc,
    hq.backup.trans hb, hq.height, hq.same_votes.trans hv⟩

/-- **A restart keeps the lock.** The backup restores the checkpoint, and the chain's tip, not
below any block reported before, puts the height being agreed on at or past every checkpoint;
at a checkpoint's height the restored checkpoint is that checkpoint. -/
theorem Kept.restart (hs : LockInv exec M L s) (tip : BlockHeader) (hM : M ≤ tip.number)
    (ht : tip.number ≠ invalid256) : Kept exec tip.number L s (s.restart env tip) := by
  obtain ⟨hr, hp, hc, hb, hh, hv⟩ := @restart_state env s tip
  have hc' := hc.trans hs.backed.symm
  have hlt := toNat_lt_of_ne_invalid256 ht
  have hle := hs.height_le
  refine .of_inv ⟨by rw [hc, hb], ?_, .inl hp, fun h => absurd hr h, fun h => absurd hr h,
    fun P hP hcons => ?_, fun P hP => ?_⟩ hc' hv
  · rw [hh]; bv_omega
  · have hbelow := hs.below P hP
    rw [hh] at hcons
    have hs_eq : s.consensusBlockNumber = P.height := by bv_omega
    obtain ⟨h1, h2, -⟩ := hs.locked P hP hs_eq
    exact ⟨hc' ▸ h1, hc' ▸ h2, .inl hr⟩
  · have hbelow := hs.below P hP
    rw [hh]; bv_omega

/-- **One action keeps the lock**, as long as it runs with the one executor and a working
backup store, is not a `generateSeal` or `generateCommit`, starts in a view below
`2^256 - 1`, and reports no block below the last one reported nor numbered `2^256 - 1`. -/
theorem Kept.act (hs : LockInv exec M L s) (a : NodeAction) (hexec : a.env.checkBlockValid = exec)
    (hput : a.env.putOk = true) (hseal : a.seals = false) (hv : s.view ≠ invalid256)
    (hrep : ∀ n, a.reported = some n → M ≤ n ∧ n ≠ invalid256) :
    Kept exec (a.reported.getD M) L s (s.act a) := by
  cases a with
  | call env i =>
    cases i with
    | msg frm p alive => exact .handleMsg env hs hexec hv hput frm p alive
    | timeout e => exact .of_quiet hs (quiet_checkTimeout s env e)
    | futureBlock => exact .handleFutureBlock env hs hexec hv hput
    | collect due => exact .of_quiet hs (quiet_collectGarbage s due)
    | report b =>
      obtain ⟨hM, hb⟩ := hrep b.number rfl
      exact .reportBlock env hs b hM hb
    | shouldSeal => exact .shouldSeal env hs hexec hv hput
    | generateSeal => cases hseal
    | generateCommit => cases hseal
  | restart env tip =>
    obtain ⟨hM, ht⟩ := hrep tip.number rfl
    exact .restart env hs tip hM ht

end Handlers

/-! ## Runs -/

section Runs

variable {exec : H256 → Bytes → Option ExecutedBlock}

/-- Every vote in `votes` at the height of the checkpoint `P` is for the block executed from a
proposal with `P`'s hash. -/
def VotesHonour (exec : H256 → Bytes → Option ExecutedBlock) (votes : List PBFTMsg)
    (P : PrepareReq) : Prop :=
  ∀ m ∈ votes, m.height = P.height → ∃ R : PrepareReq, R.blockHash = P.blockHash ∧ Derived exec m R

/-- The checkpoints so far, each with the number of votes cast before the call that set it. -/
def extend (L : List (PrepareReq × Nat)) (s t : PBFT) : List (PrepareReq × Nat) :=
  if t.committedPrepareCache = s.committedPrepareCache then L
  else L ++ [(t.committedPrepareCache, s.votes.length)]

theorem grow_map_extend (L : List (PrepareReq × Nat)) (s t : PBFT) :
    grow (L.map Prod.fst) s.committedPrepareCache t.committedPrepareCache =
      (extend L s t).map Prod.fst := by
  unfold grow extend; split_ifs <;> simp

/-- **The votes of one call honour every checkpoint.** After a call kept by `Kept`, each
checkpoint so far, with the one the call set, is honoured by every vote cast since it was set. -/
theorem Kept.honour {M : U256} {L : List (PrepareReq × Nat)} {s t : PBFT}
    (hk : Kept exec M (L.map Prod.fst) s t)
    (hV : ∀ p ∈ L, p.2 ≤ s.votes.length ∧ VotesHonour exec (s.votes.drop p.2) p.1) :
    ∀ p ∈ extend L s t, p.2 ≤ t.votes.length ∧ VotesHonour exec (t.votes.drop p.2) p.1 := by
  obtain ⟨δ, hv, hd⟩ := hk.cast
  have hinv := hk.inv
  rw [grow_map_extend] at hinv
  have hold : ∀ p ∈ extend L s t, p.2 ≤ s.votes.length ∧
      VotesHonour exec (s.votes.drop p.2) p.1 := by
    intro p hp
    unfold extend at hp; split_ifs at hp
    · exact hV p hp
    · rcases List.mem_append.mp hp with hp | hp
      · exact hV p hp
      · obtain rfl := List.mem_singleton.mp hp
        exact ⟨le_rfl, fun m hm => by simp at hm⟩
  intro p hp
  obtain ⟨hle, hon⟩ := hold p hp
  rw [hv, List.drop_append_of_le_length hle]
  refine ⟨by rw [List.length_append]; omega, fun m hm hh => ?_⟩
  rcases List.mem_append.mp hm with hm | hm
  · exact hon m hm hh
  · obtain ⟨hne, hder⟩ := hd m hm
    refine ⟨t.rawPrepareCache, ?_, hder⟩
    exact hinv.raw_agrees hne p.1 (List.mem_map_of_mem _ hp) (hh.symm.trans hder.1)

/-- The first action of a run reports a tip not below `M` and below `2^256 - 1`, and the rest
of the run reports non-decreasing tips from there on. -/
theorem reported_cons {M : U256} {a : NodeAction} {as : List NodeAction}
    (htips : (M :: (a :: as).filterMap NodeAction.reported).Chain' (· ≤ ·))
    (htop : ∀ n ∈ (a :: as).filterMap NodeAction.reported, n ≠ invalid256) :
    (∀ n, a.reported = some n → M ≤ n ∧ n ≠ invalid256) ∧
      (a.reported.getD M :: as.filterMap NodeAction.reported).Chain' (· ≤ ·) ∧
      ∀ n ∈ as.filterMap NodeAction.reported, n ≠ invalid256 := by
  cases hn : a.reported with
  | none =>
    rw [List.filterMap_cons_none hn] at htips htop
    exact ⟨fun _ h => (by cases h), htips, htop⟩
  | some k =>
    rw [List.filterMap_cons_some hn] at htips htop
    obtain ⟨hle, htips⟩ := List.chain'_cons.mp htips
    obtain ⟨hk, htop⟩ := List.forall_mem_cons.mp htop
    exact ⟨fun n h => by cases h; exact ⟨hle, hk⟩, htips, htop⟩

/-- **The lock over a run.** From a state satisfying the invariant for the checkpoints `L`, in
a run of admissible actions, every checkpoint of `L`, and every checkpoint a step of the run
sets, is honoured by every vote cast from then on. -/
theorem live_honours (acts : List NodeAction) :
    ∀ (s : PBFT) (M : U256) (L : List (PrepareReq × Nat)),
    LockInv exec M (L.map Prod.fst) s →
    (∀ p ∈ L, p.2 ≤ s.votes.length ∧ VotesHonour exec (s.votes.drop p.2) p.1) →
    (∀ a ∈ acts, a.env.checkBlockValid = exec) → (∀ a ∈ acts, a.env.putOk = true) →
    (∀ a ∈ acts, a.seals = false) → (M :: acts.filterMap NodeAction.reported).Chain' (· ≤ ·) →
    (∀ n ∈ acts.filterMap NodeAction.reported, n ≠ invalid256) →
    (∀ p ∈ s.lifeSteps acts, p.1.view ≠ invalid256) →
    (∀ p ∈ L, VotesHonour exec ((s.live acts).votes.drop p.2) p.1) ∧
    ∀ p ∈ s.lifeSteps acts, p.2.committedPrepareCache ≠ p.1.committedPrepareCache →
      VotesHonour exec ((s.live acts).votes.drop p.1.votes.length) p.2.committedPrepareCache := by
  induction acts with
  | nil => exact fun s _ _ _ hV _ _ _ _ _ _ => ⟨fun p hp => (hV p hp).2, fun _ hp => by cases hp⟩
  | cons a as ih =>
    intro s M L hs hV hexec hput hseal htips htop hview
    obtain ⟨hexa, hexec⟩ := List.forall_mem_cons.mp hexec
    obtain ⟨hputa, hput⟩ := List.forall_mem_cons.mp hput
    obtain ⟨hseala, hseal⟩ := List.forall_mem_cons.mp hseal
    obtain ⟨hva, hview⟩ := List.forall_mem_cons.mp hview
    obtain ⟨hrep, htips, htop⟩ := reported_cons htips htop
    have hk := Kept.act hs a hexa hputa hseala hva hrep
    have hinv := hk.inv
    rw [grow_map_extend] at hinv
    obtain ⟨h1, h2⟩ := ih (s.act a) _ (extend L s (s.act a)) hinv (hk.honour hV) hexec hput hseal
      htips htop hview
    refine ⟨fun p hp => h1 p ?_, fun p hp hc => ?_⟩
    · unfold extend; split_ifs
      · exact hp
      · exact List.mem_append_left _ hp
    · rcases List.mem_cons.mp hp with rfl | hp
      · exact h1 ((s.act a).committedPrepareCache, s.votes.length) (by
          unfold extend; rw [if_neg hc]
          exact List.mem_append_right _ (List.mem_singleton_self _))
      · exact h2 p hp hc

/-- A node starts with the invariant: no checkpoint yet, nothing held, an empty backup. -/
theorem boot_lockInv (env : Env) (key : Key) (omitEmpty : Bool) (tip : BlockHeader)
    (ht : tip.number ≠ invalid256) : LockInv exec tip.number [] (boot env key omitEmpty tip) := by
  have h0 : LockInv exec 0 [] (blank key omitEmpty none []) :=
    ⟨rfl, by simp [blank], .inl rfl, fun h => absurd rfl h, fun h => absurd rfl h,
      fun _ hP => (by cases hP), fun _ hP => (by cases hP)⟩
  exact (Kept.restart env h0 tip (by bv_omega) ht).lockInv (@restart_state env _ tip).2.2.1

end Runs

end PBFT

/-- **The commit lock, for runs whose backups succeed.** A node starts on an empty backup store
and is told the chain's tip; then it handles messages, timeouts, future blocks, garbage
collections, reports of new tips and `shouldSeal` calls (with their `reHandlePrepareReq`
replays), and crashes and restarts, the chain reporting its tip after each restart. Suppose
every block is executed by `exec`, every backup write succeeds, the host never calls
`generateSeal` or `generateCommit`, the reported block numbers never decrease and stay below
`2^256 - 1`, and no call is made in view `2^256 - 1`. Then whenever a step sets
`m_committed_prepare_cache` to a proposal `P`, every Sign or Commit vote the node broadcasts
from that step on at `P`'s height is for the block `exec` derives from a raw proposal with
`P`'s hash. -/
theorem commit_lock_kept (exec : H256 → Bytes → Option ExecutedBlock) (env : Env) (key : Key)
    (omitEmpty : Bool) (tip : BlockHeader) (acts : List NodeAction)
    (hexec : ∀ a ∈ acts, a.env.checkBlockValid = exec) (hput : ∀ a ∈ acts, a.env.putOk = true)
    (hseal : ∀ a ∈ acts, a.seals = false)
    (htips : (tip.number :: acts.filterMap NodeAction.reported).Chain' (· ≤ ·))
    (htop : ∀ n ∈ tip.number :: acts.filterMap NodeAction.reported, n ≠ invalid256)
    (hview : ∀ p ∈ (PBFT.boot env key omitEmpty tip).lifeSteps acts, p.1.view ≠ invalid256) :
    ∀ p ∈ (PBFT.boot env key omitEmpty tip).lifeSteps acts,
      p.2.committedPrepareCache ≠ p.1.committedPrepareCache →
      ∀ m ∈ ((PBFT.boot env key omitEmpty tip).live acts).votes.drop p.1.votes.length,
        m.height = p.2.committedPrepareCache.height →
        ∃ R : PrepareReq, R.blockHash = p.2.committedPrepareCache.blockHash ∧
          PBFT.Derived exec m R :=
  (PBFT.live_honours acts _ _ [] (PBFT.boot_lockInv env key omitEmpty tip
    (htop _ (List.mem_cons_self _ _))) (fun _ hp => by cases hp) hexec hput hseal htips
    (fun n hn => htop n (List.mem_cons_of_mem _ hn)) hview).2

/-- Miner `1`'s proposal for height `10` reaches node `0` of the scenarios, whose sign quorum
miners `2` and `3` complete; node `0` then crashes and restarts on the same chain. -/
def lockRun : List NodeAction :=
  [.call scenarioEnv (.msg 1 (.prepare (proposal 1 0 50 60)) true),
   .call scenarioEnv (.msg 2 (.sign (vote 2 10 0 1050)) true),
   .call scenarioEnv (.msg 3 (.sign (vote 3 10 0 1050)) true),
   .restart scenarioEnv tip9]

set_option maxRecDepth 4000 in
theorem commit_lock_kept_scenario :
    (∀ a ∈ lockRun, a.env.checkBlockValid = scenarioEnv.checkBlockValid) ∧
    (∀ a ∈ lockRun, a.env.putOk = true) ∧ (∀ a ∈ lockRun, a.seals = false) ∧
    (tip9.number :: lockRun.filterMap NodeAction.reported).Chain' (· ≤ ·) ∧
    (∀ n ∈ tip9.number :: lockRun.filterMap NodeAction.reported, n ≠ invalid256) ∧
    (∀ p ∈ (PBFT.boot scenarioEnv 100 false tip9).lifeSteps lockRun, p.1.view ≠ invalid256) ∧
    ∀ p ∈ (PBFT.boot scenarioEnv 100 false tip9).lifeSteps lockRun,
      p.2.committedPrepareCache ≠ p.1.committedPrepareCache →
      ∀ m ∈ ((PBFT.boot scenarioEnv 100 false tip9).live lockRun).votes.drop p.1.votes.length,
        m.height = p.2.committedPrepareCache.height →
        ∃ R : PrepareReq, R.blockHash = p.2.committedPrepareCache.blockHash ∧
          PBFT.Derived scenarioEnv.checkBlockValid m R := by
  have h1 : ∀ a ∈ lockRun, a.env.checkBlockValid = scenarioEnv.checkBlockValid := by
    intro a ha
    simp only [lockRun, List.mem_cons, List.mem_nil_iff, or_false] at ha
    rcases ha with rfl | rfl | rfl | rfl <;> rfl
  have h2 : ∀ a ∈ lockRun, a.env.putOk = true := by decide
  have h3 : ∀ a ∈ lockRun, a.seals = false := by decide
  have h4 : (tip9.number :: lockRun.filterMap NodeAction.reported).Chain' (· ≤ ·) :=
    List.chain'_pair.2 (BitVec.le_refl _)
  have h5 : ∀ n ∈ tip9.number :: lockRun.filterMap NodeAction.reported, n ≠ invalid256 := by
    show ∀ n ∈ [tip9.number, tip9.number], n ≠ invalid256
    simp only [List.mem_cons, List.mem_nil_iff, or_false, forall_eq_or_imp, forall_eq]
    decide
  have h6 : ∀ p ∈ (PBFT.boot scenarioEnv 100 false tip9).lifeSteps lockRun,
      p.1.view ≠ invalid256 := by decide
  exact ⟨h1, h2, h3, h4, h5, h6, commit_lock_kept _ _ _ _ _ _ h1 h2 h3 h4 h5 h6⟩

/-- `scenarioEnv` with a backup store whose writes fail. -/
def failEnv : Env := { scenarioEnv with putOk := false }

/-- Node `0` of the scenarios holds miner `1`'s proposal for height `10` (hash `50`) and gets
miner `2`'s sign vote, its backup store failing. -/
def lostBackupPre : List NodeAction :=
  [.call failEnv (.msg 1 (.prepare (proposal 1 0 50 60)) true),
   .call failEnv (.msg 2 (.sign (vote 2 10 0 1050)) true)]

/-- Miner `3`'s sign vote completes the quorum: the proposal is checkpointed, and its backup
write fails. -/
def lostBackupLock : NodeAction := .call failEnv (.msg 3 (.sign (vote 3 10 0 1050)) true)

/-- Node `0` crashes and restarts on the same chain; miner `1` then proposes block `61`
(hash `51`) for height `10`. -/
def lostBackupPost : List NodeAction :=
  [.restart scenarioEnv tip9, .call scenarioEnv (.msg 1 (.prepare (proposal 1 0 51 61)) true)]

set_option maxRecDepth 4000 in
/-- A checkpoint whose backup write failed is lost at the next restart: node `0` then accepts
another proposal at the checkpoint's height and signs the block executed from it. No
`generateSeal` or `generateCommit` is called, and the executor is the scenarios' one. -/
theorem lost_backup_breaks_lock :
    ∃ s₁ s₂ s₃, s₁ = (PBFT.boot scenarioEnv 100 false tip9).live lostBackupPre ∧
      s₂ = s₁.act lostBackupLock ∧ s₃ = s₂.live lostBackupPost ∧
      lostBackupLock.env.putOk = false ∧
      (∀ a ∈ lostBackupPre ++ lostBackupLock :: lostBackupPost, a.seals = false) ∧
      s₂.committedPrepareCache ≠ s₁.committedPrepareCache ∧
      ∃ m ∈ s₃.votes.drop s₁.votes.length, m.height = s₂.committedPrepareCache.height ∧
        ∃ R : PrepareReq, R.blockHash ≠ s₂.committedPrepareCache.blockHash ∧
          PBFT.Derived scenarioEnv.checkBlockValid m R :=
  ⟨_, _, _, rfl, rfl, rfl, rfl, by decide, by decide, vote 0 10 0 1051, by decide, by decide,
    proposal 1 0 51 61, by decide, rfl, _, _, rfl, rfl, rfl⟩

/-- The scenario environment with an executor that re-seals a block to itself, as for the
primary's own block, which it built by executing its transactions. -/
def sealEnv : Env := { scenarioEnv with checkBlockValid := fun h d => some ⟨h, 1, some (h, d)⟩ }

/-- A block the primary of height `10` seals, with hash `h`. -/
def ownBlock (h : H256) : BlockHeader := { number := 10, hash := h, valid := true }

/-- Miner `1`, the primary of height `10` in view `0`, is cleared to seal, proposes its block
`50` and votes for it; asked again before the votes are in, it is cleared to seal again; then
miner `2`'s sign vote arrives. -/
def sealPre : List NodeAction :=
  [.call sealEnv .shouldSeal, .call sealEnv (.generateSeal (ownBlock 50) 60),
   .call sealEnv (.generateCommit (ownBlock 50) 60 0), .call sealEnv .shouldSeal,
   .call sealEnv (.msg 2 (.sign (vote 2 10 0 50)) true)]

/-- Miner `3`'s sign vote completes the quorum: block `50` is checkpointed and backed up. -/
def sealLock : NodeAction := .call sealEnv (.msg 3 (.sign (vote 3 10 0 50)) true)

/-- The second sealing round goes on: block `51` is proposed and voted for in view `0`. -/
def sealPost : List NodeAction :=
  [.call sealEnv (.generateSeal (ownBlock 51) 61), .call sealEnv (.generateCommit (ownBlock 51) 61 0)]

set_option maxRecDepth 4000 in
/-- **Sealing bypasses the lock.** With every backup write succeeding, `generateSeal` and
`generateCommit` of a second round that `shouldSeal` cleared before the checkpoint was set
propose and vote for another block at the checkpoint's height: neither has the checks of
`handlePrepareMsg` and `shouldSeal` against `m_committed_prepare_cache`. -/
theorem sealing_breaks_lock :
    ∃ s₁ s₂ s₃, s₁ = (PBFT.boot sealEnv 101 false tip9).live sealPre ∧ s₂ = s₁.act sealLock ∧
      s₃ = s₂.live sealPost ∧ (∀ a ∈ sealPre ++ sealLock :: sealPost, a.env.putOk = true) ∧
      ((PBFT.boot sealEnv 101 false tip9).shouldSeal sealEnv).2 = true ∧
      (((PBFT.boot sealEnv 101 false tip9).live (sealPre.take 3)).shouldSeal sealEnv).2 = true ∧
      s₂.committedPrepareCache ≠ s₁.committedPrepareCache ∧
      ∃ m ∈ s₃.votes.drop s₁.votes.length, m.height = s₂.committedPrepareCache.height ∧
        ∀ R : PrepareReq, PBFT.Derived sealEnv.checkBlockValid m R →
          R.blockHash ≠ s₂.committedPrepareCache.blockHash := by
  refine ⟨_, _, _, rfl, rfl, rfl, by decide, by decide, by decide, by decide, vote 1 10 0 51,
    by decide, by decide, ?_⟩
  rintro R ⟨-, out, d, hexec, -, hsealed⟩
  simp only [sealEnv, Option.some.injEq] at hexec
  subst hexec
  simp only [Option.some.injEq, Prod.mk.injEq] at hsealed
  rw [hsealed.1]
  decide
