/-
# Broadcasting, the phase transitions and reconfiguration

The engine's own messages (`broadcastSignReq`, `broadcastCommitReq`, `broadcastPrepareReq`,
`broadcastViewChangeReq`), the three quorum checks that move a proposal through the protocol
(`checkAndCommit`: sign quorum → commit vote; `checkAndSave`: commit quorum → sealed block;
`checkAndChangeView`: view-change quorum → new view), the roster (re)configuration
(`getMinerList`, `resetConfig`) and the chain's callback `reportBlock`.
-/
import FiscoBcos.State

namespace PBFT

variable (env : Env) (s : PBFT)

/-! ## Messages the node makes -/

/-- A message made and signed by this node: `sig` over the hash, `sig2` over the other fields. -/
def signedMsg (height view idx timestamp : U256) (h : H256) : PBFTMsg :=
  let m : PBFTMsg := { height, view, idx, timestamp, blockHash := h }
  { m with sig := s.signHash (.hash h), sig2 := s.signHash m.fieldsWithoutBlock }

/-- `broadcastMsg`: the message goes out (and the call succeeds) when the host is alive. The
per-peer filters decide which peers get it; they do not touch the engine's state. -/
def broadcastMsg (p : Packet) : PBFT × Bool :=
  if env.hostAlive then (s.emit (.broadcast p), true) else (s, false)

@[simp] theorem broadcastMsg_snd (p : Packet) : (s.broadcastMsg env p).2 = env.hostAlive := by
  unfold broadcastMsg; split_ifs <;> simp [*]

theorem broadcastMsg_fst (p : Packet) :
    (s.broadcastMsg env p).1 = if env.hostAlive then s.emit (.broadcast p) else s := by
  unfold broadcastMsg; split_ifs <;> rfl

/-- `broadcastSignReq(req)`: vote for `req`'s hash in `req`'s view, and record the own vote. -/
def broadcastSignReq (req : PrepareReq) : PBFT × Bool :=
  let v := s.signedMsg req.height req.view s.nodeIdx env.utcTime req.blockHash
  let r := s.broadcastMsg env (.sign v)
  (if r.2 then r.1.addSignReq v else r.1, r.2)

/-- `broadcastCommitReq(req)`: the commit vote, recorded as the own commit. -/
def broadcastCommitReq (req : PrepareReq) : PBFT × Bool :=
  let v := s.signedMsg req.height req.view s.nodeIdx env.utcTime req.blockHash
  let r := s.broadcastMsg env (.commit v)
  (if r.2 then r.1.addCommitReq v else r.1, r.2)

/-- A sign vote goes out, and is recorded, exactly when the host is alive. -/
theorem broadcastSignReq_fst (req : PrepareReq) : (s.broadcastSignReq env req).1 =
    let v := s.signedMsg req.height req.view s.nodeIdx env.utcTime req.blockHash
    if env.hostAlive then (s.emit (.broadcast (.sign v))).addSignReq v else s := by
  unfold broadcastSignReq; dsimp only; rw [broadcastMsg_snd, broadcastMsg_fst]; split_ifs <;> rfl

/-- A commit vote goes out, and is recorded, exactly when the host is alive. -/
theorem broadcastCommitReq_fst (req : PrepareReq) : (s.broadcastCommitReq env req).1 =
    let v := s.signedMsg req.height req.view s.nodeIdx env.utcTime req.blockHash
    if env.hostAlive then (s.emit (.broadcast (.commit v))).addCommitReq v else s := by
  unfold broadcastCommitReq; dsimp only; rw [broadcastMsg_snd, broadcastMsg_fst]; split_ifs <;> rfl

@[simp] theorem broadcastCommitReq_signCache (req : PrepareReq) :
    (s.broadcastCommitReq env req).1.signCache = s.signCache := by
  rw [broadcastCommitReq_fst]; split_ifs <;> rfl

@[simp] theorem broadcastCommitReq_prepareCache (req : PrepareReq) :
    (s.broadcastCommitReq env req).1.prepareCache = s.prepareCache := by
  rw [broadcastCommitReq_fst]; split_ifs <;> rfl

/-- `broadcastPrepareReq(header, data)`: propose the block in the current view and hold it raw. -/
def broadcastPrepareReq (b : BlockHeader) (data : Bytes) : PBFT × Bool :=
  let req : PrepareReq :=
    { s.signedMsg b.number s.view s.nodeIdx env.utcTime b.hash with block := data }
  let r := s.broadcastMsg env (.prepare req)
  (if r.2 then r.1.addRawPrepare req else r.1, r.2)

/-- A proposal goes out, and is held raw, exactly when the host is alive. -/
theorem broadcastPrepareReq_fst (b : BlockHeader) (data : Bytes) :
    (s.broadcastPrepareReq env b data).1 =
    let req : PrepareReq :=
      { s.signedMsg b.number s.view s.nodeIdx env.utcTime b.hash with block := data }
    if env.hostAlive then (s.emit (.broadcast (.prepare req))).addRawPrepare req else s := by
  unfold broadcastPrepareReq; dsimp only; rw [broadcastMsg_snd, broadcastMsg_fst]; split_ifs <;> rfl

/-- `broadcastViewChangeReq()`: a miner asks for view `toView` on top of its chain tip. -/
def broadcastViewChangeReq : PBFT × Bool :=
  if s.accountType != enAccountTypeMiner then (s, true)
  else s.broadcastMsg env
    (.viewChange (s.signedMsg s.highestBlock.number s.toView s.nodeIdx env.utcTime
      s.highestBlock.hash))

/-! ## Quorum checks -/

/-- The size of a bucket as the `u256` the engine compares with `quorum()`. -/
def count {K V : Type} (b : Dict K V) : U256 := BitVec.ofNat 256 b.size

/-- `backupMsg(backup_key_committed, req)`: the write lands when `Put` succeeds. -/
def backupMsg (req : PrepareReq) : PBFT :=
  if env.putOk then { s with backupCommitted := some req } else s

@[simp] theorem backupMsg_signCache (req : PrepareReq) :
    (s.backupMsg env req).signCache = s.signCache := by
  unfold backupMsg; split_ifs <;> rfl

@[simp] theorem backupMsg_prepareCache (req : PrepareReq) :
    (s.backupMsg env req).prepareCache = s.prepareCache := by
  unfold backupMsg; split_ifs <;> rfl

/-- The signature list of a sealed block: every commit vote for it, as `(idx, sig)`. -/
def signList (b : VoteBucket) : List (U256 × Signature) := b.entries.map fun e => (e.2.idx, e.1)

/-- `checkAndSave()`: with a sign quorum and a commit quorum for the executed proposal, not yet
emitted, mark it emitted and, in the proposal's view and above the chain tip, hand the sealed
block with every commit signature to `onSealGenerated`. -/
def checkAndSave : PBFT :=
  let h := s.prepareCache.blockHash
  let s := (s.touchSign h).touchCommit h
  if count (s.signCache.findD h) ≥ s.quorum && count (s.commitCache.findD h) ≥ s.quorum &&
      !(s.commitMap.lookup h).getD false then
    let s := s.markCommitted h
    if s.prepareCache.view != s.view then s
    else if s.prepareCache.height > s.highestBlock.number then
      s.emit (.sealGenerated s.prepareCache.height h s.prepareCache.block
        (signList (s.commitCache.findD h)) (s.prepareCache.idx == s.nodeIdx))
    else s
  else s

/-- `checkAndCommit()`: when the sign votes for the executed proposal number exactly
`quorum()`, in the current view, checkpoint the raw proposal, back it up, cast the own commit
vote (a miner) and try to seal. -/
def checkAndCommit : PBFT :=
  let h := s.prepareCache.blockHash
  let s := s.touchSign h
  if count (s.signCache.findD h) == s.quorum then
    if s.prepareCache.view != s.view then s
    else
      let s := (s.setCommitted s.rawPrepareCache).backupMsg env s.rawPrepareCache
      let s := if s.accountType == enAccountTypeMiner then (s.broadcastCommitReq env s.prepareCache).1
        else s
      s.checkAndSave
  else s

/-- `checkAndChangeView()`: with `quorum() - 1` view changes for `toView` (the node's own vote is
implicit), enter that view. -/
def checkAndChangeView : PBFT :=
  let s := s.touchViewChange s.toView
  let votes := s.recvViewChangeReq.findD s.toView
  if count votes ≥ s.quorum - 1 then (s.emit (.newView s.toView votes s.quorum s.nodeIdx)).enterView
  else s

/-! ## Configuration -/

/-- `_miner_list.resize(n)`: keep the first `n` keys, pad with the zero key. -/
def resize (l : List Key) (n : Nat) : List Key := l.take n ++ List.replicate (n - l.length) 0

/-- The second loop of `getMinerList`: place each miner's key at its index, failing at the
first index (narrowed to `unsigned`) that is not below the miner count. -/
def placeMiners (minerNum : Nat) : List NodeConnParams → List Key → Bool × List Key
  | [], l => (true, l)
  | p :: ps, l =>
    if p.iIdentityType == (enAccountTypeMiner : Int) then
      let idx := p.iIdx.toNat % 2 ^ 32
      if idx ≥ minerNum then (false, l) else placeMiners minerNum ps (l.set idx p.sNodeId)
    else placeMiners minerNum ps l

/-- `getMinerList(blk, list)`: count the miners of the configuration at `blk`, resize `list` to
that count and fill it by index. -/
def getMinerList (r : NodeConnManager) (blk : Int) (l : List Key) : Bool × List Key :=
  let all := r.getAllNodeConnInfo blk
  let minerNum := (all.filter fun p => p.iIdentityType == (enAccountTypeMiner : Int)).length
  placeMiners minerNum all (resize l minerNum)

/-- `resetConfig()`: read the own account type, the miner count and the own index from the
roster; when count or index changed, adopt them and reload the miner list. Any failure sets
`cfgErr`. -/
def resetConfig : PBFT :=
  let r := env.nodeConnManager
  match r.getAccountType s.keyPair with
  | none => s.setCfgErr true
  | some t =>
    let s := s.setAccountType t
    if r.getMinerNum == 0 then s.setCfgErr true
    else match r.getIdx s.keyPair with
    | none => s.setCfgErr true
    | some idx =>
      let n : U256 := BitVec.ofNat 256 r.getMinerNum
      if n != s.nodeNum || idx != s.nodeIdx then
        let s := s.adoptConfig n idx
        match getMinerList r (-1) s.minerList with
        | (false, l) => (s.setMinerList l).setCfgErr true
        | (true, l) => (s.setMinerList l).setCfgErr (BitVec.ofNat 256 l.length != s.nodeNum)
      else s.setCfgErr false

/-- What `resetConfig` can do: fail before reading the account type, keep the configuration
(recording the account type and the outcome), or adopt a new count and index with a new miner
list. -/
theorem resetConfig_cases :
    (s.resetConfig env = s.setCfgErr true) ∨
    (∃ t b, s.resetConfig env = (s.setAccountType t).setCfgErr b) ∨
    (∃ t n idx l b, s.resetConfig env =
      (((s.setAccountType t).adoptConfig n idx).setMinerList l).setCfgErr b) := by
  unfold resetConfig; dsimp only
  split
  · exact .inl rfl
  · rename_i t _
    split_ifs
    · exact .inr (.inl ⟨t, true, rfl⟩)
    · split
      · exact .inr (.inl ⟨t, true, rfl⟩)
      · split_ifs
        · split <;> exact .inr (.inr ⟨t, _, _, _, _, rfl⟩)
        · exact .inr (.inl ⟨t, false, rfl⟩)

/-- `reportBlock(b)`: the chain has a new tip. A tip at or past the height being agreed on
starts the next height in view `0`; in every case the roster is re-read and the votes for the
tip's hash are dropped. -/
def reportBlock (b : BlockHeader) : PBFT :=
  let s := s.setHighest b
  let s := if b.number ≥ s.consensusBlockNumber then (s.startHeight (b.number + 1)).delViewChange
    else s
  (s.resetConfig env).delCache b.hash

end PBFT
