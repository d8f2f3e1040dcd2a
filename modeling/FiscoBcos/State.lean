/-
# The engine's state and its caches

The members of `class PBFT` that the consensus logic reads or writes, and the cache operations
of `PBFT.cpp` (`addRawPrepare`, `addPrepareReq`, `addSignReq`, `addCommitReq`, `delCache`,
`delViewChange`, `collectGarbage`) with their lookups (`isExist*`), leader election
(`getLeader`) and signature checks (`checkSign`).

Each operation is a function of the state; callers use the small lemmas after each definition
instead of unfolding it.
-/
import FiscoBcos.Msg

/-! ## State -/

/-- The votes for one block hash, keyed by `sig.hex()`. -/
abbrev VoteBucket := Dict Signature PBFTMsg

/-- `m_sign_cache` / `m_commit_cache`: block hash → signature → vote. -/
abbrev VoteCache := Dict H256 VoteBucket

/-- `m_recv_view_change_req`: view → sender index → view change. -/
abbrev ViewChangeCache := Dict U256 (Dict U256 PBFTMsg)

/-- The members of `class PBFT` that the consensus logic uses, and the content of the backup
database under `backup_key_committed`. `events` collects the engine's outputs. -/
structure PBFT where
  cfgErr : Bool
  accountType : Nat
  nodeNum : U256
  nodeIdx : U256
  f : U256
  minerList : List Key
  keyPair : Key
  omitEmptyBlock : Bool
  view : U256
  toView : U256
  changeCycle : Nat
  leaderFailed : Bool
  consensusBlockNumber : U256
  highestBlock : BlockHeader
  rawPrepareCache : PrepareReq
  prepareCache : PrepareReq
  committedPrepareCache : PrepareReq
  futurePrepareCache : U256 × PrepareReq
  signCache : VoteCache
  commitCache : VoteCache
  recvViewChangeReq : ViewChangeCache
  commitMap : Dict H256 Bool
  backupCommitted : Option PrepareReq
  events : List Event

namespace PBFT

variable (env : Env) (s : PBFT)

/-- Modelled from the spec: `quorum()` (declared in `PBFT.h`), `N − f`. -/
def quorum : U256 := s.nodeNum - s.f

/-- `getLeader()`: the primary `(view + tip) mod N`, unless the configuration is broken, the
leader has failed or no block has been reported. -/
def getLeader : Bool × U256 :=
  if s.cfgErr || s.leaderFailed || s.highestBlock.number == invalid256 then (false, invalid256)
  else (true, (s.view + s.highestBlock.number) % s.nodeNum)

/-- `signHash(h)`: sign with the node's own key. -/
def signHash (b : Signed) : Signature := signWith s.keyPair b

/-- `checkSign(req)`: both signatures verify against the key the roster gives for `req.idx`. -/
def checkSign (req : PBFTMsg) : Bool :=
  match env.nodeConnManager.getPublicKey req.idx with
  | none => false
  | some pub => verify pub req.sig (.hash req.blockHash) && verify pub req.sig2 req.fieldsWithoutBlock

/-- A request passes `checkSign` exactly when the roster has a key for its sender and both of
its signatures verify against that key. -/
theorem checkSign_eq_true {req : PBFTMsg} (h : checkSign env req = true) :
    ∃ pub, env.nodeConnManager.getPublicKey req.idx = some pub ∧
      verify pub req.sig (.hash req.blockHash) = true ∧
      verify pub req.sig2 req.fieldsWithoutBlock = true := by
  unfold checkSign at h
  split at h
  · cases h
  · rename_i pub hpub
    exact ⟨pub, hpub, Bool.and_eq_true_iff.mp h⟩

/-- `emit`: record an output. -/
def emit (e : Event) : PBFT := { s with events := s.events ++ [e] }

/-! ## Lookups -/

/-- `isExistPrepare(req)`: the proposal is the one already held raw. -/
def isExistPrepare (req : PrepareReq) : Bool := s.rawPrepareCache.blockHash == req.blockHash

/-- `isExistSign` / `isExistCommit`: a vote with this signature is cached for the hash. -/
def isExistVote (c : VoteCache) (req : PBFTMsg) : Bool :=
  match c.lookup req.blockHash with
  | none => false
  | some b => decide (req.sig ∈ b)

/-- `isExistSign(req)`. -/
def isExistSign (req : PBFTMsg) : Bool := isExistVote s.signCache req

/-- `isExistCommit(req)`. -/
def isExistCommit (req : PBFTMsg) : Bool := isExistVote s.commitCache req

/-- `isExistViewChange(req)`: a view change from this sender is cached for the view. -/
def isExistViewChange (req : PBFTMsg) : Bool :=
  match s.recvViewChangeReq.lookup req.view with
  | none => false
  | some b => decide (req.idx ∈ b)

/-! ## Cache updates -/

/-- `addRawPrepare(req)`: hold `req` raw and drop the executed proposal. -/
def addRawPrepare (req : PrepareReq) : PBFT :=
  { s with rawPrepareCache := req, prepareCache := {} }

/-- The purge loop of `addPrepareReq`: drop the votes for `h` cast in a view other than `v`. -/
def purgeOtherViews (c : VoteCache) (h : H256) (v : U256) : VoteCache :=
  match c.lookup h with
  | none => c
  | some b => c.insert h (b.filter fun _ e => e.view == v)

/-- `addPrepareReq(req)`: hold the executed proposal, keeping only the votes for its hash that
were cast in its view. -/
def addPrepareReq (req : PrepareReq) : PBFT :=
  { s with prepareCache := req,
           signCache := purgeOtherViews s.signCache req.blockHash req.view,
           commitCache := purgeOtherViews s.commitCache req.blockHash req.view }

/-- `c[req.block_hash][req.sig.hex()] = req`. -/
def insertVote (c : VoteCache) (req : PBFTMsg) : VoteCache :=
  c.modify req.blockHash fun b => b.insert req.sig req

/-- `addSignReq(req)`. -/
def addSignReq (req : PBFTMsg) : PBFT := { s with signCache := insertVote s.signCache req }

/-- `addCommitReq(req)`; the roster lookup it also makes only logs. -/
def addCommitReq (req : PBFTMsg) : PBFT := { s with commitCache := insertVote s.commitCache req }

/-- `m_sign_cache[h]` read by `operator[]`, which creates an empty bucket. -/
def touchSign (h : H256) : PBFT := { s with signCache := s.signCache.touch h }

/-- `m_commit_cache[h]` read by `operator[]`. -/
def touchCommit (h : H256) : PBFT := { s with commitCache := s.commitCache.touch h }

/-- `m_recv_view_change_req[v]` read by `operator[]`. -/
def touchViewChange (v : U256) : PBFT :=
  { s with recvViewChangeReq := s.recvViewChangeReq.touch v }

/-- `m_committed_prepare_cache = req`. -/
def setCommitted (req : PrepareReq) : PBFT := { s with committedPrepareCache := req }

/-- `m_commitMap[h] = true`: the block with hash `h` has been emitted. -/
def markCommitted (h : H256) : PBFT := { s with commitMap := s.commitMap.insert h true }

/-- `m_recv_view_change_req[req.view][req.idx] = req`. -/
def insertViewChange (req : PBFTMsg) : PBFT :=
  { s with recvViewChangeReq := s.recvViewChangeReq.modify req.view fun b => b.insert req.idx req }

/-- `delCache(h)`: forget every vote and the emission flag for `h`, and the executed proposal
if it is for `h`. -/
def delCache (h : H256) : PBFT :=
  { s with signCache := s.signCache.erase h,
           commitCache := s.commitCache.erase h,
           prepareCache := if h == s.prepareCache.blockHash then {} else s.prepareCache,
           commitMap := s.commitMap.erase h }

/-- A cached view change is still useful: not below the tip, and on the tip's hash when at the
tip's height (the test of `delViewChange` and of `checkTimeout`'s purge). -/
def viewChangeFresh (tip : BlockHeader) (e : PBFTMsg) : Bool :=
  !(e.height < tip.number) && !(e.height == tip.number && e.blockHash != tip.hash)

/-- `delViewChange()`: drop stale view changes, then the views left without any. -/
def delViewChange : PBFT :=
  { s with recvViewChangeReq :=
      (s.recvViewChangeReq.mapVals fun _ b => b.filter fun _ e => viewChangeFresh s.highestBlock e)
        |>.filter fun _ b => b.size != 0 }

/-- `checkTimeout`'s purge of the requests for view `v`: drop the stale ones (the bucket is
created by `operator[]` when absent). -/
def purgeViewChanges (v : U256) : PBFT :=
  { s with recvViewChangeReq :=
      s.recvViewChangeReq.modify v fun b => b.filter fun _ e => viewChangeFresh s.highestBlock e }

/-- One bucket after `collectGarbage`: the votes at or above the tip's height. -/
def keepCurrent (tip : U256) (b : VoteBucket) : VoteBucket := b.filter fun _ e => !(e.height < tip)

/-- `collectGarbage()`, when a block has been reported and `due` (60 s have passed): drop the
votes below the tip; a sign bucket left empty also loses its emission flag. -/
def collectGarbage (due : Bool) : PBFT :=
  if !s.highestBlock.valid || !due then s
  else
    let tip := s.highestBlock.number
    let signs := s.signCache.mapVals fun _ b => keepCurrent tip b
    let commits := s.commitCache.mapVals fun _ b => keepCurrent tip b
    { s with signCache := signs.filter fun _ b => b.size != 0,
             commitMap := s.commitMap.filter fun h _ =>
               !((signs.lookup h).map (·.size == 0)).getD false,
             commitCache := commits.filter fun _ b => b.size != 0 }

/-! ## Views and heights -/

/-- The state change of `checkAndChangeView` on reaching a quorum: enter view `toView`, forget
the proposal, every vote and emission flag, and the view changes up to the new view. -/
def enterView : PBFT :=
  { s with leaderFailed := false, view := s.toView, rawPrepareCache := {}, prepareCache := {},
           signCache := ∅, commitCache := ∅, commitMap := ∅,
           recvViewChangeReq := s.recvViewChangeReq.filter fun w _ => !(w ≤ s.toView) }

/-- The first updates of an expired `checkTimeout`: suspect the leader, target the next view
and back off further. -/
def timeoutView : PBFT :=
  { s with leaderFailed := true, toView := s.toView + 1,
           changeCycle := min (s.changeCycle + 1) kMaxChangeCycle }

/-- The fast view change's jump: target view `tv`, with the back-off matched to it
(`min((unsigned)m_to_view, kMaxChangeCycle)`). -/
def jumpView (tv : U256) : PBFT :=
  { s with toView := tv, changeCycle := min (tv.toNat % 2 ^ 32) kMaxChangeCycle }

/-- `changeViewForEmptyBlockWithoutLock`: restart the back-off so that the next timeout asks
for a view change (the timestamps it zeroes are not modelled; timeouts are inputs). -/
def changeViewForEmptyBlock : PBFT := { s with changeCycle := 0 }

/-- `m_highest_block = b`. -/
def setHighest (b : BlockHeader) : PBFT := { s with highestBlock := b }

/-- `reportBlock`'s start of a new height `n`: view, target view and back-off at `0`. -/
def startHeight (n : U256) : PBFT :=
  { s with view := 0, toView := 0, changeCycle := 0, leaderFailed := false,
           consensusBlockNumber := n }

/-- `m_future_prepare_cache = (frm, req)`. -/
def setFuture (frm : U256) (req : PrepareReq) : PBFT := { s with futurePrepareCache := (frm, req) }

/-! ## Configuration -/

/-- `m_account_type` written by `getAccountType`. -/
def setAccountType (t : Nat) : PBFT := { s with accountType := t }

/-- `m_cfg_err = b`. -/
def setCfgErr (b : Bool) : PBFT := { s with cfgErr := b }

/-- `m_miner_list` written by `getMinerList`. -/
def setMinerList (l : List Key) : PBFT := { s with minerList := l }

/-- `resetConfig`'s adoption of a new miner count `n` and own index `idx`: `f = (n - 1) / 3`,
and the proposal, the sign votes, the view changes and the emission flags are forgotten. -/
def adoptConfig (n idx : U256) : PBFT :=
  { s with nodeNum := n, nodeIdx := idx, f := (n - 1) / 3, prepareCache := {}, signCache := ∅,
           recvViewChangeReq := ∅, commitMap := ∅ }

end PBFT
