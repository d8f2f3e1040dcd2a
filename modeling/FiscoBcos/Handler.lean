/-
# Message handlers, timeouts and sealing

The engine's entry points below the worker loop: the four message handlers
(`handlePrepareMsg`, `handleSignMsg`, `handleCommitMsg`, `handleViewChangeMsg`), the timeout
(`checkTimeout`), the future-proposal slot (`recvFutureBlock`, `handleFutureBlock`) and the
sealing interface the host drives (`shouldSeal`, `reHandlePrepareReq`, `generateSeal`,
`generateCommit`). Each handler's early `return`s are the `else` branches of its conditionals.
-/
import FiscoBcos.Phase

namespace PBFT

variable (env : Env) (s : PBFT)

/-! ## Proposals -/

/-- `recvFutureBlock(from, req)`: park a proposal for a later height or view, unless the slot
already holds one with the same hash. -/
def recvFutureBlock (frm : U256) (req : PrepareReq) : PBFT :=
  if s.futurePrepareCache.2.blockHash != req.blockHash then s.setFuture frm req else s

/-- The proposal `handlePrepareMsg` builds from an executed block: same height, view and author
index as the received one, the re-sealed hash and block, signed by this node. -/
def regeneratedPrepare (req : PrepareReq) (h : H256) (data : Bytes) : PrepareReq :=
  { s.signedMsg req.height req.view req.idx env.utcTime h with block := data }

/-- The part of `handlePrepareMsg` after the proposal was accepted and held raw: execute it,
check the executed hash, give up the view on an empty block, re-seal, hold the result as the
executed proposal, vote for it (a miner) and check for a sign quorum. -/
def executePrepare (req : PrepareReq) : PBFT :=
  match env.checkBlockValid req.blockHash req.block with
  | none => s
  | some out =>
    if out.hash != req.blockHash then s
    else if out.pendingSize == 0 && s.omitEmptyBlock then s.changeViewForEmptyBlock
    else match out.sealed with
    | none => s
    | some (h, data) =>
      let r := s.regeneratedPrepare env req h data
      let s := s.addPrepareReq r
      let s := if s.accountType == enAccountTypeMiner then (s.broadcastSignReq env r).1 else s
      s.checkAndCommit env

/-- `handlePrepareMsg(from, req, self)`. -/
def handlePrepareMsg (frm : U256) (req : PrepareReq) (self : Bool := false) : PBFT :=
  if s.isExistPrepare req then s
  else if !self && req.idx == s.nodeIdx then s
  else if req.height < s.consensusBlockNumber || req.view < s.view then s
  else if req.height > s.consensusBlockNumber || req.view > s.view then s.recvFutureBlock frm req
  else
    let leader := s.getLeader
    if !leader.1 || req.idx != leader.2 then s
    else if req.height == s.committedPrepareCache.height &&
        req.blockHash != s.committedPrepareCache.blockHash then s
    else if !checkSign env req.toPBFTMsg then s
    else (s.addRawPrepare req).executePrepare env req

/-! ## Votes -/

/-- A vote for a block other than the executed proposal is cached when it may belong to a later
height or view (`future_msg`) and its signatures verify. -/
def futureVote (req : PBFTMsg) : Bool :=
  (req.height ≥ s.consensusBlockNumber || req.view > s.view) && checkSign env req

/-- `handleSignMsg(from, req)`. -/
def handleSignMsg (req : PBFTMsg) : PBFT :=
  if s.isExistSign req then s
  else if req.idx == s.nodeIdx then s
  else if s.prepareCache.blockHash != req.blockHash then
    if s.futureVote env req then s.addSignReq req else s
  else if s.prepareCache.view != req.view then s
  else if !checkSign env req then s
  else (s.addSignReq req).checkAndCommit env

/-- `handleCommitMsg(from, req)`. -/
def handleCommitMsg (req : PBFTMsg) : PBFT :=
  if s.isExistCommit req then s
  else if req.idx == s.nodeIdx then s
  else if s.prepareCache.blockHash != req.blockHash then
    if s.futureVote env req then s.addCommitReq req else s
  else if s.prepareCache.view != req.view then s
  else if !checkSign env req then s
  else (s.addCommitReq req).checkAndSave

/-! ## View changes -/

/-- The state of the fast path's scan: `idx_view_map` (per sender, the view counted for it),
`min_view` and `min_height`. -/
structure Scan where
  idxView : Dict U256 U256
  minView : U256
  minHeight : U256

/-- One step of the fast view-change scan over `(view, idx, request)`: a sender's request
counts when it is not below the tip and is for a higher view than any counted for that sender
so far; the scan keeps the least view and the least height counted. -/
def scanStep (tip : U256) (w : U256) (acc : Scan) (i : U256) (e : PBFTMsg) : Scan :=
  if e.height ≥ tip && (!decide (i ∈ acc.idxView) || w > acc.idxView.findD i) then
    { idxView := acc.idxView.insert i w,
      minView := if acc.minView > w then w else acc.minView,
      minHeight := if acc.minHeight > e.height then e.height else acc.minHeight }
  else acc

/-- The nested loop of `handleViewChangeMsg`'s fast path over every cached view above
`toView`, from `idx_view_map` empty and `min_view = min_height = Invalid256`. -/
def fastScan (toView tip : U256) (c : ViewChangeCache) : Scan :=
  c.entries.foldl (fun acc wb => if wb.1 > toView then
      wb.2.entries.foldl (fun acc ie => scanStep tip wb.1 acc ie.1 ie.2) acc else acc)
    ⟨∅, invalid256, invalid256⟩

/-- The fast path: when more than `f` senders ask for views above `toView` (and this node is not
still saving the block it committed at the current height), jump to just below the least of
those views, so that the next timeout completes the change. -/
def fastViewChange : PBFT :=
  let r := fastScan s.toView s.highestBlock.number s.recvViewChangeReq
  let flag := r.minHeight == s.consensusBlockNumber && r.minHeight == s.committedPrepareCache.height
  if count r.idxView > s.f && !flag then s.jumpView (r.minView - 1) else s

/-- The fast path leaves the state alone or only retargets the view. -/
theorem fastViewChange_cases : s.fastViewChange = s ∨ ∃ tv, s.fastViewChange = s.jumpView tv := by
  unfold fastViewChange; dsimp only
  split_ifs
  · exact .inr ⟨_, rfl⟩
  · exact .inl rfl

/-- The view change a node sends a lagging peer: its own request for `toView`. -/
def motivate (frm : U256) (req : PBFTMsg) (sessionAlive : Bool) : PBFT :=
  if req.view + 1 < s.toView && req.idx == frm && s.accountType == enAccountTypeMiner &&
      sessionAlive then
    s.emit (.reply (.viewChange (s.signedMsg s.highestBlock.number s.toView s.nodeIdx
      env.utcTime s.highestBlock.hash)))
  else s

/-- `handleViewChangeMsg(from, req, session)`. -/
def handleViewChangeMsg (frm : U256) (req : PBFTMsg) (sessionAlive : Bool) : PBFT :=
  if s.isExistViewChange req then s
  else if req.idx == s.nodeIdx then s
  else
    let s := s.motivate env frm req sessionAlive
    let tip := s.highestBlock
    if req.height < tip.number || req.view ≤ s.view then s
    else if req.height == tip.number && req.blockHash != tip.hash && !env.blockKnown req.blockHash
    then s
    else if !checkSign env req then s
    else
      let s := s.emit (.viewChangeAccepted req
        ((env.nodeConnManager.getPublicKey req.idx).getD 0) tip.number)
      let s := s.insertViewChange req
      if req.view == s.toView then s.checkAndChangeView else s.fastViewChange

/-- `checkTimeout()`, when the timeout has `expired`: suspect the leader, ask for the next view,
purge the stale requests for it, broadcast the own request and check for a quorum. -/
def checkTimeout (expired : Bool) : PBFT :=
  if !expired then s
  else
    let s := s.timeoutView
    let s := s.purgeViewChanges s.toView
    let r := s.broadcastViewChangeReq env
    if r.2 then r.1.checkAndChangeView else r.1

/-! ## The future slot and sealing -/

/-- `handleFutureBlock()`: handle the parked proposal once it is for the current height and
view, and empty the slot. -/
def handleFutureBlock : PBFT :=
  if s.futurePrepareCache.2.height == s.consensusBlockNumber &&
      s.futurePrepareCache.2.view == s.view then
    (s.handlePrepareMsg env s.futurePrepareCache.1 s.futurePrepareCache.2).setFuture invalid256 {}
  else s

/-- `reHandlePrepareReq(req)`: propose the checkpointed block again in the current view and
handle the proposal as if received. -/
def reHandlePrepareReq (req : PrepareReq) : PBFT :=
  let r : PrepareReq :=
    { s.signedMsg req.height s.view s.nodeIdx env.utcTime req.blockHash with block := req.block }
  (s.broadcastMsg env (.prepare r)).1.handlePrepareMsg env s.nodeIdx r true

/-- `shouldSeal()`: a configured miner that is the leader may seal, unless a block it
checkpointed at the current height is still unsaved, which it proposes again instead. -/
def shouldSeal : PBFT × Bool :=
  if s.cfgErr || s.accountType != enAccountTypeMiner then (s, false)
  else
    let leader := s.getLeader
    if !leader.1 then (s, false)
    else if leader.2 != s.nodeIdx then (s, false)
    else if s.consensusBlockNumber == s.committedPrepareCache.height then
      (if s.consensusBlockNumber != s.rawPrepareCache.height then
        s.reHandlePrepareReq env s.committedPrepareCache else s, false)
    else (s, true)

/-- `generateSeal(header, data, view)`: propose the block; the view it was proposed in is
returned with the outcome. -/
def generateSeal (b : BlockHeader) (data : Bytes) : PBFT × Bool × U256 :=
  let r := s.broadcastPrepareReq env b data
  (r.1, r.2, s.view)

/-- `generateCommit(header, data, view)`: still in `view`, hold the own block as the executed
proposal, vote for it and check for a sign quorum. -/
def generateCommit (b : BlockHeader) (data : Bytes) (v : U256) : PBFT × Bool :=
  if v != s.view then (s, false)
  else
    let req : PrepareReq :=
      { s.signedMsg b.number v s.nodeIdx env.utcTime b.hash with block := data }
    let r := (s.addPrepareReq req).broadcastSignReq env req
    (if r.2 then r.1.checkAndCommit env else r.1, true)

end PBFT
