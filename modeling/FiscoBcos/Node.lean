/-
# One node: its entry points, its start and its runs

The worker loop pops a packet and calls `handleMsg`, then `checkTimeout`, `handleFutureBlock`
and `collectGarbage`; the chain calls `reportBlock`; the host calls `shouldSeal`,
`generateSeal` and `generateCommit`. Each call takes the engine's one mutex, so a node is a
state machine whose steps are these calls, in any order, each against the environment
(roster, chain, network, clock) of its moment.

* `step` is one call; `PBFT.run` a sequence of them;
* `initEnv` is the engine's start (with the durable backup and the output history so far);
* `Reachable` is every state a node reaches from a start.
-/
import FiscoBcos.Handler

namespace PBFT

variable (env : Env) (s : PBFT)

/-- `handleMsg`'s forwarding: the received message goes on to the other miners. -/
def relayMsg (p : Packet) : PBFT := if env.hostAlive then s.emit (.relay p) else s

/-- The common record of a packet. -/
def Packet.msg : Packet → PBFTMsg
  | .prepare req => req.toPBFTMsg
  | .sign req | .commit req | .viewChange req => req

/-- `handleMsg(id, from, node, r, session)`: dispatch the packet to its handler, then forward
it when it is recent (within 10 blocks of the tip, or above it) and its sender made it. -/
def handleMsg (frm : U256) (p : Packet) (sessionAlive : Bool) : PBFT :=
  let s := match p with
    | .prepare req => s.handlePrepareMsg env frm req
    | .sign req => s.handleSignMsg env req
    | .commit req => s.handleCommitMsg env req
    | .viewChange req => s.handleViewChangeMsg env frm req sessionAlive
  let m := Packet.msg p
  let tip := s.highestBlock.number
  if (m.height > tip || tip - m.height < 10) && m.idx == frm then s.relayMsg env p else s

/-- A state property holds after `handleMsg` when it holds after each handler and is kept by
the relay of the packet. -/
theorem handleMsg_induction {P : PBFT → Prop} (frm : U256) (p : Packet) (alive : Bool)
    (hprep : ∀ req, P (s.handlePrepareMsg env frm req)) (hsign : ∀ req, P (s.handleSignMsg env req))
    (hcommit : ∀ req, P (s.handleCommitMsg env req))
    (hview : ∀ req, P (s.handleViewChangeMsg env frm req alive))
    (hrelay : ∀ t, P t → P (t.emit (.relay p))) : P (s.handleMsg env frm p alive) := by
  have relay : ∀ t c, [Decidable c] → P t → P (if c then t.relayMsg env p else t) :=
    fun t _ _ ht => iteInduction (fun _ => iteInduction (fun _ => hrelay t ht) fun _ => ht)
      fun _ => ht
  unfold handleMsg
  cases p with
  | prepare req => exact relay _ _ (hprep req)
  | sign req => exact relay _ _ (hsign req)
  | commit req => exact relay _ _ (hcommit req)
  | viewChange req => exact relay _ _ (hview req)

end PBFT

/-- The calls into a running engine. -/
inductive Input where
  /-- The worker pops a packet sent by the peer with index `frm`. -/
  | msg (frm : U256) (p : Packet) (sessionAlive : Bool)
  /-- `checkTimeout()`; `expired` says whether the current timeout has run out. -/
  | timeout (expired : Bool)
  | futureBlock
  /-- `collectGarbage()`; `due` says whether 60 s have passed since the last collection. -/
  | collect (due : Bool)
  | report (b : BlockHeader)
  | shouldSeal
  | generateSeal (b : BlockHeader) (data : Bytes)
  | generateCommit (b : BlockHeader) (data : Bytes) (view : U256)

namespace PBFT

/-- One call into the engine. -/
def step (env : Env) (s : PBFT) : Input → PBFT
  | .msg frm p alive => s.handleMsg env frm p alive
  | .timeout e => s.checkTimeout env e
  | .futureBlock => s.handleFutureBlock env
  | .collect due => s.collectGarbage due
  | .report b => s.reportBlock env b
  | .shouldSeal => (s.shouldSeal env).1
  | .generateSeal b data => (s.generateSeal env b data).1
  | .generateCommit b data v => (s.generateCommit env b data v).1

/-- Calls in sequence, each with its environment. -/
def run (s : PBFT) (r : List (Env × Input)) : PBFT := r.foldl (fun s ei => s.step ei.1 ei.2) s

@[simp] theorem run_nil (s : PBFT) : s.run [] = s := rfl

@[simp] theorem run_cons (s : PBFT) (e : Env × Input) (r : List (Env × Input)) :
    s.run (e :: r) = (s.step e.1 e.2).run r := rfl

theorem run_append (s : PBFT) (r r' : List (Env × Input)) :
    s.run (r ++ r') = (s.run r).run r' := List.foldl_append _ _ _ _

/-- The states a run passes through, the first and the last included. -/
def trace (s : PBFT) : List (Env × Input) → List PBFT
  | [] => [s]
  | e :: r => s :: (s.step e.1 e.2).trace r

theorem trace_head? (s : PBFT) (r : List (Env × Input)) : (s.trace r).head? = some s := by
  cases r <;> rfl

/-- Modelled from the spec: the member initialisers of `class PBFT` (in `PBFT.h`): no roster
yet, view `0`, every cache empty, every held proposal default. The node's key, the
empty-block policy, the durable backup and the outputs so far are given. -/
def blank (key : Key) (omitEmpty : Bool) (backup : Option PrepareReq) (events : List Event) : PBFT where
  cfgErr := false
  accountType := 0
  nodeNum := 0
  nodeIdx := 0
  f := 0
  minerList := []
  keyPair := key
  omitEmptyBlock := omitEmpty
  view := 0
  toView := 0
  changeCycle := 0
  leaderFailed := false
  consensusBlockNumber := 0
  highestBlock := {}
  rawPrepareCache := {}
  prepareCache := {}
  committedPrepareCache := {}
  futurePrepareCache := (invalid256, {})
  signCache := ∅
  commitCache := ∅
  recvViewChangeReq := ∅
  commitMap := ∅
  backupCommitted := backup
  events := events

/-- `reloadMsg(backup_key_committed, &m_committed_prepare_cache)`. -/
def reloadMsg (s : PBFT) : PBFT :=
  match s.backupCommitted with
  | some req => s.setCommitted req
  | none => s

/-- `initEnv(...)`: configure from the roster, start at height `0` with no target view, and
restore the checkpoint from the backup. -/
def initEnv (env : Env) (key : Key) (omitEmpty : Bool) (backup : Option PrepareReq)
    (events : List Event) : PBFT :=
  let s := (blank key omitEmpty backup events).resetConfig env
  reloadMsg { s with consensusBlockNumber := 0, changeCycle := 0, toView := 0,
                     leaderFailed := false, futurePrepareCache := (invalid256, {}) }

end PBFT

/-- The states a node reaches in one lifetime: a fresh start, then any calls. -/
inductive Reachable : PBFT → Prop
  | init (env : Env) (key : Key) (omitEmpty : Bool) (backup : Option PrepareReq) :
      Reachable (PBFT.initEnv env key omitEmpty backup [])
  | step {s : PBFT} (env : Env) (i : Input) : Reachable s → Reachable (s.step env i)

/-- A state property that holds at every start and is kept by every call holds in every
reachable state. -/
theorem Reachable.induction {P : PBFT → Prop}
    (hinit : ∀ env key omitEmpty backup, P (PBFT.initEnv env key omitEmpty backup []))
    (hstep : ∀ s env i, P s → P (s.step env i)) {s : PBFT} (hs : Reachable s) : P s := by
  induction hs with
  | init env key omitEmpty backup => exact hinit env key omitEmpty backup
  | step env i _ ih => exact hstep _ env i ih

/-- Every state a run leads to from a reachable state is reachable. -/
theorem Reachable.run {s : PBFT} (hs : Reachable s) (r : List (Env × Input)) :
    Reachable (s.run r) := by
  induction r generalizing s with
  | nil => exact hs
  | cons e r ih => exact ih (.step e.1 e.2 hs)

/-! ## The spec's scenario deployment

The end-to-end scenarios of the spec (§8) run four miners, indices `0..3`, on a chain whose tip
is block `9`, so that in view `0` the primary for height `10` is node `1`. -/

/-- The scenario roster: miner `i` has key `100 + i`. -/
def scenarioRoster : NodeConnManager where
  getAccountType k := if 100 ≤ k ∧ k < 104 then some enAccountTypeMiner else none
  getMinerNum := 4
  getIdx k := if 100 ≤ k ∧ k < 104 then some (BitVec.ofNat 256 (k - 100)) else none
  getPublicKey i := if i < 4 then some (100 + i.toNat) else none
  getAllNodeConnInfo _ := [⟨100, 1, 0⟩, ⟨101, 1, 1⟩, ⟨102, 1, 2⟩, ⟨103, 1, 3⟩]

/-- The scenario environment: execution is deterministic and re-seals the block `d` of hash `h`
(one transaction) as the block `d + 1000` of hash `h + 1000`; the host is up and every backup
write succeeds. -/
def scenarioEnv : Env where
  nodeConnManager := scenarioRoster
  checkBlockValid h d := some { hash := h, pendingSize := 1, sealed := some (h + 1000, d + 1000) }
  blockKnown _ := true
  hostAlive := true
  isConnected _ := true
  utcTime := 1
  putOk := true

/-- The chain tip of the scenarios, block `9`. -/
def tip9 : BlockHeader := { number := 9, hash := 9, valid := true }

/-- Miner `i` of the scenarios, started and told of the tip. -/
def scenarioNode (i : Nat) : PBFT :=
  (PBFT.initEnv scenarioEnv (100 + i) false none []).step scenarioEnv (.report tip9)

theorem scenarioNode_reachable (i : Nat) : Reachable (scenarioNode i) :=
  .step _ _ (.init _ _ _ _)

/-- The scenario roster with an observer: key `104` has index `4` and account type `0`, not a
miner, and the four miners are those of `scenarioRoster`. -/
def observerRoster : NodeConnManager :=
  { scenarioRoster with
    getAccountType := fun k => if k = 104 then some 0 else scenarioRoster.getAccountType k
    getIdx := fun k => if k = 104 then some 4 else scenarioRoster.getIdx k
    getAllNodeConnInfo := fun _ =>
      [⟨100, 1, 0⟩, ⟨101, 1, 1⟩, ⟨102, 1, 2⟩, ⟨103, 1, 3⟩, ⟨104, 0, 4⟩] }

/-- The scenario environment on `observerRoster`. -/
def observerEnv : Env := { scenarioEnv with nodeConnManager := observerRoster }

/-- The observer of the scenarios, started and told of the tip. -/
def observerNode : PBFT :=
  (PBFT.initEnv observerEnv 104 false none []).step observerEnv (.report tip9)

theorem observerNode_reachable : Reachable observerNode :=
  .step _ _ (.init _ _ _ _)

/-- A proposal for height `10` made by miner `j` in view `v`, for block `d` of hash `h`, signed
with nonce `n`. -/
def proposal (j : Nat) (v : U256) (h : H256) (d : Bytes) (n : Nat := 0) : PrepareReq :=
  let m : PBFTMsg := { height := 10, view := v, idx := BitVec.ofNat 256 j, timestamp := 1,
                       blockHash := h }
  { m with sig := .mk (100 + j) (.hash h) n, sig2 := .mk (100 + j) m.fieldsWithoutBlock n,
           block := d }

/-- A vote (sign, commit or view change) at `height` in view `v` for hash `h` by miner `j`,
signed with nonce `n`: an honest miner uses nonce `0`, a faulty one any. -/
def vote (j : Nat) (height v : U256) (h : H256) (n : Nat := 0) : PBFTMsg :=
  let m : PBFTMsg := { height, view := v, idx := BitVec.ofNat 256 j, timestamp := 1,
                       blockHash := h }
  { m with sig := .mk (100 + j) (.hash h) n, sig2 := .mk (100 + j) m.fieldsWithoutBlock n }

/-- Miner `1` of the scenarios is the primary of view `0`; it times out, and miners `2` and
`3` join it in view `1`. -/
def viewOneRun : List (Env × Input) :=
  [(scenarioEnv, .timeout true),
   (scenarioEnv, .msg 2 (.viewChange (vote 2 9 1 9)) true),
   (scenarioEnv, .msg 3 (.viewChange (vote 3 9 1 9)) true)]
