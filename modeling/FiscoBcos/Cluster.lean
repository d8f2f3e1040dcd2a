/-
# A deployment of engines

The miners of a chain each run the engine of `PBFT.cpp` against one roster and one
deterministic executor. A packet reaches a node when some node put it on the network
(`broadcast`, `relay` or `reply` in its output log), or when the faulty nodes can make it
themselves: every signature in it is made with a faulty key. Deliveries may be lost, repeated
and reordered; between them any node may be called by its host, its chain or its timer.

* `ClusterReachable` is every state of a deployment;
* `ClusterReachable.node`: each node of a reachable deployment is in a reachable state of its
  own, so every invariant of one engine holds at every node;
* `Cluster.Agreement`: no two correct nodes hand different blocks of one height to
  `onSealGenerated`;
* `forged_votes_break_agreement`: one faulty miner out of four (`f = 1`) makes two correct
  miners seal different blocks at height `10`.
-/
import FiscoBcos.Tally

/-- The key a signature was made with. -/
def Signature.signer : Signature → Option Key
  | .zero => none
  | .mk k _ _ => some k

/-- Whether a call is the delivery of a packet. -/
def Input.isMsg : Input → Bool
  | .msg .. => true
  | _ => false

/-- The engines of a deployment, by miner index. -/
structure Cluster where
  node : Nat → PBFT

namespace Cluster

/-- Node `i` takes the state `s`. -/
def set (c : Cluster) (i : Nat) (s : PBFT) : Cluster :=
  ⟨fun j => if j = i then s else c.node j⟩

/-- Node `i` handles one call. -/
def call (c : Cluster) (i : Nat) (env : Env) (inp : Input) : Cluster :=
  c.set i ((c.node i).step env inp)

/-- A packet some node put on the network. -/
def Sent (c : Cluster) (p : Packet) : Prop :=
  ∃ i, .broadcast p ∈ (c.node i).events ∨ .relay p ∈ (c.node i).events ∨
    .reply p ∈ (c.node i).events

/-- A packet the faulty nodes can make: each of its signatures is absent or theirs. -/
def Forgeable (faulty : Key → Bool) (p : Packet) : Bool :=
  ((PBFT.Packet.msg p).sig.signer.all faulty) && ((PBFT.Packet.msg p).sig2.signer.all faulty)

/-- Every node started on one chain with tip `tip`; node `i` holds key `key i`. -/
def start (env : Env) (key : Nat → Key) (tip : BlockHeader) : Cluster :=
  ⟨fun i => (PBFT.initEnv env (key i) false none []).step env (.report tip)⟩

end Cluster

/-- The states of a deployment whose miners share the roster `roster` and the executor `exec`,
and whose faulty members hold the keys `faulty` selects. -/
inductive ClusterReachable (faulty : Key → Bool) (roster : NodeConnManager)
    (exec : H256 → Bytes → Option ExecutedBlock) : Cluster → Prop
  | start (env : Env) (key : Nat → Key) (tip : BlockHeader) :
      env.nodeConnManager = roster → env.checkBlockValid = exec →
      ClusterReachable faulty roster exec (Cluster.start env key tip)
  | deliver {c : Cluster} (i : Nat) (env : Env) (frm : U256) (p : Packet) (alive : Bool) :
      env.nodeConnManager = roster → env.checkBlockValid = exec →
      c.Sent p ∨ Cluster.Forgeable faulty p = true → ClusterReachable faulty roster exec c →
      ClusterReachable faulty roster exec (c.call i env (.msg frm p alive))
  | call {c : Cluster} (i : Nat) (env : Env) (inp : Input) :
      env.nodeConnManager = roster → env.checkBlockValid = exec → inp.isMsg = false →
      ClusterReachable faulty roster exec c →
      ClusterReachable faulty roster exec (c.call i env inp)

/-- **Each node of a deployment runs the engine.** Every node of a reachable deployment is in a
reachable state of one engine. -/
theorem ClusterReachable.node {faulty : Key → Bool} {roster : NodeConnManager}
    {exec : H256 → Bytes → Option ExecutedBlock} {c : Cluster}
    (hc : ClusterReachable faulty roster exec c) (j : Nat) : Reachable (c.node j) := by
  induction hc with
  | start env key tip _ _ => exact .step env (.report tip) (.init _ _ _ _)
  | deliver i env frm p alive _ _ _ _ ih | call i env inp _ _ _ _ ih =>
    show Reachable (if j = i then _ else _)
    split_ifs with hj
    · exact .step _ _ (hj ▸ ih)
    · exact ih

namespace Cluster

/-- No two correct nodes hand different blocks of one height to `onSealGenerated`. -/
def Agreement (faulty : Key → Bool) (c : Cluster) : Prop :=
  ∀ i j n h h', faulty (c.node i).keyPair = false → faulty (c.node j).keyPair = false →
    (n, h) ∈ (c.node i).events.filterMap Event.sealed? →
    (n, h') ∈ (c.node j).events.filterMap Event.sealed? → h = h'

/-- Packets delivered in order, each to a node with the environment `env`. -/
def deliverAll (c : Cluster) (env : Env) (ds : List (Nat × U256 × Packet)) : Cluster :=
  ds.foldl (fun c d => c.call d.1 env (.msg d.2.1 d.2.2 true)) c

end Cluster

theorem ClusterReachable.deliverAll {faulty : Key → Bool} {roster : NodeConnManager}
    {exec : H256 → Bytes → Option ExecutedBlock} {c : Cluster} {env : Env}
    (hr : env.nodeConnManager = roster) (he : env.checkBlockValid = exec)
    {ds : List (Nat × U256 × Packet)} (hds : ∀ d ∈ ds, Cluster.Forgeable faulty d.2.2 = true)
    (hc : ClusterReachable faulty roster exec c) :
    ClusterReachable faulty roster exec (c.deliverAll env ds) := by
  induction ds generalizing c with
  | nil => exact hc
  | cons d ds ih =>
    exact ih (fun d' hd' => hds d' (.tail _ hd'))
      (.deliver _ _ _ _ _ hr he (.inr (hds d (.head _))) hc)

/-- Miner `1` is the only faulty miner of the scenario roster. -/
def faultyMiner1 (k : Key) : Bool := k == 101

/-- Miner `1`, primary of height `10` in view `0`, proposes block `50` to miner `0` and block
`51` to miner `2`; each executes its proposal (to `1050` and `1051`) and votes for it, and
miner `1` adds two sign votes and two commit votes for each, signing every one anew. -/
def splitVoteAttack : List (Nat × U256 × Packet) :=
  [(0, 1, .prepare (proposal 1 0 50 60)), (2, 1, .prepare (proposal 1 0 51 61)),
   (0, 1, .sign (vote 1 10 0 1050 1)), (0, 1, .sign (vote 1 10 0 1050 2)),
   (2, 1, .sign (vote 1 10 0 1051 1)), (2, 1, .sign (vote 1 10 0 1051 2)),
   (0, 1, .commit (vote 1 10 0 1050 1)), (0, 1, .commit (vote 1 10 0 1050 2)),
   (2, 1, .commit (vote 1 10 0 1051 1)), (2, 1, .commit (vote 1 10 0 1051 2))]

set_option maxRecDepth 4000 in
/-- With one faulty miner out of four, two correct miners seal different blocks at height
`10`. -/
theorem forged_votes_break_agreement :
    ∃ c, c = (Cluster.start scenarioEnv (100 + ·) tip9).deliverAll scenarioEnv splitVoteAttack ∧
      ClusterReachable faultyMiner1 scenarioRoster scenarioEnv.checkBlockValid c ∧
      (c.node 0).nodeNum = 4 ∧ (c.node 0).f = 1 ∧ ¬ c.Agreement faultyMiner1 := by
  refine ⟨_, rfl, ?_⟩
  have hforged : ∀ d ∈ splitVoteAttack, Cluster.Forgeable faultyMiner1 d.2.2 = true := by decide
  refine ⟨.deliverAll rfl rfl hforged (.start scenarioEnv _ tip9 rfl rfl), by decide, by decide, ?_⟩
  intro h
  have := h 0 2 10 1050 1051 (by decide) (by decide) (by decide) (by decide)
  exact absurd this (by decide)
