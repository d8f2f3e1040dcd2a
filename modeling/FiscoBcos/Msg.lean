/-
# Consensus messages, block headers and the engine's outputs

The four wire messages share the record `PBFTMsg`; a proposal (`PrepareReq`) also carries the
serialised block. The message declarations live outside `src/` (in `PBFT.h`), so the record and
its defaults are modelled from the spec's §3 ("Message record `M`").

The engine's observable outputs are collected as `Event`s: what it writes to its peers, what it
hands to `onSealGenerated`, and two of its log lines (a view change accepted, a new view
entered), which carry the data the view-change properties speak about.
-/
import FiscoBcos.Basic

/-! ## Messages -/

/-- Modelled from the spec: `PBFTMsg`, the fields shared by `PrepareReq`, `SignReq`,
`CommitReq` and `ViewChangeReq` (§3): height, view, sender index, timestamp, block hash, `sig`
over the block hash and `sig2` over all fields but the block. A default-constructed or
`clear()`ed message has every number at `Invalid256`, a zero hash and zero signatures. -/
structure PBFTMsg where
  height : U256 := invalid256
  view : U256 := invalid256
  idx : U256 := invalid256
  timestamp : U256 := invalid256
  blockHash : H256 := 0
  sig : Signature := .zero
  sig2 : Signature := .zero
  deriving DecidableEq, Repr

instance : Inhabited PBFTMsg := ⟨{}⟩

/-- `fieldsWithoutBlock()`: the digest `sig2` signs, so that a retransmitted block does not
change the signatures. -/
def PBFTMsg.fieldsWithoutBlock (m : PBFTMsg) : Signed :=
  .fields m.height m.view m.idx m.timestamp m.blockHash

/-- Modelled from the spec: `PrepareReq`, a proposal, which also carries the block. -/
structure PrepareReq extends PBFTMsg where
  block : Bytes := 0
  deriving DecidableEq, Repr

instance : Inhabited PrepareReq := ⟨{}⟩

/-- The four kinds of consensus packet (`PrepareReqPacket = 0`, `SignReqPacket`,
`CommitReqPacket`, `ViewChangeReqPacket`) with their payloads. -/
inductive Packet where
  | prepare (req : PrepareReq)
  | sign (req : PBFTMsg)
  | commit (req : PBFTMsg)
  | viewChange (req : PBFTMsg)
  deriving DecidableEq, Repr

/-! ## Block headers -/

/-- The parts of a `BlockHeader` the engine reads: `number()`, `hash(WithoutSeal)`,
`nodeList()`, and `operator bool` (`valid`, false for a default-constructed header). -/
structure BlockHeader where
  number : U256 := 0
  hash : H256 := 0
  nodeList : List Key := []
  valid : Bool := false
  deriving DecidableEq, Repr

/-! ## Outputs -/

/-- What the engine emits. -/
inductive Event where
  /-- `broadcastMsg` of a message the node made itself. -/
  | broadcast (p : Packet)
  /-- `handleMsg` forwarding a received message to the other miners. -/
  | relay (p : Packet)
  /-- The direct reply of `handleViewChangeMsg` to a lagging peer. -/
  | reply (p : Packet)
  /-- `m_onSealGenerated(block, isPrimary)`: the block of height `height` and hash `hash`
  sealed with the signature list `signList`. -/
  | sealGenerated (height : U256) (hash : H256) (block : Bytes)
      (signList : List (U256 × Signature)) (isPrimary : Bool)
  /-- The `success` line of `handleViewChangeMsg`: `req` was inserted after its signatures
  verified against `pub` (the key `getPublicKey(req.idx)` returned) while the chain tip was
  `tip`. -/
  | viewChangeAccepted (req : PBFTMsg) (pub : Key) (tip : U256)
  /-- The `Reach consensus` line of `checkAndChangeView`: the node enters view `view`, counting
  the votes `votes` (keyed by sender index) against `quorum`, while its own index is `nodeIdx`. -/
  | newView (view : U256) (votes : Dict U256 PBFTMsg) (quorum nodeIdx : U256)
  deriving DecidableEq

/-- The height and hash of a block handed to `onSealGenerated`. -/
def Event.sealed? : Event → Option (U256 × H256)
  | .sealGenerated n h .. => some (n, h)
  | _ => none

/-- A view change entered by `checkAndChangeView`. -/
def Event.isNewView : Event → Bool
  | .newView .. => true
  | _ => false

/-! ## The environment -/

/-- `NodeConnParams`, one entry of the node-configuration map: node id, identity type (miner
or not) and index. Fields the engine does not read are left out. -/
structure NodeConnParams where
  sNodeId : Key
  iIdentityType : Int
  iIdx : U256
  deriving DecidableEq, Repr

/-- The answers of `NodeConnManagerSingleton`, the roster service (declared outside `src/`). -/
structure NodeConnManager where
  getAccountType : Key → Option Nat
  getMinerNum : Nat
  getIdx : Key → Option U256
  getPublicKey : U256 → Option Key
  getAllNodeConnInfo : Int → List NodeConnParams

/-- `m_bc->checkBlockValid` followed by `commitToSeal`/`sealBlock`: the executed block's
`hash(WithoutSeal)`, its number of transactions, and the re-sealed hash and block data (`none`
when `sealBlock` fails). -/
structure ExecutedBlock where
  hash : H256
  pendingSize : Nat
  sealed : Option (H256 × Bytes)

/-- Everything outside the engine that one engine step consults. -/
structure Env where
  nodeConnManager : NodeConnManager
  /-- `m_bc->checkBlockValid(hash, block, out)`; `none` when it throws. -/
  checkBlockValid : H256 → Bytes → Option ExecutedBlock
  /-- `m_bc->block(hash).size() != 0`. -/
  blockKnown : H256 → Bool
  /-- `m_host.lock()` succeeds, so `broadcastMsg` returns true. -/
  hostAlive : Bool
  /-- `h->isConnected(node_id)`. -/
  isConnected : Key → Bool
  /-- `utcTime()`, stamped into new messages. -/
  utcTime : U256
  /-- `m_backup_db->Put` returns ok. -/
  putOk : Bool
