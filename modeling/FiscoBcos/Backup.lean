/-
# The committed-proposal checkpoint in bytes

`backupMsg(backup_key_committed, m)` writes the committed proposal to the backup database as
`ts2.appendList(1).append(ts.out())`: a list whose one item is the string of `m`'s fields as
`streamRLPFields` appends them. `reloadMsg` reads the bytes back with `RLP rlp(data)`, clears the
message and has it `populate` itself from `rlp[0]`, reading the fields with `operator[]` from the
payload of that string. The engine's model keeps the checkpoint decoded
(`PBFT.backupCommitted`); this module models the bytes and ties the two together.

* `reloadRecord_backupRecord`: the record of a message reads back as the message;
* `reloadMsg_backupMsg`: after a successful `Put`, `reloadMsg` gives back exactly the message
  written, whatever was stored and whatever the target held, for every message whose record fits
  the library's size limit;
* `Stores.backupMsg`, `Stores.reloadMsg`: the stored bytes are the record of the engine's
  `backupCommitted` after every `backupMsg`, and reading them gives the engine's `reloadMsg`.
-/
import FiscoBcos.Rlp
import FiscoBcos.CommitLock

namespace Backup

open Rlp

/-- Modelled from the spec: the byte forms of the message fields the model keeps abstract
(declared outside `src/`): an `h256`'s bytes and the hash `toHash` rebuilds from 32 of them,
`Signature::asBytes()` and `Signature(bytesConstRef)`, and a block's bytes. -/
structure FieldCodecs where
  hashBytes : H256 → List UInt8
  ofHashBytes : List UInt8 → H256
  sigBytes : Signature → List UInt8
  ofSigBytes : List UInt8 → Signature
  blockBytes : Bytes → List UInt8
  ofBlockBytes : List UInt8 → Bytes

/-- The byte forms read `m`'s abstract fields back: its hash as 32 bytes, both signatures and
its block. The library's `h256`, `Signature` and `bytes` do this for every value; the model's
hashes, signatures and blocks are abstract, so it is stated of `m`. -/
structure FieldCodecs.ReadsBack (cs : FieldCodecs) (m : PrepareReq) : Prop where
  hashLength : (cs.hashBytes m.blockHash).length = 32
  hash : cs.ofHashBytes (cs.hashBytes m.blockHash) = m.blockHash
  sig : cs.ofSigBytes (cs.sigBytes m.sig) = m.sig
  sig2 : cs.ofSigBytes (cs.sigBytes m.sig2) = m.sig2
  block : cs.ofBlockBytes (cs.blockBytes m.block) = m.block

variable (cs : FieldCodecs)

/-- The items `streamRLPFields` appends, in order. -/
def fieldItems (m : PrepareReq) : List (List UInt8) :=
  [appendInt m.height.toNat, appendInt m.view.toNat, appendInt m.idx.toNat,
    appendInt m.timestamp.toNat, appendBytes (cs.hashBytes m.blockHash),
    appendBytes (cs.sigBytes m.sig), appendBytes (cs.sigBytes m.sig2),
    appendBytes (cs.blockBytes m.block)]

/-- Modelled from the spec: `PrepareReq::streamRLPFields(s)` (declared in `PBFT.h`, outside
`src/`): height, view, idx, timestamp, block hash, `sig.asBytes()`, `sig2.asBytes()` and the
block, appended one after another with no list around them. -/
def streamRLPFields (m : PrepareReq) : List UInt8 := (fieldItems cs m).flatten

/-- The bytes `backupMsg` hands to `Put`: `ts2.appendList(1).append(ts.out())`, a list whose one
item is the string of the fields. -/
def backupRecord (m : PrepareReq) : List UInt8 := appendList (appendBytes (streamRLPFields cs m))

/-- Modelled from the spec: `PrepareReq::populate(r)` (declared in `PBFT.h`): the fields read
from `r[0]` to `r[7]`, four integers, a 32-byte hash, two signatures and the block; a read that
throws makes `populate` throw. -/
def populate (r : List UInt8) : Option PrepareReq := do
  let height ← (index r 0).bind toInt
  let view ← (index r 1).bind toInt
  let idx ← (index r 2).bind toInt
  let timestamp ← (index r 3).bind toInt
  let blockHash ← (index r 4).bind toHash
  let sig ← (index r 5).bind toBytes
  let sig2 ← (index r 6).bind toBytes
  let block ← (index r 7).bind toBytes
  pure
    { height := BitVec.ofNat 256 height
      view := BitVec.ofNat 256 view
      idx := BitVec.ofNat 256 idx
      timestamp := BitVec.ofNat 256 timestamp
      blockHash := cs.ofHashBytes blockHash
      sig := cs.ofSigBytes sig
      sig2 := cs.ofSigBytes sig2
      block := cs.ofBlockBytes block }

/-- `reloadMsg` after a `Get` of non-empty bytes: `RLP rlp(data)` (`VeryStrict`), then
`_msg->clear()` and `_msg->populate(rlp[0])`. `populate` writes every field, so nothing `clear`
wrote survives. -/
def reloadRecord (data : List UInt8) : Option PrepareReq :=
  (view true data).bind fun _ => (index data 0).bind (populate cs)

/-- `backupMsg(backup_key_committed, m)` on the stored value: the record replaces it when `Put`
succeeds; a failure is only logged. -/
def backupMsg (putOk : Bool) (stored : Option (List UInt8)) (m : PrepareReq) :
    Option (List UInt8) :=
  if putOk then some (backupRecord cs m) else stored

/-- `reloadMsg(backup_key_committed, &x)` on the stored value: a failed `Get` (nothing stored) or
empty bytes leave `x`; otherwise `x` becomes the decoded record, and a malformed record throws
(`none`). -/
def reloadMsg (stored : Option (List UInt8)) (x : PrepareReq) : Option PrepareReq :=
  match stored with
  | none => some x
  | some data => if data.isEmpty then some x else reloadRecord cs data

/-! ## Reading a record back -/

variable {cs} {m : PrepareReq}

/-- Every field item of a message whose fields fit the size limit is an item. -/
theorem fieldItems_encodes (hsize : (streamRLPFields cs m).length < sizeLimit) :
    ∀ e ∈ fieldItems cs m, ∃ p l, Encodes e p l := by
  intro e he
  have hle : e.length < sizeLimit :=
    lt_of_le_of_lt (List.sublist_flatten_of_mem he).length_le hsize
  simp only [fieldItems, List.mem_cons, List.mem_singleton, List.not_mem_nil, or_false] at he
  rcases he with rfl | rfl | rfl | rfl | rfl | rfl | rfl | rfl
  all_goals first
    | exact ⟨_, _, encodes_appendInt _ (BitVec.isLt _)⟩
    | exact ⟨_, _, encodes_appendBytes (lt_of_le_of_lt (length_le_appendBytes _) hle)⟩

/-- `populate` reads a message back from the string of its fields. -/
theorem populate_streamRLPFields (hcs : cs.ReadsBack m)
    (hsize : (appendBytes (streamRLPFields cs m)).length < sizeLimit) :
    populate cs (appendBytes (streamRLPFields cs m)) = some m := by
  have hF := lt_of_le_of_lt (length_le_appendBytes _) hsize
  have hix : ∀ i, i < 8 →
      index (appendBytes (streamRLPFields cs m)) i = (fieldItems cs m)[i]? :=
    fun i hi => by
      have hi' : i < (fieldItems cs m).length := hi
      rw [(encodes_appendBytes hF).index (fieldItems_encodes hF) hi', List.getElem?_eq_getElem hi']
  have hbytes : ∀ bs, appendBytes bs ∈ fieldItems cs m → bs.length < sizeLimit := fun bs h =>
    lt_of_le_of_lt ((length_le_appendBytes bs).trans (List.sublist_flatten_of_mem h).length_le) hF
  simp (disch := decide) only [populate, hix, fieldItems, List.getElem?_cons_zero,
    List.getElem?_cons_succ, Option.some_bind, toInt_appendInt _ (BitVec.isLt _),
    toHash_appendBytes hcs.hashLength,
    toBytes_appendBytes (hbytes (cs.sigBytes m.sig) (by simp [fieldItems])),
    toBytes_appendBytes (hbytes (cs.sigBytes m.sig2) (by simp [fieldItems])),
    toBytes_appendBytes (hbytes (cs.blockBytes m.block) (by simp [fieldItems])),
    Option.bind_eq_bind, Option.pure_def, BitVec.ofNat_toNat, BitVec.setWidth_eq, hcs.hash,
    hcs.sig, hcs.sig2, hcs.block]

/-- The record of a message reads back as the message. -/
theorem reloadRecord_backupRecord (hcs : cs.ReadsBack m)
    (hsize : (backupRecord cs m).length ≤ sizeLimit) :
    reloadRecord cs (backupRecord cs m) = some m := by
  have hitem : (appendBytes (streamRLPFields cs m)).length < sizeLimit :=
    lt_of_lt_of_le (length_lt_appendList _) hsize
  have hrec := encodes_appendList hitem
  have hrec' : Encodes (appendList (appendBytes (streamRLPFields cs m)))
      [appendBytes (streamRLPFields cs m)].flatten true := by
    rwa [List.flatten_singleton]
  have hone : ∀ e ∈ [appendBytes (streamRLPFields cs m)], ∃ p l, Encodes e p l := by
    simp only [List.mem_singleton, forall_eq]
    exact ⟨_, _, encodes_appendBytes (lt_of_le_of_lt (length_le_appendBytes _) hitem)⟩
  rw [reloadRecord, backupRecord, hrec.view_exact, Option.some_bind,
    hrec'.index hone (by decide : 0 < 1), Option.some_bind]
  exact populate_streamRLPFields hcs hitem

/-- `reloadMsg` over a stored record gives back its message, whatever the target held. -/
theorem reloadMsg_some_backupRecord (hcs : cs.ReadsBack m)
    (hsize : (backupRecord cs m).length ≤ sizeLimit) (x : PrepareReq) :
    reloadMsg cs (some (backupRecord cs m)) x = some m := by
  have hne : (backupRecord cs m).isEmpty = false :=
    List.isEmpty_eq_false.mpr (encodes_appendList (lt_of_lt_of_le
      (length_lt_appendList _) hsize)).ne_nil
  rw [reloadMsg, hne, if_neg Bool.false_ne_true]
  exact reloadRecord_backupRecord hcs hsize

/-- **The checkpoint survives a restart exactly.** After `backupMsg` writes a message whose record
fits the size limit and `Put` succeeds, `reloadMsg` gives back that message, whatever was stored
before and whatever the target held. -/
theorem reloadMsg_backupMsg (stored : Option (List UInt8)) (m x : PrepareReq)
    (hcs : cs.ReadsBack m) (hsize : (backupRecord cs m).length ≤ sizeLimit) :
    reloadMsg cs (backupMsg cs true stored m) x = some m := by
  rw [backupMsg, if_pos rfl]
  exact reloadMsg_some_backupRecord hcs hsize x

/-- Byte forms for a test: a hash as 32 big-endian bytes, every signature as the 65 zero bytes of
`Signature()`, a block as its big-endian bytes. -/
def zeroSigCodecs : FieldCodecs where
  hashBytes h := List.replicate (32 - (beBytes h).length) 0 ++ beBytes h
  ofHashBytes := fromBigEndian
  sigBytes _ := List.replicate 65 0
  ofSigBytes _ := .zero
  blockBytes := beBytes
  ofBlockBytes := fromBigEndian

/-- The proposal `(10, 1050)` of miner `1` at view `0`, with its block `1060` and no signatures. -/
def checkpoint : PrepareReq :=
  { height := 10, view := 0, idx := 1, timestamp := 1, blockHash := 1050, block := 1060 }

set_option maxRecDepth 2000 in
theorem reloadMsg_backupMsg_checkpoint :
    zeroSigCodecs.ReadsBack checkpoint ∧ (backupRecord zeroSigCodecs checkpoint).length ≤ sizeLimit ∧
      reloadMsg zeroSigCodecs (backupMsg zeroSigCodecs true none checkpoint) {} = some checkpoint :=
  have hcs : zeroSigCodecs.ReadsBack checkpoint := ⟨by decide, by decide, rfl, rfl, by decide⟩
  have hsize : (backupRecord zeroSigCodecs checkpoint).length ≤ sizeLimit :=
    Nat.le_of_ble_eq_true rfl
  ⟨hcs, hsize, reloadMsg_backupMsg none checkpoint {} hcs hsize⟩

/-! ## The engine's checkpoint

The engine keeps the checkpoint decoded, as `backupCommitted`. The bytes refine it: they are the
record of `backupCommitted` after every write, and reading them restores what the engine's start
and restart restore. -/

/-- The stored bytes are the record of the decoded checkpoint. -/
def Stores (cs : FieldCodecs) (stored : Option (List UInt8)) (committed : Option PrepareReq) :
    Prop :=
  stored = committed.map (backupRecord cs)

/-- The byte-level `backupMsg` keeps the bytes the record of the engine's checkpoint. -/
theorem Stores.backupMsg {stored : Option (List UInt8)} {s : PBFT}
    (h : Stores cs stored s.backupCommitted) (env : Env) (req : PrepareReq) :
    Stores cs (Backup.backupMsg cs env.putOk stored req) (s.backupMsg env req).backupCommitted := by
  unfold Backup.backupMsg PBFT.backupMsg
  split_ifs
  exacts [rfl, h]

/-- Reading the record of a checkpoint every message of which the byte forms read back gives the
checkpoint, or the target when there is none. -/
theorem Stores.reloadMsg {stored : Option (List UInt8)} {b : Option PrepareReq}
    (h : Stores cs stored b)
    (hok : ∀ m, b = some m → cs.ReadsBack m ∧ (backupRecord cs m).length ≤ sizeLimit)
    (x : PrepareReq) : Backup.reloadMsg cs stored x = some (b.getD x) := by
  unfold Stores at h
  subst h
  cases b with
  | none => rfl
  | some m =>
    obtain ⟨hcs, hsize⟩ := hok m rfl
    exact reloadMsg_some_backupRecord hcs hsize x

/-- A node started on the bytes restores the checkpoint `initEnv` restores from the decoded
backup. -/
theorem Stores.initEnv {stored : Option (List UInt8)} {backup : Option PrepareReq}
    (h : Stores cs stored backup)
    (hok : ∀ m, backup = some m → cs.ReadsBack m ∧ (backupRecord cs m).length ≤ sizeLimit)
    (env : Env) (key : Key) (omitEmpty : Bool) (events : List Event) :
    Backup.reloadMsg cs stored {} =
      some (PBFT.initEnv env key omitEmpty backup events).committedPrepareCache := by
  rw [h.reloadMsg hok, (PBFT.initEnv_state env key omitEmpty backup events).2.2.1]

/-- A node restarted on the bytes restores the checkpoint the engine's restart restores. -/
theorem Stores.restart {stored : Option (List UInt8)} {s : PBFT}
    (h : Stores cs stored s.backupCommitted)
    (hok : ∀ m, s.backupCommitted = some m → cs.ReadsBack m ∧
      (backupRecord cs m).length ≤ sizeLimit)
    (env : Env) (tip : BlockHeader) :
    Backup.reloadMsg cs stored {} = some (s.restart env tip).committedPrepareCache := by
  rw [h.reloadMsg hok, (PBFT.restart_state env tip).2.2.1]

end Backup
