/-
# The peer-seen filters

For every connected peer the engine remembers the keys (`uniqueKey()`) of the messages the peer
has seen, in four sets, one per packet kind: `m_knownPrepare`, `m_knownSign`,
`m_knownViewChange` and `m_knownCommit`. Each is a `QueueSet`, a set that remembers the order
of insertion and drops its oldest key on `pop()`. `broadcastMark` adds a key after a send,
first evicting the oldest key when the set is over its cap; `broadcastFilter` asks whether a
key is known; `clearMask` empties every set of every peer. The four branches of
`broadcastMark` differ only in the set and the cap, so they are one function, `markKnown`.

* `markKnown_size_le`: one mark keeps a set of at most `cap + 1` keys within `cap + 1`;
* `Bounded.run`: over every run of marks and clears every set holds at most its cap plus one;
* `foldl_markKnown_size`: marking keys the set does not hold grows it by one each time up to
  `cap + 1`, never only to `cap`;
* `marks_fill_past_cap`: `kKnownPrepare + 1` distinct prepare keys marked at a new peer are all
  kept.
-/
import FiscoBcos.Basic

/-- Modelled from the spec: `QueueSet<std::string>` (declared outside `src/`), a set of keys in
insertion order, oldest first. -/
structure KnownSet where
  keys : List String
  nodup : keys.Nodup

namespace KnownSet

/-- A set with no key. -/
def empty : KnownSet := ⟨[], List.nodup_nil⟩

/-- `exist(key)`. -/
def exist (q : KnownSet) (k : String) : Bool := decide (k ∈ q.keys)

/-- `size()`. -/
def size (q : KnownSet) : Nat := q.keys.length

/-- `pop()`: drop the oldest key. -/
def pop (q : KnownSet) : KnownSet := ⟨q.keys.tail, q.nodup.sublist (List.tail_sublist _)⟩

/-- `push(key)` of a key the set does not hold: it becomes the newest. -/
def push (q : KnownSet) (k : String) (h : k ∉ q.keys) : KnownSet :=
  ⟨q.keys ++ [k], List.nodup_append.mpr ⟨q.nodup, List.nodup_singleton k,
    List.disjoint_singleton.mpr h⟩⟩

theorem not_mem_pop {q : KnownSet} {k : String} (h : k ∉ q.keys) : k ∉ q.pop.keys :=
  fun hk => h (List.mem_of_mem_tail hk)

/-- One branch of `broadcastMark`: a known key is left alone; a new key is pushed, after the
oldest key is popped when the set holds more than `cap` keys. -/
def markKnown (cap : Nat) (q : KnownSet) (k : String) : KnownSet :=
  if h : q.exist k then q
  else
    have hk : k ∉ q.keys := by simpa [exist] using h
    if q.size > cap then q.pop.push k (not_mem_pop hk) else q.push k hk

@[simp] theorem size_empty : empty.size = 0 := rfl

/-- A new key grows the set by one, unless it holds more than `cap` keys, when the oldest one
makes room. -/
theorem size_markKnown_of_not_mem {cap : Nat} {q : KnownSet} {k : String} (hk : k ∉ q.keys) :
    (markKnown cap q k).size = if q.size > cap then q.size else q.size + 1 := by
  have h : q.exist k = false := by simpa [exist] using hk
  unfold markKnown
  rw [dif_neg (by simp [h])]
  split_ifs with hc
  · simp only [size, push, pop, List.length_append, List.length_tail,
      List.length_singleton] at hc ⊢
    omega
  · simp [size, push]

/-- The keys after a mark are the keys before and the marked one. -/
theorem mem_markKnown {cap : Nat} {q : KnownSet} {k k' : String}
    (h : k' ∈ (markKnown cap q k).keys) : k' ∈ q.keys ∨ k' = k := by
  unfold markKnown at h
  split_ifs at h
  · exact .inl h
  · simp only [push, pop, List.mem_append, List.mem_singleton] at h
    exact h.imp_left List.mem_of_mem_tail
  · simpa [push] using h

/-- **One mark stays within `cap + 1`.** The eviction test `size() > cap` runs before the push,
so a set of `cap` keys grows to `cap + 1`, and one of `cap + 1` keys stays there. -/
theorem markKnown_size_le (cap : Nat) (q : KnownSet) (k : String) (h : q.size ≤ cap + 1) :
    (markKnown cap q k).size ≤ cap + 1 := by
  by_cases hk : k ∈ q.keys
  · unfold markKnown; rw [dif_pos (by simpa [exist] using hk)]; exact h
  · rw [size_markKnown_of_not_mem hk]; split_ifs <;> omega

/-- **Marking new keys fills the set to `cap + 1`.** Marking distinct keys that the set does not
hold grows it by one per key until it holds `cap + 1` keys. -/
theorem foldl_markKnown_size (cap : Nat) :
    ∀ (ks : List String) (q : KnownSet), ks.Nodup → (∀ k ∈ ks, k ∉ q.keys) →
      q.size ≤ cap + 1 →
      (ks.foldl (markKnown cap) q).size = min (q.size + ks.length) (cap + 1)
  | [], q, _, _, h => by simp; omega
  | k :: ks, q, hnd, hnew, h => by
    have hk := hnew k (List.mem_cons_self _ _)
    have hsize : (markKnown cap q k).size = _ := size_markKnown_of_not_mem hk
    rw [List.foldl_cons, foldl_markKnown_size cap ks _ (List.nodup_cons.mp hnd).2
      (fun k' hk' hm => ?_) (markKnown_size_le cap q k h), hsize, List.length_cons]
    · split_ifs <;> omega
    · rcases mem_markKnown hm with hm | rfl
      · exact hnew k' (List.mem_cons_of_mem _ hk') hm
      · exact (List.nodup_cons.mp hnd).1 hk'

end KnownSet

/-! ## A peer's four sets -/

/-- Modelled from the spec: the packet ids of `PBFTPacketType` (declared outside `src/`). -/
def prepareReqPacket : Nat := 0

def signReqPacket : Nat := 1

def commitReqPacket : Nat := 2

def viewChangeReqPacket : Nat := 3

/-- Modelled from the spec: the caps of the four sets, declared outside `src/` ("in the low
thousands"). Every bound below is stated for the caps, whatever their values. -/
def kKnownPrepare : Nat := 1024

def kKnownSign : Nat := 1024

def kKnownCommit : Nat := 1024

def kKnownViewChange : Nat := 1024

/-- The part of `PBFTPeer` the broadcast layer reads and writes. -/
structure PBFTPeer where
  knownPrepare : KnownSet
  knownSign : KnownSet
  knownCommit : KnownSet
  knownViewChange : KnownSet

namespace PBFTPeer

/-- A newly connected peer: nothing known. -/
def empty : PBFTPeer := ⟨.empty, .empty, .empty, .empty⟩

/-- `broadcastFilter(key, id, peer)`: the peer is known to have seen the key; packets of
another kind are always filtered. -/
def broadcastFilter (p : PBFTPeer) (key : String) (id : Nat) : Bool :=
  if id == prepareReqPacket then p.knownPrepare.exist key
  else if id == signReqPacket then p.knownSign.exist key
  else if id == viewChangeReqPacket then p.knownViewChange.exist key
  else if id == commitReqPacket then p.knownCommit.exist key
  else true

/-- `broadcastMark(key, id, peer)`. -/
def broadcastMark (p : PBFTPeer) (key : String) (id : Nat) : PBFTPeer :=
  if id == prepareReqPacket then { p with knownPrepare := p.knownPrepare.markKnown kKnownPrepare key }
  else if id == signReqPacket then { p with knownSign := p.knownSign.markKnown kKnownSign key }
  else if id == viewChangeReqPacket then
    { p with knownViewChange := p.knownViewChange.markKnown kKnownViewChange key }
  else if id == commitReqPacket then { p with knownCommit := p.knownCommit.markKnown kKnownCommit key }
  else p

/-- `clearMask()` for one peer: every set emptied. -/
def clear (_ : PBFTPeer) : PBFTPeer := empty

/-- The calls that change a peer's sets. -/
inductive MaskCall where
  | mark (key : String) (id : Nat)
  /-- `clearMask()`; `alive` says whether the host is up, so that the peers are visited. -/
  | clearMask (alive : Bool)

/-- One call. -/
def apply (p : PBFTPeer) : MaskCall → PBFTPeer
  | .mark key id => p.broadcastMark key id
  | .clearMask alive => if alive then p.clear else p

/-- Each of the four sets holds at most its cap plus one keys. -/
structure Bounded (p : PBFTPeer) : Prop where
  prepare : p.knownPrepare.size ≤ kKnownPrepare + 1
  sign : p.knownSign.size ≤ kKnownSign + 1
  commit : p.knownCommit.size ≤ kKnownCommit + 1
  viewChange : p.knownViewChange.size ≤ kKnownViewChange + 1

theorem bounded_empty : Bounded empty := ⟨by simp [empty], by simp [empty], by simp [empty],
  by simp [empty]⟩

theorem Bounded.broadcastMark {p : PBFTPeer} (hp : Bounded p) (key : String) (id : Nat) :
    Bounded (p.broadcastMark key id) := by
  unfold PBFTPeer.broadcastMark
  split_ifs
  · exact { hp with prepare := KnownSet.markKnown_size_le _ _ _ hp.prepare }
  · exact { hp with sign := KnownSet.markKnown_size_le _ _ _ hp.sign }
  · exact { hp with viewChange := KnownSet.markKnown_size_le _ _ _ hp.viewChange }
  · exact { hp with commit := KnownSet.markKnown_size_le _ _ _ hp.commit }
  · exact hp

theorem Bounded.apply {p : PBFTPeer} (hp : Bounded p) (c : MaskCall) : Bounded (p.apply c) := by
  cases c with
  | mark key id => exact hp.broadcastMark key id
  | clearMask alive =>
    cases alive
    · exact hp
    · exact bounded_empty

/-- **The bound the filters keep.** Over every run of `broadcastMark` and `clearMask` calls,
with any keys and any packet ids, from a peer within the bound, each set holds at most its cap
plus one keys. -/
theorem Bounded.run {p : PBFTPeer} (hp : Bounded p) (cs : List MaskCall) :
    Bounded (cs.foldl PBFTPeer.apply p) := by
  induction cs generalizing p with
  | nil => exact hp
  | cons c cs ih => exact ih (hp.apply c)

/-- Marking prepare keys writes the prepare set only. -/
theorem foldl_broadcastMark_prepare (ks : List String) (p : PBFTPeer) :
    (ks.foldl (fun p k => p.broadcastMark k prepareReqPacket) p).knownPrepare =
      ks.foldl (KnownSet.markKnown kKnownPrepare) p.knownPrepare := by
  induction ks generalizing p with
  | nil => rfl
  | cons k ks ih => exact ih _

/-- `kKnownPrepare + 1` distinct keys: key `n` is `n` letters `k`. -/
def filledKeys : List String :=
  (List.range (kKnownPrepare + 1)).map fun n => String.mk (List.replicate n 'k')

theorem filledKeys_nodup : filledKeys.Nodup :=
  (List.nodup_range _).map fun a b h => by
    simpa using congrArg String.length h

/-- A new peer is sent `kKnownPrepare + 1` distinct proposals: its prepare set keeps all of
their keys, one more than its cap. -/
theorem marks_fill_past_cap :
    ∃ p, p = filledKeys.foldl (fun p k => p.broadcastMark k prepareReqPacket) empty ∧
      p.knownPrepare.size = kKnownPrepare + 1 := by
  refine ⟨_, rfl, ?_⟩
  rw [foldl_broadcastMark_prepare, KnownSet.foldl_markKnown_size _ _ _ filledKeys_nodup
    (fun _ _ h => by simp [empty, KnownSet.empty] at h) (by simp [empty])]
  simp [empty, filledKeys]

end PBFTPeer
