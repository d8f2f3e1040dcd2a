/-
# RLP: the encoding of the backup record

`backupMsg` serialises the committed proposal with `RLPStream` and `reloadMsg` parses it back
with `RLP` (`libdevcore/RLP.h`, outside `src/`). This module models the parts of that library
the two calls use, as functions on byte lists: the writer's `append` of a number, of a byte
string and of a one-item list; the reader's header (`length()`, `payloadOffset()`), the checks
of its constructor, `operator[]`, `toInt`, `toHash` and `toBytes`, each with the exceptions it
throws as `none`.

* `Encodes e p l`: `e`, followed by any bytes, reads as one item of kind `l` with payload `p`;
  `encodes_appendBytes`, `encodes_appendInt` and `encodes_appendList` for what the writer makes;
* `nth_flatten`, `Encodes.index`: `operator[]` walks a payload made of items one item at a
  time, and it does so in the payload of a string as well as of a list;
* `toInt_appendInt`, `toHash_appendBytes`, `toBytes_appendBytes`: the typed reads give back
  what was written.
-/
import FiscoBcos.Basic

namespace Rlp

/-! ## Big-endian numbers -/

/-- Modelled from the spec: `toCompactBigEndian(n)` (`libdevcore`), the big-endian bytes of `n`
with no leading zero; `0` has none. The recursion runs on a fuel of `n` steps, more than the
`log₂₅₆ n + 1` it takes. -/
def beBytes (n : Nat) : List UInt8 := go n n
where
  /-- The bytes of `n`, from at most `fuel` divisions by `256`. -/
  go : Nat → Nat → List UInt8
  | 0, _ => []
  | fuel + 1, n => if n = 0 then [] else go fuel (n / 256) ++ [UInt8.ofNat (n % 256)]

/-- Modelled from the spec: `fromBigEndian(bs)`, the number with big-endian bytes `bs`. -/
def fromBigEndian (bs : List UInt8) : Nat := bs.foldl (fun n b => n * 256 + b.toNat) 0

theorem fromBigEndian_append_singleton (bs : List UInt8) (b : UInt8) :
    fromBigEndian (bs ++ [b]) = fromBigEndian bs * 256 + b.toNat := by
  simp only [fromBigEndian, List.foldl_append, List.foldl_cons, List.foldl_nil]

theorem beBytes_go_zero : ∀ fuel, beBytes.go fuel 0 = []
  | 0 => rfl
  | _ + 1 => if_pos rfl

theorem fromBigEndian_beBytes_go : ∀ fuel n, n ≤ fuel → fromBigEndian (beBytes.go fuel n) = n
  | 0, n, h => by rw [Nat.le_zero.mp h]; rfl
  | fuel + 1, n, h => by
    rw [beBytes.go]
    split_ifs with hn
    · exact hn.symm
    · rw [fromBigEndian_append_singleton, fromBigEndian_beBytes_go fuel (n / 256) (by omega),
        UInt8.toNat_ofNat_of_lt (show n % 256 < UInt8.size from Nat.mod_lt _ (by decide))]
      omega

/-- **The bytes read back as the number.** -/
@[simp] theorem fromBigEndian_beBytes (n : Nat) : fromBigEndian (beBytes n) = n :=
  fromBigEndian_beBytes_go n n le_rfl

theorem length_beBytes_go_le : ∀ fuel n k, n < 256 ^ k → (beBytes.go fuel n).length ≤ k
  | 0, _, _, _ => Nat.zero_le _
  | fuel + 1, n, k, h => by
    rw [beBytes.go]
    split_ifs with hn
    · exact Nat.zero_le _
    · obtain _ | k := k
      · omega
      · have : n / 256 < 256 ^ k := (Nat.div_lt_iff_lt_mul (by decide)).mpr (by
          rw [← Nat.pow_succ]; exact h)
        rw [List.length_append, List.length_singleton]
        exact Nat.succ_le_succ (length_beBytes_go_le fuel (n / 256) k this)

/-- A number below `256^k` takes at most `k` bytes. -/
theorem length_beBytes_le {n k : Nat} (h : n < 256 ^ k) : (beBytes n).length ≤ k :=
  length_beBytes_go_le n n k h

theorem beBytes_go_ne_nil : ∀ fuel n, n ≠ 0 → n ≤ fuel → beBytes.go fuel n ≠ []
  | 0, _, hn, h => absurd (Nat.le_zero.mp h) hn
  | fuel + 1, n, hn, _ => by rw [beBytes.go, if_neg hn]; simp

theorem beBytes_ne_nil {n : Nat} (hn : n ≠ 0) : beBytes n ≠ [] :=
  beBytes_go_ne_nil n n hn le_rfl

theorem head?_beBytes_go : ∀ fuel n, n ≤ fuel → (beBytes.go fuel n).head? ≠ some 0
  | 0, _, _ => by simp [beBytes.go]
  | fuel + 1, n, h => by
    rw [beBytes.go]
    split_ifs with hn
    · simp
    · by_cases hq : n / 256 = 0
      · rw [hq, beBytes_go_zero, List.nil_append, List.head?_singleton]
        intro h0
        have := congrArg UInt8.toNat (Option.some.inj h0)
        rw [UInt8.toNat_ofNat_of_lt (show n % 256 < UInt8.size from Nat.mod_lt _ (by decide))]
          at this
        change n % 256 = 0 at this
        omega
      · rw [List.head?_append_of_ne_nil _ (beBytes_go_ne_nil fuel _ hq (by omega))]
        exact head?_beBytes_go fuel _ (by omega)

/-- The leading byte of a number is not zero. -/
theorem head?_beBytes (n : Nat) : (beBytes n).head? ≠ some 0 := head?_beBytes_go n n le_rfl

/-! ## The writer -/

/-- Modelled from the spec: the header `RLPStream` writes in front of an item of `len` payload
bytes (`pushCount` for a string, the list header `noteAppended` inserts when a list closes):
the byte `base + len` below 56, otherwise `base + 55 + bytesRequired(len)` followed by `len`
big-endian, where `base` is `0xc0` for a list and `0x80` for a string. -/
def lengthPrefix (isList : Bool) (len : Nat) : List UInt8 :=
  let base := if isList then 0xc0 else 0x80
  if len < 56 then [UInt8.ofNat (base + len)]
  else UInt8.ofNat (base + 55 + (beBytes len).length) :: beBytes len

/-- Modelled from the spec: `RLPStream::append(bytesConstRef)`: a single byte below `0x80`
stands for itself; any other string gets a header. -/
def appendBytes : List UInt8 → List UInt8
  | [b] => if b.toNat < 0x80 then [b] else lengthPrefix false 1 ++ [b]
  | bs => lengthPrefix false bs.length ++ bs

/-- Modelled from the spec: `RLPStream::append(bigint)`: `0` is the empty string, a number
below `0x80` its own byte, any other its big-endian bytes behind a string header. -/
def appendInt (n : Nat) : List UInt8 :=
  if n = 0 then [0x80]
  else if n < 0x80 then [UInt8.ofNat n]
  else lengthPrefix false (beBytes n).length ++ beBytes n

/-- Modelled from the spec: `appendList(1).append(x)` for an item `x`: the list's header, written
when its one item closes it, followed by the item. -/
def appendList (item : List UInt8) : List UInt8 := lengthPrefix true item.length ++ item

/-! ## The reader -/

/-- Modelled from the spec: the largest payload length `RLP::length()` accepts, plus one:
`numeric_limits<size_t>::max() - 0x100`. -/
def sizeLimit : Nat := 2 ^ 64 - 1 - 0x100

/-- The header of an item as `RLP` reads it: `isList()`, `payloadOffset()` and `length()`. -/
structure Header where
  isList : Bool
  offset : Nat
  length : Nat
  deriving DecidableEq, Repr

/-- `actualSize()`: the header and the payload. -/
def Header.size (h : Header) : Nat := h.offset + h.length

/-- Modelled from the spec: the long form of a length in `RLP::length()`, `k` bytes after the
first: it throws unless the `k` bytes are there, `k ≤ 8`, the first of them is not zero, and the
length is at least 56 and below `sizeLimit`. -/
def longLength (k : Nat) (rest : List UInt8) : Option Nat :=
  if rest.length < k ∨ 8 < k ∨ rest.head? = some 0 then none
  else
    let len := fromBigEndian (rest.take k)
    if len < 56 ∨ sizeLimit ≤ len then none else some len

/-- Modelled from the spec: the header of the item `d` starts with (`RLP::length()`,
`payloadOffset()`, `isList()`): a byte below `0x80` is its own payload, `0x80..0xb7` and
`0xc0..0xf7` give a short string or list, `0xb8..0xbf` and `0xf8..0xff` a long one. An empty `d`
is the null item. -/
def header : List UInt8 → Option Header
  | [] => some ⟨false, 0, 0⟩
  | b :: rest =>
    if b.toNat < 0x80 then some ⟨false, 0, 1⟩
    else if b.toNat ≤ 0xb7 then some ⟨false, 1, b.toNat - 0x80⟩
    else if b.toNat < 0xc0 then
      (longLength (b.toNat - 0xb7) rest).map fun len => ⟨false, 1 + (b.toNat - 0xb7), len⟩
    else if b.toNat ≤ 0xf7 then some ⟨true, 1, b.toNat - 0xc0⟩
    else (longLength (b.toNat - 0xf7) rest).map fun len => ⟨true, 1 + (b.toNat - 0xf7), len⟩

/-- `payload()`: the `length()` bytes after the header. -/
def payload (d : List UInt8) (h : Header) : List UInt8 := (d.drop h.offset).take h.length

/-- Modelled from the spec: the constructor `RLP(d, ThrowOnFail | FailIfTooSmall)`, and with
`exact` also `FailIfTooBig` (`VeryStrict`, the default): the item `d` starts with must fit in `d`
and, with `exact`, fill it. -/
def view (exact : Bool) (d : List UInt8) : Option Header :=
  (header d).bind fun h =>
    if d.length < h.size ∨ (exact ∧ h.size < d.length) then none else some h

/-- Modelled from the spec: `sizeAsEncoded(d)`, the size of the item `d` starts with. -/
def sizeAsEncoded (d : List UInt8) : Option Nat := (view false d).map Header.size

/-- Modelled from the spec: the loop of `RLP::operator[]` over a payload `d`: skip `i` items one
by one; the walk stops at the null item when the payload runs out. -/
def nth : Nat → List UInt8 → Option (List UInt8)
  | 0, d => (sizeAsEncoded d).map d.take
  | i + 1, d => if d = [] then some [] else (sizeAsEncoded d).bind fun n => nth i (d.drop n)

/-- Modelled from the spec: `r[i]` (`RLP::operator[]`) of the item `d`: the `i`-th item of its
payload, opened with `ThrowOnFail | FailIfTooSmall`. The payload is walked whether `d` is a list
or a string. -/
def index (d : List UInt8) (i : Nat) : Option (List UInt8) :=
  (header d).bind fun h => (nth i (payload d h)).bind fun it => (view false it).map fun _ => it

/-- Modelled from the spec: `isData()`, a non-null item below the list range. -/
def isData : List UInt8 → Bool
  | [] => false
  | b :: _ => b.toNat < 0xc0

/-- Modelled from the spec: `requireGood()`: `0x81` must be followed by a byte of `0x80` or
more, which would otherwise stand for itself. -/
def good : List UInt8 → Bool
  | b :: c :: _ => b.toNat != 0x81 || 0x80 ≤ c.toNat
  | [b] => b.toNat != 0x81
  | [] => true

/-- Modelled from the spec: `isInt()`: a string whose payload has no leading zero; it throws
(`none`) where the byte it looks at is missing. -/
def isInt : List UInt8 → Option Bool
  | [] => some false
  | b :: rest =>
    if b.toNat < 0x80 then some (b.toNat != 0)
    else if b.toNat = 0x80 then some true
    else if b.toNat ≤ 0xb7 then rest.head?.map (· != 0)
    else if b.toNat < 0xc0 then rest[b.toNat - 0xb7]?.map (· != 0)
    else some false

/-- Modelled from the spec: `toInt<u256>()` (`Strict`): an integer item (`isInt()`, so neither a
list nor the null item) of at most 32 payload bytes, read big-endian; otherwise `BadCast`. -/
def toInt (d : List UInt8) : Option Nat :=
  if !good d || isInt d != some true then none
  else (header d).bind fun h =>
    if 32 < (payload d h).length then none else some (fromBigEndian (payload d h))

/-- Modelled from the spec: `toHash<h256>(VeryStrict)`: the payload of a string item of exactly
32 bytes; otherwise `BadCast`. -/
def toHash (d : List UInt8) : Option (List UInt8) :=
  if !good d || !isData d then none
  else (header d).bind fun h => if (payload d h).length = 32 then some (payload d h) else none

/-- Modelled from the spec: `toBytes()` and `toBytesConstRef()` (`LaissezFaire`): the payload of
a string item, and no bytes for anything else. -/
def toBytes (d : List UInt8) : Option (List UInt8) :=
  if !isData d then some [] else (header d).map (payload d)

/-! ## Headers read back -/

theorem longLength_beBytes {len : Nat} (h56 : 56 ≤ len) (hlim : len < sizeLimit)
    (rest : List UInt8) :
    longLength (beBytes len).length (beBytes len ++ rest) = some len := by
  have h8 : (beBytes len).length ≤ 8 :=
    length_beBytes_le (lt_of_lt_of_le hlim (by unfold sizeLimit; omega))
  have hne := beBytes_ne_nil (n := len) (by omega)
  have hhead : (beBytes len ++ rest).head? ≠ some 0 := by
    rw [List.head?_append_of_ne_nil _ hne]; exact head?_beBytes len
  have hfits : ¬(beBytes len ++ rest).length < (beBytes len).length := by simp
  unfold longLength
  rw [if_neg (by simp only [not_or]; exact ⟨hfits, by omega, hhead⟩), List.take_left' rfl,
    fromBigEndian_beBytes, if_neg (by omega)]

/-- **The writer's header reads back**: followed by anything, it gives its kind, its own length
as the payload's offset, and the payload's length. -/
theorem header_lengthPrefix (isList : Bool) {len : Nat} (hlen : len < sizeLimit)
    (rest : List UInt8) :
    header (lengthPrefix isList len ++ rest) =
      some ⟨isList, (lengthPrefix isList len).length, len⟩ := by
  have hb : ∀ n, n < 256 → (UInt8.ofNat n).toNat = n := fun _ h => UInt8.toNat_ofNat_of_lt h
  by_cases hs : len < 56
  · cases isList <;>
      simp (disch := omega) only [lengthPrefix, Bool.false_eq_true, if_false, if_true, if_pos hs,
        List.singleton_append, header, hb, if_pos, if_neg, List.length_singleton,
        Nat.add_sub_cancel_left]
  · have h8 : (beBytes len).length ≤ 8 :=
      length_beBytes_le (lt_of_lt_of_le hlen (by unfold sizeLimit; omega))
    have h1 : 1 ≤ (beBytes len).length :=
      List.length_pos.mpr (beBytes_ne_nil (n := len) (by omega))
    have hl := longLength_beBytes (Nat.le_of_not_lt hs) hlen rest
    cases isList <;>
      simp (disch := omega) only [lengthPrefix, Bool.false_eq_true, if_false, if_true, if_neg hs,
        List.cons_append, header, hb, if_pos, if_neg, List.length_cons, Nat.add_sub_cancel_left,
        hl, Option.map_some', Nat.add_comm 1]

theorem view_false_of_header {d : List UInt8} {hd : Header} (h : header d = some hd)
    (hfit : hd.size ≤ d.length) : view false d = some hd := by
  rw [view, h, Option.some_bind,
    if_neg (by simp only [Bool.false_eq_true, false_and, or_false]; omega)]

theorem view_true_of_header {d : List UInt8} {hd : Header} (h : header d = some hd)
    (hfit : hd.size = d.length) : view true d = some hd := by
  rw [view, h, Option.some_bind, if_neg (by simp only [true_and]; omega)]

/-- `e` is one item of kind `isList` with payload `p`: `e` ends with `p`, and `e` followed by any
bytes has the header that says so and passes `requireGood()`. -/
structure Encodes (e p : List UInt8) (isList : Bool) : Prop where
  tail : e.drop (e.length - p.length) = p
  reads : ∀ rest, header (e ++ rest) = some ⟨isList, e.length - p.length, p.length⟩
  isGood : ∀ rest, good (e ++ rest) = true

namespace Encodes

variable {e p : List UInt8} {l : Bool}

theorem length_le (he : Encodes e p l) : p.length ≤ e.length := by
  have := congrArg List.length he.tail
  rw [List.length_drop] at this
  omega

theorem reads_self (he : Encodes e p l) :
    header e = some ⟨l, e.length - p.length, p.length⟩ := by
  simpa using he.reads []

theorem good_self (he : Encodes e p l) : good e = true := by simpa using he.isGood []

theorem ne_nil (he : Encodes e p l) : e ≠ [] := by
  rintro rfl
  have h := he.reads [0x80]
  rw [List.nil_append, show header [0x80] = some ⟨false, 1, 0⟩ from rfl] at h
  simp only [Option.some.injEq, Header.mk.injEq, List.length_nil, Nat.zero_sub] at h
  exact absurd h.2.1 (by decide)

theorem payload_append (he : Encodes e p l) (rest : List UInt8) :
    payload (e ++ rest) ⟨l, e.length - p.length, p.length⟩ = p := by
  rw [payload, List.drop_append_of_le_length (Nat.sub_le _ _), he.tail, List.take_left' rfl]

theorem payload_self (he : Encodes e p l) :
    payload e ⟨l, e.length - p.length, p.length⟩ = p := by
  simpa using he.payload_append []

theorem view_append (he : Encodes e p l) (rest : List UInt8) :
    view false (e ++ rest) = some ⟨l, e.length - p.length, p.length⟩ := by
  have := he.length_le
  exact view_false_of_header (he.reads rest) (by
    dsimp only [Header.size]; rw [List.length_append]; omega)

theorem view_exact (he : Encodes e p l) :
    view true e = some ⟨l, e.length - p.length, p.length⟩ := by
  have := he.length_le
  exact view_true_of_header he.reads_self (by dsimp only [Header.size]; omega)

theorem sizeAsEncoded_append (he : Encodes e p l) (rest : List UInt8) :
    sizeAsEncoded (e ++ rest) = some e.length := by
  have := he.length_le
  rw [sizeAsEncoded, he.view_append, Option.map_some']
  dsimp only [Header.size]
  congr 1
  omega

/-- A string item is data: its first byte is below the list range. -/
theorem isData_self (he : Encodes e p false) : isData e = true := by
  obtain ⟨b, e', rfl⟩ := List.exists_cons_of_ne_nil he.ne_nil
  have h := he.reads_self
  simp only [isData, decide_eq_true_eq]
  by_contra hb
  simp only [header, if_neg (show ¬b.toNat < 0x80 by omega),
    if_neg (show ¬b.toNat ≤ 0xb7 by omega), if_neg hb] at h
  split_ifs at h <;> simp at h

end Encodes

/-! ## What the writer makes -/

theorem encodes_lengthPrefix (isList : Bool) {p : List UInt8} (hp : p.length < sizeLimit)
    (hgood : ∀ rest, good (lengthPrefix isList p.length ++ p ++ rest) = true) :
    Encodes (lengthPrefix isList p.length ++ p) p isList where
  tail := by rw [List.length_append, Nat.add_sub_cancel, List.drop_left' rfl]
  reads rest := by
    rw [List.append_assoc, header_lengthPrefix isList hp, List.length_append, Nat.add_sub_cancel]
  isGood := hgood

/-- The first byte of a header is `0x81` only for a one-byte string. -/
theorem good_lengthPrefix (isList : Bool) {len : Nat} (hlen : len < sizeLimit)
    (h : isList = true ∨ len ≠ 1) (rest : List UInt8) :
    good (lengthPrefix isList len ++ rest) = true := by
  have hh := header_lengthPrefix isList hlen rest
  cases hpre : lengthPrefix isList len with
  | nil => simp [lengthPrefix] at hpre; split_ifs at hpre
  | cons b t =>
    rw [hpre] at hh
    have hb : b.toNat ≠ 0x81 := by
      intro hb
      simp only [List.cons_append, header, hb] at hh
      rw [if_neg (by decide), if_pos (by decide)] at hh
      simp only [Option.some.injEq, Header.mk.injEq] at hh
      rcases h with rfl | h
      · exact absurd hh.1 (by decide)
      · exact h hh.2.2.symm
    cases t <;> cases rest <;> simp [good, hb]

theorem encodes_appendBytes {bs : List UInt8} (hbs : bs.length < sizeLimit) :
    Encodes (appendBytes bs) bs false := by
  have hstring : bs.length ≠ 1 → Encodes (lengthPrefix false bs.length ++ bs) bs false :=
    fun h1 => encodes_lengthPrefix false hbs fun rest => by
      rw [List.append_assoc]; exact good_lengthPrefix false hbs (.inr h1) _
  match bs, hstring with
  | [b], _ =>
    by_cases hb : b.toNat < 0x80
    · rw [appendBytes, if_pos hb]
      refine ⟨rfl, fun rest => ?_, fun rest => ?_⟩
      · simp [header, hb]
      · cases rest <;> simp [good] <;> omega
    · rw [appendBytes, if_neg hb]
      refine encodes_lengthPrefix false hbs fun rest => ?_
      show good (UInt8.ofNat (0x80 + 1) :: b :: rest) = true
      simp [good]; omega
  | [], hstring => exact hstring (by simp)
  | _ :: _ :: _, hstring => exact hstring (by simp)

theorem appendInt_eq_appendBytes (n : Nat) : appendInt n = appendBytes (beBytes n) := by
  unfold appendInt
  split_ifs with h0 h80
  · subst h0; rfl
  · have hb : beBytes n = [UInt8.ofNat n] := by
      rw [beBytes]
      cases n with
      | zero => exact absurd rfl h0
      | succ k =>
        rw [beBytes.go, if_neg h0, Nat.div_eq_of_lt (by omega), beBytes_go_zero,
          Nat.mod_eq_of_lt (by omega), List.nil_append]
    rw [hb, appendBytes, UInt8.toNat_ofNat_of_lt (by show n < 256; omega), if_pos h80]
  · match hb : beBytes n with
    | [b] =>
      have : b.toNat = n := by simpa [hb, fromBigEndian] using fromBigEndian_beBytes n
      rw [appendBytes, if_neg (by omega)]
      rfl
    | [] => exact absurd hb (beBytes_ne_nil h0)
    | b :: c :: bs => rfl

/-- A `u256` takes at most 32 bytes. -/
theorem length_beBytes_le_32 {n : Nat} (hn : n < 2 ^ 256) : (beBytes n).length ≤ 32 :=
  length_beBytes_le (by rw [show (256 : Nat) ^ 32 = 2 ^ 256 from rfl]; exact hn)

/-- A `u256` is one string item. -/
theorem encodes_appendInt (n : Nat) (hn : n < 2 ^ 256) :
    Encodes (appendInt n) (beBytes n) false := by
  have := length_beBytes_le_32 hn
  rw [appendInt_eq_appendBytes]
  exact encodes_appendBytes (by unfold sizeLimit; omega)

theorem encodes_appendList {item : List UInt8} (h : item.length < sizeLimit) :
    Encodes (appendList item) item true :=
  encodes_lengthPrefix true h fun rest => by
    rw [List.append_assoc]; exact good_lengthPrefix true h (.inl rfl) _

theorem length_le_appendBytes (bs : List UInt8) : bs.length ≤ (appendBytes bs).length := by
  match bs with
  | [b] => rw [appendBytes]; split_ifs <;> simp
  | [] => simp [appendBytes]
  | b :: c :: bs => simp [appendBytes]

theorem length_lt_appendList (item : List UInt8) : item.length < (appendList item).length := by
  rw [appendList, lengthPrefix, List.length_append]
  split_ifs <;> simp

/-! ## `operator[]` over a run of items -/

/-- The walk of `operator[]` over a concatenation of items reaches each of them. -/
theorem nth_flatten : ∀ (es : List (List UInt8)), (∀ e ∈ es, ∃ p l, Encodes e p l) →
    ∀ (i : Nat) (hi : i < es.length), nth i es.flatten = some es[i]
  | [], _, _, hi => absurd hi (Nat.not_lt_zero _)
  | e :: es, hes, i, hi => by
    obtain ⟨p, l, he⟩ := hes e (List.mem_cons_self _ _)
    rw [List.flatten_cons]
    cases i with
    | zero =>
      rw [nth, he.sizeAsEncoded_append, Option.map_some', List.take_left' rfl]; rfl
    | succ i =>
      rw [nth, if_neg (by simp [he.ne_nil]), he.sizeAsEncoded_append, Option.some_bind,
        List.drop_left' rfl]
      exact nth_flatten es (fun x hx => hes x (List.mem_cons_of_mem _ hx)) i
        (Nat.lt_of_succ_lt_succ hi)

/-- **`operator[]` reaches the items of a payload**: `r[i]` of an item whose payload is a run
of items is the `i`-th of them, whether `r` is a list or a string. -/
theorem Encodes.index {d : List UInt8} {es : List (List UInt8)} {l : Bool}
    (hd : Encodes d es.flatten l) (hes : ∀ e ∈ es, ∃ p l, Encodes e p l) {i : Nat}
    (hi : i < es.length) : index d i = some es[i] := by
  obtain ⟨p, l', he⟩ := hes _ (List.getElem_mem hi)
  have hv := he.view_append []
  rw [List.append_nil] at hv
  rw [Rlp.index, hd.reads_self, Option.some_bind, hd.payload_self, nth_flatten es hes i hi,
    Option.some_bind, hv, Option.map_some']

/-! ## Typed reads -/

/-- What `appendInt` writes is an integer item: its first payload byte is not zero. -/
theorem isInt_appendInt {n : Nat} (hn : n < 2 ^ 256) : isInt (appendInt n) = some true := by
  have hb : ∀ m, m < 256 → (UInt8.ofNat m).toNat = m := fun _ h => UInt8.toNat_ofNat_of_lt h
  unfold appendInt
  split_ifs with h0 h80
  · rfl
  · simp [isInt, hb n (by omega), h80, h0]
  · obtain ⟨b, t, hbt⟩ := List.exists_cons_of_ne_nil (beBytes_ne_nil h0)
    have hb0 : b ≠ 0 := fun hb => head?_beBytes n (by rw [hbt, hb]; rfl)
    have h32 := length_beBytes_le_32 hn
    have h1 : 1 ≤ (beBytes n).length := by rw [hbt]; simp
    simp (disch := omega) only [lengthPrefix, Bool.false_eq_true, if_false, if_pos, if_neg,
      List.singleton_append, isInt, hb]
    simpa [hbt] using hb0

/-- **A `u256` reads back.** -/
theorem toInt_appendInt (n : Nat) (hn : n < 2 ^ 256) : toInt (appendInt n) = some n := by
  have he := encodes_appendInt n hn
  have h32 := length_beBytes_le_32 hn
  have hcond : (!good (appendInt n) || isInt (appendInt n) != some true) = false := by
    rw [he.good_self, isInt_appendInt hn]; rfl
  rw [toInt, hcond, if_neg Bool.false_ne_true, he.reads_self, Option.some_bind, he.payload_self,
    if_neg (show ¬32 < (beBytes n).length by omega), fromBigEndian_beBytes]

example : appendInt 1024 = [0x82, 0x04, 0x00] ∧ toInt [0x82, 0x04, 0x00] = some 1024 := by decide

/-- **A hash reads back**: a string of 32 bytes is what `toHash` accepts. -/
theorem toHash_appendBytes {bs : List UInt8} (hbs : bs.length = 32) :
    toHash (appendBytes bs) = some bs := by
  have he : Encodes (appendBytes bs) bs false := encodes_appendBytes (by unfold sizeLimit; omega)
  rw [toHash, he.good_self, he.isData_self, he.reads_self, Option.some_bind, he.payload_self]
  simp [hbs]

/-- **A byte string reads back.** -/
theorem toBytes_appendBytes {bs : List UInt8} (hbs : bs.length < sizeLimit) :
    toBytes (appendBytes bs) = some bs := by
  have he := encodes_appendBytes hbs
  rw [toBytes, he.isData_self, he.reads_self, Option.map_some', he.payload_self]
  rfl

end Rlp
