/-
# The miner list and the block's signature list

An importing node checks a sealed block with `checkBlockSign`: it rebuilds the miner list of the
block's parent height with `getMinerList`, compares it with the header's node list, counts the
signatures against `|M| - (|M| - 1) / 3` and verifies each one against the key at its index.

* `placeMiners_fst`: `getMinerList` succeeds exactly when every miner's index, narrowed to
  `unsigned`, is below the miner count; nothing compares two miners' indices;
* `miner_list_accepts_clashing_indices`: a configuration with a repeated index loads, with a
  slot left at the zero key;
* `checkBlockSign_replicate`: for every roster, one valid signature repeated
  `|M| - (|M| - 1) / 3` times passes `checkBlockSign`;
* `one_signer_certifies_block`: the scenario block `(10, 1050)` passes with three copies of
  miner `1`'s signature.
-/
import FiscoBcos.Node

namespace PBFT

/-! ## `getMinerList` -/

/-- **What makes `getMinerList` fail.** Placing the miners fails exactly when some miner's index,
narrowed to `unsigned`, is not below the miner count; repeated indices and indices that only
narrow into range pass. -/
theorem placeMiners_fst (minerNum : Nat) (ps : List NodeConnParams) (l : List Key) :
    (placeMiners minerNum ps l).1 = ps.all fun p =>
      p.iIdentityType != (enAccountTypeMiner : Int) || decide (p.iIdx.toNat % 2 ^ 32 < minerNum) := by
  induction ps generalizing l with
  | nil => rfl
  | cons p ps ih =>
    by_cases hm : p.iIdentityType = (enAccountTypeMiner : Int)
    · by_cases hi : p.iIdx.toNat % 2 ^ 32 < minerNum
      · simp [placeMiners, hm, Nat.not_le.mpr hi, hi, ih, -Nat.reducePow]
      · simp [placeMiners, hm, Nat.le_of_not_lt hi, hi, -Nat.reducePow]
    · simp [placeMiners, hm, ih]

/-- Two miners at index `0` (keys `100` and `101`), and a third (key `102`) at index `1`. -/
def clashRoster : NodeConnManager :=
  { scenarioRoster with
    getMinerNum := 3
    getAllNodeConnInfo := fun _ => [⟨100, 1, 0⟩, ⟨101, 1, 0⟩, ⟨102, 1, 1⟩] }

/-- The clashing configuration loads, every index being below the count: key `101` overwrites
key `100` at slot `0`, and slot `2` keeps the zero key. -/
theorem miner_list_accepts_clashing_indices :
    getMinerList clashRoster (-1) [] = (true, [101, 102, 0]) :=
  Prod.ext ((placeMiners_fst _ _ _).trans (by decide)) (by decide)

/-! ## `checkBlockSign` -/

/-- `static_cast<int>(number - 1)`: the height `checkBlockSign` asks the roster about, the
`u256` taken modulo `2^32` as a two's-complement `int`. -/
def prevBlockNo (n : U256) : Int := (BitVec.ofNat 32 (n - 1).toNat).toInt

/-- `miner_list.size() - (miner_list.size() - 1) / 3` in `size_t` arithmetic: the number of
signatures `checkBlockSign` requires of `m` miners. -/
def minSigns (m : Nat) : BitVec 64 := BitVec.ofNat 64 m - (BitVec.ofNat 64 m - 1) / 3

/-- `checkBlockSign(header, sign_list)`: the miner list of the parent height loads and is the
header's node list, the list holds at least `minSigns` entries, and every entry's index is in
range and its signature verifies against the key at that index over the header's hash. -/
def checkBlockSign (r : NodeConnManager) (header : BlockHeader)
    (signList : List (U256 × Signature)) : Bool :=
  match getMinerList r (prevBlockNo header.number) [] with
  | (false, _) => false
  | (true, minerList) =>
    if header.nodeList != minerList then false
    else if BitVec.ofNat 64 signList.length < minSigns minerList.length then false
    else signList.all fun item =>
      item.1 < BitVec.ofNat 256 minerList.length &&
        verify (minerList.getD item.1.toNat 0) item.2 (.hash header.hash)

/-- `checkBlockSign` on a header whose node list is the loaded miner list `M`: the count and the
per-entry checks. -/
theorem checkBlockSign_of_minerList {r : NodeConnManager} {header : BlockHeader} {M : List Key}
    (hM : getMinerList r (prevBlockNo header.number) [] = (true, M)) (hlist : header.nodeList = M)
    (L : List (U256 × Signature)) :
    checkBlockSign r header L = (!(BitVec.ofNat 64 L.length < minSigns M.length) &&
      L.all fun item => item.1 < BitVec.ofNat 256 M.length &&
        verify (M.getD item.1.toNat 0) item.2 (.hash header.hash)) := by
  simp only [checkBlockSign, hM, hlist, bne_self_eq_false, Bool.false_eq_true, ite_false]
  split_ifs <;> simp [*]

/-- With at least one miner and fewer than `2^64`, the `size_t` arithmetic does not wrap. -/
theorem minSigns_toNat {m : Nat} (h0 : 0 < m) (hm : m < 2 ^ 64) :
    (minSigns m).toNat = m - (m - 1) / 3 :=
  toNat_ofNat_sub_pred_div_three (by decide) h0 hm

/-- The count test passes with `m - (m - 1) / 3` entries. -/
theorem minSigns_le {m : Nat} (h0 : 0 < m) (hm : m < 2 ^ 64) :
    ¬BitVec.ofNat 64 (m - (m - 1) / 3) < minSigns m := by
  rw [BitVec.lt_def, minSigns_toNat h0 hm, BitVec.toNat_ofNat]
  omega

/-- **One signer makes a certificate.** For every roster and every header whose node list is
the loaded miner list `M` (of fewer than `2^64` keys), one valid signature by the miner at any
index, repeated `|M| - (|M| - 1) / 3` times, passes `checkBlockSign`: the loop checks the entries
one by one and never compares their indices. -/
theorem checkBlockSign_replicate {r : NodeConnManager} {header : BlockHeader} {M : List Key}
    (hM : getMinerList r (prevBlockNo header.number) [] = (true, M)) (hlist : header.nodeList = M)
    (hlen : M.length < 2 ^ 64) {i : U256} {sig : Signature} (hi : i.toNat < M.length)
    (hsig : verify (M.getD i.toNat 0) sig (.hash header.hash) = true) :
    checkBlockSign r header (List.replicate (M.length - (M.length - 1) / 3) (i, sig)) = true := by
  have hi' : i < BitVec.ofNat 256 M.length := by
    rw [BitVec.lt_def, BitVec.toNat_ofNat, Nat.mod_eq_of_lt (by omega)]; exact hi
  have hsig' : verify (M[i.toNat]?.getD 0) sig (.hash header.hash) = true := by simpa using hsig
  rw [checkBlockSign_of_minerList hM hlist, List.length_replicate]
  simp [minSigns_le (by omega) hlen, hi', hsig']

/-- The scenario block `(10, 1050)` with the scenario miner list as its node list. -/
def block10 : BlockHeader :=
  { number := 10, hash := 1050, nodeList := [100, 101, 102, 103], valid := true }

/-- Three copies of miner `1`'s signature certify block `(10, 1050)` on the 4-miner roster,
where `checkBlockSign` asks for three signatures. -/
theorem one_signer_certifies_block :
    checkBlockSign scenarioRoster block10 (List.replicate 3 (1, signWith 101 (.hash 1050))) =
      true :=
  checkBlockSign_replicate (M := [100, 101, 102, 103]) (by decide) rfl (by decide) (by decide)
    (by decide)

end PBFT
