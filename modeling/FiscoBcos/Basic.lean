/-
# Words, hashes, signatures and ordered maps

The value types the PBFT engine (`libpbftseal/PBFT.cpp`) computes with.

* `U256` is the engine's `u256` (`boost::multiprecision` 256-bit unsigned), so `+ 1` and `- 1`
  wrap modulo `2^256` exactly as in the source; `invalid256` is `Invalid256 = ~u256(0)`.
* Hashes (`h256`), public keys (`h512`) and block payloads (`bytes`) are only compared for
  equality by the engine; they are opaque natural numbers here.
* `dev::sign` / `dev::verify` are modelled by an ideal (unforgeable) signature scheme in which a
  key holder can produce many distinct valid signatures over one message (`nonce`), as ECDSA
  allows; honest signing (`signHash`) is deterministic.
* `std::map` is Mathlib's `AList` with non-dependent values (`Dict`); the engine's per-key
  caches are `Dict`s of `Dict`s.
-/
import Mathlib.Algebra.Group.Nat.Basic
import Mathlib.Data.List.AList

/-! ## Machine words and opaque values -/

/-- The engine's `u256`. -/
abbrev U256 := BitVec 256

/-- `Invalid256 = ~u256(0)`, the engine's "no value" marker. -/
def invalid256 : U256 := BitVec.allOnes 256

/-- A `u256` other than `Invalid256` has room for one more. -/
theorem toNat_lt_of_ne_invalid256 {x : U256} (h : x ≠ invalid256) : x.toNat < 2 ^ 256 - 1 := by
  have h' : x.toNat ≠ 2 ^ 256 - 1 := fun e =>
    h (BitVec.eq_of_toNat_eq (by rw [e, invalid256, BitVec.toNat_allOnes]))
  have := x.isLt
  omega

/-- `N - (N - 1) / 3` computed in `w` bits, as `quorum()` and the block check compute it, does
not wrap for `0 < N < 2^w`. -/
theorem toNat_ofNat_sub_pred_div_three {w N : Nat} (hw : 2 ≤ w) (h0 : 0 < N) (hN : N < 2 ^ w) :
    (BitVec.ofNat w N - (BitVec.ofNat w N - 1) / 3).toNat = N - (N - 1) / 3 := by
  have h4 : 2 ^ 2 ≤ 2 ^ w := Nat.pow_le_pow_right (by decide) hw
  have hk : ∀ k, k < 4 → (BitVec.ofNat w k).toNat = k := fun k hk => by
    rw [BitVec.toNat_ofNat, Nat.mod_eq_of_lt (by omega)]
  have hone : (1 : BitVec w).toNat = 1 := hk 1 (by omega)
  have hthree : (3 : BitVec w).toNat = 3 := hk 3 (by omega)
  have hn : (BitVec.ofNat w N).toNat = N := by rw [BitVec.toNat_ofNat, Nat.mod_eq_of_lt hN]
  have h1 : (BitVec.ofNat w N - 1).toNat = N - 1 := by
    rw [BitVec.toNat_sub_of_le (BitVec.le_def.mpr (by rw [hn, hone]; exact h0)), hn, hone]
  have h2 : ((BitVec.ofNat w N - 1) / 3).toNat = (N - 1) / 3 := by
    rw [BitVec.toNat_udiv, h1, hthree]
  rw [BitVec.toNat_sub_of_le (BitVec.le_def.mpr (by rw [hn, h2]; omega)), h2, hn]

/-- `h256`: block hashes and the digests signatures are taken over. -/
abbrev H256 := Nat

/-- `h512` / `Public`: a node's public key (its node id). -/
abbrev Key := Nat

/-- `bytes`: a serialised block, compared only for equality. -/
abbrev Bytes := Nat

/-- `EN_ACCOUNT_TYPE_MINER`: the account type of consensus nodes. Its numeric value is declared
outside `src/`; the engine only compares account types with it. -/
def enAccountTypeMiner : Nat := 1

/-- `kMaxChangeCycle`, the cap on the timeout back-off exponent. Declared outside `src/`; no
result depends on its value. -/
def kMaxChangeCycle : Nat := 20

/-! ## Ideal signatures -/

/-- What a signature is taken over: a block hash (`sig`), or the digest of a message's fields
without its block (`sig2`, over `fieldsWithoutBlock()`). The digest is collision free. -/
inductive Signed where
  | hash (h : H256)
  | fields (height view idx timestamp : U256) (h : H256)
  deriving DecidableEq, Repr

/-- A signature: `Signature()` (all zero bytes), or one made with the secret key of `signer`
over `body`. Distinct `nonce`s give distinct valid signatures over the same body. The caches key
votes by `sig.hex()`, an injective encoding, so the model keys them by the signature itself. -/
inductive Signature where
  | zero
  | mk (signer : Key) (body : Signed) (nonce : Nat)
  deriving DecidableEq, Repr

/-- `dev::sign` with the node's own key: deterministic, nonce `0`. -/
def signWith (k : Key) (b : Signed) : Signature := .mk k b 0

/-- `dev::verify(pub, sig, h)`: only the holder of `pub`'s secret key signs for `pub`. -/
def verify (pub : Key) : Signature → Signed → Bool
  | .zero, _ => false
  | .mk k b _, m => k == pub && b == m

@[simp] theorem verify_zero (pub : Key) (m : Signed) : verify pub .zero m = false := rfl

@[simp] theorem verify_mk (pub k : Key) (b m : Signed) (n : Nat) :
    verify pub (.mk k b n) m = (k == pub && b == m) := rfl

/-- An honest signature verifies against the signer's key. -/
theorem verify_signWith (k : Key) (b : Signed) : verify k (signWith k b) b = true := by
  simp [signWith]

/-! ## Ordered maps -/

/-- `std::map<K, V>`: an association list with distinct keys. -/
abbrev Dict (K V : Type) := AList (fun _ : K => V)

namespace Dict

variable {K V W : Type} [DecidableEq K]

/-- `m[k]` read through `find`: the value at `k`, or the default of an absent key. -/
def findD [Inhabited V] (m : Dict K V) (k : K) : V := (m.lookup k).getD default

/-- `size()`. -/
def size (m : Dict K V) : Nat := m.entries.length

/-- The entries that survive an erase loop `if (!keep) it = m.erase(it); else ++it;`. -/
def filter (p : K → V → Bool) (m : Dict K V) : Dict K V :=
  ⟨m.entries.filter (fun e => p e.1 e.2), m.nodupKeys.sublist (List.filter_sublist _)⟩

/-- Rewrite every value in place, keys unchanged. -/
def mapVals (g : K → V → W) (m : Dict K V) : Dict K W :=
  ⟨m.entries.map (fun e => ⟨e.1, g e.1 e.2⟩), by
    have h := m.nodupKeys
    simp only [List.NodupKeys, List.keys] at h ⊢
    rwa [List.map_map]⟩

/-- `m[k] = g(m[k])` with `operator[]`: update the value at `k`, creating it from the default
when absent. -/
def modify [Inhabited V] (m : Dict K V) (k : K) (g : V → V) : Dict K V :=
  m.insert k (g (m.findD k))

/-- `m[k]` used for its side effect: `operator[]` creates an empty entry at an absent key. -/
def touch [Inhabited V] (m : Dict K V) (k : K) : Dict K V :=
  if k ∈ m then m else m.insert k default

/-- The values, in iteration order. -/
def vals (m : Dict K V) : List V := m.entries.map (·.2)

omit [DecidableEq K] in
@[simp] theorem size_empty : size (∅ : Dict K V) = 0 := rfl

@[simp] theorem lookup_empty' (k : K) : (∅ : Dict K V).lookup k = none := rfl

@[simp] theorem lookup_default (k : K) : (default : Dict K V).lookup k = none := rfl

@[simp] theorem mem_vals {m : Dict K V} {v : V} : v ∈ m.vals ↔ ∃ k, m.lookup k = some v := by
  simp only [vals, List.mem_map]
  constructor
  · rintro ⟨⟨k, w⟩, he, rfl⟩
    exact ⟨k, AList.mem_lookup_iff.mpr he⟩
  · rintro ⟨k, hk⟩
    exact ⟨⟨k, v⟩, AList.mem_lookup_iff.mp hk, rfl⟩

theorem lookup_filter (p : K → V → Bool) (m : Dict K V) (k : K) :
    (m.filter p).lookup k = (m.lookup k).filter (p k) := by
  rcases h : m.lookup k with _ | v
  · rw [Option.filter_none, AList.lookup_eq_none]
    rw [AList.lookup_eq_none] at h
    have hsub : (m.filter p).entries ⊆ m.entries := fun _ he => (List.mem_filter.mp he).1
    exact fun hk => h (AList.mem_keys.mpr
      (AList.keys_subset_keys_of_entries_subset_entries hsub (AList.mem_keys.mp hk)))
  · have he := AList.mem_lookup_iff.mp h
    by_cases hp : p k v
    · rw [Option.filter_some, if_pos hp]
      exact AList.mem_lookup_iff.mpr (List.mem_filter.mpr ⟨he, hp⟩)
    · rw [Option.filter_some, if_neg hp, AList.lookup_eq_none]
      intro hk
      obtain ⟨w, hw⟩ := Option.isSome_iff_exists.mp (AList.lookup_isSome.mpr hk)
      have hw' := List.mem_filter.mp (AList.mem_lookup_iff.mp hw)
      have hwv : w = v := Option.some.inj ((AList.mem_lookup_iff.mpr hw'.1).symm.trans h)
      exact hp (hwv ▸ hw'.2)

theorem lookup_filter_eq_some {p : K → V → Bool} {m : Dict K V} {k : K} {v : V} :
    (m.filter p).lookup k = some v ↔ m.lookup k = some v ∧ p k v = true := by
  rw [lookup_filter]
  rcases m.lookup k with _ | w
  · simp
  · by_cases hp : p k w
    · simp only [Option.filter, hp, ite_true, Option.some.injEq]
      exact ⟨fun h => ⟨h, h ▸ hp⟩, And.left⟩
    · simp only [Option.filter, hp, Bool.false_eq_true, ite_false, Option.some.injEq]
      constructor
      · intro h; cases h
      · rintro ⟨rfl, h⟩; exact absurd h hp

theorem lookup_mapVals (g : K → V → W) (m : Dict K V) (k : K) :
    (m.mapVals g).lookup k = (m.lookup k).map (g k) := by
  simp only [mapVals, AList.lookup]
  induction m.entries with
  | nil => rfl
  | cons e l ih =>
    obtain ⟨a, b⟩ := e
    by_cases h : a = k
    · subst h; simp only [List.map_cons, List.dlookup_cons_eq, Option.map_some']
    · simp only [List.map_cons, List.dlookup_cons_ne _ ⟨a, _⟩ (Ne.symm h), ih]

@[simp] theorem lookup_modify_self [Inhabited V] (m : Dict K V) (k : K) (g : V → V) :
    (m.modify k g).lookup k = some (g (m.findD k)) := AList.lookup_insert _

theorem lookup_modify_ne [Inhabited V] (m : Dict K V) {k k' : K} (g : V → V) (h : k' ≠ k) :
    (m.modify k g).lookup k' = m.lookup k' := AList.lookup_insert_ne h

theorem size_filter_eq_zero {p : K → V → Bool} {m : Dict K V}
    (h : ∀ k v, m.lookup k = some v → p k v = false) : (m.filter p).size = 0 := by
  simp only [size, filter, List.length_eq_zero, List.filter_eq_nil_iff]
  intro e he hp
  rw [h e.1 e.2 (AList.mem_lookup_iff.mpr he)] at hp
  exact Bool.false_ne_true hp

theorem lookup_touch_self [Inhabited V] (m : Dict K V) (k : K) :
    (m.touch k).lookup k = some (m.findD k) := by
  unfold touch findD
  split_ifs with hk
  · obtain ⟨v, hv⟩ := Option.isSome_iff_exists.mp (AList.lookup_isSome.mpr hk)
    rw [hv, Option.getD_some]
  · rw [AList.lookup_insert, AList.lookup_eq_none.mpr hk, Option.getD_none]

@[simp] theorem findD_touch [Inhabited V] (m : Dict K V) (k : K) :
    (m.touch k).findD k = m.findD k := by
  rw [findD, lookup_touch_self, Option.getD_some]

@[simp] theorem touch_touch [Inhabited V] (m : Dict K V) (k : K) :
    (m.touch k).touch k = m.touch k := by
  unfold touch
  split_ifs with h h' <;> first | rfl | exact absurd ((AList.mem_insert _).mpr (.inl rfl)) h'

theorem lookup_touch_eq_some [Inhabited V] {m : Dict K V} {k w : K} {v : V}
    (h : (m.touch k).lookup w = some v) : m.lookup w = some v ∨ (w = k ∧ v = default) := by
  unfold touch at h
  split_ifs at h
  · exact .inl h
  · by_cases hw : w = k
    · subst hw; rw [AList.lookup_insert, Option.some.injEq] at h; exact .inr ⟨rfl, h.symm⟩
    · rw [AList.lookup_insert_ne hw] at h; exact .inl h

theorem lookup_modify_eq_some [Inhabited V] {m : Dict K V} {k w : K} {g : V → V} {v : V}
    (h : (m.modify k g).lookup w = some v) :
    (w = k ∧ v = g (m.findD k)) ∨ m.lookup w = some v := by
  by_cases hw : w = k
  · subst hw; rw [lookup_modify_self, Option.some.injEq] at h; exact .inl ⟨rfl, h.symm⟩
  · rw [lookup_modify_ne _ _ hw] at h; exact .inr h

omit [DecidableEq K] in
/-- Filtering a second time with the same test changes nothing. -/
@[simp] theorem filter_filter_self (p : K → V → Bool) (m : Dict K V) :
    (m.filter p).filter p = m.filter p :=
  AList.ext (by simp [filter, List.filter_filter])

omit [DecidableEq K] in
/-- Rewriting the values by a map that is idempotent on each value, then dropping entries, gives
a map that the same rewriting and dropping leave alone. -/
theorem filter_mapVals_idem (g : K → V → V) (q : K → V → Bool) (hg : ∀ k v, g k (g k v) = g k v)
    (m : Dict K V) : (((m.mapVals g).filter q).mapVals g).filter q = (m.mapVals g).filter q := by
  apply AList.ext
  have hfix : ∀ e ∈ (m.entries.map fun e => (⟨e.1, g e.1 e.2⟩ : Sigma fun _ : K => V)).filter
      (fun e => q e.1 e.2), (⟨e.1, g e.1 e.2⟩ : Sigma fun _ : K => V) = e := by
    intro e he
    obtain ⟨e0, -, rfl⟩ := List.mem_map.mp (List.mem_filter.mp he).1
    simp only [hg]
  simp only [mapVals, filter]
  rw [List.map_congr_left hfix, List.map_id', List.filter_filter]
  simp

/-- Erasing a key a second time changes nothing. -/
@[simp] theorem erase_erase_self (k : K) (m : Dict K V) : (m.erase k).erase k = m.erase k :=
  AList.ext (List.kerase_of_not_mem_keys (List.not_mem_keys_kerase k m.nodupKeys))

/-- An entry of a bucket read through `findD` is an entry of a bucket that is there. -/
theorem lookup_findD_eq_some {K' W : Type} [DecidableEq K'] {m : Dict K (Dict K' W)} {k : K}
    {i : K'} {e : W} (h : (m.findD k).lookup i = some e) :
    ∃ b, m.lookup k = some b ∧ b.lookup i = some e := by
  unfold findD at h
  rcases hk : m.lookup k with _ | b
  · rw [hk, Option.getD_none, lookup_default] at h; cases h
  · rw [hk, Option.getD_some] at h; exact ⟨b, rfl, h⟩

end Dict
