/-
# The handler registry of `Signal`

`Signal<Args...>` keeps its handlers in `std::map<unsigned, std::weak_ptr<HandlerAux>> m_fire`.
`add` files a new handler under one more than the largest key in use (`0` in an empty map),
computed in `unsigned` arithmetic, and hands out the only `shared_ptr` to it; when that goes,
`~HandlerAux()` erases the entry under the handler's own key `m_i`. `operator()` calls, in key
order, every handler whose `weak_ptr` still locks.

* `Registered`: each entry of `m_fire` watches the live handler whose `m_i` is its key, and each
  live handler has its entry;
* `Registered.add`, `Registered.destroy`, `Registered.run`: a destruction keeps it, and so does
  `add` while the largest key is below `2^32 - 1`;
* `Registered.call_perm`: in such a state `operator()` calls every live handler exactly once;
* `add_overwrites_live_handler`: after `2^32 + 1` calls of `add` and `2^32 - 2` destructions,
  with handler `0` still alive, the next key wraps to `0`: `add` overwrites handler `0`'s entry,
  `operator()` no longer calls it, and its destruction erases the new handler's entry.

Handlers are numbered in the order `add` makes them; the number stands for the `HandlerAux`
object and its callback.
-/
import Mathlib.Data.List.Sort
import FiscoBcos.Basic

/-- A signal while it lives: `m_fire`, from each key to the handler its `weak_ptr` watches; the
key `m_i` of each `HandlerAux` not yet destroyed; and the number of handlers made. -/
structure Signal where
  fire : Dict (BitVec 32) Nat
  live : Dict Nat (BitVec 32)
  made : Nat

namespace Signal

/-- The largest key of a map (`rbegin()->first`), as a number; `0` for an empty map. -/
def lastKey (m : Dict (BitVec 32) Nat) : Nat := (m.keys.map BitVec.toNat).foldr max 0

/-- `m_fire.empty() ? 0 : (m_fire.rbegin()->first + 1)`, in `unsigned` arithmetic. -/
def nextKey (m : Dict (BitVec 32) Nat) : BitVec 32 :=
  if m.keys.isEmpty then 0 else BitVec.ofNat 32 (lastKey m) + 1

/-- `add(h)`: make handler number `made` with `m_i` the next key, and file it there
(`m_fire[n] = h`, which replaces an entry already under `n`). -/
def add (r : Signal) : Signal :=
  let n := nextKey r.fire
  { fire := r.fire.insert n r.made, live := r.live.insert r.made n, made := r.made + 1 }

/-- The last `shared_ptr` to handler `h` goes: `~HandlerAux()` erases the entry under its key
`m_i` (`m_s` is set while the signal lives). A handler already gone has nothing to destroy. -/
def destroy (r : Signal) (h : Nat) : Signal :=
  match r.live.lookup h with
  | none => r
  | some k => { r with fire := r.fire.erase k, live := r.live.erase h }

/-- `operator()(args)`: over the entries of `m_fire` in key order, every handler whose
`weak_ptr` locks, that is, every handler still alive. -/
def call (r : Signal) : List Nat :=
  ((r.fire.entries.insertionSort fun a b => a.1.toNat ≤ b.1.toNat).map (·.2)).filter
    fun h => (r.live.lookup h).isSome

/-- A call into the signal's registry. -/
inductive Op where
  | add
  | destroy (h : Nat)

/-- One call. -/
def step (r : Signal) : Op → Signal
  | .add => r.add
  | .destroy h => r.destroy h

/-- Calls in sequence. -/
def run (r : Signal) (os : List Op) : Signal := os.foldl step r

/-- A new signal: no handlers. -/
def empty : Signal := ⟨∅, ∅, 0⟩

theorem run_append (r : Signal) (os os' : List Op) : r.run (os ++ os') = (r.run os).run os' :=
  List.foldl_append _ _ _ _

/-! ## The next key -/

theorem le_lastKey {m : Dict (BitVec 32) Nat} {k : BitVec 32} (hk : k ∈ m.keys) :
    k.toNat ≤ lastKey m := by
  unfold lastKey
  have hk' : k.toNat ∈ m.keys.map BitVec.toNat := List.mem_map_of_mem _ hk
  generalize m.keys.map BitVec.toNat = l at hk'
  induction l with
  | nil => cases hk'
  | cons a l ih =>
    rcases List.mem_cons.mp hk' with h | h
    · rw [h]; exact le_max_left _ _
    · exact (ih h).trans (le_max_right _ _)

/-- While every key is below `2^32 - 1`, the next key is not in use. -/
theorem nextKey_not_mem {m : Dict (BitVec 32) Nat} (h : lastKey m < 2 ^ 32 - 1) :
    nextKey m ∉ m := by
  intro hn
  rw [AList.mem_keys] at hn
  unfold nextKey at hn
  split_ifs at hn with he
  · rw [List.isEmpty_iff] at he; rw [he] at hn; cases hn
  · have hle := le_lastKey hn
    rw [BitVec.toNat_add, BitVec.toNat_ofNat, show (1 : BitVec 32).toNat = 1 from rfl] at hle
    omega

/-! ## The registry invariant -/

/-- `m_fire` agrees with the handlers alive: each entry watches the live handler whose `m_i` is
its key, each live handler has its entry, and every live handler was made before. The keys
of `m_fire` are distinct by construction of the map. -/
structure Registered (r : Signal) : Prop where
  watches : ∀ k h, r.fire.lookup k = some h → r.live.lookup h = some k
  filed : ∀ h k, r.live.lookup h = some k → r.fire.lookup k = some h
  made : ∀ h ∈ r.live, h < r.made

theorem registered_empty : Registered empty :=
  ⟨fun _ _ h => (by cases h), fun _ _ h => (by cases h), fun _ h => (by cases h)⟩

variable {r : Signal}

/-- **`add` keeps the registry** while the largest key is below `2^32 - 1`: the new key is
fresh, so no live handler's entry is replaced. -/
theorem Registered.add (hr : Registered r) (hk : lastKey r.fire < 2 ^ 32 - 1) :
    Registered r.add := by
  have hn := nextKey_not_mem hk
  have hm : r.made ∉ r.live := fun h => lt_irrefl _ (hr.made _ h)
  refine ⟨fun k h hkh => ?_, fun h k hhk => ?_, fun h hh => ?_⟩
  · by_cases hkn : k = nextKey r.fire
    · subst hkn
      simp only [Signal.add, AList.lookup_insert, Option.some.injEq] at hkh ⊢
      rw [← hkh, AList.lookup_insert]
    · simp only [Signal.add, AList.lookup_insert_ne hkn] at hkh ⊢
      have hh : h ≠ r.made := fun e =>
        hm (e ▸ AList.lookup_isSome.mp (by simp [hr.watches _ _ hkh]))
      rw [AList.lookup_insert_ne hh, hr.watches _ _ hkh]
  · by_cases hhm : h = r.made
    · subst hhm
      simp only [Signal.add, AList.lookup_insert, Option.some.injEq] at hhk ⊢
      rw [← hhk, AList.lookup_insert]
    · simp only [Signal.add, AList.lookup_insert_ne hhm] at hhk ⊢
      have hkf : k ≠ nextKey r.fire := fun e =>
        hn (e ▸ AList.lookup_isSome.mp (by simp [hr.filed _ _ hhk]))
      rw [AList.lookup_insert_ne hkf, hr.filed _ _ hhk]
  · simp only [Signal.add, AList.mem_insert] at hh ⊢
    rcases hh with rfl | hh
    · exact Nat.lt_succ_self _
    · exact (hr.made _ hh).trans (Nat.lt_succ_self _)

/-- **A destruction keeps the registry**: it erases exactly the destroyed handler's entry. -/
theorem Registered.destroy (hr : Registered r) (h : Nat) : Registered (r.destroy h) := by
  unfold Signal.destroy
  split
  · exact hr
  · rename_i k hk
    refine ⟨fun k' h' hkh => ?_, fun h' k' hhk => ?_, fun h' hh => ?_⟩
    · have hk' : k' ≠ k := by rintro rfl; simp at hkh
      rw [AList.lookup_erase_ne hk'] at hkh
      have hw := hr.watches _ _ hkh
      have hh' : h' ≠ h := by rintro rfl; exact hk' (Option.some.inj (hw.symm.trans hk))
      simp only [AList.lookup_erase_ne hh', hw]
    · have hh' : h' ≠ h := by rintro rfl; simp at hhk
      rw [AList.lookup_erase_ne hh'] at hhk
      have hf := hr.filed _ _ hhk
      have hk' : k' ≠ k := by
        rintro rfl; exact hh' (Option.some.inj (hf.symm.trans (hr.filed _ _ hk)))
      simp only [AList.lookup_erase_ne hk', hf]
    · exact hr.made _ (AList.mem_erase.mp hh).2

theorem Registered.step (hr : Registered r) :
    ∀ o, (o = .add → lastKey r.fire < 2 ^ 32 - 1) → Registered (r.step o)
  | .add, hk => hr.add (hk rfl)
  | .destroy h, _ => hr.destroy h

/-- A sequence of calls in which no `add` finds the key `2^32 - 1` in use. -/
def NoWrap : Signal → List Op → Prop
  | _, [] => True
  | r, o :: os => (o = .add → lastKey r.fire < 2 ^ 32 - 1) ∧ NoWrap (r.step o) os

/-- **The registry over a run**: every sequence of `add`s and destructions in which no `add`
meets the key `2^32 - 1` keeps it. -/
theorem Registered.run (hr : Registered r) {os : List Op} (hw : NoWrap r os) :
    Registered (r.run os) := by
  induction os generalizing r with
  | nil => exact hr
  | cons o os ih => exact ih (hr.step o hw.1) hw.2

/-- **`operator()` calls every live handler exactly once** in a registered state. -/
theorem Registered.call_perm (hr : Registered r) : r.call.Perm r.live.keys := by
  have hlive : ∀ h ∈ r.fire.vals, (r.live.lookup h).isSome = true := fun h hh => by
    obtain ⟨k, hk⟩ := Dict.mem_vals.mp hh
    simp [hr.watches _ _ hk]
  have hvals : r.fire.vals.Perm r.live.keys := by
    refine (List.perm_ext_iff_of_nodup ?_ (AList.keys_nodup _)).mpr fun h => ?_
    · refine r.fire.nodupKeys.nodup.map_on fun x hx y hy hxy => ?_
      have hx' := hr.watches _ _ (AList.mem_lookup_iff.mpr hx)
      have hy' := hr.watches _ _ (AList.mem_lookup_iff.mpr hy)
      rw [hxy] at hx'
      exact Sigma.ext (Option.some.inj (hx'.symm.trans hy')) (heq_of_eq hxy)
    · rw [Dict.mem_vals, ← AList.mem_keys, ← AList.lookup_isSome]
      constructor
      · rintro ⟨k, hk⟩; simp [hr.watches _ _ hk]
      · intro hh
        obtain ⟨k, hk⟩ := Option.isSome_iff_exists.mp hh
        exact ⟨k, hr.filed _ _ hk⟩
  have hsort := ((List.perm_insertionSort (fun a b : (_ : BitVec 32) × Nat => a.1.toNat ≤ b.1.toNat)
    r.fire.entries).map (·.2))
  unfold call
  rw [List.filter_eq_self.mpr fun h hh => hlive h (hsort.subset hh)]
  exact hsort.trans hvals

/-- **Every live handler fires once, over every run.** After any sequence of `add`s and
destructions from a new signal in which no `add` meets the key `2^32 - 1`, `operator()` calls
every live handler exactly once. -/
theorem call_perm_of_run {os : List Op} (hw : NoWrap empty os) :
    (empty.run os).call.Perm (empty.run os).live.keys :=
  (registered_empty.run hw).call_perm

theorem call_perm_of_run_two_adds :
    NoWrap empty [.add, .add, .destroy 0] ∧
      (empty.run [.add, .add, .destroy 0]).call.Perm
        (empty.run [.add, .add, .destroy 0]).live.keys :=
  have hw : NoWrap empty [.add, .add, .destroy 0] :=
    ⟨fun _ => by decide, fun _ => by decide, fun h => Op.noConfusion h, trivial⟩
  ⟨hw, call_perm_of_run hw⟩

/-! ## The key wraps onto a live handler -/

/-- Handler `0` under key `0` and handler `j` under key `j`, with `j + 1` handlers made. -/
def churned (j : Nat) : Signal where
  fire := (AList.singleton 0 0 : Dict (BitVec 32) Nat).insert (BitVec.ofNat 32 j) j
  live := (AList.singleton 0 0 : Dict Nat (BitVec 32)).insert j (BitVec.ofNat 32 j)
  made := j + 1

theorem entries_erase {K V : Type} [DecidableEq K] (m : Dict K V) (k : K) :
    (m.erase k).entries = m.entries.kerase k := rfl

/-- Distinct numbers below `2^32` are distinct `unsigned` keys. -/
theorem ofNat_ne_ofNat {a b : Nat} (ha : a < 2 ^ 32) (hb : b < 2 ^ 32) (hab : a ≠ b) :
    BitVec.ofNat 32 a ≠ BitVec.ofNat 32 b := fun e => hab (by
  have := congrArg BitVec.toNat e
  rwa [BitVec.toNat_ofNat, BitVec.toNat_ofNat, Nat.mod_eq_of_lt ha, Nat.mod_eq_of_lt hb] at this)

/-- One round: add handler `j + 1` under key `j + 1`, then destroy handler `j`. -/
theorem churned_add_destroy {j : Nat} (h1 : 1 ≤ j) (hj : j + 1 < 2 ^ 32) :
    ((churned j).add).destroy j = churned (j + 1) := by
  have h0 := ofNat_ne_ofNat (b := 0) (by omega) (by omega) (by omega : j ≠ 0)
  have h0' := ofNat_ne_ofNat (b := 0) hj (by omega) (by omega : j + 1 ≠ 0)
  have hjj := ofNat_ne_ofNat hj (by omega) (by omega : j + 1 ≠ j)
  have hjm : j % 4294967296 = j := Nat.mod_eq_of_lt (by omega)
  have hnext : nextKey (churned j).fire = BitVec.ofNat 32 (j + 1) := by
    simp [nextKey, lastKey, churned, AList.keys, AList.insert_entries, AList.singleton_entries,
      h0, BitVec.ofNat_add, List.kerase_cons_ne, hjm]
  have hlook : (churned j).live.lookup j = some (BitVec.ofNat 32 j) := AList.lookup_insert _
  simp only [Signal.add, hnext, destroy, hlook,
    AList.lookup_insert_ne (show j ≠ (churned j).made by simp [churned])]
  simp only [churned, Signal.mk.injEq, and_true]
  constructor <;> apply AList.ext
  · simp [entries_erase, AList.insert_entries, AList.singleton_entries, List.kerase_cons_ne,
      List.kerase_cons_eq, h0, h0', hjj, hjj.symm]
  · simp [entries_erase, AList.insert_entries, AList.singleton_entries, List.kerase_cons_ne,
      List.kerase_cons_eq, show j ≠ 0 by omega]

/-- The rounds from handler `1` to handler `k + 1`, while no key wraps. -/
theorem run_churn : ∀ k, k + 1 < 2 ^ 32 →
    (churned 1).run ((List.range k).flatMap fun j => [.add, .destroy (j + 1)]) = churned (k + 1)
  | 0, _ => rfl
  | k + 1, hk => by
    rw [List.range_succ, List.flatMap_append, run_append, run_churn k (by omega)]
    exact churned_add_destroy (by omega) hk

/-- Two handlers, then `2^32 - 2` rounds of adding a handler and destroying the one before it,
then one more `add`. Handler `0` stays alive throughout. -/
def wrapRun : List Op :=
  [.add, .add] ++ (List.range (2 ^ 32 - 2)).flatMap (fun j => [.add, .destroy (j + 1)]) ++ [.add]

/-- After `wrapRun` the largest key is `2^32 - 1` and the last `add` files handler `2^32` under
the wrapped key `0`: handler `0` is alive with `m_i = 0` but its entry now watches the new
handler, so `operator()` skips it, and destroying it erases the entry of the new handler, which
stays alive with no entry. -/
theorem add_overwrites_live_handler :
    ∃ r, r = empty.run wrapRun ∧ r.live.lookup 0 = some 0 ∧ r.fire.lookup 0 = some (2 ^ 32) ∧
      0 ∉ r.call ∧ (r.destroy 0).live.lookup (2 ^ 32) = some 0 ∧
      (r.destroy 0).fire.lookup 0 = none := by
  have h : empty.run wrapRun = (churned (2 ^ 32 - 1)).add := by
    rw [wrapRun, run_append, run_append, show empty.run [.add, .add] = churned 1 from rfl,
      run_churn _ (by omega)]
    rfl
  refine ⟨_, rfl, ?_⟩
  rw [h]
  decide

end Signal
