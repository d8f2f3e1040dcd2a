/-
# The fast view change needs more than `f` senders

The fast path of `handleViewChangeMsg` scans every cached view change for a view above the
target view (`fastScan`), keeps per sender the view it counted, and jumps to just below the
least counted view once more than `f` senders are counted. The scan reads two nested maps in
their iteration order; its invariant (`ScanOk`) holds whatever that order is.

* `scanStep_ok`, `fastScan_ok`: every sender the scan counts has a cached request, not below
  the tip, for a view above the target view and not below the least counted view;
* `scan_jump_justified`: whenever the fast path's count exceeds `f`, the least view is above
  the target view and more than `f` distinct senders requested a view at least as high;
* `fast_jump_justified`: whenever `handleViewChangeMsg` moves the target view, it moves it to
  just below such a view, so no `f` senders can move it by themselves.
-/
import FiscoBcos.ViewOrder

namespace PBFT

/-- Sender `i` has a view change cached for a view `w ≥ v`, with a height not below `tip`. -/
def Requested (c : ViewChangeCache) (tip v i : U256) : Prop :=
  ∃ w b e, c.lookup w = some b ∧ b.lookup i = some e ∧ v ≤ w ∧ tip ≤ e.height

/-- The scan's invariant over the cache `c`: each sender counted for view `w` has a request
cached at `w`, not below the tip, and `w` lies above the target view and not below the least
counted view. -/
def ScanOk (c : ViewChangeCache) (toView tip : U256) (acc : Scan) : Prop :=
  ∀ i w, acc.idxView.lookup i = some w → acc.minView ≤ w ∧ toView < w ∧
    ∃ b e, c.lookup w = some b ∧ b.lookup i = some e ∧ tip ≤ e.height

variable {c : ViewChangeCache} {toView tip : U256}

/-- One step of the scan, over a request cached at `(w, i)` with `w` above the target view,
keeps the invariant. -/
theorem scanStep_ok {acc : Scan} {w i : U256} {b : Dict U256 PBFTMsg} {e : PBFTMsg}
    (hacc : ScanOk c toView tip acc) (hw : toView < w) (hb : c.lookup w = some b)
    (he : b.lookup i = some e) : ScanOk c toView tip (scanStep tip w acc i e) := by
  unfold scanStep
  refine iteInduction (motive := ScanOk c toView tip) (fun hcond => ?_) fun _ => hacc
  have hmin : (if acc.minView > w then w else acc.minView) ≤ w ∧
      (if acc.minView > w then w else acc.minView) ≤ acc.minView := by
    split_ifs with hlt <;> constructor <;> bv_omega
  intro j w' hj
  by_cases hji : j = i
  · subst hji
    obtain rfl := Option.some.inj ((AList.lookup_insert _).symm.trans hj)
    simp only [Bool.and_eq_true, decide_eq_true_eq] at hcond
    exact ⟨hmin.1, hw, b, e, hb, he, hcond.1⟩
  · rw [AList.lookup_insert_ne hji] at hj
    obtain ⟨h1, h2, h3⟩ := hacc j w' hj
    exact ⟨BitVec.le_trans hmin.2 h1, h2, h3⟩

/-- **The scan's loop invariant.** Whatever the order of the views and of the senders in each
bucket, every sender `fastScan` counts was counted for a view above the target view, not below
the least counted view, at which it has a request not below the tip. -/
theorem fastScan_ok (c : ViewChangeCache) (toView tip : U256) :
    ScanOk c toView tip (fastScan toView tip c) := by
  have h0 : ScanOk c toView tip ⟨∅, invalid256, invalid256⟩ := fun i w h => by simp at h
  unfold fastScan
  refine List.foldlRecOn (motive := ScanOk c toView tip) _ _ _ h0 fun acc hacc wb hwb => ?_
  dsimp only
  split_ifs with hw
  · exact List.foldlRecOn (motive := ScanOk c toView tip) _ _ _ hacc fun acc' hacc' ie hie =>
      scanStep_ok hacc' hw (AList.mem_lookup_iff.mpr hwb) (AList.mem_lookup_iff.mpr hie)
  · exact hacc

/-- A count above `f` in `u256` is a count of more than `f` senders. -/
theorem lt_size_of_count_gt {f : U256} {m : Dict U256 U256} (h : count m > f) :
    f.toNat + 1 ≤ m.keys.length := by
  have hlt := BitVec.lt_def.mp h
  rw [count, BitVec.toNat_ofNat] at hlt
  have : m.size % 2 ^ 256 ≤ m.size := Nat.mod_le _ _
  rw [AList.keys, List.keys, List.length_map]
  exact Nat.lt_of_lt_of_le hlt this

/-- **The scan behind the jump.** For every state, whatever the content and the iteration
order of `m_recv_view_change_req`: when the fast path's count exceeds `f`, the least counted
view lies above the target view; more than `f` pairwise distinct senders have a cached request,
not below the tip, for a view at least the least counted one; and so any `f` senders leave out
one of them. -/
theorem scan_jump_justified (s : PBFT) (r : Scan)
    (hr : r = fastScan s.toView s.highestBlock.number s.recvViewChangeReq)
    (hfire : count r.idxView > s.f) :
    s.toView < r.minView ∧ r.minView - 1 < r.minView ∧
      (∃ I : List U256, I.Nodup ∧ s.f.toNat + 1 ≤ I.length ∧
        ∀ i ∈ I, Requested s.recvViewChangeReq s.highestBlock.number r.minView i) ∧
      ∀ F : List U256, F.length ≤ s.f.toNat →
        ∃ i, i ∉ F ∧ Requested s.recvViewChangeReq s.highestBlock.number r.minView i := by
  have hok : ScanOk s.recvViewChangeReq s.toView s.highestBlock.number r :=
    hr ▸ fastScan_ok _ _ _
  have hlen := lt_size_of_count_gt hfire
  have hreq : ∀ i ∈ r.idxView.keys,
      Requested s.recvViewChangeReq s.highestBlock.number r.minView i := by
    intro i hi
    obtain ⟨w, hw⟩ := Option.isSome_iff_exists.mp (AList.lookup_isSome.mpr
      (AList.mem_keys.mpr hi))
    obtain ⟨h1, -, b, e, hb, he, h3⟩ := hok i w hw
    exact ⟨w, b, e, hb, he, h1, h3⟩
  -- some sender is counted, for a view above the target view
  obtain ⟨i0, hi0⟩ := List.exists_mem_of_length_pos (Nat.lt_of_lt_of_le (Nat.succ_pos _) hlen)
  obtain ⟨w0, hw0⟩ := Option.isSome_iff_exists.mp (AList.lookup_isSome.mpr
    (AList.mem_keys.mpr hi0))
  obtain ⟨-, hto0, -⟩ := hok i0 w0 hw0
  have hgt : s.toView < r.minView := hr ▸ fastScan_minView_gt _ _ (by
    intro heq
    have := BitVec.lt_def.mp hto0
    rw [heq, invalid256, BitVec.toNat_allOnes] at this
    have := w0.isLt
    omega)
  refine ⟨hgt, ?_, ⟨r.idxView.keys, r.idxView.keys_nodup, hlen, hreq⟩, fun F hF => ?_⟩
  · have := BitVec.lt_def.mp hgt
    bv_omega
  · by_contra hno
    push_neg at hno
    have hsub : r.idxView.keys ⊆ F := fun i hi => by
      by_contra hiF
      exact hno i hiF (hreq i hi)
    have := (List.subperm_of_subset r.idxView.keys_nodup hsub).length_le
    omega

/-- A change of the target view from `s` to `t` is justified: `t` targets just below a view `v`
above the target view of `s`, and more than `f` pairwise distinct senders have a request cached
in `t`, not below the tip, for a view at least `v`. -/
def JumpJustified (s t : PBFT) : Prop :=
  t.toView ≠ s.toView → ∃ v, t.toView = v - 1 ∧ s.toView < v ∧
    (∃ I : List U256, I.Nodup ∧ s.f.toNat + 1 ≤ I.length ∧
      ∀ i ∈ I, Requested t.recvViewChangeReq s.highestBlock.number v i) ∧
    ∀ F : List U256, F.length ≤ s.f.toNat →
      ∃ i, i ∉ F ∧ Requested t.recvViewChangeReq s.highestBlock.number v i

theorem JumpJustified.of_toView {s t : PBFT} (h : t.toView = s.toView) : JumpJustified s t :=
  fun hne => absurd h hne

theorem checkAndChangeView_toView (s : PBFT) : s.checkAndChangeView.toView = s.toView := by
  simp only [checkAndChangeView, apply_ite PBFT.toView, enterView, emit, touchViewChange, ite_self]

/-- The fast path of a state with the target view, tip and `f` of `s` is justified against `s`:
it either keeps the target view or jumps after the scan counted more than `f` senders. -/
theorem jumpJustified_fastViewChange {s u : PBFT} (ht : u.toView = s.toView)
    (hb : u.highestBlock = s.highestBlock) (hf : u.f = s.f) : JumpJustified s u.fastViewChange := by
  unfold fastViewChange; dsimp only
  split_ifs with hc
  · simp only [Bool.and_eq_true, decide_eq_true_eq] at hc
    obtain ⟨h1, -, h3, h4⟩ := scan_jump_justified u _ rfl hc.1
    rw [ht, hb, hf] at *
    exact fun _ => ⟨_, rfl, h1, h3, h4⟩
  · exact .of_toView ht

/-- **The fast jump is justified.** For every state and every view change the node handles:
whenever `handleViewChangeMsg` moves `m_to_view`, it sets it to `v - 1` for a view `v` above the
previous target view (the fast path's `min_view`), and more than `f` pairwise distinct senders
have a cached request, not below the tip, for a view at least `v`; so any `f` senders leave
out one of them. -/
theorem fast_jump_justified (env : Env) (s : PBFT) (frm : U256) (req : PBFTMsg) (alive : Bool)
    (hjump : (s.handleViewChangeMsg env frm req alive).toView ≠ s.toView) :
    ∃ v, (s.handleViewChangeMsg env frm req alive).toView = v - 1 ∧ s.toView < v ∧
      (∃ I : List U256, I.Nodup ∧ s.f.toNat + 1 ≤ I.length ∧
        ∀ i ∈ I, Requested (s.handleViewChangeMsg env frm req alive).recvViewChangeReq
          s.highestBlock.number v i) ∧
      ∀ F : List U256, F.length ≤ s.f.toNat → ∃ i, i ∉ F ∧
        Requested (s.handleViewChangeMsg env frm req alive).recvViewChangeReq
          s.highestBlock.number v i := by
  have hm : (s.motivate env frm req alive).toView = s.toView ∧
      (s.motivate env frm req alive).highestBlock = s.highestBlock ∧
      (s.motivate env frm req alive).f = s.f := by
    unfold motivate; split_ifs <;> exact ⟨rfl, rfl, rfl⟩
  have hj : JumpJustified s (s.handleViewChangeMsg env frm req alive) := by
    unfold handleViewChangeMsg; dsimp only
    generalize s.motivate env frm req alive = m at hm ⊢
    refine iteInduction (fun _ => .of_toView rfl) fun _ => iteInduction (fun _ => .of_toView rfl)
      fun _ => iteInduction (fun _ => .of_toView hm.1) fun _ =>
        iteInduction (fun _ => .of_toView hm.1) fun _ =>
          iteInduction (fun _ => .of_toView hm.1) fun _ => ?_
    exact iteInduction (fun _ => .of_toView ((checkAndChangeView_toView _).trans hm.1))
      fun _ => jumpJustified_fastViewChange hm.1 hm.2.1 hm.2.2
  exact hj hjump

/-- Node `0` of the scenarios after miner `2` asked it for view `2`, two views ahead. -/
def fastNode : PBFT := (scenarioNode 0).step scenarioEnv (.msg 2 (.viewChange (vote 2 9 2 9)) true)

/-- Miner `3`'s request for view `2` takes the fast path: node `0` targets view `1`. -/
theorem fast_jump_justified_scenario :
    (fastNode.handleViewChangeMsg scenarioEnv 3 (vote 3 9 2 9) true).toView ≠ fastNode.toView ∧
    ∃ v, (fastNode.handleViewChangeMsg scenarioEnv 3 (vote 3 9 2 9) true).toView = v - 1 ∧
      fastNode.toView < v ∧
      (∃ I : List U256, I.Nodup ∧ fastNode.f.toNat + 1 ≤ I.length ∧
        ∀ i ∈ I, Requested (fastNode.handleViewChangeMsg scenarioEnv 3 (vote 3 9 2 9) true).recvViewChangeReq
          fastNode.highestBlock.number v i) ∧
      ∀ F : List U256, F.length ≤ fastNode.f.toNat → ∃ i, i ∉ F ∧
        Requested (fastNode.handleViewChangeMsg scenarioEnv 3 (vote 3 9 2 9) true).recvViewChangeReq
          fastNode.highestBlock.number v i :=
  have h : (fastNode.handleViewChangeMsg scenarioEnv 3 (vote 3 9 2 9) true).toView ≠
      fastNode.toView := by decide
  ⟨h, fast_jump_justified _ _ _ _ _ h⟩

end PBFT
