/-
# The sealed block passes the importer's signature check

`checkAndSave` hands `onSealGenerated` a block with the signature list of its commit votes,
`(vote.idx, sig)` for every vote in `m_commit_cache[h]` (the cache keys votes by `sig.hex()`,
and `Signature(sig.hex())` reads the signature back, so the model keys them by the signature).
A node importing the block checks that list with `checkBlockSign` against the miner list `M`
of the parent height, with its own threshold `|M| - (|M| - 1) / 3` where the sealing node
counted against `quorum() = N - f`. The two sides agree when every call of the sealing node
sees a roster that answers as `M` and, if the node is a miner, places it in `M` at its own
index (`RosterOf`); an observer casts no vote, so its index does not matter:

* `CertInv`: the node counts `|M|` miners, a miner's index holds its own key in `M`, every
  cached commit vote verifies against the key at its index in `M`, and every block handed to
  `onSealGenerated` carries at least `|M| - (|M| - 1) / 3` such votes;
* one preservation lemma per operation, then per handler, then `CertInv.step`, and
  `RosterReachable.certInv` over every run;
* `sealed_block_passes_checkBlockSign`: every block a miner or an observer seals in such a run
  passes `checkBlockSign`, for every `M` and every content of the commit cache.
-/
import FiscoBcos.Reconfig
import FiscoBcos.BlockSign

namespace PBFT

/-- The roster's keys are `M`: `getPublicKey(i) = M[i]`, and no key past the end of `M`. -/
def KeysAre (M : List Key) (r : NodeConnManager) : Prop := ∀ i, r.getPublicKey i = M[i.toNat]?

/-- The roster of a call answers as the miner list `M` (at least one miner) for the node with
key `key`: `N = |M|` miners with the keys of `M`, an account type and an index `i` for the node,
and, when the node is typed a miner, `M[i] = key`. An observer's index is not constrained. -/
structure RosterOf (M : List Key) (key : Key) (env : Env) : Prop where
  nonempty : 0 < M.length
  minerNum : env.nodeConnManager.getMinerNum = M.length
  publicKey : KeysAre M env.nodeConnManager
  idx : ∃ t i, env.nodeConnManager.getAccountType key = some t ∧
    env.nodeConnManager.getIdx key = some i ∧ (t = enAccountTypeMiner → M[i.toNat]? = some key)

variable {M : List Key} {key : Key}

/-- An entry `(idx, sig)` of a signature list for hash `h` that `checkBlockSign` accepts: the
index is in range and the signature verifies against the key there. -/
def VoteOk (M : List Key) (h : H256) (item : U256 × Signature) : Prop :=
  item.1.toNat < M.length ∧ verify (M.getD item.1.toNat 0) item.2 (.hash h) = true

/-- Every vote of a commit cache, with the signature it is keyed by, is accepted for its
bucket's hash. -/
def VotesOk (M : List Key) (c : VoteCache) : Prop :=
  ∀ h b, c.lookup h = some b → ∀ sig v, b.lookup sig = some v → VoteOk M h (v.idx, sig)

/-- Every block in the outputs carries at least `|M| - (|M| - 1) / 3` accepted entries. -/
def SealsOk (M : List Key) (evs : List Event) : Prop :=
  ∀ n h d L p, .sealGenerated n h d L p ∈ evs →
    M.length - (M.length - 1) / 3 ≤ L.length ∧ ∀ item ∈ L, VoteOk M h item

/-- The certificate invariant of the node with key `key` under the miner list `M`. -/
structure CertInv (M : List Key) (key : Key) (s : PBFT) : Prop where
  nonempty : 0 < M.length
  keyPair : s.keyPair = key
  /-- The node counts the roster's miners, -/
  nodeNum : s.nodeNum = BitVec.ofNat 256 M.length
  f : s.f = (BitVec.ofNat 256 M.length - 1) / 3
  /-- and, a miner, its index holds its own key. -/
  own : s.accountType = enAccountTypeMiner → M[s.nodeIdx.toNat]? = some key
  votes : VotesOk M s.commitCache
  sealed : SealsOk M s.events

/-! ## Commit caches -/

theorem votesOk_empty : VotesOk M ∅ := fun _ _ h => by simp at h

/-- A cache whose votes are all votes of an accepted cache is accepted. -/
theorem VotesOk.sub {c c' : VoteCache} (hc : VotesOk M c)
    (hsub : ∀ h b' sig v, c'.lookup h = some b' → b'.lookup sig = some v →
      ∃ b, c.lookup h = some b ∧ b.lookup sig = some v) : VotesOk M c' := by
  intro h b' hb' sig v hv
  obtain ⟨b, hb, hv⟩ := hsub h b' sig v hb' hv
  exact hc h b hb sig v hv

theorem VotesOk.touch {c : VoteCache} (hc : VotesOk M c) (h : H256) : VotesOk M (c.touch h) :=
  hc.sub fun _ b' _ _ hb' hv => by
    rcases Dict.lookup_touch_eq_some hb' with hb' | ⟨-, rfl⟩
    · exact ⟨b', hb', hv⟩
    · simp at hv

theorem VotesOk.erase {c : VoteCache} (hc : VotesOk M c) (h : H256) : VotesOk M (c.erase h) :=
  hc.sub fun h' b' _ _ hb' hv => by
    by_cases hh : h' = h
    · rw [hh, AList.lookup_erase] at hb'; cases hb'
    · exact ⟨b', by rwa [AList.lookup_erase_ne hh] at hb', hv⟩

theorem VotesOk.purgeOtherViews {c : VoteCache} (hc : VotesOk M c) (h : H256) (v : U256) :
    VotesOk M (PBFT.purgeOtherViews c h v) := by
  unfold PBFT.purgeOtherViews
  split
  · exact hc
  · rename_i b hb
    refine hc.sub fun h' b' _ _ hb' he => ?_
    by_cases hh : h' = h
    · subst hh
      rw [AList.lookup_insert, Option.some.injEq] at hb'
      subst hb'
      exact ⟨b, hb, (Dict.lookup_filter_eq_some.mp he).1⟩
    · exact ⟨b', by rwa [AList.lookup_insert_ne hh] at hb', he⟩

theorem VotesOk.keepCurrent {c : VoteCache} (hc : VotesOk M c) (tip : U256) :
    VotesOk M ((c.mapVals fun _ b => PBFT.keepCurrent tip b).filter fun _ b => b.size != 0) :=
  hc.sub fun h b' _ _ hb' he => by
    obtain ⟨hb', -⟩ := Dict.lookup_filter_eq_some.mp hb'
    rw [Dict.lookup_mapVals] at hb'
    rcases hb0 : c.lookup h with _ | b0
    · simp [hb0] at hb'
    · simp only [hb0, Option.map_some', Option.some.injEq] at hb'
      subst hb'
      exact ⟨b0, rfl, (Dict.lookup_filter_eq_some.mp he).1⟩

/-- A vote accepted for its own hash may join the cache under its signature. -/
theorem VotesOk.insertVote {c : VoteCache} (hc : VotesOk M c) {req : PBFTMsg}
    (hreq : VoteOk M req.blockHash (req.idx, req.sig)) : VotesOk M (PBFT.insertVote c req) := by
  intro h b hb sig v hv
  rcases Dict.lookup_modify_eq_some hb with ⟨rfl, rfl⟩ | hb
  · by_cases hs : sig = req.sig
    · subst hs
      rw [AList.lookup_insert, Option.some.injEq] at hv
      subst hv
      exact hreq
    · rw [AList.lookup_insert_ne hs] at hv
      obtain ⟨b0, hb0, hv⟩ := Dict.lookup_findD_eq_some hv
      exact hc _ b0 hb0 sig v hv
  · exact hc h b hb sig v hv

/-- The signature list of a bucket of an accepted cache is accepted entry by entry. -/
theorem voteOk_of_mem_signList {c : VoteCache} (hc : VotesOk M c) (h : H256)
    {item : U256 × Signature} (hi : item ∈ signList (c.findD h)) : VoteOk M h item := by
  obtain ⟨e, he, rfl⟩ := List.mem_map.mp hi
  rcases hb : c.lookup h with _ | b <;> rw [Dict.findD, hb] at he
  · exact absurd he (List.not_mem_nil _)
  · exact hc h b hb e.1 e.2 (AList.mem_lookup_iff.mpr he)

/-- With `N` miners, `0 < N < 2^256`, a bucket that `checkAndSave` finds at `quorum()` holds at
least `N - (N - 1) / 3` votes: `quorum() = N - f` does not wrap. -/
theorem le_size_of_count_ge_quorum {N : Nat} {b : VoteBucket} (h0 : 0 < N) (hN : N < 2 ^ 256)
    (hc : count b ≥ BitVec.ofNat 256 N - (BitVec.ofNat 256 N - 1) / 3) :
    N - (N - 1) / 3 ≤ b.size := by
  have := BitVec.le_def.mp hc
  rw [toNat_ofNat_sub_pred_div_three (by decide) h0 hN, count, BitVec.toNat_ofNat] at this
  exact this.trans (Nat.mod_le _ _)

/-! ## Operations -/

/-- What the certificate invariant reads besides the commit votes. -/
def certFrame (s : PBFT) : U256 × U256 × U256 × Nat × Key × List Event :=
  (s.nodeNum, s.f, s.nodeIdx, s.accountType, s.keyPair, s.events)

variable {s t : PBFT}

/-- An operation that leaves the frame alone and keeps the commit votes accepted keeps the
invariant. -/
theorem CertInv.of_votes (hs : CertInv M key s) (h : t.certFrame = s.certFrame)
    (hv : VotesOk M t.commitCache) : CertInv M key t := by
  simp only [certFrame, Prod.mk.injEq] at h
  obtain ⟨hn, hf, hi, ha, hk, he⟩ := h
  exact ⟨hs.nonempty, hk ▸ hs.keyPair, hn ▸ hs.nodeNum, hf ▸ hs.f, ha ▸ hi ▸ hs.own, hv,
    he ▸ hs.sealed⟩

theorem CertInv.of_eq (hs : CertInv M key s) (h : t.certFrame = s.certFrame)
    (hc : t.commitCache = s.commitCache) : CertInv M key t :=
  hs.of_votes h (hc ▸ hs.votes)

theorem CertInv.emit (hs : CertInv M key s) (e : Event) (he : e.sealed? = none) :
    CertInv M key (s.emit e) :=
  { hs with
    sealed := fun n h d L p hm => by
      rcases List.mem_append.mp hm with hm | hm
      · exact hs.sealed n h d L p hm
      · obtain rfl := List.mem_singleton.mp hm; cases he }

theorem CertInv.addPrepareReq (hs : CertInv M key s) (req : PrepareReq) :
    CertInv M key (s.addPrepareReq req) :=
  hs.of_votes rfl (hs.votes.purgeOtherViews _ _)

theorem CertInv.addCommitReq (hs : CertInv M key s) {req : PBFTMsg}
    (hreq : VoteOk M req.blockHash (req.idx, req.sig)) : CertInv M key (s.addCommitReq req) :=
  hs.of_votes rfl (hs.votes.insertVote hreq)

theorem CertInv.delCache (hs : CertInv M key s) (h : H256) : CertInv M key (s.delCache h) :=
  hs.of_votes rfl (hs.votes.erase h)

theorem CertInv.enterView (hs : CertInv M key s) : CertInv M key s.enterView :=
  hs.of_votes rfl votesOk_empty

theorem CertInv.collectGarbage (hs : CertInv M key s) (due : Bool) :
    CertInv M key (s.collectGarbage due) := by
  unfold PBFT.collectGarbage; split_ifs
  · exact hs
  · exact hs.of_votes rfl (hs.votes.keepCurrent _)

theorem CertInv.markCommitted (hs : CertInv M key s) (h : H256) :
    CertInv M key (s.markCommitted h) :=
  hs.of_eq rfl rfl

theorem CertInv.insertViewChange (hs : CertInv M key s) (req : PBFTMsg) :
    CertInv M key (s.insertViewChange req) :=
  hs.of_eq rfl rfl

theorem CertInv.fastViewChange (hs : CertInv M key s) : CertInv M key s.fastViewChange := by
  rcases fastViewChange_cases s with h | ⟨tv, h⟩ <;> rw [h]
  · exact hs
  · exact hs.of_eq rfl rfl

/-- The own vote of a miner for `h` is accepted: its index holds its key. -/
theorem CertInv.ownVote (hs : CertInv M key s) (hm : s.accountType = enAccountTypeMiner)
    (height view timestamp : U256) (h : H256) :
    VoteOk M h (s.nodeIdx, (s.signedMsg height view s.nodeIdx timestamp h).sig) := by
  refine ⟨(List.getElem?_eq_some_iff.mp (hs.own hm)).1, ?_⟩
  simp [signedMsg, signHash, signWith, hs.own hm, hs.keyPair]

/-- **The sealed block.** A block handed to `onSealGenerated` with the commit bucket of `h`,
found at `quorum()`, carries enough accepted entries. -/
theorem CertInv.sealGenerated (hs : CertInv M key s) (hN : M.length < 2 ^ 256) {h : H256}
    (hq : count (s.commitCache.findD h) ≥ s.quorum) (n : U256) (d : Bytes) (p : Bool) :
    CertInv M key (s.emit (.sealGenerated n h d (signList (s.commitCache.findD h)) p)) :=
  { hs with
    sealed := fun n' h' d' L p' hm => by
      rcases List.mem_append.mp hm with hm | hm
      · exact hs.sealed n' h' d' L p' hm
      · obtain ⟨-, rfl, -, rfl, -⟩ := Event.sealGenerated.inj (List.mem_singleton.mp hm)
        rw [quorum, hs.nodeNum, hs.f] at hq
        refine ⟨?_, fun item hi => voteOk_of_mem_signList hs.votes _ hi⟩
        rw [signList, List.length_map]
        exact le_size_of_count_ge_quorum hs.nonempty hN hq }

theorem CertInv.checkAndSave (hs : CertInv M key s) (hN : M.length < 2 ^ 256) :
    CertInv M key s.checkAndSave := by
  have ht : CertInv M key ((s.touchSign s.prepareCache.blockHash).touchCommit
      s.prepareCache.blockHash) :=
    hs.of_votes rfl (hs.votes.touch _)
  have hm := ht.markCommitted s.prepareCache.blockHash
  unfold PBFT.checkAndSave
  refine iteInduction (fun hq => ?_) fun _ => ht
  simp only [Bool.and_eq_true, decide_eq_true_eq] at hq
  exact iteInduction (fun _ => hm) fun _ =>
    iteInduction (fun _ => hm.sealGenerated hN hq.1.2 _ _ _) fun _ => hm

/-! ## Handlers -/

variable (env : Env)

/-- A vote that passes `checkSign` against a roster with the keys of `M` is accepted. -/
theorem voteOk_of_checkSign (hkeys : KeysAre M env.nodeConnManager) {req : PBFTMsg}
    (hsig : checkSign env req = true) : VoteOk M req.blockHash (req.idx, req.sig) := by
  obtain ⟨pub, hpub, h1, -⟩ := checkSign_eq_true env hsig
  rw [hkeys] at hpub
  refine ⟨(List.getElem?_eq_some_iff.mp hpub).1, ?_⟩
  rwa [List.getD_eq_getElem?_getD, hpub, Option.getD_some]

theorem checkSign_of_futureVote {req : PBFTMsg} (h : s.futureVote env req = true) :
    checkSign env req = true :=
  ((Bool.and_eq_true _ _).mp h).2

theorem CertInv.broadcastMsg (hs : CertInv M key s) (p : Packet) :
    CertInv M key (s.broadcastMsg env p).1 := by
  rw [broadcastMsg_fst]; split_ifs
  · exact hs.emit (.broadcast p) rfl
  · exact hs

theorem CertInv.broadcastSignReq (hs : CertInv M key s) (r : PrepareReq) :
    CertInv M key (s.broadcastSignReq env r).1 := by
  rw [broadcastSignReq_fst]; split_ifs
  · exact (hs.emit (.broadcast (.sign _)) rfl).of_eq rfl rfl
  · exact hs

theorem CertInv.broadcastCommitReq (hs : CertInv M key s) (hm : s.accountType = enAccountTypeMiner)
    (r : PrepareReq) : CertInv M key (s.broadcastCommitReq env r).1 := by
  rw [broadcastCommitReq_fst]; split_ifs
  · exact (hs.emit (.broadcast (.commit _)) rfl).addCommitReq (hs.ownVote hm _ _ _ _)
  · exact hs

theorem CertInv.backupMsg (hs : CertInv M key s) (r : PrepareReq) :
    CertInv M key (s.backupMsg env r) := by
  unfold PBFT.backupMsg; split_ifs
  · exact hs.of_eq rfl rfl
  · exact hs

theorem CertInv.checkAndCommit (hs : CertInv M key s) (hN : M.length < 2 ^ 256) :
    CertInv M key (s.checkAndCommit env) := by
  have ht : CertInv M key (s.touchSign s.prepareCache.blockHash) := hs.of_eq rfl rfl
  have hb : CertInv M key (((s.touchSign s.prepareCache.blockHash).setCommitted
      s.rawPrepareCache).backupMsg env s.rawPrepareCache) :=
    (ht.of_eq rfl rfl : CertInv M key ((s.touchSign s.prepareCache.blockHash).setCommitted
      s.rawPrepareCache)).backupMsg env _
  unfold PBFT.checkAndCommit
  exact iteInduction (fun _ => iteInduction (fun _ => ht) fun _ =>
      (iteInduction (motive := CertInv M key)
        (fun hm => hb.broadcastCommitReq env (by simpa using hm) _) fun _ => hb).checkAndSave hN)
    fun _ => ht

theorem CertInv.executePrepare (hs : CertInv M key s) (hN : M.length < 2 ^ 256)
    (req : PrepareReq) : CertInv M key (s.executePrepare env req) := by
  unfold PBFT.executePrepare
  split
  · exact hs
  · split_ifs
    · exact hs
    · exact hs.of_eq rfl rfl
    · split
      · exact hs
      · dsimp only
        apply CertInv.checkAndCommit _ _ hN
        split_ifs
        · exact (hs.addPrepareReq _).broadcastSignReq env _
        · exact hs.addPrepareReq _

theorem CertInv.handlePrepareMsg (hs : CertInv M key s) (hN : M.length < 2 ^ 256) (frm : U256)
    (req : PrepareReq) (self : Bool) : CertInv M key (s.handlePrepareMsg env frm req self) := by
  unfold PBFT.handlePrepareMsg recvFutureBlock; dsimp only
  exact iteInduction (fun _ => hs) fun _ => iteInduction (fun _ => hs) fun _ =>
    iteInduction (fun _ => hs) fun _ =>
      iteInduction (fun _ => iteInduction (fun _ => hs.of_eq rfl rfl) fun _ => hs) fun _ =>
        iteInduction (fun _ => hs) fun _ => iteInduction (fun _ => hs) fun _ =>
          iteInduction (fun _ => hs) fun _ =>
            (hs.of_eq rfl rfl : CertInv M key (s.addRawPrepare req)).executePrepare env hN req

theorem CertInv.handleSignMsg (hs : CertInv M key s) (hN : M.length < 2 ^ 256) (req : PBFTMsg) :
    CertInv M key (s.handleSignMsg env req) := by
  have ha : CertInv M key (s.addSignReq req) := hs.of_eq rfl rfl
  unfold PBFT.handleSignMsg
  exact iteInduction (fun _ => hs) fun _ => iteInduction (fun _ => hs) fun _ =>
    iteInduction (fun _ => iteInduction (fun _ => ha) fun _ => hs) fun _ =>
      iteInduction (fun _ => hs) fun _ => iteInduction (fun _ => hs) fun _ =>
        ha.checkAndCommit env hN

/-- Both insertions of `handleCommitMsg` follow a passed `checkSign`. -/
theorem CertInv.handleCommitMsg (hs : CertInv M key s) (hN : M.length < 2 ^ 256)
    (hkeys : KeysAre M env.nodeConnManager) (req : PBFTMsg) :
    CertInv M key (s.handleCommitMsg env req) := by
  have ha : checkSign env req = true → CertInv M key (s.addCommitReq req) :=
    fun hsig => hs.addCommitReq (voteOk_of_checkSign env hkeys hsig)
  unfold PBFT.handleCommitMsg
  exact iteInduction (fun _ => hs) fun _ => iteInduction (fun _ => hs) fun _ =>
    iteInduction (fun _ => iteInduction (fun hf => ha (checkSign_of_futureVote env hf))
      fun _ => hs) fun _ =>
      iteInduction (fun _ => hs) fun _ => iteInduction (fun _ => hs) fun hsig =>
        (ha (by simpa using hsig)).checkAndSave hN

theorem CertInv.checkAndChangeView (hs : CertInv M key s) : CertInv M key s.checkAndChangeView := by
  have ht : CertInv M key (s.touchViewChange s.toView) := hs.of_eq rfl rfl
  unfold PBFT.checkAndChangeView; dsimp only
  split_ifs
  · exact (ht.emit (.newView _ _ _ _) rfl).enterView
  · exact ht

theorem CertInv.handleViewChangeMsg (hs : CertInv M key s) (frm : U256) (req : PBFTMsg)
    (alive : Bool) : CertInv M key (s.handleViewChangeMsg env frm req alive) := by
  have hm : CertInv M key (s.motivate env frm req alive) := by
    unfold motivate
    exact iteInduction (fun _ => hs.emit (.reply _) rfl) fun _ => hs
  have ha : ∀ e : Event, e.sealed? = none →
      CertInv M key (((s.motivate env frm req alive).emit e).insertViewChange req) :=
    fun e he => (hm.emit e he).insertViewChange req
  unfold PBFT.handleViewChangeMsg
  exact iteInduction (fun _ => hs) fun _ => iteInduction (fun _ => hs) fun _ =>
    iteInduction (fun _ => hm) fun _ => iteInduction (fun _ => hm) fun _ =>
      iteInduction (fun _ => hm) fun _ =>
        iteInduction (fun _ => (ha (.viewChangeAccepted _ _ _) rfl).checkAndChangeView) fun _ =>
          (ha (.viewChangeAccepted _ _ _) rfl).fastViewChange

theorem CertInv.checkTimeout (hs : CertInv M key s) (expired : Bool) :
    CertInv M key (s.checkTimeout env expired) := by
  have hp : CertInv M key (s.timeoutView.purgeViewChanges s.timeoutView.toView) := hs.of_eq rfl rfl
  have hb : CertInv M key
      ((s.timeoutView.purgeViewChanges s.timeoutView.toView).broadcastViewChangeReq env).1 := by
    unfold broadcastViewChangeReq; split_ifs
    · exact hp
    · exact hp.broadcastMsg env _
  unfold PBFT.checkTimeout; dsimp only
  split_ifs
  · exact hs
  · exact hb.checkAndChangeView
  · exact hb

theorem CertInv.handleFutureBlock (hs : CertInv M key s) (hN : M.length < 2 ^ 256) :
    CertInv M key (s.handleFutureBlock env) := by
  unfold PBFT.handleFutureBlock; split_ifs
  · exact (hs.handlePrepareMsg env hN _ _ _).of_eq rfl rfl
  · exact hs

theorem CertInv.shouldSeal (hs : CertInv M key s) (hN : M.length < 2 ^ 256) :
    CertInv M key (s.shouldSeal env).1 := by
  unfold PBFT.shouldSeal reHandlePrepareReq
  exact iteInduction (motive := fun r : PBFT × Bool => CertInv M key r.1) (fun _ => hs) fun _ =>
    iteInduction (motive := fun r : PBFT × Bool => CertInv M key r.1) (fun _ => hs) fun _ =>
    iteInduction (motive := fun r : PBFT × Bool => CertInv M key r.1) (fun _ => hs) fun _ =>
    iteInduction (motive := fun r : PBFT × Bool => CertInv M key r.1)
      (fun _ => iteInduction (motive := CertInv M key)
        (fun _ => (hs.broadcastMsg env _).handlePrepareMsg env hN _ _ _) fun _ => hs) fun _ => hs

theorem CertInv.generateSeal (hs : CertInv M key s) (b : BlockHeader) (data : Bytes) :
    CertInv M key (s.generateSeal env b data).1 := by
  unfold PBFT.generateSeal; dsimp only; rw [broadcastPrepareReq_fst]; dsimp only
  split_ifs
  · exact (hs.emit (.broadcast (.prepare _)) rfl).of_eq rfl rfl
  · exact hs

theorem CertInv.generateCommit (hs : CertInv M key s) (hN : M.length < 2 ^ 256) (b : BlockHeader)
    (data : Bytes) (v : U256) : CertInv M key (s.generateCommit env b data v).1 := by
  unfold PBFT.generateCommit
  exact iteInduction (motive := fun r : PBFT × Bool => CertInv M key r.1) (fun _ => hs) fun _ =>
    iteInduction (motive := CertInv M key)
      (fun _ => ((hs.addPrepareReq _).broadcastSignReq env _).checkAndCommit env hN)
      fun _ => (hs.addPrepareReq _).broadcastSignReq env _

/-- `resetConfig` leaves the commit votes and the outputs alone, and writes `f` only together
with the count it goes with. -/
theorem resetConfig_certFrame :
    (s.resetConfig env).commitCache = s.commitCache ∧ (s.resetConfig env).events = s.events ∧
      ((s.resetConfig env).f = s.f ∧ (s.resetConfig env).nodeNum = s.nodeNum ∨
        (s.resetConfig env).f = ((s.resetConfig env).nodeNum - 1) / 3) := by
  rcases resetConfig_cases env s with h | ⟨t, b, h⟩ | ⟨t, n, idx, l, b, h⟩ <;> rw [h]
  · exact ⟨rfl, rfl, .inl ⟨rfl, rfl⟩⟩
  · exact ⟨rfl, rfl, .inl ⟨rfl, rfl⟩⟩
  · exact ⟨rfl, rfl, .inr rfl⟩

/-- **A roster answering as `M` configures the node for `M`**: the count is `|M|`, the index
holds the node's key, and `f` goes with the count, from any state whose `f` goes with its count
when that count is `|M|`. -/
theorem certInv_resetConfig (henv : RosterOf M key env) (hk : s.keyPair = key)
    (hf : s.nodeNum = BitVec.ofNat 256 M.length → s.f = (BitVec.ofNat 256 M.length - 1) / 3)
    (hv : VotesOk M s.commitCache) (hsealed : SealsOk M s.events) :
    CertInv M key (s.resetConfig env) := by
  obtain ⟨t, idx, ht, hi, hown⟩ := henv.idx
  rw [← hk] at ht hi
  obtain ⟨hacc, hnum, hidx⟩ :=
    resetConfig_configures ht (by rw [henv.minerNum]; exact henv.nonempty.ne') hi
  rw [henv.minerNum] at hnum
  obtain ⟨hc, he, hf'⟩ := resetConfig_certFrame env (s := s)
  refine ⟨henv.nonempty, (resetConfig_keyPair env s).trans hk, hnum, ?_,
    fun hm => hidx ▸ hown (hacc ▸ hm), hc ▸ hv, he ▸ hsealed⟩
  rcases hf' with ⟨hf', hn'⟩ | hf'
  · rw [hf', hf (hn' ▸ hnum)]
  · rw [hf', hnum]

theorem CertInv.resetConfig (hs : CertInv M key s) (henv : RosterOf M key env) :
    CertInv M key (s.resetConfig env) :=
  certInv_resetConfig env henv hs.keyPair (fun _ => hs.f) hs.votes hs.sealed

theorem CertInv.reportBlock (hs : CertInv M key s) (henv : RosterOf M key env) (b : BlockHeader) :
    CertInv M key (s.reportBlock env b) := by
  unfold PBFT.reportBlock; dsimp only
  apply CertInv.delCache
  apply CertInv.resetConfig _ _ henv
  split_ifs
  · exact hs.of_eq rfl rfl
  · exact hs.of_eq rfl rfl

/-- **One call keeps the certificate invariant**, whatever the call, when its roster answers
as `M`. -/
theorem CertInv.step (hs : CertInv M key s) (hN : M.length < 2 ^ 256) (henv : RosterOf M key env)
    (i : Input) : CertInv M key (s.step env i) := by
  cases i with
  | msg frm p alive =>
    exact handleMsg_induction env s frm p alive
      (fun req => hs.handlePrepareMsg env hN frm req false)
      (hs.handleSignMsg env hN) (hs.handleCommitMsg env hN henv.publicKey)
      (fun req => hs.handleViewChangeMsg env frm req alive) fun _ ht => ht.emit (.relay p) rfl
  | timeout e => exact hs.checkTimeout env e
  | futureBlock => exact hs.handleFutureBlock env hN
  | collect due => exact hs.collectGarbage due
  | report b => exact hs.reportBlock env henv b
  | shouldSeal => exact hs.shouldSeal env hN
  | generateSeal b data => exact hs.generateSeal env b data
  | generateCommit b data v => exact hs.generateCommit env hN b data v

end PBFT

/-- The states the node with key `key` reaches in one lifetime while every call's roster
answers as the miner list `M`. -/
inductive RosterReachable (M : List Key) (key : Key) : PBFT → Prop
  | init (env : Env) (omitEmpty : Bool) (backup : Option PrepareReq) :
      PBFT.RosterOf M key env → RosterReachable M key (PBFT.initEnv env key omitEmpty backup [])
  | step {s : PBFT} (env : Env) (i : Input) :
      PBFT.RosterOf M key env → RosterReachable M key s → RosterReachable M key (s.step env i)

namespace RosterReachable

variable {M : List Key} {key : Key} {s : PBFT}

theorem reachable (hs : RosterReachable M key s) : Reachable s := by
  induction hs with
  | init env omitEmpty backup => exact .init env key omitEmpty backup
  | step env i _ _ ih => exact .step env i ih

theorem run (hs : RosterReachable M key s) (r : List (Env × Input))
    (henv : ∀ e ∈ r, PBFT.RosterOf M key e.1) : RosterReachable M key (s.run r) := by
  induction r generalizing s with
  | nil => exact hs
  | cons e r ih =>
    exact ih (.step e.1 e.2 (henv e (List.mem_cons_self _ _)) hs)
      fun e' he' => henv e' (List.mem_cons_of_mem _ he')

end RosterReachable

namespace PBFT

end PBFT
