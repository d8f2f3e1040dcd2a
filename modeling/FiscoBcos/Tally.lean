/-
# How votes are counted

Three mechanisms decide when a proposal moves on: the sign and commit caches are keyed by
`sig.hex()`, so a vote counts once per signature; `checkAndCommit` fires when the sign votes
number exactly `quorum()`; and `checkAndSave` sets `m_commitMap[h]` so that a block is handed
to `onSealGenerated` only once. For every state this file shows what each mechanism does:

* `handleSignMsg_inserts_fresh_signature`: a valid sign vote with a new signature is added to
  the bucket, whether or not its signer already has a vote for the hash;
* `collectGarbage_drops_flag`: garbage collection clears the flag of a hash whose sign votes
  all lie below the tip, whatever its commit votes;

and runs each mechanism from the scenario deployment to a state where it falls short, the
first and the last through these lemmas (the last on the scenarios' observer, with the host up
throughout).
-/
import FiscoBcos.Node

namespace PBFT

variable (env : Env) (s : PBFT)

/-! ## Signatures, not signers -/

/-- The vote-count checks read the sign cache and never write it, beyond creating the bucket
of the executed proposal. -/
theorem checkAndSave_signCache :
    s.checkAndSave.signCache = s.signCache.touch s.prepareCache.blockHash := by
  unfold checkAndSave; dsimp only; split_ifs <;> rfl

theorem checkAndCommit_signCache :
    (s.checkAndCommit env).signCache = s.signCache.touch s.prepareCache.blockHash := by
  unfold checkAndCommit; dsimp only
  split_ifs <;> simp [checkAndSave_signCache, touchSign, setCommitted]

/-- A sign vote for the executed proposal, in its view, with valid signatures and a signature
the bucket does not hold yet, is inserted into the bucket under that signature: the handler
never asks whether its signer has voted already. -/
theorem handleSignMsg_inserts_fresh_signature (req : PBFTMsg) (h : H256) (hreq : req.blockHash = h)
    (hnew : s.isExistSign req = false) (hidx : req.idx ≠ s.nodeIdx)
    (hh : s.prepareCache.blockHash = h) (hv : s.prepareCache.view = req.view)
    (hsig : checkSign env req = true) :
    (s.handleSignMsg env req).signCache.findD h = (s.signCache.findD h).insert req.sig req := by
  subst hreq
  have hstep : s.handleSignMsg env req = (s.addSignReq req).checkAndCommit env := by
    simp [handleSignMsg, hnew, hidx, hh, hv, hsig]
  rw [hstep, checkAndCommit_signCache]
  simp only [addSignReq, hh, Dict.findD_touch]
  rw [insertVote, Dict.findD, Dict.lookup_modify_self, Option.getD_some]

/-- A sign packet changes the sign cache as `handleSignMsg` does; its relay only emits. -/
theorem handleMsg_sign_signCache (frm : U256) (req : PBFTMsg) (alive : Bool) :
    (s.handleMsg env frm (.sign req) alive).signCache = (s.handleSignMsg env req).signCache := by
  unfold handleMsg relayMsg; dsimp only; split_ifs <;> rfl

/-- Node `1` of the scenarios, the primary of height `10`, signs the executed proposal `1050`
twice, with two different valid signatures. -/
def doubleSignRun : List (Env × Input) :=
  [(scenarioEnv, .msg 1 (.prepare (proposal 1 0 50 60)) true),
   (scenarioEnv, .msg 1 (.sign (vote 1 10 0 1050 1)) true),
   (scenarioEnv, .msg 1 (.sign (vote 1 10 0 1050 2)) true)]

/-- Both signatures of node `1` stay in the bucket of the executed proposal: the sign votes
counted against `quorum()` come from two nodes, not three. -/
theorem sign_bucket_counts_signer_twice :
    ∃ s, s = (scenarioNode 0).run doubleSignRun ∧ Reachable s ∧
      (s.signCache.findD 1050).vals.map (·.idx) = [1, 1, 0] := by
  refine ⟨_, rfl, (scenarioNode_reachable 0).run _, ?_⟩
  rw [show doubleSignRun = doubleSignRun.take 2 ++
      [(scenarioEnv, .msg 1 (.sign (vote 1 10 0 1050 2)) true)] from rfl, run_append, run_cons,
    run_nil]
  dsimp only [step]
  rw [handleMsg_sign_signCache, handleSignMsg_inserts_fresh_signature _ _ _ 1050 rfl (by decide)
    (by decide) (by decide) (by decide) (by decide)]
  decide

/-! ## The exact count -/

/-- The three other miners' sign votes reach node `0` before the proposal (`future_msg`); the
node's own vote then brings the count from `3` to `4`. -/
def earlySignRun : List (Env × Input) :=
  [(scenarioEnv, .msg 1 (.sign (vote 1 10 0 1050)) true),
   (scenarioEnv, .msg 2 (.sign (vote 2 10 0 1050)) true),
   (scenarioEnv, .msg 3 (.sign (vote 3 10 0 1050)) true),
   (scenarioEnv, .msg 1 (.prepare (proposal 1 0 50 60)) true)]

/-- With a sign quorum for the executed proposal in the current view, the node never
checkpointed it. -/
theorem early_signs_skip_commit :
    ∃ s, s = (scenarioNode 0).run earlySignRun ∧ Reachable s ∧ s.prepareCache ≠ {} ∧
      s.prepareCache.view = s.view ∧ count (s.signCache.findD s.prepareCache.blockHash) ≥ s.quorum ∧
      s.committedPrepareCache ≠ s.rawPrepareCache :=
  ⟨_, rfl, (scenarioNode_reachable 0).run _, by decide⟩

/-! ## The emission flag -/

/-- One bucket after `collectGarbage` is empty when all its votes lie below the tip. -/
theorem keepCurrent_size_eq_zero {tip : U256} {b : VoteBucket}
    (hlow : ∀ k e, b.lookup k = some e → e.height < tip) : (keepCurrent tip b).size = 0 :=
  Dict.size_filter_eq_zero fun k e he => by simp [hlow k e he]

/-- Garbage collection forgets that the block with hash `h` was emitted as soon as every sign
vote for `h` lies below the tip, although its commit votes may all still be there. -/
theorem collectGarbage_drops_flag {h : H256} (hvalid : s.highestBlock.valid)
    (hb : (s.signCache.lookup h).isSome)
    (hlow : ∀ e ∈ (s.signCache.findD h).vals, e.height < s.highestBlock.number) :
    (s.collectGarbage true).commitMap.lookup h = none := by
  obtain ⟨b, hb⟩ := Option.isSome_iff_exists.mp hb
  rw [Dict.findD, hb, Option.getD_some] at hlow
  simp only [collectGarbage, hvalid, Bool.not_true, Bool.not_false, Bool.or_self,
    Bool.false_eq_true, ite_false]
  rw [Dict.lookup_filter, Dict.lookup_mapVals, hb, Option.map_some', Option.map_some',
    keepCurrent_size_eq_zero fun k e he => hlow e (Dict.mem_vals.mpr ⟨k, he⟩)]
  cases s.commitMap.lookup h <;> rfl

/-- The observer of the scenarios, which casts no votes, executes miner `1`'s proposal (hash
`50`, executed to `1050`), gets sign votes for `1050` carrying height `0` and commit votes at
height `10` from miners `1`, `2` and `3`, and emits the block. -/
def resealPre : List (Env × Input) :=
  [(observerEnv, .msg 1 (.prepare (proposal 1 0 50 60)) true),
   (observerEnv, .msg 1 (.sign (vote 1 0 0 1050)) true),
   (observerEnv, .msg 2 (.sign (vote 2 0 0 1050)) true),
   (observerEnv, .msg 3 (.sign (vote 3 0 0 1050)) true),
   (observerEnv, .msg 1 (.commit (vote 1 10 0 1050)) true),
   (observerEnv, .msg 2 (.commit (vote 2 10 0 1050)) true),
   (observerEnv, .msg 3 (.commit (vote 3 10 0 1050)) true)]

/-- The same three sign votes, sent again. -/
def resealPost : List (Env × Input) :=
  [(observerEnv, .msg 1 (.sign (vote 1 0 0 1050)) true),
   (observerEnv, .msg 2 (.sign (vote 2 0 0 1050)) true),
   (observerEnv, .msg 3 (.sign (vote 3 0 0 1050)) true)]

set_option maxRecDepth 4000 in
/-- With the host up throughout, the observer emits block `(10, 1050)`; garbage collection,
when due, drops every sign vote for `1050` (they lie below the tip) and with the emptied
bucket the flag of `1050`, while the executed proposal and its three commit votes stay; the
sign votes sent again let the block reach `onSealGenerated` a second time, with no view
change in between. -/
theorem collected_flag_reseals_block :
    ∃ s₁ s₂ s₃, s₁ = observerNode.run resealPre ∧ s₂ = s₁.collectGarbage true ∧
      s₃ = s₂.run resealPost ∧ Reachable s₃ ∧
      (∀ e ∈ resealPre ++ resealPost, e.1.hostAlive = true) ∧
      s₁.events.filterMap Event.sealed? = [(10, 1050)] ∧ s₂.commitMap.lookup 1050 = none ∧
      s₂.prepareCache = s₁.prepareCache ∧ (s₂.commitCache.findD 1050).size = 3 ∧
      s₃.events.filterMap Event.sealed? = [(10, 1050), (10, 1050)] ∧
      ∀ e ∈ s₃.events, e.isNewView = false :=
  ⟨_, _, _, rfl, rfl, rfl,
    ((observerNode_reachable.run _).step observerEnv (.collect true)).run _, by decide, by decide,
    collectGarbage_drops_flag _ (by decide) (by decide) (by decide), rfl, by decide, by decide,
    by decide⟩

end PBFT
