/-
# Votes across a roster change

`resetConfig` runs on every `reportBlock`. When the miner count or the node's own index
changed, it adopts the new configuration and forgets the executed proposal, the sign votes,
the view changes and the emission flags; the commit votes are left where they are, and
`reportBlock` itself only drops those for the reported block.

* `reportBlock_commitCache`: over a whole `reportBlock`, the commit cache loses only the
  reported block's bucket, whatever the new roster;
* `stale_commit_survives_reconfig`: a commit vote checked against the old roster is still
  cached after the roster shrank and no longer admits its signer.
-/
import FiscoBcos.Node

namespace PBFT

variable (env : Env) (s : PBFT)

/-- Every part of `reportBlock` but `delCache` leaves the commit cache alone. -/
theorem resetConfig_commitCache : (s.resetConfig env).commitCache = s.commitCache := by
  rcases resetConfig_cases env s with h | ⟨t, b, h⟩ | ⟨t, n, idx, l, b, h⟩ <;> rw [h] <;> rfl

/-- **A roster change keeps the commit votes.** Whatever roster `reportBlock` reads, the commit
cache afterwards is the one before without the reported block's bucket. -/
theorem reportBlock_commitCache (b : BlockHeader) :
    (s.reportBlock env b).commitCache = s.commitCache.erase b.hash := by
  unfold reportBlock; dsimp only
  show ((_ : PBFT).resetConfig env).commitCache.erase b.hash = _
  rw [resetConfig_commitCache]
  split_ifs <;> rfl

/-- The scenario roster without miner `3`. -/
def shrunkRoster : NodeConnManager where
  getAccountType k := if 100 ≤ k ∧ k < 103 then some enAccountTypeMiner else none
  getMinerNum := 3
  getIdx k := if 100 ≤ k ∧ k < 103 then some (BitVec.ofNat 256 (k - 100)) else none
  getPublicKey i := if i < 3 then some (100 + i.toNat) else none
  getAllNodeConnInfo _ := [⟨100, 1, 0⟩, ⟨101, 1, 1⟩, ⟨102, 1, 2⟩]

/-- Miner `3` left the roster. -/
def shrunkEnv : Env := { scenarioEnv with nodeConnManager := shrunkRoster }

/-- Block `10` of the scenarios' chain. -/
def tip10 : BlockHeader := { number := 10, hash := 10, valid := true }

/-- Miner `3`'s commit vote for a block at height `11`, cached as a future vote under the old
roster, is still held after block `10` is reported under the shrunk roster, which adopted a
new configuration and would reject the vote. -/
theorem stale_commit_survives_reconfig :
    ∃ s₁ s₂, s₁ = (scenarioNode 0).step scenarioEnv (.msg 3 (.commit (vote 3 11 0 77)) true) ∧
      s₂ = s₁.step shrunkEnv (.report tip10) ∧ Reachable s₂ ∧ s₂.nodeNum ≠ s₁.nodeNum ∧
      vote 3 11 0 77 ∈ (s₂.commitCache.findD 77).vals ∧
      checkSign scenarioEnv (vote 3 11 0 77) = true ∧ checkSign shrunkEnv (vote 3 11 0 77) = false :=
  ⟨_, _, rfl, rfl, .step _ _ (.step _ _ (scenarioNode_reachable 0)), by decide, by
    show vote 3 11 0 77 ∈ ((((scenarioNode 0).step scenarioEnv
      (.msg 3 (.commit (vote 3 11 0 77)) true)).reportBlock shrunkEnv tip10).commitCache.findD 77).vals
    rw [reportBlock_commitCache]
    decide, by decide, by decide⟩

end PBFT
