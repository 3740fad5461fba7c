import Mainstay.Attestation.Invariants

/-!
# Graph — the driver's states and transitions, as the specification draws them

The specification lists, for each state of the driver, the states a tick may move to: advance,
stay (retrying), or fail to `Error`; and `Error` goes back to `Init`. `specNext` is that graph.
The code refines it: every transition of `doAttestation` is an edge (`transition_specNext`), so
the states of every run form a path in the graph (`run_specPath`).

The bump cycle is assembled from one transition per tick (`runStep_next`): a transaction that
stays out of a block is only asked about until `atimeHandleUnconfirmed` has passed, then bumped
and published again for signing (`unconfirmed_bump`).
-/

namespace Mainstay

open Attestation

namespace AttestService

/-- Modelled from the spec (the driver's states and transitions): the states a tick may move to
from each state. -/
def specNext : AttestationState → List AttestationState
  | .error => [.init]
  | .init => [.awaitConfirmation, .nextCommitment, .init, .error]
  | .nextCommitment => [.nextCommitment, .newAttestation, .error]
  | .newAttestation => [.signAttestation, .error]
  | .signAttestation => [.preSendStore, .error]
  | .preSendStore => [.sendAttestation, .error]
  | .sendAttestation => [.awaitConfirmation, .error]
  | .awaitConfirmation => [.handleUnconfirmed, .nextCommitment, .awaitConfirmation, .error]
  | .handleUnconfirmed => [.signAttestation, .error]

variable {txHash : MsgTx → Hash} {env : Env} {s s' s₁ : AttestService} {cs : List Call}

theorem transition_specNext (ht : Transition txHash env s s₁ cs) : s₁.state ∈ specNext s.state := by
  cases ht <;> simp_all [specNext]

/-- Every run from `s` moves along the specification's graph: the state it starts in and the
states after each of its ticks form a path. -/
theorem run_specPath (s : AttestService) (envs : List Env) :
    ((run txHash s envs).map fun t => t.post.state).Chain (fun a b => b ∈ specNext a) s.state := by
  induction envs generalizing s with
  | nil => exact .nil
  | cons env envs ih =>
    cases h : s.runStep txHash env with
    | none => simp [run, h]
    | some p =>
      obtain ⟨s', calls⟩ := p
      simp only [run, h, List.map_cons, List.chain_cons]
      obtain ⟨s₁, ht, rfl⟩ := runStep_transition h
      have hnext := transition_specNext ht
      exact ⟨hnext, ih _⟩

/-! ## A transaction left unconfirmed -/

/-- The service after a transition, seen through the fields the bump reads. -/
theorem runStep_next (ht : Transition txHash env s s₁ cs) :
    ∃ s', s.runStep txHash env = some (s', cs) ∧ s'.state = s₁.state ∧
      s'.attestation = s₁.attestation ∧ s'.atimeHandleUnconfirmed = s₁.atimeHandleUnconfirmed ∧
      s'.confirmTime = s₁.confirmTime :=
  ⟨_, runStep_of_transition ht, rfl, rfl, rfl, rfl⟩

variable (txHash) in
/-- While its transaction is not in a block and `atimeHandleUnconfirmed` has not passed, the
driver stays in `ASTATE_AWAIT_CONFIRMATION`, asking the wallet, with its attestation and clock. -/
theorem runStep_wait (hs : s.state = .awaitConfirmation)
    (hnot : ¬ s.atimeHandleUnconfirmed < since env.now s.confirmTime) {w : GetTransactionResult}
    (hg : env.getTransaction = (some w, none)) (hb : w.blockHash = "") :
    ∃ s', s.runStep txHash env = some (s', [.getTransaction s.attestation.txid (some w, none)]) ∧
      s'.state = .awaitConfirmation ∧ s'.attestation = s.attestation ∧
      s'.atimeHandleUnconfirmed = s.atimeHandleUnconfirmed ∧ s'.confirmTime = s.confirmTime := by
  obtain ⟨s', h, hs', ha, hu, hc⟩ := runStep_next (Transition.awaitUnconfirmed hs hnot w hg hb :
    Transition txHash env s _ _)
  rw [hg] at h
  exact ⟨s', h, hs'.trans hs, ha, hu, hc⟩

/-- A transaction left unconfirmed is bumped: while it is not in a block and
`atimeHandleUnconfirmed` has not passed the driver only asks the wallet; the first tick after it
has passed moves to `ASTATE_HANDLE_UNCONFIRMED`, and a successful fee bump then publishes the
bumped transaction to the signers and goes back to `ASTATE_SIGN_ATTESTATION`. -/
theorem unconfirmed_bump (hs : s.state = .awaitConfirmation) {envs : List Env}
    (hwait : ∀ env ∈ envs, ¬ s.atimeHandleUnconfirmed < since env.now s.confirmTime ∧
      ∃ w : GetTransactionResult, env.getTransaction = (some w, none) ∧ w.blockHash = "")
    {env₁ env₂ : Env} (hlate : s.atimeHandleUnconfirmed < since env₁.now s.confirmTime)
    {bumpedTx : MsgTx} (hbump : env₂.bumpAttestationFees = (bumpedTx, none)) :
    ∃ waits t₁ t₂, run txHash s (envs ++ [env₁, env₂]) = waits ++ [t₁, t₂] ∧
      (∀ t ∈ waits, t.post.state = .awaitConfirmation ∧
        ∃ w, t.calls = [.getTransaction s.attestation.txid (some w, none)]) ∧
      t₁.calls = [] ∧ t₁.post.state = .handleUnconfirmed ∧
      t₂.calls = [.bumpAttestationFees s.attestation.tx (bumpedTx, none),
        .sendNewTx bumpedTx.serialize] ∧
      t₂.post.state = .signAttestation ∧ t₂.post.attestation.tx = bumpedTx := by
  induction envs generalizing s with
  | nil =>
    obtain ⟨s₁, h₁, hs₁, ha₁, -, -⟩ :=
      runStep_next (Transition.awaitTimeout hs hlate : Transition txHash env₁ s _ _)
    obtain ⟨s₂, h₂, hs₂, ha₂, -, -⟩ :=
      runStep_next (Transition.bumped hs₁ bumpedTx hbump : Transition txHash env₂ s₁ _ _)
    simp only [List.nil_append, run, h₁, h₂]
    refine ⟨[], _, _, rfl, ?_⟩
    simp [hs₁, hs₂, ha₁, ha₂, hbump, tickStart]
  | cons env envs ih =>
    obtain ⟨hnot, w, hg, hb⟩ := hwait env (.head _)
    obtain ⟨s', h, hs', ha, hu, hc⟩ := runStep_wait txHash hs hnot hg hb
    obtain ⟨waits, t₁, t₂, hrun, hwaits, rest⟩ := ih hs'
      (fun env' he => by rw [hu, hc]; exact hwait env' (.tail _ he)) (by rw [hu, hc]; exact hlate)
    refine ⟨⟨s, [.getTransaction s.attestation.txid (some w, none)], s'⟩ :: waits, t₁, t₂,
      by simp [run, h, hrun], ?_, by rwa [ha] at rest⟩
    rintro t (_ | ⟨_, ht⟩)
    · exact ⟨hs', w, rfl⟩
    · rw [← ha]; exact hwaits t ht

/-- A transaction left unconfirmed for `happyStart`'s hour, then bumped to `[4]`. -/
theorem unconfirmed_bump_happy :
    ∃ waits t₁ t₂, run lengthHash { happyStart with state := .awaitConfirmation }
        ([happyEnv, { happyEnv with now := 30 * minute }] ++
          [{ happyEnv with now := 61 * minute }, happyEnv]) = waits ++ [t₁, t₂] ∧
      t₁.post.state = .handleUnconfirmed ∧ t₂.post.state = .signAttestation ∧
      t₂.post.attestation.tx = ⟨[4]⟩ := by
  obtain ⟨waits, t₁, t₂, h, -, -, h₁, -, h₂, h₃⟩ := @unconfirmed_bump lengthHash
    { happyStart with state := .awaitConfirmation } rfl
    [happyEnv, { happyEnv with now := 30 * minute }]
    (by simp [happyEnv, happyStart, minute, second]; decide) { happyEnv with now := 61 * minute }
    happyEnv
    (by decide) ⟨[4]⟩ rfl
  exact ⟨waits, t₁, t₂, h, h₁, h₂, h₃⟩

end AttestService

end Mainstay
