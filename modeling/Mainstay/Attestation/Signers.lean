import Mainstay.Attestation.Invariants

/-!
# Signers — what the signers are told, and when

The driver talks to the signers through three announcements: `SendNewHash` (the root the next
key is tweaked with), `SendNewTx` (the unsigned transaction to sign) and `SendConfirmedHash`
(the root of the attestation now confirmed). This module proves that each use of what the
signers were told follows the announcement:

* the key of a new attestation is derived, in the tick right after it, from the root the
  signers were just sent;
* the transaction the driver signs is the one it published in the tick right before, after a
  creation or after a fee bump;
* a confirmed root is announced last in its tick, after the store accepted the confirmed
  attestation, except for the zero root of a fresh staychain, which nothing stores.

The same case analysis says what the ticks into `ASTATE_NEXT_COMMITMENT` and
`ASTATE_NEW_ATTESTATION` write and announce (`nextOrNew_step`), which the store's side of the
signing argument needs.
-/

namespace Mainstay

open Attestation

namespace AttestService

variable {txHash : MsgTx → Hash} {env : Env} {s s' : AttestService} {cs : List Call}

/-! ## One tick -/

/-- The next key is derived only in `ASTATE_NEW_ATTESTATION`, from the attestation's root. -/
theorem getNextAttestationKey_mem (h : s.runStep txHash env = some (s', cs)) {x : Hash}
    {e : Option Error} (hc : .getNextAttestationKey x e ∈ cs) :
    s.state = .newAttestation ∧ x = s.attestation.commitmentHash := by
  obtain ⟨s₁, ht, rfl⟩ := runStep_transition h
  clear h
  cases ht <;> simp at hc <;> simp_all

/-- `signAttestation` is called only in `ASTATE_SIGN_ATTESTATION`, on the attestation's
transaction. -/
theorem signAttestation_mem (h : s.runStep txHash env = some (s', cs)) {tx : MsgTx} {x : Hash}
    {r : Option MsgTx × Option Error} (hc : .signAttestation tx x r ∈ cs) :
    s.state = .signAttestation ∧ tx = s.attestation.tx := by
  obtain ⟨s₁, ht, rfl⟩ := runStep_transition h
  clear h
  cases ht <;> simp at hc <;> simp_all

/-- Every tick that ends in `ASTATE_SIGN_ATTESTATION` publishes the transaction to be signed. -/
theorem enter_signAttestation (h : s.runStep txHash env = some (s', cs))
    (hs' : s'.state = .signAttestation) : .sendNewTx s'.attestation.tx.serialize ∈ cs := by
  obtain ⟨s₁, ht, rfl⟩ := runStep_transition h
  clear h
  cases ht <;> simp at hs' <;> simp_all

/-- A confirmed root is announced by the tick's last call, after the store accepted the
confirmed attestation of that root; only the zero root of a fresh staychain is announced from
`ASTATE_INIT` without a store write. -/
theorem sendConfirmedHash_after_store (h : s.runStep txHash env = some (s', cs)) {x : Hash}
    (hc : .sendConfirmedHash x ∈ cs) :
    cs.getLast? = some (.sendConfirmedHash x) ∧
      ((∃ a, .updateLatestAttestation a none ∈ cs ∧ a.confirmed = true ∧ a.commitmentHash = x) ∨
        s.state = .init ∧ x = 0 ∧ ∀ a e, .updateLatestAttestation a e ∉ cs) := by
  obtain ⟨s₁, ht, rfl⟩ := runStep_transition h
  clear h
  cases ht <;> simp at hc <;> simp_all

/-- The tick that takes up the confirmed tip `01` of root 3 stores it confirmed, then announces
root 3. -/
theorem sendConfirmedHash_after_store_tip :
    ∃ s' cs, happyStart.runStep lengthHash
        { happyEnv with getAttestationCommitment := fun _ => (⟨[3], [], 3⟩, none) } =
        some (s', cs) ∧ .sendConfirmedHash 3 ∈ cs ∧
      cs.getLast? = some (.sendConfirmedHash 3) ∧
      ((∃ a, .updateLatestAttestation a none ∈ cs ∧ a.confirmed = true ∧ a.commitmentHash = 3) ∨
        happyStart.state = .init ∧ (3 : Hash) = 0 ∧ ∀ a e, .updateLatestAttestation a e ∉ cs) := by
  obtain ⟨s', cs, h, hc⟩ : ∃ s' cs, happyStart.runStep lengthHash
      { happyEnv with getAttestationCommitment := fun _ => (⟨[3], [], 3⟩, none) } =
      some (s', cs) ∧ Call.sendConfirmedHash 3 ∈ cs := ⟨_, _, rfl, by decide⟩
  exact ⟨s', cs, h, hc, sendConfirmedHash_after_store h hc⟩

/-! ## Store writes and announcements of a tick -/

/-- The attestation a call asks the store to write. -/
def Call.write? : Call → Option Attestation
  | .updateLatestAttestation a _ => some a
  | _ => none

/-- A tick that ends in `ASTATE_NEXT_COMMITMENT` or `ASTATE_NEW_ATTESTATION` either started in
one of them and neither wrote nor announced; or wrote one confirmed attestation, which the store
accepted, and announced its root; or announced the zero root of a fresh staychain without a
write. -/
theorem nextOrNew_step (h : s.runStep txHash env = some (s', cs))
    (hs' : s'.state = .nextCommitment ∨ s'.state = .newAttestation) :
    ((s.state = .nextCommitment ∨ s.state = .newAttestation) ∧ cs.filterMap Call.write? = [] ∧
        cs.filterMap Call.confirmedHash? = []) ∨
      (∃ a, cs.filterMap Call.write? = [a] ∧ env.updateLatestAttestation a = none ∧
        cs.filterMap Call.confirmedHash? = [a.commitmentHash]) ∨
      (cs.filterMap Call.write? = [] ∧ cs.filterMap Call.confirmedHash? = [0]) := by
  obtain ⟨s₁, ht, rfl⟩ := runStep_transition h
  clear h
  cases ht <;> simp_all [Call.write?, Call.confirmedHash?]

/-- A tick from `ASTATE_NEW_ATTESTATION` neither writes nor announces a confirmed root. -/
theorem newAttestation_step_quiet (h : s.runStep txHash env = some (s', cs))
    (hs : s.state = .newAttestation) :
    cs.filterMap Call.write? = [] ∧ cs.filterMap Call.confirmedHash? = [] := by
  obtain ⟨s₁, ht, rfl⟩ := runStep_transition h
  clear h
  cases ht <;> simp_all [Call.write?, Call.confirmedHash?]

/-- `signAttestation` is given the root `GetLatestAttestationCommitmentHash` returned without
error. -/
theorem signAttestation_root (h : s.runStep txHash env = some (s', cs)) {tx : MsgTx} {x : Hash}
    {r : Option MsgTx × Option Error} (hc : .signAttestation tx x r ∈ cs) :
    env.getLatestAttestationCommitmentHash = (x, none) := by
  obtain ⟨s₁, ht, rfl⟩ := runStep_transition h
  clear h
  cases ht <;> simp at hc <;> simp_all

/-! ## Runs from the initial state -/

variable {config : Config} {s₀ : AttestService} {envs : List Env} {pre post : List Tick} {t : Tick}

/-- A tick of a run that does not start it has a tick right before it, which is a turn of the
loop ending where it starts. -/
theorem run_prev_step (h₀ : newAttestService config = some s₀)
    (h : run txHash s₀.startRun envs = pre ++ t :: post) (ht : t.pre.state ≠ .init) :
    ∃ pre' t₁ env, pre = pre' ++ [t₁] ∧ t₁.post = t.pre ∧
      t₁.pre.runStep txHash env = some (t₁.post, t₁.calls) := by
  obtain ⟨pre', t₁, rfl, h₁, h'⟩ :=
    run_prev h (fun he => ht (he ▸ newAttestService_startRun_state h₀))
  obtain ⟨env, he⟩ := run_step (h' ▸ List.mem_append_right pre' (List.mem_cons_self t₁ _))
  exact ⟨pre', t₁, env, rfl, h₁, he⟩

/-- The key of a new attestation is derived from the root the signers were sent as a new hash in
the tick right before. -/
theorem nextAttestationKey_after_sendNewHash (h₀ : newAttestService config = some s₀)
    (h : run txHash s₀.startRun envs = pre ++ t :: post) {x : Hash} {e : Option Error}
    (hc : .getNextAttestationKey x e ∈ t.calls) :
    ∃ pre' t₁, pre = pre' ++ [t₁] ∧ t₁.post = t.pre ∧ .sendNewHash x ∈ t₁.calls := by
  obtain ⟨env, he⟩ := run_step (h ▸ List.mem_append_right pre (List.mem_cons_self t post))
  obtain ⟨hs, rfl⟩ := getNextAttestationKey_mem he hc
  obtain ⟨pre', t₁, env₁, rfl, h₁, he₁⟩ := run_prev_step h₀ h (by simp [hs])
  obtain ⟨y, hy⟩ := enter_newAttestation he₁ (h₁ ▸ hs)
  have hroot := (sendNewHash_mem he₁ hy).2.2.2
  exact ⟨pre', t₁, rfl, h₁, by rwa [← h₁, hroot]⟩

/-- Three ticks with `happyEnv`: the new hash 5 is sent, then the key is derived from root 5. -/
theorem nextAttestationKey_after_sendNewHash_happy :
    newAttestService ⟨"01", 0, 0, false⟩ = some happyStart ∧
      ∃ pre t, run lengthHash happyStart.startRun (List.replicate 3 happyEnv) = pre ++ [t] ∧
        .getNextAttestationKey 5 none ∈ t.calls ∧
        ∃ pre' t₁, pre = pre' ++ [t₁] ∧ t₁.post = t.pre ∧ .sendNewHash 5 ∈ t₁.calls := by
  have h₀ : newAttestService ⟨"01", 0, 0, false⟩ = some happyStart := by decide
  obtain ⟨t₀, t₁, t, h, hc⟩ : ∃ t₀ t₁ t,
      run lengthHash happyStart.startRun (List.replicate 3 happyEnv) = [t₀, t₁] ++ [t] ∧
        Call.getNextAttestationKey 5 none ∈ t.calls := ⟨_, _, _, rfl, by decide⟩
  exact ⟨h₀, _, t, h, hc, nextAttestationKey_after_sendNewHash h₀ h hc⟩

/-- The transaction the driver signs is the one it published to the signers in the tick right
before, whether that tick created it or bumped its fee. -/
theorem signAttestation_after_sendNewTx (h₀ : newAttestService config = some s₀)
    (h : run txHash s₀.startRun envs = pre ++ t :: post) {tx : MsgTx} {x : Hash}
    {r : Option MsgTx × Option Error} (hc : .signAttestation tx x r ∈ t.calls) :
    ∃ pre' t₁, pre = pre' ++ [t₁] ∧ t₁.post = t.pre ∧ .sendNewTx tx.serialize ∈ t₁.calls := by
  obtain ⟨env, he⟩ := run_step (h ▸ List.mem_append_right pre (List.mem_cons_self t post))
  obtain ⟨hs, rfl⟩ := signAttestation_mem he hc
  obtain ⟨pre', t₁, env₁, rfl, h₁, he₁⟩ := run_prev_step h₀ h (by simp [hs])
  exact ⟨pre', t₁, rfl, h₁, h₁ ▸ enter_signAttestation he₁ (h₁ ▸ hs)⟩

/-- Four ticks with `happyEnv`: the transaction `[2]` is published, then signed. -/
theorem signAttestation_after_sendNewTx_happy :
    newAttestService ⟨"01", 0, 0, false⟩ = some happyStart ∧
      ∃ pre t, run lengthHash happyStart.startRun (List.replicate 4 happyEnv) = pre ++ [t] ∧
        .signAttestation ⟨[2]⟩ 0 (some ⟨[3, 3]⟩, none) ∈ t.calls ∧
        ∃ pre' t₁, pre = pre' ++ [t₁] ∧ t₁.post = t.pre ∧ .sendNewTx [2] ∈ t₁.calls := by
  have h₀ : newAttestService ⟨"01", 0, 0, false⟩ = some happyStart := by decide
  obtain ⟨t₀, t₁, t₂, t, h, hc⟩ : ∃ t₀ t₁ t₂ t,
      run lengthHash happyStart.startRun (List.replicate 4 happyEnv) = [t₀, t₁, t₂] ++ [t] ∧
        Call.signAttestation ⟨[2]⟩ 0 (some ⟨[3, 3]⟩, none) ∈ t.calls := ⟨_, _, _, _, rfl, by decide⟩
  exact ⟨h₀, _, t, h, hc, signAttestation_after_sendNewTx h₀ h hc⟩

end AttestService

end Mainstay
