import Mainstay.Attestation.Invariants

/-!
# Failures — the uniform reset and where it is bypassed

`setFailure` is the driver's one error path: it records the error and moves to `ASTATE_ERROR`,
whose handler goes back to `ASTATE_INIT`. This module proves that every error the driver checks
takes that path, and that nothing else does: a tick ends in `ASTATE_ERROR` exactly when a checked
call failed (or `ASTATE_NEW_ATTESTATION` found no unspent), with that error recorded
(`failure_recorded`, `checked_errors_fail`).

Four call sites throw the error away (`rawTx, _ :=` twice, `walletTx, _ :=`, `paytoaddr, _ :=`)
and one ignores a failed parse (`unspentTxid, _ :=`); each goes on to use the result. When the
call failed the result is nil, and its next use is a nil dereference: the tick panics and
`Run`'s goroutine dies, with no reset (`discarded_error_panics`).

Before any tick, `NewAttestService` checks the initial txid and stops the process when it does not
parse; `newAttestService_eq_none_iff` says which strings those are.
-/

namespace Mainstay

open Attestation

/-- The error a call returned, if any. -/
def Call.err? : Call → Option Error
  | .getUnconfirmedTx r | .findLastUnspent r | .findTopupUnspent r => r.2.2
  | .getRawTransaction _ r | .getTransaction _ r | .getNextAttestationAddr _ r
  | .createAttestation _ _ r | .signAttestation _ _ r | .sendAttestation _ r
  | .bumpAttestationFees _ r | .getAttestationCommitment _ r | .getClientCommitment r
  | .getLatestAttestationCommitmentHash r => r.2
  | .getNextAttestationKey _ e | .importAttestationAddr _ e | .updateLatestAttestation _ e => e
  | .getSigs | .resetFee _ | .sendConfirmedHash _ | .sendNewHash _ | .sendNewTx _ => none

/-- The calls whose error the driver discards in a given state: `GetRawTransaction`,
`GetNextAttestationAddr`, and `GetTransaction` while initialising. -/
def Call.errorDiscardedIn : AttestationState → Call → Bool
  | _, .getRawTransaction _ _ | _, .getNextAttestationAddr _ _ | .init, .getTransaction _ _ => true
  | _, _ => false

@[simp] theorem Call.errorDiscardedIn_getRawTransaction (st : AttestationState) (txid : Hash)
    (r : Option MsgTx × Option Error) : (Call.getRawTransaction txid r).errorDiscardedIn st := by
  cases st <;> rfl

@[simp] theorem Call.errorDiscardedIn_getNextAttestationAddr (st : AttestationState) (h : Hash)
    (r : Option Address × Option Error) : (Call.getNextAttestationAddr h r).errorDiscardedIn st := by
  cases st <;> rfl

@[simp] theorem Call.errorDiscardedIn_init_getTransaction (txid : Hash)
    (r : Option GetTransactionResult × Option Error) :
    (Call.getTransaction txid r).errorDiscardedIn .init := rfl

namespace AttestService

variable {txHash : MsgTx → Hash} {env : Env} {s s' : AttestService} {cs : List Call}

/-- A tick that ends in `ASTATE_ERROR` records the error its last call returned, or
`ERROR_UNSPENT_NOT_FOUND` after a `findLastUnspent` that found nothing. -/
theorem failure_recorded (h : s.runStep txHash env = some (s', cs)) (hs' : s'.state = .error) :
    ∃ e, s'.errorState = some e ∧
      (cs.getLast?.bind Call.err? = some e ∨
        e = errorUnspentNotFound ∧ ∃ u, cs.getLast? = some (.findLastUnspent (false, u, none))) := by
  obtain ⟨s₁, ht, rfl⟩ := runStep_transition h
  clear h
  cases ht <;> simp [Call.err?, *] at hs' ⊢

/-- An attestation whose last unspent the wallet no longer finds fails with
`ERROR_UNSPENT_NOT_FOUND`. -/
theorem failure_recorded_unspentNotFound :
    ∃ s' cs, ({ happyStart with state := .newAttestation } : AttestService).runStep lengthHash
        { happyEnv with findLastUnspent := (false, ⟨"", 0⟩, none) } = some (s', cs) ∧
      s'.state = .error ∧ ∃ e, s'.errorState = some e ∧
        (cs.getLast?.bind Call.err? = some e ∨
          e = errorUnspentNotFound ∧ ∃ u, cs.getLast? = some (.findLastUnspent (false, u, none))) := by
  obtain ⟨s', cs, h, hs⟩ : ∃ s' cs,
      ({ happyStart with state := .newAttestation } : AttestService).runStep lengthHash
        { happyEnv with findLastUnspent := (false, ⟨"", 0⟩, none) } = some (s', cs) ∧
      s'.state = .error := ⟨_, _, rfl, rfl⟩
  exact ⟨s', cs, h, hs, failure_recorded h hs⟩

/-- A tick that does not end in `ASTATE_ERROR` saw no checked error: every error among its calls
is one the driver discards. -/
theorem checked_errors_fail (h : s.runStep txHash env = some (s', cs)) (hs' : s'.state ≠ .error) :
    ∀ c ∈ cs, c.err? = none ∨ c.errorDiscardedIn s.state := by
  obtain ⟨s₁, ht, rfl⟩ := runStep_transition h
  clear h
  cases ht <;> simp [Call.err?, *] at hs' ⊢

/-- Taking up the confirmed tip `01` goes on past a `GetRawTransaction` that returned the
transaction together with an error. -/
theorem checked_errors_fail_rawTxWarning :
    ∃ s' cs, happyStart.runStep lengthHash
        { happyEnv with
          getAttestationCommitment := fun _ => (⟨[3], [], 3⟩, none)
          getRawTransaction := (some ⟨[1]⟩, some "rpc warning") } = some (s', cs) ∧
      s'.state ≠ .error ∧ ∀ c ∈ cs, c.err? = none ∨ c.errorDiscardedIn happyStart.state := by
  obtain ⟨s', cs, h, hs⟩ : ∃ s' cs, happyStart.runStep lengthHash
      { happyEnv with
        getAttestationCommitment := fun _ => (⟨[3], [], 3⟩, none)
        getRawTransaction := (some ⟨[1]⟩, some "rpc warning") } = some (s', cs) ∧
      s'.state ≠ .error := ⟨_, _, rfl, by decide⟩
  exact ⟨s', cs, h, hs, checked_errors_fail h hs⟩

/-- Each discarded error, when its call fails with a nil result, makes the tick panic instead of
reaching `setFailure`. -/
theorem discarded_error_panics :
    (∀ txid c, s.state = .init → env.getUnconfirmedTx = (true, txid, none) →
      env.getAttestationCommitment txid = (c, none) → env.getRawTransaction.1 = none →
      s.runStep txHash env = none) ∧
    (∀ x u e, s.state = .init → env.getUnconfirmedTx = (false, x, none) →
      env.findLastUnspent = (true, u, none) → newHashFromStr u.txID = .error e →
      s.runStep txHash env = none) ∧
    (∀ x u utxid c, s.state = .init → env.getUnconfirmedTx = (false, x, none) →
      env.findLastUnspent = (true, u, none) → newHashFromStr u.txID = .ok utxid →
      env.getAttestationCommitment utxid = (c, none) → c.merkleRoot ≠ 0 →
      env.getRawTransaction.1.isSome → env.getTransaction.1 = none →
      s.runStep txHash env = none) ∧
    (s.state = .newAttestation → env.getNextAttestationKey = none →
      env.getNextAttestationAddr.1 = none → s.runStep txHash env = none) := by
  refine ⟨fun txid c hs hu hc hr => ?_, fun x u e hs hu hl hp => ?_,
    fun x u utxid c hs hu hl hp hc hc0 hr hw => ?_, fun hs hk ha => ?_⟩
  · simp [runStep, doAttestation, hs, doStateInit, hu, prependCalls, stateInitUnconfirmed, hc, hr]
  · simp [runStep, doAttestation, hs, doStateInit, hu, hl, prependCalls, stateInitUnspent, hp]
  · obtain ⟨rawTx, hr⟩ := Option.isSome_iff_exists.1 hr
    simpa [runStep, doAttestation, hs, doStateInit, hu, hl, prependCalls, stateInitUnspent, hp, hc,
      hr, hw] using hc0
  · simp [runStep, doAttestation, hs, doStateNewAttestation, hk, ha]

/-- Resuming a mempool transaction whose raw transaction the node does not return panics. -/
theorem discarded_error_panics_rawTx :
    happyStart.runStep lengthHash { happyEnv with
      getUnconfirmedTx := (true, 7, none)
      getRawTransaction := (none, some "-5: No such mempool or blockchain transaction") } =
      none :=
  discarded_error_panics.1 7 _ rfl rfl rfl rfl

/-! ## The startup check -/

/-- `NewAttestService` stops the process exactly when the initial txid is not a string of at
most 64 hex digits; a shorter one, the empty string included, is read as a hash. -/
theorem newAttestService_eq_none_iff (config : Config) :
    newAttestService config = none ↔
      ¬ (config.initTx.utf8ByteSize ≤ maxHashStringSize ∧
        ∀ c ∈ config.initTx.toList, (hexDigit? c).isSome) := by
  rw [← newHashFromStr_ok_iff, newAttestService]
  split <;> simp_all

example : newAttestService ⟨"not-a-hash", 0, 0, false⟩ = none := by decide

example : (newAttestService ⟨"", 0, 0, false⟩).isSome := by decide

end AttestService

end Mainstay
