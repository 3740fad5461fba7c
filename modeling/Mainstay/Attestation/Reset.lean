import Mathlib.Data.List.Forall2
import Mainstay.Attestation.Invariants

/-!
# Reset — what survives `ASTATE_ERROR`

A failure moves the service to `ASTATE_ERROR`, whose handler moves it back to `ASTATE_INIT`,
where `doStateInit` rebuilds the attestation from the wallet and the server. This module proves
that the reset is complete: from `ASTATE_INIT` or `ASTATE_ERROR`, the run depends on the
configuration only (`isRegtest` and the two timings), never on the attestation, the error, the
confirmation clock or the delay the service still holds.

The proof is a simulation. `Mirror` relates two services that agree on every field a tick
reads: the state, the configuration, the attestation outside `ASTATE_INIT` and `ASTATE_ERROR`
(whose handlers overwrite or ignore it) and the confirmation clock in `ASTATE_AWAIT_CONFIRMATION`
(the only state that reads it). A tick ignores `errorState`, and it overwrites `attestDelay`
first (`tickStart`). `mirror_transition` transports each transition to the mirrored service,
with the same calls. `mirror_runStep` adds the regtest delay. `mirror_run` is the induction over
runs, and `reset_forgets` is the resulting statement about the driver.
-/

namespace Mainstay

namespace AttestService

/-- Two services a tick cannot tell apart: they agree on every field it reads. -/
structure Mirror (s₁ s₂ : AttestService) : Prop where
  state : s₁.state = s₂.state
  isRegtest : s₁.isRegtest = s₂.isRegtest
  atimeNewAttestation : s₁.atimeNewAttestation = s₂.atimeNewAttestation
  atimeHandleUnconfirmed : s₁.atimeHandleUnconfirmed = s₂.atimeHandleUnconfirmed
  attestation : s₁.state ≠ .init → s₁.state ≠ .error → s₁.attestation = s₂.attestation
  confirmTime : s₁.state = .awaitConfirmation → s₁.confirmTime = s₂.confirmTime

variable {txHash : MsgTx → Hash} {env : Env} {s₁ s₂ t : AttestService} {cs : List Call}

theorem Mirror.refl (s : AttestService) : Mirror s s :=
  ⟨rfl, rfl, rfl, rfl, fun _ _ => rfl, fun _ => rfl⟩

theorem Mirror.symm (hm : Mirror s₁ s₂) : Mirror s₂ s₁ :=
  ⟨hm.state.symm, hm.isRegtest.symm, hm.atimeNewAttestation.symm, hm.atimeHandleUnconfirmed.symm,
    fun h₁ h₂ => (hm.attestation (hm.state ▸ h₁) (hm.state ▸ h₂)).symm,
    fun h => (hm.confirmTime (hm.state ▸ h)).symm⟩

/-- The delay is not part of the relation: setting it on both sides keeps a mirror. -/
theorem Mirror.setDelay (hm : Mirror s₁ s₂) (d₁ d₂ : Duration) :
    Mirror { s₁ with attestDelay := d₁ } { s₂ with attestDelay := d₂ } :=
  ⟨hm.1, hm.2, hm.3, hm.4, hm.5, hm.6⟩

/-- A mirrored service is the first one with the fields the relation leaves free replaced. -/
theorem Mirror.graft (hm : Mirror s₁ s₂) :
    s₂ = { s₁ with
      attestation := s₂.attestation, errorState := s₂.errorState,
      attestDelay := s₂.attestDelay, confirmTime := s₂.confirmTime } := by
  obtain ⟨hst, hreg, hnew, hhu, -, -⟩ := hm
  cases s₁; cases s₂; simp_all

/-- Every transition of a service is a transition of a mirrored one, with the same calls, into
mirrored services with the same delay. Once the mirrored service is written as the first with its
free fields replaced, each transition's guards and answers are read off fields the two share, so
the same constructor applies; in `ASTATE_INIT` and `ASTATE_ERROR` the attestation read is the one
the handler has just written. -/
theorem mirror_transition (hm : Mirror s₁ s₂) (ht : Transition txHash env s₁ t cs) :
    ∃ t₂, Transition txHash env s₂ t₂ cs ∧ Mirror t t₂ ∧ t.attestDelay = t₂.attestDelay := by
  have hg := hm.graft
  obtain ⟨-, -, -, -, hatt, hct⟩ := hm
  generalize s₂.attestation = a, s₂.errorState = e, s₂.attestDelay = d, s₂.confirmTime = c
    at hg hatt hct
  subst hg
  -- in the states that read them, the attestation and the clock are those of `s₁`
  cases ht <;> simp [‹s₁.state = _›] at hatt hct <;> (try subst hatt) <;> (try subst hct)
  -- `ASTATE_ERROR` and `ASTATE_INIT`
  case error =>
    exact ⟨_, by apply Transition.error; assumption, by constructor <;> simp_all, by rfl⟩
  case initUnconfirmedTxFailed =>
    exact ⟨_, by apply Transition.initUnconfirmedTxFailed <;> assumption,
      by constructor <;> simp_all, by rfl⟩
  case initUnconfirmedCommitmentFailed =>
    exact ⟨_, by apply Transition.initUnconfirmedCommitmentFailed <;> assumption,
      by constructor <;> simp_all, by rfl⟩
  case initUnconfirmed =>
    exact ⟨_, by apply Transition.initUnconfirmed <;> assumption,
      by constructor <;> simp_all, by rfl⟩
  case initLastUnspentFailed =>
    exact ⟨_, by apply Transition.initLastUnspentFailed <;> assumption,
      by constructor <;> simp_all, by rfl⟩
  case initWalletFailure =>
    exact ⟨_, by apply Transition.initWalletFailure <;> assumption,
      by constructor <;> simp_all, by rfl⟩
  case initUnspentCommitmentFailed =>
    exact ⟨_, by apply Transition.initUnspentCommitmentFailed <;> assumption,
      by constructor <;> simp_all, by rfl⟩
  case initUnspentUpdateFailed =>
    exact ⟨_, by apply Transition.initUnspentUpdateFailed <;> assumption,
      by constructor <;> simp_all, by rfl⟩
  case initConfirmedTip =>
    exact ⟨_, by apply Transition.initConfirmedTip <;> assumption,
      by constructor <;> simp_all, by rfl⟩
  case initFreshStaychain =>
    exact ⟨_, by apply Transition.initFreshStaychain <;> assumption,
      by constructor <;> simp_all, by rfl⟩
  -- `ASTATE_NEXT_COMMITMENT` to `ASTATE_SEND_ATTESTATION`
  case nextFailed =>
    exact ⟨_, by apply Transition.nextFailed <;> assumption, by constructor <;> simp_all, by rfl⟩
  case nextAttested =>
    exact ⟨_, by apply Transition.nextAttested <;> assumption, by constructor <;> simp_all, by rfl⟩
  case nextNew =>
    exact ⟨_, by apply Transition.nextNew <;> assumption, by constructor <;> simp_all, by rfl⟩
  case newKeyFailed =>
    exact ⟨_, by apply Transition.newKeyFailed <;> assumption, by constructor <;> simp_all, by rfl⟩
  case newImportFailed =>
    exact ⟨_, by apply Transition.newImportFailed <;> assumption,
      by constructor <;> simp_all, by rfl⟩
  case newLastUnspentFailed =>
    exact ⟨_, by apply Transition.newLastUnspentFailed <;> assumption,
      by constructor <;> simp_all, by rfl⟩
  case newUnspentNotFound =>
    exact ⟨_, by apply Transition.newUnspentNotFound <;> assumption,
      by constructor <;> simp_all, by rfl⟩
  case newTopupFailed =>
    exact ⟨_, by apply Transition.newTopupFailed <;> assumption,
      by constructor <;> simp_all, by rfl⟩
  case newCreateFailed =>
    exact ⟨_, by apply Transition.newCreateFailed <;> assumption,
      by constructor <;> simp_all, by rfl⟩
  case newCreated =>
    exact ⟨_, by apply Transition.newCreated <;> assumption, by constructor <;> simp_all, by rfl⟩
  case signLatestFailed =>
    exact ⟨_, by apply Transition.signLatestFailed <;> assumption,
      by constructor <;> simp_all, by rfl⟩
  case signFailed =>
    exact ⟨_, by apply Transition.signFailed <;> assumption, by constructor <;> simp_all, by rfl⟩
  case signed =>
    exact ⟨_, by apply Transition.signed <;> assumption, by constructor <;> simp_all, by rfl⟩
  case preSendStoreFailed =>
    exact ⟨_, by apply Transition.preSendStoreFailed <;> assumption,
      by constructor <;> simp_all, by rfl⟩
  case preSendStored =>
    exact ⟨_, by apply Transition.preSendStored <;> assumption, by constructor <;> simp_all, by rfl⟩
  case sendFailed =>
    exact ⟨_, by apply Transition.sendFailed <;> assumption, by constructor <;> simp_all, by rfl⟩
  case sent =>
    exact ⟨_, by apply Transition.sent <;> assumption, by constructor <;> simp_all, by rfl⟩
  -- `ASTATE_AWAIT_CONFIRMATION`, which also reads the clock
  case awaitTimeout =>
    exact ⟨_, by apply Transition.awaitTimeout <;> assumption, by constructor <;> simp_all, by rfl⟩
  case awaitFailed =>
    exact ⟨_, by apply Transition.awaitFailed <;> assumption, by constructor <;> simp_all, by rfl⟩
  case awaitUpdateFailed =>
    exact ⟨_, by apply Transition.awaitUpdateFailed <;> assumption,
      by constructor <;> simp_all, by rfl⟩
  case awaitConfirmed =>
    exact ⟨_, by apply Transition.awaitConfirmed <;> assumption,
      by constructor <;> simp_all, by rfl⟩
  case awaitUnconfirmed =>
    exact ⟨_, by apply Transition.awaitUnconfirmed <;> assumption,
      by constructor <;> simp_all, by rfl⟩
  -- `ASTATE_HANDLE_UNCONFIRMED`
  case bumpFailed =>
    exact ⟨_, by apply Transition.bumpFailed <;> assumption, by constructor <;> simp_all, by rfl⟩
  case bumped =>
    exact ⟨_, by apply Transition.bumped <;> assumption, by constructor <;> simp_all, by rfl⟩

/-- A turn of the loop of a mirrored service makes the same calls, into a mirrored service with
the same delay. -/
theorem mirror_runStep {s₁' : AttestService} (hm : Mirror s₁ s₂)
    (h : s₁.runStep txHash env = some (s₁', cs)) :
    ∃ s₂', s₂.runStep txHash env = some (s₂', cs) ∧ Mirror s₁' s₂' ∧
      s₁'.attestDelay = s₂'.attestDelay := by
  obtain ⟨t, ht, rfl⟩ := runStep_transition h
  obtain ⟨t₂, ht₂, hm', hd⟩ := mirror_transition hm ht
  exact ⟨_, runStep_of_transition ht₂, hm'.setDelay _ _, by simp [hd, hm'.isRegtest]⟩

/-- Mirrored services panic on the same turns. -/
theorem mirror_runStep_none (hm : Mirror s₁ s₂) (h : s₁.runStep txHash env = none) :
    s₂.runStep txHash env = none := by
  cases h₂ : s₂.runStep txHash env with
  | none => rfl
  | some p =>
    obtain ⟨_, h₁, -⟩ := mirror_runStep hm.symm h₂
    rw [h] at h₁
    cases h₁

/-- Mirrored services make runs of the same length, tick by tick with the same calls, mirrored
services after and the same delays. -/
theorem mirror_run (hm : Mirror s₁ s₂) (envs : List Env) :
    List.Forall₂ (fun t₁ t₂ : Tick => t₁.calls = t₂.calls ∧ Mirror t₁.post t₂.post ∧
        t₁.post.attestDelay = t₂.post.attestDelay)
      (run txHash s₁ envs) (run txHash s₂ envs) := by
  induction envs generalizing s₁ s₂ with
  | nil => exact .nil
  | cons env envs ih =>
    cases h₁ : s₁.runStep txHash env with
    | none => simp [run, h₁, mirror_runStep_none hm h₁]
    | some p =>
      obtain ⟨s₁', cs⟩ := p
      obtain ⟨s₂', h₂, hm', hd⟩ := mirror_runStep hm h₁
      simp only [run, h₁, h₂]
      exact .cons ⟨rfl, hm', hd⟩ (ih hm')

/-- The reset forgets everything but the configuration: from `ASTATE_INIT` or `ASTATE_ERROR`,
two services with the same configuration, whatever attestation, error, confirmation clock and
delay they hold, make the same run under the same answers of the collaborators. Tick by tick,
up to the same panic, they make the same calls (every store write, broadcast and announcement),
reach the same states with the same delays, and hold the same attestation wherever a later tick
reads it. -/
theorem reset_forgets (hs : s₁.state = .init ∨ s₁.state = .error) (hst : s₁.state = s₂.state)
    (hreg : s₁.isRegtest = s₂.isRegtest) (hnew : s₁.atimeNewAttestation = s₂.atimeNewAttestation)
    (hhu : s₁.atimeHandleUnconfirmed = s₂.atimeHandleUnconfirmed) (envs : List Env) :
    List.Forall₂ (fun t₁ t₂ : Tick => t₁.calls = t₂.calls ∧ t₁.post.state = t₂.post.state ∧
        t₁.post.attestDelay = t₂.post.attestDelay ∧
        (t₁.post.state ≠ .init → t₁.post.state ≠ .error → t₁.post.attestation = t₂.post.attestation))
      (run txHash s₁ envs) (run txHash s₂ envs) := by
  have hm : Mirror s₁ s₂ :=
    ⟨hst, hreg, hnew, hhu, by rcases hs with h | h <;> simp [h], by rcases hs with h | h <;> simp [h]⟩
  exact (mirror_run hm envs).imp fun _ _ ⟨hc, hm', hd⟩ => ⟨hc, hm'.state, hd, hm'.attestation⟩

theorem reset_forgets_happy :
    List.Forall₂ (fun t₁ t₂ : Tick => t₁.calls = t₂.calls ∧ t₁.post.state = t₂.post.state ∧
        t₁.post.attestDelay = t₂.post.attestDelay ∧
        (t₁.post.state ≠ .init → t₁.post.state ≠ .error → t₁.post.attestation = t₂.post.attestation))
      (run lengthHash happyStart [happyEnv, happyEnv, happyEnv, happyEnv])
      (run lengthHash
        { happyStart with
          attestation := { Attestation.newAttestationDefault with txid := 7, confirmed := true },
          errorState := some "rpc failure", attestDelay := 5, confirmTime := 99 }
        [happyEnv, happyEnv, happyEnv, happyEnv]) :=
  reset_forgets (.inl rfl) (by rfl) (by rfl) (by rfl) (by rfl) _

end AttestService

end Mainstay
