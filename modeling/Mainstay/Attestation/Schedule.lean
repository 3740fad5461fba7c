import Mathlib.Tactic.Linarith
import Mainstay.Attestation.Invariants

/-!
# Schedule — the driver under `Run`'s timer

`run` takes the clock reading of each tick as an input, and so allows any clock. `Run` does not:
once a tick has returned it starts a timer of `attestDelay`, and the next tick reads the clock
when the timer fires. `onSchedule` is that constraint on the clock readings of a run.

Under it, the delays the driver chooses decide what it can see. After a broadcast, and after a
check that finds the transaction still out of a block, the driver waits `ATIME_CONFIRMATION`
(15 minutes), and the check that follows tests `atimeHandleUnconfirmed` first. So with
`HandleUnconfirmedMinutes` below 15, outside regtest, every check of a waiting transaction that
does not directly follow `ASTATE_INIT` times out, with no call, into `ASTATE_HANDLE_UNCONFIRMED`
(`await_times_out`): a transaction the driver broadcast is bumped before the wallet is ever asked
about it, and a confirmation is only seen after `ASTATE_INIT` found the transaction in the
mempool.

The run lemma `onSchedule_consecutive` reads off two consecutive ticks of a scheduled run the
clock readings the timer relates; the rest are facts about one tick.
-/

namespace Mainstay

open Attestation

namespace AttestService

variable (txHash : MsgTx → Hash) in
/-- `Run`'s timer on the clock readings of a run from `s`: every tick reads the clock no earlier
than the previous reading plus the delay the previous tick left (the timer fires at once on a
delay that is not positive, and the clock never goes back). `earliest` bounds the first reading. -/
def onSchedule (s : AttestService) (earliest : Time) : List Env → Bool
  | [] => true
  | env :: envs =>
    decide (earliest ≤ env.now) &&
      match s.runStep txHash env with
      | some (s', _) => onSchedule s' (env.now + max 0 s'.attestDelay) envs
      | none => true

variable {txHash : MsgTx → Hash} {env : Env} {s s' : AttestService} {cs : List Call}

/-! ## One tick -/

/-- A `Duration` `d` that has passed since `t` is at most what `time.Since(t)` reads. -/
theorem le_since {now t d : Time} (h : t + d ≤ now) (hd : d ≤ 2 ^ 63 - 1) : d ≤ since now t :=
  le_max_of_le_right (le_min hd (by linarith))

/-- A tick keeps the confirmation clock or sets it to the tick's clock reading. -/
theorem runStep_confirmTime (h : s.runStep txHash env = some (s', cs)) :
    s'.confirmTime = s.confirmTime ∨ s'.confirmTime = env.now := by
  obtain ⟨s₁, ht, rfl⟩ := runStep_transition h
  cases ht <;> simp [setFailure]

/-- Outside regtest, a tick into `ASTATE_AWAIT_CONFIRMATION` from another state than
`ASTATE_INIT` (a broadcast, or a check that found the transaction out of a block) waits
`ATIME_CONFIRMATION`. -/
theorem enter_awaitConfirmation_delay (h : s.runStep txHash env = some (s', cs))
    (hs' : s'.state = .awaitConfirmation) (hs : s.state ≠ .init) (hreg : s'.isRegtest = false) :
    s'.attestDelay = atimeConfirmation := by
  obtain ⟨s₁, ht, rfl⟩ := runStep_transition h
  cases ht <;> simp_all

/-- A check after `atimeHandleUnconfirmed` has passed makes no call and moves to
`ASTATE_HANDLE_UNCONFIRMED`. -/
theorem awaitConfirmation_timeout (h : s.runStep txHash env = some (s', cs))
    (hs : s.state = .awaitConfirmation)
    (hlate : s.atimeHandleUnconfirmed < since env.now s.confirmTime) :
    cs = [] ∧ s'.state = .handleUnconfirmed := by
  obtain ⟨s₁, ht, rfl⟩ := runStep_transition h
  cases ht <;> simp_all

/-! ## Scheduled runs -/

/-- Two consecutive ticks of a scheduled run, from a service whose confirmation clock is not
after the first reading: the second reads the clock no earlier than the first reading plus the
delay the first tick left, and the first reads it no earlier than the confirmation clock it
starts with. -/
theorem onSchedule_consecutive {earliest : Time} {envs : List Env} {pre post : List Tick}
    {t₁ t₂ : Tick} (hsched : onSchedule txHash s earliest envs) (hct : s.confirmTime ≤ earliest)
    (h : run txHash s envs = pre ++ t₁ :: t₂ :: post) :
    ∃ env₁ env₂, t₁.pre.runStep txHash env₁ = some (t₁.post, t₁.calls) ∧ t₂.pre = t₁.post ∧
      t₂.pre.runStep txHash env₂ = some (t₂.post, t₂.calls) ∧ t₁.pre.confirmTime ≤ env₁.now ∧
      env₁.now + max 0 t₁.post.attestDelay ≤ env₂.now := by
  induction pre generalizing s earliest envs with
  | nil =>
    obtain _ | ⟨env₁, _ | ⟨env₂, envs⟩⟩ := envs
    · cases h
    · obtain ⟨-, -, hrest⟩ := run_cons h
      cases hrest
    obtain ⟨rfl, h₁, hrest⟩ := run_cons h
    obtain ⟨h₂pre, h₂, -⟩ := run_cons hrest.symm
    simp only [onSchedule, h₁, Bool.and_eq_true, decide_eq_true_eq] at hsched
    exact ⟨env₁, env₂, h₁, h₂pre, by rw [h₂pre]; exact h₂, hct.trans hsched.1, hsched.2.1⟩
  | cons t pre ih =>
    obtain _ | ⟨env, envs⟩ := envs
    · cases h
    obtain ⟨rfl, hstep, hrest⟩ := run_cons h
    simp only [onSchedule, hstep, Bool.and_eq_true, decide_eq_true_eq] at hsched
    have hd := le_max_left 0 t.post.attestDelay
    refine ih hsched.2 ?_ hrest.symm
    rcases runStep_confirmTime hstep with hc | hc <;> linarith

/-- Under `Run`'s timer, outside regtest and with `atimeHandleUnconfirmed` shorter than
`ATIME_CONFIRMATION`, a check of a waiting transaction that does not directly follow
`ASTATE_INIT` times out: it makes no call, so the wallet is not asked, and moves to
`ASTATE_HANDLE_UNCONFIRMED`. -/
theorem await_times_out {earliest : Time} {envs : List Env} {pre post : List Tick} {t₁ t₂ : Tick}
    (hsched : onSchedule txHash s earliest envs) (hct : s.confirmTime ≤ earliest)
    (h : run txHash s envs = pre ++ t₁ :: t₂ :: post)
    (hs : t₂.pre.state = .awaitConfirmation) (hinit : t₁.pre.state ≠ .init)
    (hreg : t₂.pre.isRegtest = false)
    (hhu : t₂.pre.atimeHandleUnconfirmed < atimeConfirmation) :
    t₂.calls = [] ∧ t₂.post.state = .handleUnconfirmed := by
  obtain ⟨env₁, env₂, h₁, hpre, h₂, hct₁, hnow⟩ := onSchedule_consecutive hsched hct h
  rw [hpre] at hs hreg hhu h₂
  -- the tick before waited `ATIME_CONFIRMATION` from a confirmation clock not after its reading
  have hdelay := enter_awaitConfirmation_delay h₁ hs hinit hreg
  have hconf : t₁.post.confirmTime ≤ env₁.now := by
    rcases runStep_confirmTime h₁ with hc | hc <;> linarith
  have hwait : t₁.post.confirmTime + atimeConfirmation ≤ env₂.now := by
    rw [hdelay, max_eq_right (by decide)] at hnow
    linarith
  exact awaitConfirmation_timeout h₂ hs (lt_of_lt_of_le hhu (le_since hwait (by decide)))

/-- The fixture's ticks on `Run`'s timer, from `ASTATE_INIT` to a broadcast at 80 s, then the
check fifteen minutes later. -/
def scheduledEnvs : List Env :=
  [0, 5, 10, 70, 75, 80, 980].map fun t => { happyEnv with now := t * second }

/-- With a ten-minute `HandleUnconfirmedMinutes`, the check after the fixture's broadcast times
out. -/
theorem await_times_out_tenMinutes :
    ∃ pre t₁ t₂ post, run lengthHash { happyStart with atimeHandleUnconfirmed := 10 * minute }
        scheduledEnvs = pre ++ t₁ :: t₂ :: post ∧ t₂.pre.state = .awaitConfirmation ∧
      t₂.calls = [] ∧ t₂.post.state = .handleUnconfirmed := by
  obtain ⟨t₀, t₂', t₃, t₄, t₅, t₁, t₂, h, hs, hinit, hreg, hhu⟩ : ∃ t₀ t₂' t₃ t₄ t₅ t₁ t₂,
      run lengthHash { happyStart with atimeHandleUnconfirmed := 10 * minute } scheduledEnvs =
        [t₀, t₂', t₃, t₄, t₅] ++ t₁ :: t₂ :: [] ∧ t₂.pre.state = .awaitConfirmation ∧
      t₁.pre.state ≠ .init ∧ t₂.pre.isRegtest = false ∧
      t₂.pre.atimeHandleUnconfirmed < atimeConfirmation :=
    ⟨_, _, _, _, _, _, _, rfl, rfl, by decide, rfl, by decide⟩
  exact ⟨_, t₁, t₂, _, h, hs, await_times_out (by decide) le_rfl h hs hinit hreg hhu⟩

end AttestService

end Mainstay
