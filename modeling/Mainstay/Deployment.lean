import Mainstay.Durability

/-!
# Deployment — the driver across crashes and restarts

A deployment is the driver's process and its store. The store outlives the process. A tick that
panics ends the process, and a restart runs `NewAttestService` on the same configuration and then
`Run` from `ASTATE_INIT`, over the store as it was. An input is a tick, given the collaborators'
answers and the outcomes of the store writes, or a restart. A deployment run interleaves both in
any order.

`Deployment.step_cases` says once what a step can do, and `Deployment.run_inv` carries an
invariant every step keeps over runs.

The result is about what the clients of the store see. The step that announces a confirmed root
has stored the commitment of that root, and the store's position queries then find every leaf and
every proof of that commitment (`confirmation_published`). This rests on `Committed`: a driver in
flight holds a commitment, whatever restarts came before.

Whether a restart resumes a transaction left in the mempool depends on `LatestCommitment`: the
restarted `ASTATE_INIT` looks the transaction up through `GetAttestationCommitment`, which builds
the commitment from the `LatestCommitment` documents of its root, not from what `saveCommitment`
wrote, and finds no leaves once the clients' latest commitment has moved on.
-/

namespace Mainstay

open Attestation AttestService

/-- What happens next to a deployment: a tick of the driver, with the collaborators' answers and
the outcomes of its store writes, or a restart of its process. -/
inductive Input
  | tick (env : Env) (rs : List OpResult)
  | restart

/-- The driver's process, `none` once a tick has panicked, and the store. -/
structure Deployment where
  service : Option AttestService
  db : DbMongo
  deriving DecidableEq, Repr

/-- One step of a deployment run: the deployment before it, the calls made and the deployment
after it. -/
structure DeploymentTick where
  pre : Deployment
  calls : List Call
  post : Deployment
  deriving DecidableEq, Repr

namespace Deployment

variable (txHash : MsgTx → Hash) (newCommitment : List Hash → Except Error Commitment)
  (s₀ : AttestService)

/-- One step of a deployment whose process `NewAttestService` starts as `s₀`. A restart starts
`Run` again from `s₀` over the kept store. A tick of a stopped process does nothing. A tick of a
running one is a system tick, or stops the process when it panics. The process's attest client
and its fee policy, which a restart would renew, are not modelled: fees are free in the answers
of every tick (`Env`). -/
def step (d : Deployment) : Input → Deployment × List Call
  | .restart => (⟨some s₀.startRun, d.db⟩, [])
  | .tick env rs =>
    match d.service with
    | none => (d, [])
    | some s =>
      match systemStep txHash newCommitment env rs ⟨s, d.db⟩ with
      | none => (⟨none, d.db⟩, [])
      | some (sys', calls) => (⟨some sys'.service, sys'.db⟩, calls)

/-- The steps of a deployment from `d`, one per input. -/
def run : Deployment → List Input → List DeploymentTick
  | _, [] => []
  | d, i :: inputs =>
    ⟨d, (d.step txHash newCommitment s₀ i).2, (d.step txHash newCommitment s₀ i).1⟩ ::
      run (d.step txHash newCommitment s₀ i).1 inputs

variable {txHash newCommitment s₀} {d d' : Deployment} {i : Input} {calls : List Call}

/-- What a step can do: restart the process over the kept store, leave it stopped or stop it with
the store as it was, or run a tick of the driver in the environment the store completes, followed
by the store's writes. -/
theorem step_cases (h : d.step txHash newCommitment s₀ i = (d', calls)) :
    (d' = ⟨some s₀.startRun, d.db⟩ ∧ calls = []) ∨ (d' = ⟨none, d.db⟩ ∧ calls = []) ∨
      ∃ s s' env rs, d.service = some s ∧
        s.runStep txHash (storeEnv newCommitment rs d.db env) = some (s', calls) ∧
        d' = ⟨some s', applyWrites env.now rs d.db calls⟩ := by
  cases i with
  | restart => cases h; exact .inl ⟨rfl, rfl⟩
  | tick env rs =>
    cases hs : d.service with
    | none =>
      simp only [step, hs, Prod.mk.injEq] at h
      obtain ⟨rfl, rfl⟩ := h
      exact .inr (.inl ⟨by cases d; simp_all, rfl⟩)
    | some s =>
      cases hr : s.runStep txHash (storeEnv newCommitment rs d.db env) with
      | none =>
        simp only [step, hs, systemStep, hr, Option.map_none', Prod.mk.injEq] at h
        exact .inr (.inl ⟨h.1.symm, h.2.symm⟩)
      | some p =>
        simp only [step, hs, systemStep, hr, Option.map_some', Prod.mk.injEq] at h
        obtain ⟨rfl, rfl⟩ := h
        exact .inr (.inr ⟨s, p.1, env, rs, rfl, hr, rfl⟩)

/-! ## Runs -/

variable {inputs : List Input} {t : DeploymentTick} {pre post : List DeploymentTick}

/-- A property of deployments that every step keeps holds before and after every step of a run
that starts in it. -/
theorem run_inv (P : Deployment → Prop)
    (hstep : ∀ d i, P d → P (d.step txHash newCommitment s₀ i).1)
    (hd : P d) : ∀ t ∈ run txHash newCommitment s₀ d inputs, P t.pre ∧ P t.post := by
  induction inputs generalizing d with
  | nil => simp [run]
  | cons i inputs ih =>
    intro t ht
    rcases List.mem_cons.1 ht with rfl | ht
    · exact ⟨hd, hstep d i hd⟩
    · exact ih (hstep d i hd) t ht

/-- Every step of a run is a step of the deployment it starts from. -/
theorem run_step (h : t ∈ run txHash newCommitment s₀ d inputs) :
    ∃ i, t.pre.step txHash newCommitment s₀ i = (t.post, t.calls) := by
  induction inputs generalizing d with
  | nil => cases h
  | cons i inputs ih =>
    rcases List.mem_cons.1 h with rfl | h
    · exact ⟨i, rfl⟩
    · exact ih h

end Deployment

/-! ## Confirmed commitments are published -/

variable {txHash : MsgTx → Hash} {newCommitment : List Hash → Except Error Commitment}
  {s₀ : AttestService} {d : Deployment}

/-- Over `bumpStore`: two ticks, a restart, a tick that panics (the mempool reports the
transaction `01`, whose commitment the store gives, and the node then cannot return it), a tick
of the stopped process, a restart, and the six ticks from `ASTATE_INIT` to a broadcast. -/
def crashInputs : List Input :=
  [.tick (bumpEnv 1) [], .tick (bumpEnv 2) [], .restart,
    .tick
      { bumpEnv 3 with
        getUnconfirmedTx := (true, 1, none)
        getRawTransaction := (none, some "-5: No such mempool or blockchain transaction") } [],
    .tick (bumpEnv 4) [], .restart] ++
  [5, 6, 7, 8, 9, 10].map fun m => .tick (bumpEnv m) []

/-- A driver in flight holds a commitment. -/
def Committed (s : AttestService) : Prop := s.state.inFlight → s.attestation.commitment.isSome

/-- Every tick keeps `Committed`, and every attestation a tick from a committed driver writes has
a commitment: the ways into flight set one, the ticks in flight keep it, and the two confirmed
writes are of the attestation in flight or of a tip with the commitment the server gave. -/
theorem committed_step {s s' : AttestService} {env : Env} {cs : List Call}
    (h : s.runStep txHash env = some (s', cs)) (hs : Committed s) :
    Committed s' ∧ ∀ a e, .updateLatestAttestation a e ∈ cs → a.commitment.isSome := by
  obtain ⟨s₁, ht, rfl⟩ := runStep_transition h
  clear h
  unfold Committed at *
  cases ht <;> simp_all [AttestationState.inFlight, confirmedTip, confirmedInBlock,
    Attestation.newAttestation, Attestation.setCommitment, Attestation.updateInfo]

theorem committed_deploymentStep (hs₀ : s₀.startRun.state = .init)
    (hd : ∀ s, d.service = some s → Committed s) (i : Input) :
    ∀ s, (d.step txHash newCommitment s₀ i).1.service = some s → Committed s := by
  rcases h : d.step txHash newCommitment s₀ i with ⟨d', calls⟩
  obtain ⟨rfl, -⟩ | ⟨rfl, -⟩ | ⟨s, s', env, rs, hs, hstep, rfl⟩ := Deployment.step_cases h
  · rintro _ ⟨⟩
    exact fun h => by simp [hs₀, AttestationState.inFlight] at h
  · rintro _ ⟨⟩
  · rintro _ ⟨⟩
    exact (committed_step hstep (hd s hs)).1

/-- A confirmation announced to the signers is published to the clients. Take any run of a
deployment started by `NewAttestService`, over any store, under any answers, write failures,
panics and restarts. The step that announces a confirmed root `x` stored a confirmed attestation
whose commitment `c` has root `x`. For a commitment of at most `2^31` leaves, one proof each, the
store's `MerkleCommitment` and `MerkleProof` queries for `x` then find each leaf and each proof
at its position. The one exception is the fresh staychain's announcement of the zero root from
`ASTATE_INIT`. -/
theorem confirmation_published {config : Config} (h₀ : newAttestService config = some s₀)
    (db : DbMongo) (inputs : List Input) {t : DeploymentTick}
    (ht : t ∈ Deployment.run txHash newCommitment s₀ ⟨some s₀.startRun, db⟩ inputs) {x : Hash}
    (hc : .sendConfirmedHash x ∈ t.calls) :
    (∃ c : Commitment, c.merkleRoot = x ∧
      (∃ a, .updateLatestAttestation a none ∈ t.calls ∧ a.confirmed = true ∧
        a.commitment = some c) ∧
      (c.merkleCommitments.length ≤ 2 ^ 31 → c.merkleProofs.length = c.merkleCommitments.length →
        (∀ i (h : i < c.merkleCommitments.length),
          t.post.db.findMerkleCommitment (hashString x) i =
            some ⟨hashString x, BitVec.ofNat 32 i, hashString (c.merkleCommitments.get ⟨i, h⟩)⟩) ∧
        (∀ i (h : i < c.merkleProofs.length),
          t.post.db.findMerkleProof (hashString x) i =
            some ⟨hashString x, BitVec.ofNat 32 i, c.merkleProofs.get ⟨i, h⟩⟩))) ∨
    ∃ s, t.pre.service = some s ∧ s.state = .init ∧ x = 0 := by
  have hs₀ := newAttestService_startRun_state h₀
  have hcom := (Deployment.run_inv (fun d => ∀ s, d.service = some s → Committed s)
    (fun _ i hd => committed_deploymentStep hs₀ hd i)
    (fun _ h => by cases h; exact fun h' => by simp [hs₀, AttestationState.inFlight] at h') t ht).1
  obtain ⟨i, hi⟩ := Deployment.run_step ht
  obtain ⟨-, hnil⟩ | ⟨-, hnil⟩ | ⟨s, s', env, rs, hs, hstep, hpost⟩ := Deployment.step_cases hi
  · simp [hnil] at hc
  · simp [hnil] at hc
  rcases announce_write hstep hc with ⟨a, ha, hconf, hroot, hok, hw⟩ | ⟨hinit, hx⟩
  · obtain ⟨c, hac⟩ := Option.isSome_iff_exists.1 ((committed_step hstep (hcom s hs)).2 a none ha)
    have hx : c.merkleRoot = x := by rw [← hroot]; simp [Attestation.commitmentHash, hac]
    refine .inl ⟨c, hx, ⟨a, ha, hconf, hac⟩, fun hn hp => ?_⟩
    obtain ⟨d', hd'⟩ := Server.updateLatestAttestation_afterWrites hconf hac hok
    rw [hpost, ← hx, hw, hd']
    exact DbMongo.find_afterWrites_lt c d' hn hp
  · exact .inr ⟨s, hs, hinit, hx⟩

/-- The first step of `crashInputs` takes up the tip of root 3 and announces it, after which the
store finds its one leaf and proof. -/
theorem confirmation_published_tip :
    ∃ t post,
      Deployment.run lengthHash oneLeafCommitment happyStart ⟨some happyStart.startRun, bumpStore⟩
          crashInputs = t :: post ∧ .sendConfirmedHash 3 ∈ t.calls ∧
      ((∃ c : Commitment, c.merkleRoot = 3 ∧
        (∃ a, .updateLatestAttestation a none ∈ t.calls ∧ a.confirmed = true ∧
          a.commitment = some c) ∧
        (c.merkleCommitments.length ≤ 2 ^ 31 → c.merkleProofs.length = c.merkleCommitments.length →
          (∀ i (h : i < c.merkleCommitments.length),
            t.post.db.findMerkleCommitment (hashString 3) i =
              some ⟨hashString 3, BitVec.ofNat 32 i, hashString (c.merkleCommitments.get ⟨i, h⟩)⟩) ∧
          (∀ i (h : i < c.merkleProofs.length),
            t.post.db.findMerkleProof (hashString 3) i =
              some ⟨hashString 3, BitVec.ofNat 32 i, c.merkleProofs.get ⟨i, h⟩⟩))) ∨
      ∃ s, t.pre.service = some s ∧ s.state = .init ∧ (3 : Hash) = 0) := by
  have h₀ : newAttestService ⟨"01", 0, 0, false⟩ = some happyStart := by decide
  obtain ⟨t, post, h, hc⟩ : ∃ t post,
      Deployment.run lengthHash oneLeafCommitment happyStart ⟨some happyStart.startRun, bumpStore⟩
          crashInputs = t :: post ∧ Call.sendConfirmedHash 3 ∈ t.calls := ⟨_, _, rfl, by decide⟩
  exact ⟨t, post, h, hc, confirmation_published h₀ _ _ (by rw [h]; exact List.mem_cons_self _ _) hc⟩

end Mainstay
