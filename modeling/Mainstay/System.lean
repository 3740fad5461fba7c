import Mainstay.Attestation.Invariants
import Mainstay.Server.DbMongo

/-!
# System — the driver composed with its store

The driver reaches the store through the `server` package. Its `UpdateLatestAttestation` is not
part of the sources; it is modelled from the specification (upsert the attestation by txid and
root; when it is confirmed, save its commitment too) over `DbMongo.saveAttestation` and
`DbMongo.saveCommitment`. `GetAttestationCommitment` is answered by
`DbMongo.getAttestationCommitment` and `GetLatestAttestationCommitmentHash` by
`DbMongo.getLatestAttestedCommitmentHash`, both over the store as the tick finds it; the Merkle
component that builds a commitment over its leaves (`models.NewCommitment`) is a parameter. Every
other collaborator answers as the `Env` of the tick says.

A tick of the system is a tick of the driver in the environment the store completes, followed
by the store's writes. So every run of the system is a run of the driver (`systemRun_driver`),
and everything proved about driver runs holds of it; and the store the broadcast follows holds
the unconfirmed attestation (`storeBeforeSend`).

What the store holds also shows where the driver's reading of it goes wrong: after a fee bump
the signing tick asks for the latest attested root and gets the root of the attestation in
flight, which it has just stored unconfirmed, not the root the signers last confirmed.
-/

namespace Mainstay

open Attestation AttestService

namespace Server

/-- Modelled from the spec (`Server.UpdateLatestAttestation`, missing from the sources): upsert
the attestation by txid and root and, when it is confirmed, save its commitment's leaves and
proofs. `rs` holds the outcomes of the writes, in order. -/
def updateLatestAttestation (now : Time) (attestation : Attestation) (rs : List OpResult)
    (d : DbMongo) : DbMongo × Option Error :=
  match d.saveAttestation now attestation attestation.confirmed (rs.headD .ok) with
  | (d', some e) => (d', some e)
  | (d', none) =>
    match attestation.confirmed, attestation.commitment with
    | true, some c => d'.saveCommitment c rs.tail
    | _, _ => (d', none)

theorem updateLatestAttestation_unconfirmed {now : Time} {attestation : Attestation}
    (h : attestation.confirmed = false) (rs : List OpResult) (d : DbMongo) :
    updateLatestAttestation now attestation rs d =
      d.saveAttestation now attestation false (rs.headD .ok) := by
  unfold updateLatestAttestation
  rw [h]
  rcases d.saveAttestation now attestation false (rs.headD .ok) with ⟨d', _ | e⟩ <;> rfl

end Server

theorem mem_saveAttestation {now : Time} {a : Attestation} {confirmed : Bool} {r : OpResult}
    {d : DbMongo} (h : (d.saveAttestation now a confirmed r).2 = none) :
    DbMongo.attestationDoc now a confirmed ∈ (d.saveAttestation now a confirmed r).1.attestation := by
  cases r with
  | ok => rw [DbMongo.saveAttestation_ok]; exact mem_upsert_self _ _ _
  | fail e applied => cases h

/-- The driver and its store. -/
structure System where
  service : AttestService
  db : DbMongo
  deriving DecidableEq, Repr

/-- What a tick's collaborators answer once the store answers its part: the commitment an
attestation txid is stored with and the latest attested root (each the zero value with the error
when the read fails), and the outcome of the write. -/
def storeEnv (newCommitment : List Hash → Except Error Commitment) (rs : List OpResult)
    (db : DbMongo) (env : Env) : Env :=
  { env with
    getAttestationCommitment := fun txid =>
      match db.getAttestationCommitment newCommitment txid with
      | .ok c => (c, none)
      | .error e => (⟨[], [], 0⟩, some e)
    getLatestAttestationCommitmentHash :=
      match db.getLatestAttestedCommitmentHash with
      | .ok h => (h, none)
      | .error e => (0, some e)
    updateLatestAttestation := fun a => (Server.updateLatestAttestation env.now a rs db).2 }

/-- The store after the writes among a tick's calls. -/
def applyWrites (now : Time) (rs : List OpResult) (db : DbMongo) : List Call → DbMongo
  | [] => db
  | .updateLatestAttestation a _ :: calls =>
    applyWrites now rs (Server.updateLatestAttestation now a rs db).1 calls
  | _ :: calls => applyWrites now rs db calls

/-- One tick of the system: the driver's tick, then the store's writes. -/
def systemStep (txHash : MsgTx → Hash) (newCommitment : List Hash → Except Error Commitment)
    (env : Env) (rs : List OpResult) (sys : System) : Option (System × List Call) :=
  (sys.service.runStep txHash (storeEnv newCommitment rs sys.db env)).map fun (s', calls) =>
    (⟨s', applyWrites env.now rs sys.db calls⟩, calls)

/-- One tick of a system run. -/
structure SystemTick where
  pre : System
  calls : List Call
  post : System
  deriving DecidableEq, Repr

/-- The driver's part of a system tick. -/
def SystemTick.toTick (t : SystemTick) : Tick := ⟨t.pre.service, t.calls, t.post.service⟩

/-- The ticks of the system from `sys`, one per environment and store outcomes, up to the first
panic. -/
def systemRun (txHash : MsgTx → Hash) (newCommitment : List Hash → Except Error Commitment)
    (sys : System) : List (Env × List OpResult) → List SystemTick
  | [] => []
  | (env, rs) :: inputs =>
    match systemStep txHash newCommitment env rs sys with
    | none => []
    | some (sys', calls) => ⟨sys, calls, sys'⟩ :: systemRun txHash newCommitment sys' inputs

/-! ## System runs are driver runs -/

variable {txHash : MsgTx → Hash} {newCommitment : List Hash → Except Error Commitment}

/-- Every run of the system is a run of the driver, in the environments the store completes. -/
theorem systemRun_driver (sys : System) (inputs : List (Env × List OpResult)) :
    ∃ envs, (systemRun txHash newCommitment sys inputs).map SystemTick.toTick =
      run txHash sys.service envs := by
  induction inputs generalizing sys with
  | nil => exact ⟨[], rfl⟩
  | cons input inputs ih =>
    obtain ⟨env, rs⟩ := input
    unfold systemRun systemStep
    cases h : sys.service.runStep txHash (storeEnv newCommitment rs sys.db env) with
    | none => exact ⟨[storeEnv newCommitment rs sys.db env], by simp [run, h]⟩
    | some p =>
      obtain ⟨s', calls⟩ := p
      obtain ⟨envs, henvs⟩ := ih ⟨s', applyWrites env.now rs sys.db calls⟩
      exact ⟨storeEnv newCommitment rs sys.db env :: envs,
        by simp [run, h, henvs, SystemTick.toTick]⟩

/-- Every tick of a system run is a tick of the driver in the environment the store completes,
followed by the store's writes. -/
theorem systemRun_step {sys : System} {inputs : List (Env × List OpResult)} {t : SystemTick}
    (h : t ∈ systemRun txHash newCommitment sys inputs) :
    ∃ env rs, t.pre.service.runStep txHash (storeEnv newCommitment rs t.pre.db env) =
      some (t.post.service, t.calls) ∧ t.post.db = applyWrites env.now rs t.pre.db t.calls := by
  induction inputs generalizing sys with
  | nil => simp [systemRun] at h
  | cons input inputs ih =>
    obtain ⟨env, rs⟩ := input
    simp only [systemRun, systemStep] at h
    cases hs : sys.service.runStep txHash (storeEnv newCommitment rs sys.db env) with
    | none => simp [hs] at h
    | some p =>
      obtain ⟨s', calls⟩ := p
      simp only [hs, Option.map_some'] at h
      rcases List.mem_cons.1 h with rfl | h
      · exact ⟨env, rs, hs, rfl⟩
      · exact ih h

/-- A system run's first tick starts where the run starts, and its later ticks are a run from
the state after it. -/
theorem systemRun_head {sys : System} {inputs : List (Env × List OpResult)} {t : SystemTick}
    {rest : List SystemTick} (h : systemRun txHash newCommitment sys inputs = t :: rest) :
    t.pre = sys ∧ ∃ inputs', systemRun txHash newCommitment t.post inputs' = rest := by
  cases inputs with
  | nil => simp [systemRun] at h
  | cons input inputs =>
    simp only [systemRun] at h
    split at h
    · cases h
    · cases h; exact ⟨rfl, inputs, rfl⟩

/-- A tick of a system run starts where the tick before it ends. -/
theorem systemRun_consecutive {sys : System} {inputs : List (Env × List OpResult)}
    {pre post : List SystemTick} {t₁ t₂ : SystemTick}
    (h : systemRun txHash newCommitment sys inputs = pre ++ t₁ :: t₂ :: post) :
    t₂.pre = t₁.post := by
  induction pre generalizing sys inputs with
  | nil =>
    obtain ⟨-, inputs', h'⟩ := systemRun_head h
    exact (systemRun_head h').1
  | cons t pre ih =>
    obtain ⟨-, inputs', h'⟩ := systemRun_head h
    exact ih h'

/-! ## A staychain with a confirmed tip -/

/-- `models.NewCommitment` where the tests need it, on one leaf: the Merkle root of a one-leaf
tree is the leaf, and its proof is empty. Other lists of leaves are outside this stand-in. -/
def oneLeafCommitment : List Hash → Except Error Commitment
  | [leaf] => .ok ⟨[leaf], [⟨[]⟩], leaf⟩
  | _ => .error "not a one-leaf commitment"

/-- The store of a staychain whose tip, the unspent `01`, is the confirmed attestation of
root 3, the commitment whose one leaf, 3, is the latest commitment of the clients. -/
def bumpStore : DbMongo :=
  { (Server.updateLatestAttestation 0 { newAttestation 1 ⟨[3], [⟨[]⟩], 3⟩ with confirmed := true }
      [] DbMongo.empty).1 with
    latestCommitment := [⟨hashString 3, 0, hashString 3⟩] }

/-- The collaborators of `happyEnv` at minute `m`, where the wallet sees the tip in a block. -/
def bumpEnv (m : Int) : Env :=
  { happyEnv with
    now := m * minute
    getTransaction := (some ⟨"b", 0⟩, none) }

/-- A run that takes up the tip, attests root 5, waits an hour without confirmation, bumps the
fee and signs again. -/
def bumpInputs : List (Env × List OpResult) :=
  [1, 2, 3, 4, 5, 6, 67, 68, 69].map fun m => (bumpEnv m, [])

/-! ## The store before the broadcast -/

/-- When the driver broadcasts a transaction, the store already holds it as an unconfirmed
attestation of the root in flight. -/
theorem storeBeforeSend {config : Config} {s₀ : AttestService}
    (h₀ : newAttestService config = some s₀) (db : DbMongo) (inputs : List (Env × List OpResult))
    {pre post : List SystemTick} {t : SystemTick}
    (h : systemRun txHash newCommitment ⟨s₀.startRun, db⟩ inputs = pre ++ t :: post) {tx : MsgTx}
    {r : Hash × Option Error} (hc : .sendAttestation tx r ∈ t.calls) :
    ∃ doc ∈ t.pre.db.attestation, doc.txid = hashString (txHash tx) ∧
      doc.merkleRoot = hashString t.pre.service.attestation.commitmentHash ∧
      doc.confirmed = false := by
  have hmem : ∀ x ∈ pre ++ t :: post, x ∈ systemRun txHash newCommitment ⟨s₀.startRun, db⟩ inputs :=
    fun x hx => h ▸ hx
  obtain ⟨env, rs, hstep, -⟩ := systemRun_step (hmem t (by simp))
  obtain ⟨hsend, rfl, -⟩ := sendAttestation_mem hstep hc
  -- the driver's view of the run
  obtain ⟨envs, henvs⟩ : ∃ envs, (systemRun txHash newCommitment ⟨s₀.startRun, db⟩ inputs).map
      SystemTick.toTick = run txHash s₀.startRun envs := systemRun_driver _ _
  have hrun : run txHash s₀.startRun envs =
      pre.map SystemTick.toTick ++ t.toTick :: post.map SystemTick.toTick := by
    rw [← henvs, h]; simp
  obtain ⟨pre', t₁', hpre, -, hp, hcalls, ha, htxid, hconf⟩ :=
    sendAttestation_stored (newAttestService_startRun_state h₀) hrun hsend
  -- the system tick before the broadcast
  rcases List.eq_nil_or_concat pre with rfl | ⟨pre₀, t₁, rfl⟩
  · simp at hpre
  have ht₁ : t₁.toTick = t₁' := by
    simp only [List.concat_eq_append, List.map_append, List.map_cons, List.map_nil] at hpre
    exact List.head_eq_of_cons_eq (List.append_inj' hpre rfl).2
  subst ht₁
  have hcons : t.pre = t₁.post :=
    systemRun_consecutive (show _ = pre₀ ++ t₁ :: t :: post by simpa using h)
  obtain ⟨env₁, rs₁, hstep₁, hdb₁⟩ := systemRun_step (hmem t₁ (by simp))
  simp only [SystemTick.toTick] at hp hcalls ha htxid hconf
  have hok := updateLatestAttestation_mem hstep₁ (hcalls ▸ List.mem_singleton_self _)
  simp only [storeEnv, Server.updateLatestAttestation_unconfirmed hconf] at hok
  have hdb : t.pre.db = (t₁.pre.db.saveAttestation env₁.now t₁.pre.service.attestation false
      (rs₁.headD .ok)).1 := by
    rw [hcons, hdb₁, hcalls]
    simp only [applyWrites, Server.updateLatestAttestation_unconfirmed hconf]
  rw [hdb]
  refine ⟨_, mem_saveAttestation hok.symm, ?_, ?_, rfl⟩
  · rw [← ha, ← htxid]; rfl
  · rw [← ha]; rfl

/-- The run of `bumpInputs` broadcasts the signed transaction `[3, 3]` in its sixth tick, over a
store that holds it unconfirmed. -/
theorem storeBeforeSend_bump :
    ∃ pre t post,
      systemRun lengthHash oneLeafCommitment ⟨happyStart.startRun, bumpStore⟩ bumpInputs =
        pre ++ t :: post ∧
      .sendAttestation ⟨[3, 3]⟩ (2, none) ∈ t.calls ∧
      ∃ doc ∈ t.pre.db.attestation, doc.txid = hashString (lengthHash ⟨[3, 3]⟩) ∧
        doc.merkleRoot = hashString t.pre.service.attestation.commitmentHash ∧
        doc.confirmed = false := by
  have h₀ : newAttestService ⟨"01", 0, 0, false⟩ = some happyStart := by decide
  obtain ⟨t₀, t₁, t₂, t₃, t₄, t, post, h, hc⟩ : ∃ t₀ t₁ t₂ t₃ t₄ t post,
      systemRun lengthHash oneLeafCommitment ⟨happyStart.startRun, bumpStore⟩ bumpInputs =
        [t₀, t₁, t₂, t₃, t₄] ++ t :: post ∧ Call.sendAttestation ⟨[3, 3]⟩ (2, none) ∈ t.calls :=
    ⟨_, _, _, _, _, _, _, rfl, by decide⟩
  exact ⟨_, t, post, h, hc, storeBeforeSend h₀ _ _ h hc⟩

/-! ## Signing after a fee bump -/

/-- After the fee bump, the signing tick gets root 5 from the store, the root of the attestation
it is signing, while the last confirmed root the signers were told is 3. -/
theorem signAttestation_after_bump_gets_inflight_root :
    newAttestService ⟨"01", 0, 0, false⟩ = some happyStart ∧
      ∃ pre t,
        systemRun lengthHash oneLeafCommitment ⟨happyStart.startRun, bumpStore⟩ bumpInputs =
          pre ++ [t] ∧
        t.pre.service.state = .signAttestation ∧
        lastConfirmedHash (pre.map SystemTick.toTick) = some 3 ∧
        t.pre.db.getLatestAttestedCommitmentHash.toOption = some 5 ∧
        Call.signAttestation ⟨[4]⟩ 5 (some ⟨[3, 3]⟩, none) ∈ t.calls := by
  refine ⟨by decide, ?_⟩
  obtain ⟨t₁, t₂, t₃, t₄, t₅, t₆, t₇, t₈, t, h, hs, hl, hg, hc⟩ : ∃ t₁ t₂ t₃ t₄ t₅ t₆ t₇ t₈ t,
      systemRun lengthHash oneLeafCommitment ⟨happyStart.startRun, bumpStore⟩ bumpInputs =
        [t₁, t₂, t₃, t₄, t₅, t₆, t₇, t₈] ++ [t] ∧ t.pre.service.state = .signAttestation ∧
      lastConfirmedHash ([t₁, t₂, t₃, t₄, t₅, t₆, t₇, t₈].map SystemTick.toTick) = some 3 ∧
      t.pre.db.getLatestAttestedCommitmentHash.toOption = some 5 ∧
      Call.signAttestation ⟨[4]⟩ 5 (some ⟨[3, 3]⟩, none) ∈ t.calls :=
    ⟨_, _, _, _, _, _, _, _, _, rfl, by decide, by decide, by decide, by decide⟩
  exact ⟨_, t, h, hs, hl, hg, hc⟩

end Mainstay
