import Mainstay.System
import Mainstay.Server.Commitments
import Mainstay.Attestation.Signers

/-!
# Signing — the root the store gives the first signature of an attestation

`doStateSignAttestation` asks the store for the latest attested root and signs with it. After a
fee bump that root is the one of the attestation in flight (`System`). This module proves the
other half: for the first signature of every attestation, the one right after
`ASTATE_NEW_ATTESTATION`, the store answers the root the signers were last told was confirmed,
unless that is the zero root of a fresh staychain, which nothing stored.

The argument needs the store's stamps to order its writes: `saveAttestation` stamps a document
with the whole second of the tick, so the ticks are taken to fall in increasing seconds, after
every document the store starts with. Under that clock:

* what a tick writes is stamped with its second, so every document is older than the next tick;
* in `ASTATE_NEXT_COMMITMENT` and `ASTATE_NEW_ATTESTATION` the latest document carries the last
  announced root (`SigningInv`), since the only ways in announce the root of the confirmed
  attestation just stored, or the zero root without a write, and nothing there writes;
* the tick from `ASTATE_NEW_ATTESTATION` to `ASTATE_SIGN_ATTESTATION` neither writes nor
  announces, so the signing tick reads that root.
-/

namespace Mainstay

open Attestation AttestService

/-! ## What a tick writes -/

/-- `applyWrites` runs the store writes among a tick's calls, in order. -/
theorem applyWrites_eq (now : Time) (rs : List OpResult) (db : DbMongo) (cs : List Call) :
    applyWrites now rs db cs =
      (cs.filterMap Call.write?).foldl (fun d a => (Server.updateLatestAttestation now a rs d).1) db := by
  induction cs generalizing db with
  | nil => rfl
  | cons c cs ih => cases c <;> simp [applyWrites, Call.write?, ih]

theorem mem_saveAttestation_attestation {now : Time} {a : Attestation} {confirmed : Bool}
    {r : OpResult} {d : DbMongo} {doc : AttestationDoc}
    (h : doc ∈ (d.saveAttestation now a confirmed r).1.attestation) :
    doc ∈ d.attestation ∨ doc = DbMongo.attestationDoc now a confirmed := by
  obtain ⟨n, hn⟩ := upsertEach_prefix AttestationDoc.key
    [DbMongo.attestationDoc now a confirmed] [r] d.attestation
  simp only [DbMongo.saveAttestation, hn] at h
  cases n with
  | zero => exact .inl h
  | succ n =>
    simp only [List.take_succ_cons, List.take_nil, upsertAll_cons, upsertAll_nil] at h
    exact (mem_upsert h).symm

/-- A document after a store write was there before, or is stamped with the write's second. -/
theorem mem_updateLatestAttestation_attestation {now : Time} {a : Attestation}
    {rs : List OpResult} {d : DbMongo} {doc : AttestationDoc}
    (h : doc ∈ (Server.updateLatestAttestation now a rs d).1.attestation) :
    doc ∈ d.attestation ∨ doc.insertedAt = now / second * 1000 := by
  have hsave : ∀ doc ∈ (d.saveAttestation now a a.confirmed (rs.headD .ok)).1.attestation,
      doc ∈ d.attestation ∨ doc.insertedAt = now / second * 1000 :=
    fun doc hd => (mem_saveAttestation_attestation hd).imp_right fun h => by rw [h]; rfl
  unfold Server.updateLatestAttestation at h
  split at h <;> rename_i heq
  · exact hsave doc (by rw [heq]; exact h)
  · split at h
    · rw [(DbMongo.saveCommitment_attestation _ _ _).1] at h
      exact hsave doc (by rw [heq]; exact h)
    · exact hsave doc (by rw [heq]; exact h)

theorem mem_applyWrites_attestation {now : Time} {rs : List OpResult} {db : DbMongo}
    {cs : List Call} {doc : AttestationDoc} (h : doc ∈ (applyWrites now rs db cs).attestation) :
    doc ∈ db.attestation ∨ doc.insertedAt = now / second * 1000 := by
  induction cs generalizing db with
  | nil => exact .inl h
  | cons c cs ih =>
    cases c with
    | updateLatestAttestation a e =>
      exact (ih h).elim mem_updateLatestAttestation_attestation .inr
    | _ => exact ih h

theorem getLatestAttestedCommitmentHash_congr {d d' : DbMongo} (h : d.attestation = d'.attestation) :
    d.getLatestAttestedCommitmentHash = d'.getLatestAttestedCommitmentHash := by
  simp only [DbMongo.getLatestAttestedCommitmentHash, h]

/-- A store write the store accepted, later than every document, is what the store reads back
as the latest root. -/
theorem getLatestAttestedCommitmentHash_updateLatestAttestation {now : Time} {a : Attestation}
    {rs : List OpResult} {d : DbMongo}
    (hlate : ∀ doc ∈ d.attestation, doc.insertedAt < now / second * 1000)
    (hok : (Server.updateLatestAttestation now a rs d).2 = none) :
    (Server.updateLatestAttestation now a rs d).1.getLatestAttestedCommitmentHash =
      .ok a.commitmentHash := by
  have hsave := DbMongo.getLatestAttestedCommitmentHash_saveAttestation hlate a a.confirmed
  unfold Server.updateLatestAttestation at hok ⊢
  cases hr : rs.headD .ok with
  | fail e applied =>
    rw [hr] at hok
    cases applied <;> simp [DbMongo.saveAttestation, upsertEach] at hok
  | ok =>
    rw [hr] at hok
    rw [DbMongo.saveAttestation_ok] at hok hsave ⊢
    dsimp only at hok ⊢
    split
    · exact (getLatestAttestedCommitmentHash_congr (DbMongo.saveCommitment_attestation _ _ _).1).trans
        hsave
    · exact hsave

/-! ## The invariant -/

/-- What the store holds between ticks: every document is stamped no later than `bound`, and in
`ASTATE_NEXT_COMMITMENT` and `ASTATE_NEW_ATTESTATION` the latest root is the last announced
one, unless that is the zero root. -/
structure SigningInv (bound : Int) (hist : List Tick) (sys : System) : Prop where
  older : ∀ doc ∈ sys.db.attestation, doc.insertedAt ≤ bound
  latest : sys.service.state = .nextCommitment ∨ sys.service.state = .newAttestation →
    ∃ c, lastConfirmedHash hist = some c ∧ (c = 0 ∨ sys.db.getLatestAttestedCommitmentHash = .ok c)

variable {txHash : MsgTx → Hash} {newCommitment : List Hash → Except Error Commitment}

theorem signingInv_step {bound : Int} {hist : List Tick} {sys : System} {env : Env}
    {rs : List OpResult} {s' : AttestService} {calls : List Call} (hi : SigningInv bound hist sys)
    (hlt : bound < env.now / second * 1000)
    (h : sys.service.runStep txHash (storeEnv newCommitment rs sys.db env) = some (s', calls)) :
    SigningInv (env.now / second * 1000) (hist ++ [⟨sys.service, calls, s'⟩])
      ⟨s', applyWrites env.now rs sys.db calls⟩ := by
  constructor
  · intro doc hdoc
    rcases mem_applyWrites_attestation hdoc with hold | heq
    · exact (hi.older doc hold).trans hlt.le
    · exact heq.le
  · intro hs'
    rw [lastConfirmedHash_append]
    rcases nextOrNew_step h hs' with ⟨hs, hw, hc⟩ | ⟨a, hw, hok, hc⟩ | ⟨-, hc⟩
    · -- no write and no announcement
      obtain ⟨c, hl, hc'⟩ := hi.latest hs
      refine ⟨c, by simp [hc, hl], ?_⟩
      rwa [applyWrites_eq, hw]
    · -- the confirmed attestation just stored carries the announced root
      refine ⟨a.commitmentHash, by simp [hc], .inr ?_⟩
      rw [applyWrites_eq, hw]
      exact getLatestAttestedCommitmentHash_updateLatestAttestation
        (fun doc hd => lt_of_le_of_lt (hi.older doc hd) hlt) hok
    · exact ⟨0, by simp [hc], .inl rfl⟩

/-- Every tick of a system run whose ticks fall in increasing seconds starts in a state of the
invariant. -/
theorem signingInv_run :
    ∀ (inputs : List (Env × List OpResult)) (bound : Int) (hist : List Tick) (sys : System),
      SigningInv bound hist sys →
      (inputs.map fun i => i.1.now / second * 1000).Chain (· < ·) bound →
      ∀ pre t post, systemRun txHash newCommitment sys inputs = pre ++ t :: post →
        ∃ b, SigningInv b (hist ++ pre.map SystemTick.toTick) t.pre := by
  intro inputs
  induction inputs with
  | nil => intro _ _ _ _ _ pre t post h; simp [systemRun] at h
  | cons input inputs ih =>
    obtain ⟨env, rs⟩ := input
    intro bound hist sys hi hclock pre t post h
    rw [List.map_cons, List.chain_cons] at hclock
    simp only [systemRun, systemStep] at h
    cases hst : sys.service.runStep txHash (storeEnv newCommitment rs sys.db env) with
    | none => simp [hst] at h
    | some p =>
      obtain ⟨s', calls⟩ := p
      simp only [hst, Option.map_some'] at h
      cases pre with
      | nil =>
        cases (List.cons.inj h).1
        exact ⟨bound, by simpa using hi⟩
      | cons r pre =>
        obtain ⟨rfl, hrest⟩ := List.cons.inj h
        obtain ⟨b, hb⟩ := ih _ _ _ (signingInv_step hi hclock.1 hst) hclock.2 pre t post hrest
        exact ⟨b, by simpa [SystemTick.toTick] using hb⟩

/-! ## The first signature -/

/-- In every system run from `NewAttestService` whose ticks fall in increasing seconds, after a
store whose documents are all older, the signing tick right after `ASTATE_NEW_ATTESTATION`
is given the last confirmed root announced to the signers, or that root is the zero root of a
fresh staychain. -/
theorem firstSigning_gets_confirmed_root {config : Config} {s₀ : AttestService} {db : DbMongo}
    {inputs : List (Env × List OpResult)} {b : Int} (h₀ : newAttestService config = some s₀)
    (hdocs : ∀ doc ∈ db.attestation, doc.insertedAt ≤ b)
    (hclock : (inputs.map fun i => i.1.now / second * 1000).Chain (· < ·) b)
    {pre post : List SystemTick} {t₁ t : SystemTick}
    (h : systemRun txHash newCommitment ⟨s₀.startRun, db⟩ inputs = pre ++ t₁ :: t :: post)
    (hnew : t₁.pre.service.state = .newAttestation) {tx : MsgTx} {x : Hash}
    {r : Option MsgTx × Option Error} (hc : .signAttestation tx x r ∈ t.calls) :
    lastConfirmedHash ((pre ++ [t₁]).map SystemTick.toTick) = some x ∨
      lastConfirmedHash ((pre ++ [t₁]).map SystemTick.toTick) = some 0 := by
  have hinit : SigningInv b [] ⟨s₀.startRun, db⟩ :=
    ⟨hdocs, fun hs => by simp [newAttestService_startRun_state h₀] at hs⟩
  obtain ⟨_, hi⟩ := signingInv_run inputs b [] _ hinit hclock pre t₁ (t :: post) h
  obtain ⟨c, hl, hc'⟩ := hi.latest (.inr hnew)
  have hmem : ∀ u ∈ pre ++ t₁ :: t :: post,
      u ∈ systemRun txHash newCommitment ⟨s₀.startRun, db⟩ inputs :=
    fun u hu => h ▸ hu
  -- the tick from `ASTATE_NEW_ATTESTATION` leaves the store and the announcements alone
  obtain ⟨env₁, rs₁, hstep₁, hdb₁⟩ := systemRun_step (hmem t₁ (by simp))
  obtain ⟨hw, hq⟩ := newAttestation_step_quiet hstep₁ hnew
  have hdb : t.pre.db = t₁.pre.db := by
    rw [systemRun_consecutive (show _ = pre ++ t₁ :: t :: post from h), hdb₁, applyWrites_eq, hw]
    rfl
  have hlast : lastConfirmedHash ((pre ++ [t₁]).map SystemTick.toTick) = some c := by
    rw [List.map_append, List.map_singleton, lastConfirmedHash_append]
    simpa [SystemTick.toTick, hq] using hl
  -- the signing tick reads the latest root
  obtain ⟨env, rs, hstep, -⟩ := systemRun_step (hmem t (by simp))
  have hread : t.pre.db.getLatestAttestedCommitmentHash = .ok x := by
    have hx := signAttestation_root hstep hc
    simp only [storeEnv] at hx
    split at hx <;> simp_all
  rcases hc' with rfl | hc'
  · exact .inr hlast
  · rw [hdb, hc'] at hread
    cases hread
    exact .inl hlast

/-- In the run of `bumpInputs`, the first signature is given root 3, the confirmed tip's, where
the signature after the fee bump is given 5. -/
theorem firstSigning_gets_confirmed_root_bump :
    ∃ pre t₁ t post,
      systemRun lengthHash oneLeafCommitment ⟨happyStart.startRun, bumpStore⟩ bumpInputs =
        pre ++ t₁ :: t :: post ∧ t₁.pre.service.state = .newAttestation ∧
      .signAttestation ⟨[2]⟩ 3 (some ⟨[3, 3]⟩, none) ∈ t.calls ∧
      (lastConfirmedHash ((pre ++ [t₁]).map SystemTick.toTick) = some 3 ∨
        lastConfirmedHash ((pre ++ [t₁]).map SystemTick.toTick) = some 0) := by
  have h₀ : newAttestService ⟨"01", 0, 0, false⟩ = some happyStart := by decide
  obtain ⟨t₀, t₀', t₁, t, post, h, hnew, hc⟩ : ∃ t₀ t₀' t₁ t post,
      systemRun lengthHash oneLeafCommitment ⟨happyStart.startRun, bumpStore⟩ bumpInputs =
        [t₀, t₀'] ++ t₁ :: t :: post ∧ t₁.pre.service.state = .newAttestation ∧
      Call.signAttestation ⟨[2]⟩ 3 (some ⟨[3, 3]⟩, none) ∈ t.calls :=
    ⟨_, _, _, _, _, rfl, rfl, by decide⟩
  exact ⟨_, t₁, t, post, h, hnew, hc,
    firstSigning_gets_confirmed_root h₀ (b := 0) (by decide)
      (by simp [bumpInputs, bumpEnv, minute, second]) h hnew hc⟩

end Mainstay
