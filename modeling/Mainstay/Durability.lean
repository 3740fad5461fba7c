import Mainstay.Signing

/-!
# Durability — what the system's writes keep of the store

The driver writes to the store only through `UpdateLatestAttestation`, and each of its writes is
an upsert: it replaces the document with the same key, or appends one. So along every run of the
system, whatever the collaborators answer and whichever writes fail,

* no document key is lost, and `LatestCommitment`, which no write touches, stays as it was
  (`DbMongo.Extends`);
* a store with one document per key in each collection the system writes keeps one
  (`DbMongo.Keyed`).

Both rest on one lemma per write (`saveAttestation`, `saveCommitment`), lifted through
`Server.updateLatestAttestation` and `applyWrites` to a tick, and by induction to runs
(`systemRun_store`). With them, a root announced to the signers as confirmed is durable: the tick
that announces it leaves a confirmed document of that root in the store, whose key every later
store keeps (`sendConfirmedHash_stored`).
-/

namespace Mainstay

open Attestation AttestService

namespace DbMongo

/-- One document per key in each collection the system upserts into. -/
structure Keyed (d : DbMongo) : Prop where
  /-- One `Attestation` document per `{txid, merkle_root}`. -/
  attestation : (d.attestation.map AttestationDoc.key).Nodup
  /-- One `MerkleCommitment` and one `MerkleProof` document per `{merkle_root, client_position}`. -/
  wellKeyed : d.WellKeyed

/-- `d'` keeps every document key of `d`, and `d`'s `LatestCommitment` collection. -/
structure Extends (d d' : DbMongo) : Prop where
  attestation : d.attestation.map AttestationDoc.key ⊆ d'.attestation.map AttestationDoc.key
  merkleCommitment :
    d.merkleCommitment.map MerkleCommitmentDoc.key ⊆ d'.merkleCommitment.map MerkleCommitmentDoc.key
  merkleProof : d.merkleProof.map MerkleProofDoc.key ⊆ d'.merkleProof.map MerkleProofDoc.key
  latestCommitment : d'.latestCommitment = d.latestCommitment

theorem Extends.refl (d : DbMongo) : d.Extends d :=
  ⟨List.Subset.refl _, List.Subset.refl _, List.Subset.refl _, rfl⟩

theorem Extends.trans {d₁ d₂ d₃ : DbMongo} (h₁ : d₁.Extends d₂) (h₂ : d₂.Extends d₃) :
    d₁.Extends d₃ :=
  ⟨h₁.attestation.trans h₂.attestation, h₁.merkleCommitment.trans h₂.merkleCommitment,
    h₁.merkleProof.trans h₂.merkleProof, h₂.latestCommitment.trans h₁.latestCommitment⟩

/-! ## One write -/

variable {now : Time} {a : Attestation} {confirmed : Bool} {r : OpResult} {d : DbMongo}

/-- `saveAttestation` upserts its document, or nothing when the write failed unapplied, and
leaves the other collections. -/
theorem saveAttestation_prefix (now : Time) (a : Attestation) (confirmed : Bool) (r : OpResult)
    (d : DbMongo) :
    ∃ n, (d.saveAttestation now a confirmed r).1 =
      { d with attestation :=
          upsertAll AttestationDoc.key ([attestationDoc now a confirmed].take n) d.attestation } := by
  obtain ⟨n, hn⟩ := upsertEach_prefix AttestationDoc.key [attestationDoc now a confirmed] [r]
    d.attestation
  exact ⟨n, by simp only [saveAttestation, hn]⟩

theorem saveAttestation_extends : d.Extends (d.saveAttestation now a confirmed r).1 := by
  obtain ⟨n, hn⟩ := saveAttestation_prefix now a confirmed r d
  rw [hn]
  exact ⟨fun _ hk => mem_keys_upsertAll (.inl hk), List.Subset.refl _, List.Subset.refl _, rfl⟩

theorem saveAttestation_keyed (hd : d.Keyed) : (d.saveAttestation now a confirmed r).1.Keyed := by
  obtain ⟨n, hn⟩ := saveAttestation_prefix now a confirmed r d
  rw [hn]
  exact ⟨nodup_keys_upsertAll _ hd.attestation, hd.wellKeyed⟩

theorem saveCommitment_extends (c : Commitment) (rs : List OpResult) (d : DbMongo) :
    d.Extends (d.saveCommitment c rs).1 := by
  obtain ⟨m, p, h⟩ := saveCommitment_prefix c d rs
  rw [h]
  exact ⟨List.Subset.refl _, fun _ hk => mem_keys_upsertAll (.inl hk),
    fun _ hk => mem_keys_upsertAll (.inl hk), rfl⟩

theorem saveCommitment_keyed (c : Commitment) (rs : List OpResult) (hd : d.Keyed) :
    (d.saveCommitment c rs).1.Keyed := by
  obtain ⟨m, p, h⟩ := saveCommitment_prefix c d rs
  rw [h]
  exact ⟨hd.attestation, wellKeyed_afterWrites c d hd.wellKeyed m p⟩

end DbMongo

/-! ## A tick's writes -/

namespace Server

variable {now : Time} {a : Attestation} {rs : List OpResult} {d : DbMongo}

/-- What `saveAttestation` establishes and `saveCommitment` keeps holds after
`UpdateLatestAttestation`. -/
theorem updateLatestAttestation_preserves (P : DbMongo → Prop)
    (hsave : P (d.saveAttestation now a a.confirmed (rs.headD .ok)).1)
    (hcommit : ∀ d' c rs', P d' → P (d'.saveCommitment c rs').1) :
    P (updateLatestAttestation now a rs d).1 := by
  unfold updateLatestAttestation
  split <;> rename_i heq <;> rw [heq] at hsave
  · exact hsave
  · split
    · exact hcommit _ _ _ hsave
    · exact hsave

theorem updateLatestAttestation_extends : d.Extends (updateLatestAttestation now a rs d).1 :=
  updateLatestAttestation_preserves (d.Extends ·) DbMongo.saveAttestation_extends
    fun _ c rs' h => h.trans (DbMongo.saveCommitment_extends c rs' _)

theorem updateLatestAttestation_keyed (hd : d.Keyed) : (updateLatestAttestation now a rs d).1.Keyed :=
  updateLatestAttestation_preserves DbMongo.Keyed (DbMongo.saveAttestation_keyed hd)
    fun _ c rs' h => DbMongo.saveCommitment_keyed c rs' h

/-- A confirmed attestation the store accepted is stored confirmed. -/
theorem mem_updateLatestAttestation_confirmed (hconf : a.confirmed = true)
    (hok : (updateLatestAttestation now a rs d).2 = none) :
    DbMongo.attestationDoc now a true ∈ (updateLatestAttestation now a rs d).1.attestation := by
  unfold updateLatestAttestation at hok ⊢
  rw [hconf] at hok ⊢
  rcases hs : d.saveAttestation now a true (rs.headD .ok) with ⟨d', _ | e⟩
  · have hmem := mem_saveAttestation (show (d.saveAttestation now a true (rs.headD .ok)).2 = none
      by rw [hs])
    rw [hs] at hmem
    simp only [hs]
    split
    · rw [(DbMongo.saveCommitment_attestation _ _ _).1]; exact hmem
    · exact hmem
  · rw [hs] at hok; cases hok

/-- A confirmed attestation with a commitment, which the store accepted, had every leaf and every
proof of its commitment written. -/
theorem updateLatestAttestation_afterWrites {c : Commitment} (hconf : a.confirmed = true)
    (hc : a.commitment = some c) (hok : (updateLatestAttestation now a rs d).2 = none) :
    ∃ d', (updateLatestAttestation now a rs d).1 =
      DbMongo.afterWrites c d' c.merkleCommitments.length c.merkleProofs.length := by
  unfold updateLatestAttestation at hok ⊢
  rw [hconf, hc] at hok ⊢
  rcases hs : d.saveAttestation now a true (rs.headD .ok) with ⟨d', _ | e⟩
  · simp only [hs] at hok ⊢
    exact ⟨d', DbMongo.saveCommitment_ok c d' hok⟩
  · rw [hs] at hok; cases hok

end Server

/-- A property of stores that every store write keeps is kept by the writes of a tick. -/
theorem applyWrites_preserves (P : DbMongo → Prop) {now : Time} {rs : List OpResult}
    (hwrite : ∀ d a, P d → P (Server.updateLatestAttestation now a rs d).1) {db : DbMongo}
    (hd : P db) (cs : List Call) : P (applyWrites now rs db cs) := by
  induction cs generalizing db with
  | nil => exact hd
  | cons c cs ih =>
    cases c with
    | updateLatestAttestation a e => exact ih (hwrite db a hd)
    | _ => exact ih hd

/-! ## Runs -/

variable {txHash : MsgTx → Hash} {newCommitment : List Hash → Except Error Commitment}
  {sys : System} {inputs : List (Env × List OpResult)} {env : Env}

/-- A property of stores that every store write keeps holds of every store of a system run that
starts in it. -/
theorem systemRun_preserves (P : DbMongo → Prop)
    (hwrite : ∀ now rs d a, P d → P (Server.updateLatestAttestation now a rs d).1)
    (hd : P sys.db) :
    ∀ t ∈ systemRun txHash newCommitment sys inputs, P t.pre.db ∧ P t.post.db := by
  induction inputs generalizing sys with
  | nil => simp [systemRun]
  | cons input inputs ih =>
    obtain ⟨env, rs⟩ := input
    intro t ht
    simp only [systemRun, systemStep] at ht
    cases hst : sys.service.runStep txHash (storeEnv newCommitment rs sys.db env) with
    | none => simp [hst] at ht
    | some p =>
      obtain ⟨s', calls⟩ := p
      simp only [hst, Option.map_some'] at ht
      have hpost := applyWrites_preserves P (hwrite env.now rs) hd calls
      rcases List.mem_cons.1 ht with rfl | ht
      · exact ⟨hd, hpost⟩
      · exact ih hpost t ht

/-- The ticks after a tick of a system run are a run from the system it ends in. -/
theorem systemRun_drop {pre post : List SystemTick} {t : SystemTick}
    (h : systemRun txHash newCommitment sys inputs = pre ++ t :: post) :
    ∃ inputs', systemRun txHash newCommitment t.post inputs' = post := by
  induction pre generalizing sys inputs with
  | nil => exact (systemRun_head h).2
  | cons r pre ih =>
    obtain ⟨-, inputs', h'⟩ := systemRun_head h
    exact ih h'

/-- Every store of a system run keeps the keys and `LatestCommitment` of the store it started
from. -/
theorem systemRun_extends :
    ∀ t ∈ systemRun txHash newCommitment sys inputs,
      sys.db.Extends t.pre.db ∧ sys.db.Extends t.post.db :=
  systemRun_preserves (sys.db.Extends ·)
    (fun _ _ _ _ h => h.trans Server.updateLatestAttestation_extends) (DbMongo.Extends.refl _)

/-- Along every system run from a store with one document per key, under any answers and any
write failures, every store has one document per key, keeps every key and the `LatestCommitment`
collection of the store the run started from, and every tick keeps those of the store before it:
no update is lost or duplicated. -/
theorem systemRun_store (hd : sys.db.Keyed) :
    ∀ t ∈ systemRun txHash newCommitment sys inputs,
      t.post.db.Keyed ∧ sys.db.Extends t.pre.db ∧ t.pre.db.Extends t.post.db := by
  intro t ht
  obtain ⟨env, rs, -, hdb⟩ := systemRun_step ht
  refine ⟨(systemRun_preserves DbMongo.Keyed
    (fun _ _ _ _ h => Server.updateLatestAttestation_keyed h) hd t ht).2,
    (systemRun_extends t ht).1, ?_⟩
  rw [hdb]
  exact applyWrites_preserves (t.pre.db.Extends ·)
    (fun _ _ h => h.trans Server.updateLatestAttestation_extends) (DbMongo.Extends.refl _) _

/-- The first tick of the run of `bumpInputs` over `bumpStore`, which stores the confirmed tip,
keeps one document per key and loses none. -/
theorem systemRun_store_bump :
    ∃ t, t ∈ systemRun lengthHash oneLeafCommitment ⟨happyStart.startRun, bumpStore⟩ bumpInputs ∧
      t.post.db.Keyed ∧ bumpStore.Extends t.pre.db ∧ t.pre.db.Extends t.post.db := by
  obtain ⟨t, ht⟩ :
      ∃ t, t ∈ systemRun lengthHash oneLeafCommitment ⟨happyStart.startRun, bumpStore⟩ bumpInputs :=
    ⟨_, List.mem_cons_self _ _⟩
  exact ⟨t, ht, systemRun_store ⟨by decide, by unfold DbMongo.WellKeyed; decide⟩ t ht⟩

/-! ## Confirmations in the store -/

/-- The tick that announces a confirmed root wrote one attestation, confirmed and of that root,
and the store accepted it, so the store after the tick is the store after that write. Only the
zero root of a fresh staychain is announced from `ASTATE_INIT` without a write. -/
theorem announce_write {s s' : AttestService} {db : DbMongo} {rs : List OpResult}
    {calls : List Call} {x : Hash}
    (hstep : s.runStep txHash (storeEnv newCommitment rs db env) = some (s', calls))
    (hc : .sendConfirmedHash x ∈ calls) :
    (∃ a, .updateLatestAttestation a none ∈ calls ∧ a.confirmed = true ∧ a.commitmentHash = x ∧
      (Server.updateLatestAttestation env.now a rs db).2 = none ∧
      applyWrites env.now rs db calls = (Server.updateLatestAttestation env.now a rs db).1) ∨
    (s.state = .init ∧ x = 0) := by
  rcases (sendConfirmedHash_after_store hstep hc).2 with ⟨a, ha, hconf, hroot⟩ | ⟨hs, hx, -⟩
  · -- the announcing tick writes `a` and nothing else
    have hwa : a ∈ calls.filterMap Call.write? := List.mem_filterMap.2 ⟨_, ha, rfl⟩
    obtain ⟨a', hw, hok, -⟩ : ∃ a', calls.filterMap Call.write? = [a'] ∧
        (storeEnv newCommitment rs db env).updateLatestAttestation a' = none ∧
        calls.filterMap Call.confirmedHash? = [a'.commitmentHash] := by
      rcases nextOrNew_step hstep (.inl (sendConfirmedHash_mem hstep hc).1) with
        ⟨-, hw, -⟩ | hw | ⟨hw, -⟩
      · simp [hw] at hwa
      · exact hw
      · simp [hw] at hwa
    obtain rfl : a = a' := by simpa [hw] using hwa
    exact .inl ⟨a, ha, hconf, hroot, hok, by rw [applyWrites_eq, hw]; rfl⟩
  · exact .inr ⟨hs, hx⟩

/-- A root announced to the signers as confirmed is in the store: the announcing tick leaves a
confirmed document of that root, whose key every later store of the run keeps; only the zero
root of a fresh staychain is announced from `ASTATE_INIT` without one. -/
theorem sendConfirmedHash_stored {pre post : List SystemTick} {t : SystemTick}
    (h : systemRun txHash newCommitment sys inputs = pre ++ t :: post) {x : Hash}
    (hc : .sendConfirmedHash x ∈ t.calls) :
    (t.pre.service.state = .init ∧ x = 0) ∨
      ∃ doc ∈ t.post.db.attestation, doc.merkleRoot = hashString x ∧ doc.confirmed = true ∧
        ∀ t' ∈ post, doc.key ∈ t'.post.db.attestation.map AttestationDoc.key := by
  obtain ⟨env, rs, hstep, hdb⟩ :=
    systemRun_step (h ▸ List.mem_append_right pre (List.mem_cons_self t post))
  rcases announce_write hstep hc with ⟨a, -, hconf, hroot, hok, hw⟩ | hinit
  · right
    have hmem : DbMongo.attestationDoc env.now a true ∈ t.post.db.attestation := by
      rw [hdb, hw]
      exact Server.mem_updateLatestAttestation_confirmed hconf hok
    refine ⟨_, hmem, by rw [← hroot]; rfl, rfl, fun t' ht' => ?_⟩
    obtain ⟨inputs', hpost⟩ := systemRun_drop h
    exact (systemRun_extends t' (hpost ▸ ht')).2.attestation (List.mem_map_of_mem _ hmem)
  · exact .inl hinit

/-- Taking up the tip `01` of root 3 stores it confirmed and announces root 3; the next tick
keeps the document. -/
theorem sendConfirmedHash_stored_bump :
    ∃ t post,
      systemRun lengthHash oneLeafCommitment ⟨happyStart.startRun, bumpStore⟩ (bumpInputs.take 2) =
        [] ++ t :: post ∧ .sendConfirmedHash 3 ∈ t.calls ∧
      ((t.pre.service.state = .init ∧ (3 : Hash) = 0) ∨
        ∃ doc ∈ t.post.db.attestation, doc.merkleRoot = hashString 3 ∧ doc.confirmed = true ∧
          ∀ t' ∈ post, doc.key ∈ t'.post.db.attestation.map AttestationDoc.key) := by
  obtain ⟨t, post, h, hc⟩ : ∃ t post,
      systemRun lengthHash oneLeafCommitment ⟨happyStart.startRun, bumpStore⟩ (bumpInputs.take 2) =
        [] ++ t :: post ∧
        Call.sendConfirmedHash 3 ∈ t.calls := ⟨_, _, rfl, by decide⟩
  exact ⟨t, post, h, hc, sendConfirmedHash_stored h hc⟩

end Mainstay
