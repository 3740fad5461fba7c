import Mainstay.Attestation.Run

/-!
# Invariants — what every run of the driver keeps

Two families of facts, each derived from the transition relation and lifted to runs by
`run_inv` and `run_segment`:

* the store-before-send discipline: an attestation in flight is unconfirmed, and once signed its
  txid is the hash of its transaction; so the broadcast of a transaction always follows, in the
  tick before, the successful store of exactly that transaction as an unconfirmed attestation,
  and the confirmation checks that follow query the txid that was stored;
* the announcement discipline: in `ASTATE_NEXT_COMMITMENT` the current root is the one the last
  `SendConfirmedHash` announced, so every new hash differs from it, and the root of the attestation
  in flight does not change until the next confirmation or reset.
-/

namespace Mainstay

open Attestation

/-- The states between the creation of an attestation and its confirmation. -/
def AttestationState.inFlight : AttestationState → Bool
  | .newAttestation | .signAttestation | .preSendStore | .sendAttestation
  | .awaitConfirmation | .handleUnconfirmed => true
  | _ => false

/-- The hash a `SendConfirmedHash` call announces. -/
def Call.confirmedHash? : Call → Option Hash
  | .sendConfirmedHash h => some h
  | _ => none

@[simp] theorem Call.confirmedHash?_eq_some {c : Call} {x : Hash} :
    c.confirmedHash? = some x ↔ c = .sendConfirmedHash x := by
  cases c <;> simp [Call.confirmedHash?]

namespace AttestService

/-- The payload of the most recent `SendConfirmedHash` among the calls of a history of ticks. -/
def lastConfirmedHash (hist : List Tick) : Option Hash :=
  ((hist.flatMap Tick.calls).filterMap Call.confirmedHash?).getLast?

theorem lastConfirmedHash_append (hist : List Tick) (t : Tick) :
    lastConfirmedHash (hist ++ [t]) =
      (t.calls.filterMap Call.confirmedHash?).getLast?.or (lastConfirmedHash hist) := by
  simp [lastConfirmedHash, List.getLast?_append]

/-- The invariant behind the store-before-send discipline. -/
structure Unsent (txHash : MsgTx → Hash) (s : AttestService) : Prop where
  unconfirmed : s.state.inFlight → s.attestation.confirmed = false
  signed : s.state = .preSendStore ∨ s.state = .sendAttestation →
    s.attestation.txid = txHash s.attestation.tx

variable {txHash : MsgTx → Hash} {env : Env} {s s' : AttestService} {cs : List Call}

/-! ## One tick -/

/-- A turn of the loop is a transition, with the regtest delay applied after it. -/
theorem runStep_transition (h : s.runStep txHash env = some (s', cs)) :
    ∃ s₁, Transition txHash env s s₁ cs ∧
      s' = { s₁ with attestDelay := if s₁.isRegtest then regtestDelay else s₁.attestDelay } := by
  unfold runStep at h
  cases hd : s.doAttestation txHash env with
  | none => simp [hd] at h
  | some p =>
    obtain ⟨s₁, cs₁⟩ := p
    simp only [hd, Option.map_some', Option.some.injEq, Prod.mk.injEq] at h
    obtain ⟨rfl, rfl⟩ := h
    exact ⟨s₁, doAttestation_transition hd, rfl⟩

theorem unsent_step (h : s.runStep txHash env = some (s', cs)) (hs : Unsent txHash s) :
    Unsent txHash s' := by
  obtain ⟨s₁, ht, rfl⟩ := runStep_transition h
  clear h
  obtain ⟨hc, ht'⟩ := hs
  constructor
  · intro hf
    cases ht <;> simp [AttestationState.inFlight] at hf <;> simp_all [AttestationState.inFlight]
  · intro hp
    cases ht <;> simp at hp <;> simp_all

/-- The only tick that ends in `ASTATE_SEND_ATTESTATION` is a successful store of the
attestation, unchanged, in `ASTATE_PRE_SEND_STORE`. -/
theorem enter_sendAttestation (h : s.runStep txHash env = some (s', cs))
    (hs' : s'.state = .sendAttestation) :
    s.state = .preSendStore ∧ cs = [.updateLatestAttestation s.attestation none] ∧
      s'.attestation = s.attestation := by
  obtain ⟨s₁, ht, rfl⟩ := runStep_transition h
  clear h
  cases ht <;> simp at hs' <;> simp_all

/-- A store write a tick records got the answer the environment gives for that attestation. -/
theorem updateLatestAttestation_mem (h : s.runStep txHash env = some (s', cs)) {a : Attestation}
    {e : Option Error} (hc : .updateLatestAttestation a e ∈ cs) :
    e = env.updateLatestAttestation a := by
  obtain ⟨s₁, ht, rfl⟩ := runStep_transition h
  clear h
  cases ht <;> simp at hc <;> simp_all

/-- The only tick that ends in `ASTATE_PRE_SEND_STORE` starts in `ASTATE_SIGN_ATTESTATION`. -/
theorem enter_preSendStore (h : s.runStep txHash env = some (s', cs))
    (hs' : s'.state = .preSendStore) : s.state = .signAttestation := by
  obtain ⟨s₁, ht, rfl⟩ := runStep_transition h
  clear h
  cases ht <;> simp at hs' <;> simp_all

/-- `sendAttestation` is called only in `ASTATE_SEND_ATTESTATION`, on the attestation's
transaction; when it succeeds, the returned txid is recorded and the driver awaits. -/
theorem sendAttestation_mem (h : s.runStep txHash env = some (s', cs)) {tx : MsgTx}
    {r : Hash × Option Error} (hc : .sendAttestation tx r ∈ cs) :
    s.state = .sendAttestation ∧ tx = s.attestation.tx ∧
      (r.2 = none → s'.state = .awaitConfirmation ∧ s'.attestation.txid = r.1) := by
  obtain ⟨s₁, ht, rfl⟩ := runStep_transition h
  clear h
  cases ht <;> simp at hc <;> simp_all

/-- A tick in `ASTATE_AWAIT_CONFIRMATION` either times out, with no call, into
`ASTATE_HANDLE_UNCONFIRMED`, or first asks the wallet for the attestation's txid; it queries no
other txid, and keeps it while it stays there. -/
theorem awaitConfirmation_txid (h : s.runStep txHash env = some (s', cs))
    (hs : s.state = .awaitConfirmation) :
    (cs = [] ∧ s'.state = .handleUnconfirmed ∨
      ∃ r rest, cs = .getTransaction s.attestation.txid r :: rest) ∧
    (∀ x r, .getTransaction x r ∈ cs → x = s.attestation.txid) ∧
      (s'.state = .awaitConfirmation → s'.attestation.txid = s.attestation.txid) := by
  obtain ⟨s₁, ht, rfl⟩ := runStep_transition h
  clear h
  cases ht <;> simp_all

/-- A `SendConfirmedHash` announces the root of the attestation the tick leaves in
`ASTATE_NEXT_COMMITMENT`. -/
theorem sendConfirmedHash_mem (h : s.runStep txHash env = some (s', cs)) {x : Hash}
    (hc : .sendConfirmedHash x ∈ cs) :
    s'.state = .nextCommitment ∧ s'.attestation.commitmentHash = x := by
  obtain ⟨s₁, ht, rfl⟩ := runStep_transition h
  clear h
  cases ht <;> simp at hc <;> simp_all

/-- A tick ends in `ASTATE_NEXT_COMMITMENT` by announcing a confirmed hash, or by staying there
with the same attestation. -/
theorem enter_nextCommitment (h : s.runStep txHash env = some (s', cs))
    (hs' : s'.state = .nextCommitment) :
    (∃ x, .sendConfirmedHash x ∈ cs) ∨
      (s.state = .nextCommitment ∧ s'.attestation = s.attestation ∧
        ∀ x, .sendConfirmedHash x ∉ cs) := by
  obtain ⟨s₁, ht, rfl⟩ := runStep_transition h
  clear h
  cases ht <;> simp at hs' <;> simp_all

/-- `SendNewHash` is sent only from `ASTATE_NEXT_COMMITMENT`, for a root other than the current
one, and starts a new attestation with that root. -/
theorem sendNewHash_mem (h : s.runStep txHash env = some (s', cs)) {x : Hash}
    (hc : .sendNewHash x ∈ cs) :
    s.state = .nextCommitment ∧ x ≠ s.attestation.commitmentHash ∧
      s'.state = .newAttestation ∧ s'.attestation.commitmentHash = x := by
  obtain ⟨s₁, ht, rfl⟩ := runStep_transition h
  clear h
  cases ht <;> simp at hc
  -- only `nextNew` sends a new hash
  simp_all

/-- Every tick that ends in `ASTATE_NEW_ATTESTATION` sends a new hash. -/
theorem enter_newAttestation (h : s.runStep txHash env = some (s', cs))
    (hs' : s'.state = .newAttestation) : ∃ x, .sendNewHash x ∈ cs := by
  obtain ⟨s₁, ht, rfl⟩ := runStep_transition h
  clear h
  cases ht <;> simp at hs' <;> simp_all

/-- While an attestation stays in flight its root does not change; it leaves the flight only
through `ASTATE_ERROR` or a confirmation announced to the signers. -/
theorem inFlight_step (h : s.runStep txHash env = some (s', cs)) (hs : s.state.inFlight) :
    (s'.state.inFlight → s'.attestation.commitmentHash = s.attestation.commitmentHash) ∧
      (s'.state.inFlight = false → s'.state = .error ∨ ∃ x, .sendConfirmedHash x ∈ cs) := by
  obtain ⟨s₁, ht, rfl⟩ := runStep_transition h
  clear h
  cases ht <;> simp_all [AttestationState.inFlight]

/-- A `SendConfirmedHash` sent from an attestation in flight announces its root. -/
theorem sendConfirmedHash_inFlight (h : s.runStep txHash env = some (s', cs))
    (hs : s.state.inFlight) {x : Hash} (hc : .sendConfirmedHash x ∈ cs) :
    x = s.attestation.commitmentHash := by
  obtain ⟨s₁, ht, rfl⟩ := runStep_transition h
  clear h
  cases ht <;> simp at hc <;> simp_all [AttestationState.inFlight]

/-- The announcement invariant: in `ASTATE_NEXT_COMMITMENT` the root is the last announced one. -/
def Announced (hist : List Tick) (s : AttestService) : Prop :=
  s.state = .nextCommitment → lastConfirmedHash hist = some s.attestation.commitmentHash

theorem announced_step {hist : List Tick} (h : s.runStep txHash env = some (s', cs))
    (hs : Announced hist s) : Announced (hist ++ [⟨s, cs, s'⟩]) s' := by
  intro hs'
  rw [lastConfirmedHash_append]
  rcases enter_nextCommitment h hs' with ⟨x, hx⟩ | ⟨hn, ha, hno⟩
  · -- every hash announced in the tick is the root it ends with
    have hne : cs.filterMap Call.confirmedHash? ≠ [] :=
      List.ne_nil_of_mem (List.mem_filterMap.2 ⟨_, hx, rfl⟩)
    obtain ⟨c, hc, hcx⟩ := List.mem_filterMap.1 (List.getLast_mem hne)
    simp only [Call.confirmedHash?_eq_some] at hcx
    rw [List.getLast?_eq_getLast _ hne, Option.or_some, (sendConfirmedHash_mem h (hcx ▸ hc)).2]
  · have : cs.filterMap Call.confirmedHash? = [] :=
      List.filterMap_eq_nil_iff.2 fun c hc => by
        cases c <;> simp_all [Call.confirmedHash?]
    simpa [this, ha] using hs hn

/-! ## Runs from the initial state -/

variable {config : Config} {s₀ : AttestService} {envs : List Env} {pre post : List Tick} {t : Tick}

theorem newAttestService_startRun_state (h₀ : newAttestService config = some s₀) :
    s₀.startRun.state = .init := by
  unfold newAttestService at h₀
  split at h₀
  · cases h₀
  · cases h₀; rfl

theorem unsent_init (hs : s.state = .init) : Unsent txHash s :=
  ⟨by simp [hs, AttestationState.inFlight], by simp [hs]⟩

/-- Before every tick of a run from `ASTATE_INIT` the store-before-send invariant holds. -/
theorem unsent_run (hs : s.state = .init) (h : run txHash s envs = pre ++ t :: post) :
    Unsent txHash t.pre :=
  run_inv (fun _ s => Unsent txHash s) (fun _ _ _ hi he => unsent_step he hi) envs [] s
    (unsent_init hs) pre t post h

/-- The tick before a tick that starts in `ASTATE_SEND_ATTESTATION` stored the attestation it
sends, signed and unconfirmed. -/
theorem sendAttestation_stored (hs : s.state = .init) (h : run txHash s envs = pre ++ t :: post)
    (ht : t.pre.state = .sendAttestation) :
    ∃ pre' t₁, pre = pre' ++ [t₁] ∧ t₁.post = t.pre ∧ t₁.pre.state = .preSendStore ∧
      t₁.calls = [.updateLatestAttestation t₁.pre.attestation none] ∧
      t₁.pre.attestation = t.pre.attestation ∧
      t₁.pre.attestation.txid = txHash t₁.pre.attestation.tx ∧
      t₁.pre.attestation.confirmed = false := by
  obtain ⟨pre', t₁, rfl, h₁, h'⟩ := run_prev h (fun he => by simp [he, hs] at ht)
  obtain ⟨env, he⟩ := run_step (h' ▸ List.mem_append_right pre' (List.mem_cons_self t₁ _))
  obtain ⟨hp, hc, ha⟩ := enter_sendAttestation he (h₁ ▸ ht)
  have hu := unsent_run hs (show run txHash s envs = pre' ++ t₁ :: t :: post from h')
  exact ⟨pre', t₁, rfl, h₁, hp, hc, h₁ ▸ ha.symm, hu.signed (.inl hp),
    hu.unconfirmed (by simp [hp, AttestationState.inFlight])⟩

/-- The two ticks before a tick that starts in `ASTATE_SEND_ATTESTATION` started in
`ASTATE_SIGN_ATTESTATION` and `ASTATE_PRE_SEND_STORE`. -/
theorem sendAttestation_signed (hs : s.state = .init) (h : run txHash s envs = pre ++ t :: post)
    (ht : t.pre.state = .sendAttestation) :
    ∃ pre' t₀ t₁, pre = pre' ++ [t₀, t₁] ∧ t₀.pre.state = .signAttestation ∧
      t₁.pre.state = .preSendStore := by
  obtain ⟨pre₁, t₁, rfl, -, hp, -⟩ := sendAttestation_stored hs h ht
  have h₁ : run txHash s envs = pre₁ ++ t₁ :: t :: post := by simpa using h
  obtain ⟨pre', t₀, rfl, h₀, h'⟩ := run_prev h₁ (fun he => by simp [he, hs] at hp)
  obtain ⟨env, he⟩ := run_step (h' ▸ List.mem_append_right pre' (List.mem_cons_self t₀ _))
  exact ⟨pre', t₀, t₁, by simp, enter_preSendStore he (h₀ ▸ hp), hp⟩

/-- After a broadcast, each tick in `ASTATE_AWAIT_CONFIRMATION` either times out with no call
or asks the wallet for the txid the broadcast returned, and for no other. -/
theorem awaitConfirmation_queries {tx : MsgTx} {x : Hash} {mid post' : List Tick} {t₂ : Tick}
    (h : run txHash s envs = pre ++ t :: post) (hc : .sendAttestation tx (x, none) ∈ t.calls)
    (hpost : post = mid ++ t₂ :: post')
    (hawait : ∀ m ∈ mid ++ [t₂], m.pre.state = .awaitConfirmation) :
    (t₂.calls = [] ∧ t₂.post.state = .handleUnconfirmed ∨
      ∃ r rest, t₂.calls = .getTransaction x r :: rest) ∧
    ∀ y r, .getTransaction y r ∈ t₂.calls → y = x := by
  obtain ⟨env, he⟩ := run_step (h ▸ List.mem_append_right pre (List.mem_cons_self t post))
  obtain ⟨-, -, hsent⟩ := sendAttestation_mem he hc
  have hx := run_segment (fun s => s.state = .awaitConfirmation → s.attestation.txid = x)
    (by simpa [hpost] using h) (fun _ => (hsent rfl).2) (fun m hm hP hm' => by
      obtain ⟨env, he⟩ := run_step (h ▸ List.mem_append_right pre
        (List.mem_cons_of_mem t (hpost ▸ List.mem_append_left _ hm)))
      have hpre := hawait m (List.mem_append_left _ hm)
      exact (awaitConfirmation_txid he hpre).2.2 hm' ▸ hP hpre)
  obtain ⟨env, he⟩ := run_step (h ▸ List.mem_append_right pre
    (List.mem_cons_of_mem t (hpost ▸ List.mem_append_right mid (List.mem_cons_self t₂ post'))))
  have hpre := hawait t₂ (by simp)
  obtain ⟨hq, hy, -⟩ := awaitConfirmation_txid he hpre
  rw [hx hpre] at hq hy
  exact ⟨hq, hy⟩

/-- Every state a run from `ASTATE_INIT` reaches satisfies the announcement invariant. -/
theorem announced_run (hs : s.state = .init) (h : run txHash s envs = pre ++ t :: post) :
    Announced pre t.pre ∧ Announced (pre ++ [t]) t.post :=
  have hstep : ∀ hist (t : Tick) env, Announced hist t.pre →
      t.pre.runStep txHash env = some (t.post, t.calls) → Announced (hist ++ [t]) t.post :=
    fun _ _ _ hi he => announced_step he hi
  have h₀ : Announced [] s := fun hn => by simp [hs] at hn
  ⟨by simpa using run_inv Announced hstep envs [] s h₀ pre t post h,
    by simpa using run_inv_post Announced hstep h₀ h⟩

/-- The root of a new attestation stays in place while it is in flight, and leaves the flight
only by a reset or by the announcement of that same root. -/
theorem sendNewHash_inFlight {x : Hash} {mid post' : List Tick} {t₂ : Tick}
    (h : run txHash s envs = pre ++ t :: post) (hc : .sendNewHash x ∈ t.calls)
    (hpost : post = mid ++ t₂ :: post') (hmid : ∀ m ∈ mid, m.post.state.inFlight) :
    t₂.pre.attestation.commitmentHash = x ∧ (∀ y, .sendConfirmedHash y ∈ t₂.calls → y = x) ∧
      (t₂.post.state.inFlight = false →
        t₂.post.state = .error ∨ ∃ y, .sendConfirmedHash y ∈ t₂.calls) := by
  have hmem : ∀ m ∈ t :: post, ∃ env, m.pre.runStep txHash env = some (m.post, m.calls) :=
    fun m hm => run_step (h ▸ List.mem_append_right pre hm)
  obtain ⟨env, he⟩ := hmem t (List.mem_cons_self t post)
  obtain ⟨-, -, hnew, hroot⟩ := sendNewHash_mem he hc
  have hP := run_segment (fun s => s.state.inFlight ∧ s.attestation.commitmentHash = x)
    (by simpa [hpost] using h) ⟨by simp [hnew, AttestationState.inFlight], hroot⟩
    (fun m hm hP => by
      obtain ⟨env, he⟩ := hmem m (List.mem_cons_of_mem t (hpost ▸ List.mem_append_left _ hm))
      exact ⟨hmid m hm, (inFlight_step he hP.1).1 (hmid m hm) ▸ hP.2⟩)
  obtain ⟨env, he⟩ := hmem t₂ (by simp [hpost])
  exact ⟨hP.2, fun y hy => hP.2 ▸ sendConfirmedHash_inFlight he hP.1 hy,
    (inFlight_step he hP.1).2⟩

/-! ## The store-before-send discipline -/

theorem sendAttestation_after_preSendStore (h₀ : newAttestService config = some s₀)
    (h : run txHash s₀.startRun envs = pre ++ t :: post) :
    (∀ tx r, .sendAttestation tx r ∈ t.calls →
      t.pre.state = .sendAttestation ∧
      ∃ pre' t₁, pre = pre' ++ [t₁] ∧ t₁.post = t.pre ∧ t₁.pre.state = .preSendStore ∧
        t₁.calls = [.updateLatestAttestation t₁.pre.attestation none] ∧
        t₁.pre.attestation.tx = tx ∧ t₁.pre.attestation.txid = txHash tx ∧
        t₁.pre.attestation.confirmed = false ∧
        t₁.pre.attestation.commitmentHash = t.pre.attestation.commitmentHash) ∧
    (∀ tx, .sendAttestation tx (txHash tx, none) ∈ t.calls →
      ∀ mid t₂ post', post = mid ++ t₂ :: post' →
        (∀ m ∈ mid ++ [t₂], m.pre.state = .awaitConfirmation) →
        (t₂.calls = [] ∧ t₂.post.state = .handleUnconfirmed ∨
          ∃ r rest, t₂.calls = .getTransaction (txHash tx) r :: rest) ∧
        ∀ x r, .getTransaction x r ∈ t₂.calls → x = txHash tx) ∧
    (t.pre.state = .sendAttestation →
      ∃ pre' t₀ t₁, pre = pre' ++ [t₀, t₁] ∧ t₀.pre.state = .signAttestation ∧
        t₁.pre.state = .preSendStore) := by
  have hs := newAttestService_startRun_state h₀
  refine ⟨fun tx r hc => ?_, fun tx hc mid t₂ post' hpost hawait =>
    awaitConfirmation_queries h hc hpost hawait, sendAttestation_signed hs h⟩
  obtain ⟨env, he⟩ := run_step (h ▸ List.mem_append_right pre (List.mem_cons_self t post))
  obtain ⟨hsend, rfl, -⟩ := sendAttestation_mem he hc
  obtain ⟨pre', t₁, hpre, h₁, hp, hcalls, ha, htxid, hconf⟩ := sendAttestation_stored hs h hsend
  exact ⟨hsend, pre', t₁, hpre, h₁, hp, hcalls, by rw [ha], by rw [htxid, ha], hconf, by rw [ha]⟩

/-- Collaborators that all succeed: the wallet's last unspent is the funding transaction `01`,
which no attestation spent, the client commitment has root 5, and the wallet never confirms. -/
def happyEnv : Env where
  now := 0
  getUnconfirmedTx := (false, 0, none)
  findLastUnspent := (true, ⟨"01", 0⟩, none)
  findTopupUnspent := (false, ⟨"", 0⟩, none)
  getRawTransaction := (some ⟨[1]⟩, none)
  getTransaction := (some ⟨"", 0⟩, none)
  getNextAttestationKey := none
  getNextAttestationAddr := (some ⟨"addr"⟩, none)
  importAttestationAddr := none
  createAttestation := (some ⟨[2]⟩, none)
  signAttestation := (some ⟨[3, 3]⟩, none)
  sendAttestation := (2, none)
  bumpAttestationFees := (⟨[4]⟩, none)
  getAttestationCommitment := fun _ => (⟨[], [], 0⟩, none)
  getClientCommitment := (⟨[5], [], 5⟩, none)
  getLatestAttestationCommitmentHash := (0, none)
  updateLatestAttestation := fun _ => none

/-- A transaction hash for tests: the length of the serialization. -/
def lengthHash (tx : MsgTx) : Hash := BitVec.ofNat 256 tx.bytes.length

/-- The state `NewAttestService` builds from the funding transaction `01` and default timings. -/
def happyStart : AttestService :=
  ⟨.init, newAttestationDefault, none, false, 60 * minute, 60 * minute, 0, 0⟩

/-- Six ticks with `happyEnv` go from `ASTATE_INIT` to the broadcast, which follows the store of
the signed transaction. -/
theorem sendAttestation_after_preSendStore_happy :
    newAttestService ⟨"01", 0, 0, false⟩ = some happyStart ∧
      ∃ pre t, run lengthHash happyStart.startRun (List.replicate 6 happyEnv) = pre ++ [t] ∧
        .sendAttestation ⟨[3, 3]⟩ (2, none) ∈ t.calls ∧
        ∃ pre' t₁, pre = pre' ++ [t₁] ∧ t₁.pre.state = .preSendStore ∧
          t₁.pre.attestation.txid = lengthHash ⟨[3, 3]⟩ ∧ t₁.pre.attestation.confirmed = false := by
  have h₀ : newAttestService ⟨"01", 0, 0, false⟩ = some happyStart := by decide
  obtain ⟨t₀, t₁, t₂, t₃, t₄, t, h, hc⟩ : ∃ t₀ t₁ t₂ t₃ t₄ t,
      run lengthHash happyStart.startRun (List.replicate 6 happyEnv) = [t₀, t₁, t₂, t₃, t₄] ++ [t] ∧
        Call.sendAttestation ⟨[3, 3]⟩ (2, none) ∈ t.calls := ⟨_, _, _, _, _, _, rfl, by decide⟩
  obtain ⟨-, pre', t₁, hpre, -, hp, -, -, htxid, hconf, -⟩ :=
    (sendAttestation_after_preSendStore h₀ h).1 _ _ hc
  exact ⟨h₀, _, _, h, hc, pre', t₁, hpre, hp, htxid, hconf⟩

/-! ## The announcement discipline -/

theorem sendNewHash_differs_from_confirmed (h₀ : newAttestService config = some s₀)
    (h : run txHash s₀.startRun envs = pre ++ t :: post) :
    (t.post.state = .nextCommitment →
      lastConfirmedHash (pre ++ [t]) = some t.post.attestation.commitmentHash) ∧
    (t.post.state = .newAttestation → ∃ x, .sendNewHash x ∈ t.calls) ∧
    ∀ x, .sendNewHash x ∈ t.calls →
      (∃ c, lastConfirmedHash pre = some c ∧ x ≠ c) ∧
      t.post.state = .newAttestation ∧ t.post.attestation.commitmentHash = x ∧
      ∀ mid t₂ post', post = mid ++ t₂ :: post' → (∀ m ∈ mid, m.post.state.inFlight) →
        t₂.pre.attestation.commitmentHash = x ∧
        (∀ y, .sendConfirmedHash y ∈ t₂.calls → y = x) ∧
        (t₂.post.state.inFlight = false →
          t₂.post.state = .error ∨ ∃ y, .sendConfirmedHash y ∈ t₂.calls) := by
  obtain ⟨hpre, hpost⟩ := announced_run (newAttestService_startRun_state h₀) h
  obtain ⟨env, he⟩ := run_step (h ▸ List.mem_append_right pre (List.mem_cons_self t post))
  refine ⟨hpost, enter_newAttestation he, fun x hc => ?_⟩
  obtain ⟨hn, hne, hnew, hroot⟩ := sendNewHash_mem he hc
  exact ⟨⟨_, hpre hn, hne⟩, hnew, hroot, fun mid t₂ post' hp hmid => sendNewHash_inFlight h hc hp hmid⟩

/-- Two ticks with `happyEnv`: the fresh staychain announces the zero root, then the client
commitment's root 5 is sent as a new hash. -/
theorem sendNewHash_differs_from_confirmed_happy :
    newAttestService ⟨"01", 0, 0, false⟩ = some happyStart ∧
      ∃ t₀ t, run lengthHash happyStart.startRun (List.replicate 2 happyEnv) = [t₀] ++ [t] ∧
        .sendNewHash 5 ∈ t.calls ∧ (∃ c, lastConfirmedHash [t₀] = some c ∧ 5 ≠ c) ∧
        t.post.attestation.commitmentHash = 5 := by
  have h₀ : newAttestService ⟨"01", 0, 0, false⟩ = some happyStart := by decide
  obtain ⟨t₀, t, h, hc⟩ : ∃ t₀ t, run lengthHash happyStart.startRun (List.replicate 2 happyEnv) =
      [t₀] ++ [t] ∧ Call.sendNewHash 5 ∈ t.calls := ⟨_, _, rfl, by decide⟩
  obtain ⟨hlast, -, hroot, -⟩ := (sendNewHash_differs_from_confirmed h₀ h).2.2 5 hc
  exact ⟨h₀, t₀, t, h, hc, hlast, hroot⟩

end AttestService

end Mainstay
