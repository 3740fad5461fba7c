import Mainstay.Attestation.Service

/-!
# Steps — the transitions of the driver

`Transition txHash env s s' cs` lists every way a tick of `doAttestation` can end without a
panic: one constructor per exit of a handler, with the answers of the collaborators that lead
there, the next state and the calls made. `doAttestation_transition` shows that the code takes
only these transitions; every invariant of the driver is then a case analysis on this relation,
and never unfolds the handlers again.

In all transitions the tick first resets the delay to `ATIME_FIXED`: `tickStart s`.
-/

namespace Mainstay

open Attestation

namespace AttestService

/-- The attestation `stateInitUnspent` builds for a confirmed tip of the staychain. -/
def confirmedTip (txid : Hash) (c : Commitment) (rawTx : MsgTx) (walletTx : GetTransactionResult) :
    Attestation :=
  ({ newAttestation txid c with confirmed := true, tx := rawTx }).updateInfo walletTx

/-- The attestation `doStateAwaitConfirmation` stores once its transaction is in a block. -/
def confirmedInBlock (a : Attestation) (walletTx : GetTransactionResult) : Attestation :=
  ({ a with confirmed := true }).updateInfo walletTx

@[simp] theorem setFailure_state (s : AttestService) (e : Error) : (s.setFailure e).state = .error :=
  rfl

@[simp] theorem setFailure_attestation (s : AttestService) (e : Error) :
    (s.setFailure e).attestation = s.attestation := rfl

@[simp] theorem setFailure_errorState (s : AttestService) (e : Error) :
    (s.setFailure e).errorState = some e := rfl

@[simp] theorem setFailure_isRegtest (s : AttestService) (e : Error) :
    (s.setFailure e).isRegtest = s.isRegtest := rfl

@[simp] theorem setFailure_atimeNewAttestation (s : AttestService) (e : Error) :
    (s.setFailure e).atimeNewAttestation = s.atimeNewAttestation := rfl

@[simp] theorem setFailure_atimeHandleUnconfirmed (s : AttestService) (e : Error) :
    (s.setFailure e).atimeHandleUnconfirmed = s.atimeHandleUnconfirmed := rfl

@[simp] theorem setFailure_attestDelay (s : AttestService) (e : Error) :
    (s.setFailure e).attestDelay = s.attestDelay := rfl

@[simp] theorem tickStart_state (s : AttestService) : (tickStart s).state = s.state := rfl

@[simp] theorem tickStart_attestation (s : AttestService) :
    (tickStart s).attestation = s.attestation := rfl

@[simp] theorem tickStart_isRegtest (s : AttestService) : (tickStart s).isRegtest = s.isRegtest :=
  rfl

@[simp] theorem tickStart_atimeNewAttestation (s : AttestService) :
    (tickStart s).atimeNewAttestation = s.atimeNewAttestation := rfl

@[simp] theorem tickStart_atimeHandleUnconfirmed (s : AttestService) :
    (tickStart s).atimeHandleUnconfirmed = s.atimeHandleUnconfirmed := rfl

@[simp] theorem tickStart_attestDelay (s : AttestService) :
    (tickStart s).attestDelay = atimeFixed := rfl

@[simp] theorem tickStart_confirmTime (s : AttestService) :
    (tickStart s).confirmTime = s.confirmTime := rfl

@[simp] theorem confirmedTip_commitmentHash (txid : Hash) (c : Commitment) (rawTx : MsgTx)
    (walletTx : GetTransactionResult) :
    (confirmedTip txid c rawTx walletTx).commitmentHash = c.merkleRoot := rfl

@[simp] theorem confirmedInBlock_commitmentHash (a : Attestation) (walletTx : GetTransactionResult) :
    (confirmedInBlock a walletTx).commitmentHash = a.commitmentHash := rfl

@[simp] theorem confirmedInBlock_txid (a : Attestation) (walletTx : GetTransactionResult) :
    (confirmedInBlock a walletTx).txid = a.txid := rfl

@[simp] theorem confirmedTip_confirmed (txid : Hash) (c : Commitment) (rawTx : MsgTx)
    (walletTx : GetTransactionResult) : (confirmedTip txid c rawTx walletTx).confirmed = true := rfl

@[simp] theorem confirmedInBlock_confirmed (a : Attestation) (walletTx : GetTransactionResult) :
    (confirmedInBlock a walletTx).confirmed = true := rfl

/-! ## The transition relation -/

/-- The exits of `doAttestation` that do not panic. -/
inductive Transition (txHash : MsgTx → Hash) (env : Env) (s : AttestService) :
    AttestService → List Call → Prop
  /- `ASTATE_ERROR` -/
  | error (hs : s.state = .error) :
      Transition txHash env s { tickStart s with state := .init } []
  /- `ASTATE_INIT` -/
  | initUnconfirmedTxFailed (hs : s.state = .init) (b : Bool) (txid : Hash) (e : Error)
      (hu : env.getUnconfirmedTx = (b, txid, some e)) :
      Transition txHash env s ((tickStart s).setFailure e) [.getUnconfirmedTx env.getUnconfirmedTx]
  | initUnconfirmedCommitmentFailed (hs : s.state = .init) (txid : Hash) (c : Commitment)
      (e : Error) (hu : env.getUnconfirmedTx = (true, txid, none))
      (hc : env.getAttestationCommitment txid = (c, some e)) :
      Transition txHash env s ((tickStart s).setFailure e)
        [.getUnconfirmedTx env.getUnconfirmedTx, .getAttestationCommitment txid (c, some e)]
  | initUnconfirmed (hs : s.state = .init) (txid : Hash) (c : Commitment) (rawTx : MsgTx)
      (hu : env.getUnconfirmedTx = (true, txid, none))
      (hc : env.getAttestationCommitment txid = (c, none))
      (hr : env.getRawTransaction.1 = some rawTx) :
      Transition txHash env s
        { tickStart s with
          attestation := { newAttestation txid c with tx := rawTx }
          state := .awaitConfirmation
          confirmTime := env.now }
        [.getUnconfirmedTx env.getUnconfirmedTx, .getAttestationCommitment txid (c, none),
          .getRawTransaction txid env.getRawTransaction]
  | initLastUnspentFailed (hs : s.state = .init) (txid : Hash) (b : Bool)
      (unspent : ListUnspentResult) (e : Error)
      (hu : env.getUnconfirmedTx = (false, txid, none))
      (hl : env.findLastUnspent = (b, unspent, some e)) :
      Transition txHash env s ((tickStart s).setFailure e)
        [.getUnconfirmedTx env.getUnconfirmedTx, .findLastUnspent env.findLastUnspent]
  | initWalletFailure (hs : s.state = .init) (txid : Hash) (unspent : ListUnspentResult)
      (hu : env.getUnconfirmedTx = (false, txid, none))
      (hl : env.findLastUnspent = (false, unspent, none)) :
      Transition txHash env s { tickStart s with state := .init }
        [.getUnconfirmedTx env.getUnconfirmedTx, .findLastUnspent env.findLastUnspent]
  | initUnspentCommitmentFailed (hs : s.state = .init) (txid : Hash)
      (unspent : ListUnspentResult) (utxid : Hash) (c : Commitment) (e : Error)
      (hu : env.getUnconfirmedTx = (false, txid, none))
      (hl : env.findLastUnspent = (true, unspent, none))
      (hp : newHashFromStr unspent.txID = .ok utxid)
      (hc : env.getAttestationCommitment utxid = (c, some e)) :
      Transition txHash env s ((tickStart s).setFailure e)
        [.getUnconfirmedTx env.getUnconfirmedTx, .findLastUnspent env.findLastUnspent,
          .getAttestationCommitment utxid (c, some e)]
  | initUnspentUpdateFailed (hs : s.state = .init) (txid : Hash)
      (unspent : ListUnspentResult) (utxid : Hash) (c : Commitment) (rawTx : MsgTx)
      (walletTx : GetTransactionResult) (e : Error)
      (hu : env.getUnconfirmedTx = (false, txid, none))
      (hl : env.findLastUnspent = (true, unspent, none))
      (hp : newHashFromStr unspent.txID = .ok utxid)
      (hc : env.getAttestationCommitment utxid = (c, none)) (hc0 : c.getCommitmentHash ≠ 0)
      (hr : env.getRawTransaction.1 = some rawTx) (hw : env.getTransaction.1 = some walletTx)
      (he : env.updateLatestAttestation (confirmedTip utxid c rawTx walletTx) = some e) :
      Transition txHash env s
        ({ tickStart s with attestation := confirmedTip utxid c rawTx walletTx }.setFailure e)
        [.getUnconfirmedTx env.getUnconfirmedTx, .findLastUnspent env.findLastUnspent,
          .getAttestationCommitment utxid (c, none), .getRawTransaction utxid env.getRawTransaction,
          .getTransaction utxid env.getTransaction,
          .updateLatestAttestation (confirmedTip utxid c rawTx walletTx)
            (env.updateLatestAttestation (confirmedTip utxid c rawTx walletTx))]
  | initConfirmedTip (hs : s.state = .init) (txid : Hash)
      (unspent : ListUnspentResult) (utxid : Hash) (c : Commitment) (rawTx : MsgTx)
      (walletTx : GetTransactionResult)
      (hu : env.getUnconfirmedTx = (false, txid, none))
      (hl : env.findLastUnspent = (true, unspent, none))
      (hp : newHashFromStr unspent.txID = .ok utxid)
      (hc : env.getAttestationCommitment utxid = (c, none)) (hc0 : c.getCommitmentHash ≠ 0)
      (hr : env.getRawTransaction.1 = some rawTx) (hw : env.getTransaction.1 = some walletTx)
      (hup : env.updateLatestAttestation (confirmedTip utxid c rawTx walletTx) = none) :
      Transition txHash env s
        { tickStart s with
          attestation := confirmedTip utxid c rawTx walletTx
          state := .nextCommitment }
        [.getUnconfirmedTx env.getUnconfirmedTx, .findLastUnspent env.findLastUnspent,
          .getAttestationCommitment utxid (c, none), .getRawTransaction utxid env.getRawTransaction,
          .getTransaction utxid env.getTransaction,
          .updateLatestAttestation (confirmedTip utxid c rawTx walletTx)
            (env.updateLatestAttestation (confirmedTip utxid c rawTx walletTx)),
          .sendConfirmedHash c.merkleRoot]
  | initFreshStaychain (hs : s.state = .init) (txid : Hash)
      (unspent : ListUnspentResult) (utxid : Hash) (c : Commitment)
      (hu : env.getUnconfirmedTx = (false, txid, none))
      (hl : env.findLastUnspent = (true, unspent, none))
      (hp : newHashFromStr unspent.txID = .ok utxid)
      (hc : env.getAttestationCommitment utxid = (c, none)) (hc0 : c.getCommitmentHash = 0) :
      Transition txHash env s
        { tickStart s with attestation := newAttestationDefault, state := .nextCommitment }
        [.getUnconfirmedTx env.getUnconfirmedTx, .findLastUnspent env.findLastUnspent,
          .getAttestationCommitment utxid (c, none), .sendConfirmedHash 0]
  /- `ASTATE_NEXT_COMMITMENT` -/
  | nextFailed (hs : s.state = .nextCommitment) (c : Commitment) (e : Error)
      (hc : env.getClientCommitment = (c, some e)) :
      Transition txHash env s ((tickStart s).setFailure e)
        [.getClientCommitment env.getClientCommitment]
  | nextAttested (hs : s.state = .nextCommitment) (c : Commitment)
      (hc : env.getClientCommitment = (c, none))
      (hh : c.getCommitmentHash = s.attestation.commitmentHash) :
      Transition txHash env s { s with attestDelay := s.atimeNewAttestation }
        [.getClientCommitment env.getClientCommitment]
  | nextNew (hs : s.state = .nextCommitment) (c : Commitment)
      (hc : env.getClientCommitment = (c, none))
      (hh : c.getCommitmentHash ≠ s.attestation.commitmentHash) :
      Transition txHash env s
        { tickStart s with
          attestation := newAttestationDefault.setCommitment c
          state := .newAttestation }
        [.getClientCommitment env.getClientCommitment, .sendNewHash c.merkleRoot]
  /- `ASTATE_NEW_ATTESTATION` -/
  | newKeyFailed (hs : s.state = .newAttestation) (e : Error)
      (hk : env.getNextAttestationKey = some e) :
      Transition txHash env s ((tickStart s).setFailure e)
        [.getNextAttestationKey s.attestation.commitmentHash env.getNextAttestationKey]
  | newImportFailed (hs : s.state = .newAttestation) (addr : Address) (e : Error)
      (hk : env.getNextAttestationKey = none) (ha : env.getNextAttestationAddr.1 = some addr)
      (hi : env.importAttestationAddr = some e) :
      Transition txHash env s ((tickStart s).setFailure e)
        [.getNextAttestationKey s.attestation.commitmentHash env.getNextAttestationKey,
          .getNextAttestationAddr s.attestation.commitmentHash env.getNextAttestationAddr,
          .importAttestationAddr addr env.importAttestationAddr]
  | newLastUnspentFailed (hs : s.state = .newAttestation) (addr : Address) (b : Bool)
      (unspent : ListUnspentResult) (e : Error)
      (hk : env.getNextAttestationKey = none) (ha : env.getNextAttestationAddr.1 = some addr)
      (hi : env.importAttestationAddr = none) (hl : env.findLastUnspent = (b, unspent, some e)) :
      Transition txHash env s ((tickStart s).setFailure e)
        [.getNextAttestationKey s.attestation.commitmentHash env.getNextAttestationKey,
          .getNextAttestationAddr s.attestation.commitmentHash env.getNextAttestationAddr,
          .importAttestationAddr addr env.importAttestationAddr,
          .findLastUnspent env.findLastUnspent]
  | newUnspentNotFound (hs : s.state = .newAttestation) (addr : Address)
      (unspent : ListUnspentResult)
      (hk : env.getNextAttestationKey = none) (ha : env.getNextAttestationAddr.1 = some addr)
      (hi : env.importAttestationAddr = none) (hl : env.findLastUnspent = (false, unspent, none)) :
      Transition txHash env s ((tickStart s).setFailure errorUnspentNotFound)
        [.getNextAttestationKey s.attestation.commitmentHash env.getNextAttestationKey,
          .getNextAttestationAddr s.attestation.commitmentHash env.getNextAttestationAddr,
          .importAttestationAddr addr env.importAttestationAddr,
          .findLastUnspent env.findLastUnspent]
  | newTopupFailed (hs : s.state = .newAttestation) (addr : Address)
      (unspent : ListUnspentResult) (b : Bool) (topup : ListUnspentResult) (e : Error)
      (hk : env.getNextAttestationKey = none) (ha : env.getNextAttestationAddr.1 = some addr)
      (hi : env.importAttestationAddr = none) (hl : env.findLastUnspent = (true, unspent, none))
      (ht : env.findTopupUnspent = (b, topup, some e)) :
      Transition txHash env s ((tickStart s).setFailure e)
        [.getNextAttestationKey s.attestation.commitmentHash env.getNextAttestationKey,
          .getNextAttestationAddr s.attestation.commitmentHash env.getNextAttestationAddr,
          .importAttestationAddr addr env.importAttestationAddr,
          .findLastUnspent env.findLastUnspent, .findTopupUnspent env.findTopupUnspent]
  | newCreateFailed (hs : s.state = .newAttestation) (addr : Address)
      (unspent : ListUnspentResult) (topupFound : Bool) (topup : ListUnspentResult)
      (tx : Option MsgTx) (e : Error)
      (hk : env.getNextAttestationKey = none) (ha : env.getNextAttestationAddr.1 = some addr)
      (hi : env.importAttestationAddr = none) (hl : env.findLastUnspent = (true, unspent, none))
      (ht : env.findTopupUnspent = (topupFound, topup, none))
      (hc : env.createAttestation = (tx, some e)) :
      Transition txHash env s ((tickStart s).setFailure e)
        [.getNextAttestationKey s.attestation.commitmentHash env.getNextAttestationKey,
          .getNextAttestationAddr s.attestation.commitmentHash env.getNextAttestationAddr,
          .importAttestationAddr addr env.importAttestationAddr,
          .findLastUnspent env.findLastUnspent, .findTopupUnspent env.findTopupUnspent,
          .createAttestation addr (bif topupFound then [unspent, topup] else [unspent])
            env.createAttestation]
  | newCreated (hs : s.state = .newAttestation) (addr : Address)
      (unspent : ListUnspentResult) (topupFound : Bool) (topup : ListUnspentResult)
      (newTx : MsgTx)
      (hk : env.getNextAttestationKey = none) (ha : env.getNextAttestationAddr.1 = some addr)
      (hi : env.importAttestationAddr = none) (hl : env.findLastUnspent = (true, unspent, none))
      (ht : env.findTopupUnspent = (topupFound, topup, none))
      (hc : env.createAttestation = (some newTx, none)) :
      Transition txHash env s
        { s with
          attestation := { s.attestation with tx := newTx }
          state := .signAttestation
          attestDelay := atimeSigs }
        [.getNextAttestationKey s.attestation.commitmentHash env.getNextAttestationKey,
          .getNextAttestationAddr s.attestation.commitmentHash env.getNextAttestationAddr,
          .importAttestationAddr addr env.importAttestationAddr,
          .findLastUnspent env.findLastUnspent, .findTopupUnspent env.findTopupUnspent,
          .createAttestation addr (bif topupFound then [unspent, topup] else [unspent])
            env.createAttestation,
          .sendNewTx newTx.serialize]
  /- `ASTATE_SIGN_ATTESTATION` -/
  | signLatestFailed (hs : s.state = .signAttestation) (h : Hash) (e : Error)
      (hl : env.getLatestAttestationCommitmentHash = (h, some e)) :
      Transition txHash env s ((tickStart s).setFailure e)
        [.getSigs, .getLatestAttestationCommitmentHash env.getLatestAttestationCommitmentHash]
  | signFailed (hs : s.state = .signAttestation) (h : Hash) (tx : Option MsgTx) (e : Error)
      (hl : env.getLatestAttestationCommitmentHash = (h, none))
      (hg : env.signAttestation = (tx, some e)) :
      Transition txHash env s ((tickStart s).setFailure e)
        [.getSigs, .getLatestAttestationCommitmentHash env.getLatestAttestationCommitmentHash,
          .signAttestation s.attestation.tx h env.signAttestation]
  | signed (hs : s.state = .signAttestation) (h : Hash) (signedTx : MsgTx)
      (hl : env.getLatestAttestationCommitmentHash = (h, none))
      (hg : env.signAttestation = (some signedTx, none)) :
      Transition txHash env s
        { tickStart s with
          attestation := { s.attestation with tx := signedTx, txid := txHash signedTx }
          state := .preSendStore }
        [.getSigs, .getLatestAttestationCommitmentHash env.getLatestAttestationCommitmentHash,
          .signAttestation s.attestation.tx h env.signAttestation]
  /- `ASTATE_PRE_SEND_STORE` -/
  | preSendStoreFailed (hs : s.state = .preSendStore) (e : Error)
      (hu : env.updateLatestAttestation s.attestation = some e) :
      Transition txHash env s ((tickStart s).setFailure e)
        [.updateLatestAttestation s.attestation (env.updateLatestAttestation s.attestation)]
  | preSendStored (hs : s.state = .preSendStore)
      (hu : env.updateLatestAttestation s.attestation = none) :
      Transition txHash env s { tickStart s with state := .sendAttestation }
        [.updateLatestAttestation s.attestation (env.updateLatestAttestation s.attestation)]
  /- `ASTATE_SEND_ATTESTATION` -/
  | sendFailed (hs : s.state = .sendAttestation) (txid : Hash) (e : Error)
      (hd : env.sendAttestation = (txid, some e)) :
      Transition txHash env s ((tickStart s).setFailure e)
        [.sendAttestation s.attestation.tx env.sendAttestation]
  | sent (hs : s.state = .sendAttestation) (txid : Hash)
      (hd : env.sendAttestation = (txid, none)) :
      Transition txHash env s
        { s with
          attestation := { s.attestation with txid := txid }
          state := .awaitConfirmation
          attestDelay := atimeConfirmation
          confirmTime := env.now }
        [.sendAttestation s.attestation.tx env.sendAttestation]
  /- `ASTATE_AWAIT_CONFIRMATION` -/
  | awaitTimeout (hs : s.state = .awaitConfirmation)
      (ht : s.atimeHandleUnconfirmed < since env.now s.confirmTime) :
      Transition txHash env s { tickStart s with state := .handleUnconfirmed } []
  | awaitFailed (hs : s.state = .awaitConfirmation)
      (ht : ¬ s.atimeHandleUnconfirmed < since env.now s.confirmTime)
      (tx : Option GetTransactionResult) (e : Error) (hg : env.getTransaction = (tx, some e)) :
      Transition txHash env s ((tickStart s).setFailure e)
        [.getTransaction s.attestation.txid env.getTransaction]
  | awaitUpdateFailed (hs : s.state = .awaitConfirmation)
      (ht : ¬ s.atimeHandleUnconfirmed < since env.now s.confirmTime)
      (walletTx : GetTransactionResult) (e : Error)
      (hg : env.getTransaction = (some walletTx, none)) (hb : walletTx.blockHash ≠ "")
      (hu : env.updateLatestAttestation (confirmedInBlock s.attestation walletTx) = some e) :
      Transition txHash env s
        ({ tickStart s with attestation := confirmedInBlock s.attestation walletTx }.setFailure e)
        [.getTransaction s.attestation.txid env.getTransaction,
          .updateLatestAttestation (confirmedInBlock s.attestation walletTx)
            (env.updateLatestAttestation (confirmedInBlock s.attestation walletTx))]
  | awaitConfirmed (hs : s.state = .awaitConfirmation)
      (ht : ¬ s.atimeHandleUnconfirmed < since env.now s.confirmTime)
      (walletTx : GetTransactionResult)
      (hg : env.getTransaction = (some walletTx, none)) (hb : walletTx.blockHash ≠ "")
      (hu : env.updateLatestAttestation (confirmedInBlock s.attestation walletTx) = none) :
      Transition txHash env s
        { s with
          attestation := confirmedInBlock s.attestation walletTx
          state := .nextCommitment
          attestDelay := (s.atimeNewAttestation - since env.now s.confirmTime).bmod (2 ^ 64) }
        [.getTransaction s.attestation.txid env.getTransaction,
          .updateLatestAttestation (confirmedInBlock s.attestation walletTx)
            (env.updateLatestAttestation (confirmedInBlock s.attestation walletTx)),
          .resetFee s.isRegtest, .sendConfirmedHash s.attestation.commitmentHash]
  | awaitUnconfirmed (hs : s.state = .awaitConfirmation)
      (ht : ¬ s.atimeHandleUnconfirmed < since env.now s.confirmTime)
      (walletTx : GetTransactionResult)
      (hg : env.getTransaction = (some walletTx, none)) (hb : walletTx.blockHash = "") :
      Transition txHash env s { s with attestDelay := atimeConfirmation }
        [.getTransaction s.attestation.txid env.getTransaction]
  /- `ASTATE_HANDLE_UNCONFIRMED` -/
  | bumpFailed (hs : s.state = .handleUnconfirmed) (bumpedTx : MsgTx) (e : Error)
      (hb : env.bumpAttestationFees = (bumpedTx, some e)) :
      Transition txHash env s
        ({ tickStart s with attestation := { s.attestation with tx := bumpedTx } }.setFailure e)
        [.bumpAttestationFees s.attestation.tx env.bumpAttestationFees]
  | bumped (hs : s.state = .handleUnconfirmed) (bumpedTx : MsgTx)
      (hb : env.bumpAttestationFees = (bumpedTx, none)) :
      Transition txHash env s
        { s with
          attestation := { s.attestation with tx := bumpedTx }
          state := .signAttestation
          attestDelay := atimeSigs }
        [.bumpAttestationFees s.attestation.tx env.bumpAttestationFees,
          .sendNewTx bumpedTx.serialize]

/-! ## The code takes only these transitions -/

variable {txHash : MsgTx → Hash} {env : Env} {s s' : AttestService} {cs : List Call}

theorem prependCalls_eq_some {calls : List Call} {o : Outcome}
    (h : prependCalls calls o = some (s', cs)) : ∃ rest, o = some (s', rest) ∧ cs = calls ++ rest := by
  rcases o with _ | ⟨a, b⟩
  · cases h
  · cases h; exact ⟨b, rfl, rfl⟩

theorem stateInitUnconfirmed_transition (hs : s.state = .init) {txid : Hash}
    (hu : env.getUnconfirmedTx = (true, txid, none)) {rest : List Call}
    (h : (tickStart s).stateInitUnconfirmed env txid = some (s', rest)) :
    Transition txHash env s s' (.getUnconfirmedTx env.getUnconfirmedTx :: rest) := by
  unfold stateInitUnconfirmed at h
  split at h
  split at h
  · cases h; exact .initUnconfirmedCommitmentFailed hs _ _ _ hu ‹_›
  · split at h
    · cases h
    · cases h; exact .initUnconfirmed hs _ _ _ hu ‹_› ‹_›

theorem stateInitUnspent_transition (hs : s.state = .init) {txid : Hash}
    (hu : env.getUnconfirmedTx = (false, txid, none)) {unspent : ListUnspentResult}
    (hl : env.findLastUnspent = (true, unspent, none)) {rest : List Call}
    (h : (tickStart s).stateInitUnspent env unspent = some (s', rest)) :
    Transition txHash env s s'
      (.getUnconfirmedTx env.getUnconfirmedTx :: .findLastUnspent env.findLastUnspent :: rest) := by
  unfold stateInitUnspent at h
  split at h
  · cases h
  · split at h
    split at h
    · cases h; exact .initUnspentCommitmentFailed hs _ _ _ _ _ hu hl ‹_› ‹_›
    · split at h
      · split at h
        · cases h
        · cases h
        · dsimp only at h
          split at h
          · cases h; exact .initUnspentUpdateFailed hs _ _ _ _ _ _ _ hu hl ‹_› ‹_› ‹_› ‹_› ‹_› ‹_›
          · cases h; exact .initConfirmedTip hs _ _ _ _ _ _ hu hl ‹_› ‹_› ‹_› ‹_› ‹_› ‹_›
      · cases h; exact .initFreshStaychain hs _ _ _ _ hu hl ‹_› ‹_› (not_not.mp ‹_›)

theorem doStateInit_transition (hs : s.state = .init)
    (h : (tickStart s).doStateInit env = some (s', cs)) : Transition txHash env s s' cs := by
  unfold doStateInit at h
  split at h
  · cases h; exact .initUnconfirmedTxFailed hs _ _ _ ‹_›
  · dsimp only at h
    obtain ⟨rest, h', rfl⟩ := prependCalls_eq_some h
    exact stateInitUnconfirmed_transition hs ‹_› h'
  · split at h
    · cases h; exact .initLastUnspentFailed hs _ _ _ _ ‹_› ‹_›
    · dsimp only at h
      obtain ⟨rest, h', rfl⟩ := prependCalls_eq_some h
      exact stateInitUnspent_transition hs ‹_› ‹_› h'
    · cases h; exact .initWalletFailure hs _ _ ‹_› ‹_›

theorem doStateNextCommitment_transition (hs : s.state = .nextCommitment)
    (h : (tickStart s).doStateNextCommitment env = some (s', cs)) :
    Transition txHash env s s' cs := by
  unfold doStateNextCommitment at h
  split at h
  · cases h; exact .nextFailed hs _ _ ‹_›
  · split at h
    · cases h; exact .nextAttested hs _ ‹_› ‹_›
    · cases h; exact .nextNew hs _ ‹_› ‹_›

theorem doStateNewAttestation_transition (hs : s.state = .newAttestation)
    (h : (tickStart s).doStateNewAttestation env = some (s', cs)) :
    Transition txHash env s s' cs := by
  unfold doStateNewAttestation at h
  split at h
  · cases h; exact .newKeyFailed hs _ ‹_›
  · split at h
    · cases h
    · split at h
      · cases h; exact .newImportFailed hs _ _ ‹_› ‹_› ‹_›
      · split at h
        · cases h; exact .newLastUnspentFailed hs _ _ _ _ ‹_› ‹_› ‹_› ‹_›
        · cases h; exact .newUnspentNotFound hs _ _ ‹_› ‹_› ‹_› ‹_›
        · split at h
          · cases h; exact .newTopupFailed hs _ _ _ _ _ ‹_› ‹_› ‹_› ‹_› ‹_›
          · split at h
            · cases h; exact .newCreateFailed hs _ _ _ _ _ _ ‹_› ‹_› ‹_› ‹_› ‹_› ‹_›
            · cases h
            · cases h; exact .newCreated hs _ _ _ _ _ ‹_› ‹_› ‹_› ‹_› ‹_› ‹_›

theorem doStateSignAttestation_transition (hs : s.state = .signAttestation)
    (h : (tickStart s).doStateSignAttestation txHash env = some (s', cs)) :
    Transition txHash env s s' cs := by
  unfold doStateSignAttestation at h
  split at h
  · cases h; exact .signLatestFailed hs _ _ ‹_›
  · split at h
    · cases h; exact .signFailed hs _ _ _ ‹_› ‹_›
    · cases h
    · cases h; exact .signed hs _ _ ‹_› ‹_›

theorem doStatePreSendStore_transition (hs : s.state = .preSendStore)
    (h : (tickStart s).doStatePreSendStore env = some (s', cs)) :
    Transition txHash env s s' cs := by
  unfold doStatePreSendStore at h
  split at h
  · cases h; exact .preSendStoreFailed hs _ ‹_›
  · cases h; exact .preSendStored hs ‹_›

theorem doStateSendAttestation_transition (hs : s.state = .sendAttestation)
    (h : (tickStart s).doStateSendAttestation env = some (s', cs)) :
    Transition txHash env s s' cs := by
  unfold doStateSendAttestation at h
  split at h
  · cases h; exact .sendFailed hs _ _ ‹_›
  · cases h; exact .sent hs _ ‹_›

theorem doStateAwaitConfirmation_transition (hs : s.state = .awaitConfirmation)
    (h : (tickStart s).doStateAwaitConfirmation env = some (s', cs)) :
    Transition txHash env s s' cs := by
  unfold doStateAwaitConfirmation at h
  split at h
  · cases h; exact .awaitTimeout hs ‹_›
  · split at h
    · cases h; exact .awaitFailed hs ‹_› _ _ ‹_›
    · cases h
    · split at h
      · dsimp only at h
        split at h
        · cases h; exact .awaitUpdateFailed hs ‹_› _ _ ‹_› ‹_› ‹_›
        · cases h; exact .awaitConfirmed hs ‹_› _ ‹_› ‹_› ‹_›
      · cases h; exact .awaitUnconfirmed hs ‹_› _ ‹_› (not_not.mp ‹_›)

theorem doStateHandleUnconfirmed_transition (hs : s.state = .handleUnconfirmed)
    (h : (tickStart s).doStateHandleUnconfirmed env = some (s', cs)) :
    Transition txHash env s s' cs := by
  unfold doStateHandleUnconfirmed at h
  split at h
  split at h
  · cases h; exact .bumpFailed hs _ _ ‹_›
  · cases h; exact .bumped hs _ ‹_›

/-- Every tick that does not panic is one of the transitions. -/
theorem doAttestation_transition (h : s.doAttestation txHash env = some (s', cs)) :
    Transition txHash env s s' cs := by
  unfold doAttestation at h
  split at h <;> rename_i hs
  · cases h; exact .error hs
  · exact doStateInit_transition hs h
  · exact doStateNextCommitment_transition hs h
  · exact doStateNewAttestation_transition hs h
  · exact doStateSignAttestation_transition hs h
  · exact doStatePreSendStore_transition hs h
  · exact doStateSendAttestation_transition hs h
  · exact doStateAwaitConfirmation_transition hs h
  · exact doStateHandleUnconfirmed_transition hs h

/-- Every transition is what the tick computes, so the relation describes `doAttestation`
exactly. -/
theorem transition_doAttestation (ht : Transition txHash env s s' cs) :
    s.doAttestation txHash env = some (s', cs) := by
  cases ht <;> simp_all [doAttestation, doStateError, doStateInit, prependCalls,
    stateInitUnconfirmed, stateInitUnspent, stateInitWalletFailure, doStateNextCommitment,
    doStateNewAttestation, doStateSignAttestation, doStatePreSendStore, doStateSendAttestation,
    doStateAwaitConfirmation, doStateHandleUnconfirmed, confirmedTip, confirmedInBlock, tickStart]

theorem doAttestation_eq_some_iff :
    s.doAttestation txHash env = some (s', cs) ↔ Transition txHash env s s' cs :=
  ⟨doAttestation_transition, transition_doAttestation⟩

/-- A turn of the loop takes a transition and then applies the regtest delay. -/
theorem runStep_of_transition (ht : Transition txHash env s s' cs) :
    s.runStep txHash env =
      some ({ s' with attestDelay := if s'.isRegtest then regtestDelay else s'.attestDelay }, cs) := by
  simp [runStep, transition_doAttestation ht]

end AttestService

end Mainstay
