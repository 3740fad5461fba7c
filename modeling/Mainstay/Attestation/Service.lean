import Mainstay.Models

/-!
# Service — the attestation driver

`AttestService` of the `attestation` package: the state machine that advances one attestation
per tick through creation, signing, storing, broadcasting, confirmation and fee bumping.

The driver is single threaded, and everything it does in a tick goes through its collaborators:
the attest client and its wallet, the signers, the server (the store) and the clock. A tick is
therefore a function of the service's state and of an `Env`, the answers the collaborators give
in that tick; it returns the next state and the list of `Call`s it made, each with the answer it
got. "Any responses of the collaborators" is "any `Env`".

Go panics are part of the model: a tick that dereferences a nil result (a transaction the RPC
client did not return, an unparsable txid) returns `none`, and `Run`'s goroutine dies with it.

The package globals `attestDelay`, `confirmTime`, `atimeNewAttestation` and
`atimeHandleUnconfirmed` are fields of the state. `TxHash` (double SHA-256 of the serialization,
in `btcd`) is a parameter.
-/

namespace Mainstay

open Attestation

/-! ## Constants -/

/-- `ERROR_UNSPENT_NOT_FOUND`. -/
def errorUnspentNotFound : Error := "No valid unspent found"

/-- `ATIME_FIXED`: the delay between states. -/
def atimeFixed : Duration := 5 * second

/-- `ATIME_SIGS`: the time the signers get to answer a new transaction. -/
def atimeSigs : Duration := 1 * minute

/-- `ATIME_CONFIRMATION`: the delay between two confirmation checks. -/
def atimeConfirmation : Duration := 15 * minute

/-- `DEFAULT_ATIME_NEW_ATTESTATION`. -/
def defaultAtimeNewAttestation : Duration := 60 * minute

/-- `DEFAULT_ATIME_HANDLE_UNCONFIRMED`. -/
def defaultAtimeHandleUnconfirmed : Duration := 60 * minute

/-- The delay `Run` starts with, so that the signers have time to connect. -/
def initialDelay : Duration := 30 * second

/-- The delay `Run` forces after every tick in regtest. -/
def regtestDelay : Duration := 10 * second

/-- `time.Since(t)` at the clock reading `now`: `Time.Sub`, which saturates at the bounds of a
`Duration`. -/
def since (now t : Time) : Duration := max (-2 ^ 63) (min (2 ^ 63 - 1) (now - t))

/-! ## State, configuration, collaborators -/

/-- `AttestationState`: `ASTATE_ERROR` (-1) to `ASTATE_HANDLE_UNCONFIRMED` (7). -/
inductive AttestationState
  | error
  | init
  | nextCommitment
  | newAttestation
  | signAttestation
  | preSendStore
  | sendAttestation
  | awaitConfirmation
  | handleUnconfirmed
  deriving DecidableEq, Repr

/-- The part of `confpkg.Config` the driver reads. -/
structure Config where
  initTx : String
  newAttestationMinutes : Int
  handleUnconfirmedMinutes : Int
  regtest : Bool
  deriving DecidableEq, Repr

/-- `AttestService`: the state of the driver, with the package's timing globals. -/
structure AttestService where
  state : AttestationState
  attestation : Attestation
  errorState : Option Error
  isRegtest : Bool
  atimeNewAttestation : Duration
  atimeHandleUnconfirmed : Duration
  attestDelay : Duration
  confirmTime : Time
  deriving DecidableEq, Repr

/-- The answers of the collaborators in one tick. Each is called at most once per tick, so one
answer per call; the server's are functions of their argument, so that a store can give them.
The attest client keeps a fee policy from tick to tick (created with the client in
`NewAttestService`, raised by `BumpAttestationFees`, reset by `ResetFee`). It is not modelled: the
transactions `createAttestation` and `bumpAttestationFees` return are free in every tick, whatever
fee the client would put in them, and `ResetFee` is only recorded as a call. -/
structure Env where
  now : Time
  getUnconfirmedTx : Bool × Hash × Option Error
  findLastUnspent : Bool × ListUnspentResult × Option Error
  findTopupUnspent : Bool × ListUnspentResult × Option Error
  getRawTransaction : Option MsgTx × Option Error
  getTransaction : Option GetTransactionResult × Option Error
  getNextAttestationKey : Option Error
  getNextAttestationAddr : Option Address × Option Error
  importAttestationAddr : Option Error
  createAttestation : Option MsgTx × Option Error
  signAttestation : Option MsgTx × Option Error
  sendAttestation : Hash × Option Error
  bumpAttestationFees : MsgTx × Option Error
  getAttestationCommitment : Hash → Commitment × Option Error
  getClientCommitment : Commitment × Option Error
  getLatestAttestationCommitmentHash : Hash × Option Error
  updateLatestAttestation : Attestation → Option Error

/-- A call to a collaborator, with its arguments and the answer it got. -/
inductive Call
  | getUnconfirmedTx (result : Bool × Hash × Option Error)
  | findLastUnspent (result : Bool × ListUnspentResult × Option Error)
  | findTopupUnspent (result : Bool × ListUnspentResult × Option Error)
  | getRawTransaction (txid : Hash) (result : Option MsgTx × Option Error)
  | getTransaction (txid : Hash) (result : Option GetTransactionResult × Option Error)
  | getNextAttestationKey (hash : Hash) (err : Option Error)
  | getNextAttestationAddr (hash : Hash) (result : Option Address × Option Error)
  | importAttestationAddr (addr : Address) (err : Option Error)
  | createAttestation (addr : Address) (unspents : List ListUnspentResult)
      (result : Option MsgTx × Option Error)
  | getSigs
  | signAttestation (tx : MsgTx) (lastCommitmentHash : Hash) (result : Option MsgTx × Option Error)
  | sendAttestation (tx : MsgTx) (result : Hash × Option Error)
  | bumpAttestationFees (tx : MsgTx) (result : MsgTx × Option Error)
  | resetFee (isRegtest : Bool)
  | getAttestationCommitment (txid : Hash) (result : Commitment × Option Error)
  | getClientCommitment (result : Commitment × Option Error)
  | getLatestAttestationCommitmentHash (result : Hash × Option Error)
  | updateLatestAttestation (attestation : Attestation) (err : Option Error)
  | sendConfirmedHash (hash : Hash)
  | sendNewHash (hash : Hash)
  | sendNewTx (tx : List UInt8)
  deriving DecidableEq, Repr

/-- What a tick does: the next state and the calls it made in order, or `none` when it
dereferenced a nil result (a Go panic). -/
abbrev Outcome := Option (AttestService × List Call)

/-- The outcome of a helper, after the calls its caller made first. -/
def prependCalls (calls : List Call) (o : Outcome) : Outcome :=
  o.map fun (s, rest) => (s, calls ++ rest)

namespace AttestService

variable (txHash : MsgTx → Hash)

/-! ## Handlers -/

/-- `setFailure` on an error: record it and move to `ASTATE_ERROR`. -/
def setFailure (s : AttestService) (err : Error) : AttestService :=
  { s with errorState := some err, state := .error }

/-- A timing of `NewAttestService`: `time.Duration(minutes) * time.Minute` when the configured
minutes are positive, the default otherwise. The product is an `int64` one and wraps. -/
def timingMinutes (minutes : Int) (default : Duration) : Duration :=
  if 0 < minutes then (minutes * minute).bmod (2 ^ 64) else default

/-- `NewAttestService`: check the initial txid (`log.Fatalf` otherwise) and set the timing. -/
def newAttestService (config : Config) : Option AttestService :=
  match newHashFromStr config.initTx with
  | .error _ => none
  | .ok _ =>
    some
      { state := .init
        attestation := newAttestationDefault
        errorState := none
        isRegtest := config.regtest
        atimeNewAttestation := timingMinutes config.newAttestationMinutes defaultAtimeNewAttestation
        atimeHandleUnconfirmed :=
          timingMinutes config.handleUnconfirmedMinutes defaultAtimeHandleUnconfirmed
        attestDelay := 0
        confirmTime := 0 }

/-- `doStateError`: back to `ASTATE_INIT`. -/
def doStateError (s : AttestService) : AttestService :=
  { s with state := .init }

/-- `stateInitUnconfirmed`: resume the attestation of a transaction found in the mempool. -/
def stateInitUnconfirmed (env : Env) (unconfirmedTxid : Hash) (s : AttestService) : Outcome :=
  let (commitment, commitmentErr) := env.getAttestationCommitment unconfirmedTxid
  let c₀ := Call.getAttestationCommitment unconfirmedTxid (commitment, commitmentErr)
  match commitmentErr with
  | some e => some (s.setFailure e, [c₀])
  | none =>
    let c₁ := Call.getRawTransaction unconfirmedTxid env.getRawTransaction
    match env.getRawTransaction.1 with
    | none => none -- `rawTx.MsgTx()` on the nil transaction; the error was discarded
    | some rawTx =>
      some ({ s with
          attestation := { newAttestation unconfirmedTxid commitment with tx := rawTx }
          state := .awaitConfirmation
          confirmTime := env.now }, [c₀, c₁])

/-- `stateInitUnspent`: take up the staychain at a wallet unspent, which is either a confirmed
attestation the store knows (update the store) or the funding transaction (start afresh). -/
def stateInitUnspent (env : Env) (unspent : ListUnspentResult) (s : AttestService) : Outcome :=
  match newHashFromStr unspent.txID with
  | .error _ => none -- `*unspentTxid` on the nil hash of a failed parse
  | .ok unspentTxid =>
    let (commitment, commitmentErr) := env.getAttestationCommitment unspentTxid
    let c₀ := Call.getAttestationCommitment unspentTxid (commitment, commitmentErr)
    match commitmentErr with
    | some e => some (s.setFailure e, [c₀])
    | none =>
      if commitment.getCommitmentHash ≠ 0 then
        let c₁ := Call.getRawTransaction unspentTxid env.getRawTransaction
        let c₂ := Call.getTransaction unspentTxid env.getTransaction
        match env.getRawTransaction.1, env.getTransaction.1 with
        | none, _ => none -- `rawTx.MsgTx()` on the nil transaction
        | some _, none => none -- `UpdateInfo` on the nil wallet transaction
        | some rawTx, some walletTx =>
          let a := ({ newAttestation unspentTxid commitment with
            confirmed := true, tx := rawTx }).updateInfo walletTx
          let c₃ := Call.updateLatestAttestation a (env.updateLatestAttestation a)
          match env.updateLatestAttestation a with
          | some e => some ({ s with attestation := a }.setFailure e, [c₀, c₁, c₂, c₃])
          | none =>
            some ({ s with attestation := a, state := .nextCommitment },
              [c₀, c₁, c₂, c₃, .sendConfirmedHash a.commitmentHash])
      else
        some ({ s with attestation := newAttestationDefault, state := .nextCommitment },
          [c₀, .sendConfirmedHash newAttestationDefault.commitmentHash])

/-- `stateInitWalletFailure`: neither an unconfirmed transaction nor an unspent; stay. -/
def stateInitWalletFailure (s : AttestService) : AttestService :=
  { s with state := .init }

/-- `doStateInit`: find the tip of the staychain in the wallet. -/
def doStateInit (env : Env) (s : AttestService) : Outcome :=
  let c₀ := Call.getUnconfirmedTx env.getUnconfirmedTx
  match env.getUnconfirmedTx with
  | (_, _, some e) => some (s.setFailure e, [c₀])
  | (true, unconfirmedTxid, none) => prependCalls [c₀] (s.stateInitUnconfirmed env unconfirmedTxid)
  | (false, _, none) =>
    let c₁ := Call.findLastUnspent env.findLastUnspent
    match env.findLastUnspent with
    | (_, _, some e) => some (s.setFailure e, [c₀, c₁])
    | (true, unspent, none) => prependCalls [c₀, c₁] (s.stateInitUnspent env unspent)
    | (false, _, none) => some (s.stateInitWalletFailure, [c₀, c₁])

/-- `doStateNextCommitment`: fetch the client commitment; announce it and start a new
attestation unless it is the one already attested. -/
def doStateNextCommitment (env : Env) (s : AttestService) : Outcome :=
  let c₀ := Call.getClientCommitment env.getClientCommitment
  match env.getClientCommitment with
  | (_, some e) => some (s.setFailure e, [c₀])
  | (latestCommitment, none) =>
    if latestCommitment.getCommitmentHash = s.attestation.commitmentHash then
      some ({ s with attestDelay := s.atimeNewAttestation }, [c₀])
    else
      some ({ s with
          attestation := newAttestationDefault.setCommitment latestCommitment
          state := .newAttestation }, [c₀, .sendNewHash latestCommitment.getCommitmentHash])

/-- `doStateNewAttestation`: derive the pay-to address, build the unsigned transaction from
the last unspent (and a topup) and publish it to the signers. -/
def doStateNewAttestation (env : Env) (s : AttestService) : Outcome :=
  let h := s.attestation.commitmentHash
  let c₀ := Call.getNextAttestationKey h env.getNextAttestationKey
  match env.getNextAttestationKey with
  | some e => some (s.setFailure e, [c₀])
  | none =>
    match env.getNextAttestationAddr.1 with
    | none => none -- `paytoaddr.String()` on the nil address; the error was discarded
    | some paytoaddr =>
      let calls := [c₀, .getNextAttestationAddr h env.getNextAttestationAddr,
        .importAttestationAddr paytoaddr env.importAttestationAddr]
      match env.importAttestationAddr with
      | some e => some (s.setFailure e, calls)
      | none =>
        let calls := calls ++ [.findLastUnspent env.findLastUnspent]
        match env.findLastUnspent with
        | (_, _, some e) => some (s.setFailure e, calls)
        | (false, _, none) => some (s.setFailure errorUnspentNotFound, calls)
        | (true, unspent, none) =>
          let calls := calls ++ [.findTopupUnspent env.findTopupUnspent]
          match env.findTopupUnspent with
          | (_, _, some e) => some (s.setFailure e, calls)
          | (topupFound, topupUnspent, none) =>
            let unspentList := bif topupFound then [unspent, topupUnspent] else [unspent]
            let calls := calls ++ [.createAttestation paytoaddr unspentList env.createAttestation]
            match env.createAttestation with
            | (_, some e) => some (s.setFailure e, calls)
            | (none, none) => none -- `*newTx` on the nil transaction
            | (some newTx, none) =>
              some ({ s with
                  attestation := { s.attestation with tx := newTx }
                  state := .signAttestation
                  attestDelay := atimeSigs }, calls ++ [.sendNewTx newTx.serialize])

/-- `doStateSignAttestation`: collect the signatures and sign with the last commitment hash
the server returns. -/
def doStateSignAttestation (env : Env) (s : AttestService) : Outcome :=
  let c₁ := Call.getLatestAttestationCommitmentHash env.getLatestAttestationCommitmentHash
  match env.getLatestAttestationCommitmentHash with
  | (_, some e) => some (s.setFailure e, [.getSigs, c₁])
  | (lastCommitmentHash, none) =>
    let c₂ := Call.signAttestation s.attestation.tx lastCommitmentHash env.signAttestation
    match env.signAttestation with
    | (_, some e) => some (s.setFailure e, [.getSigs, c₁, c₂])
    | (none, none) => none -- `*signedTx` on the nil transaction
    | (some signedTx, none) =>
      some ({ s with
          attestation := { s.attestation with tx := signedTx, txid := txHash signedTx }
          state := .preSendStore }, [.getSigs, c₁, c₂])

/-- `doStatePreSendStore`: store the signed, unconfirmed attestation before sending it. -/
def doStatePreSendStore (env : Env) (s : AttestService) : Outcome :=
  let c₀ := Call.updateLatestAttestation s.attestation (env.updateLatestAttestation s.attestation)
  match env.updateLatestAttestation s.attestation with
  | some e => some (s.setFailure e, [c₀])
  | none => some ({ s with state := .sendAttestation }, [c₀])

/-- `doStateSendAttestation`: broadcast, record the returned txid and start the clock. -/
def doStateSendAttestation (env : Env) (s : AttestService) : Outcome :=
  let c₀ := Call.sendAttestation s.attestation.tx env.sendAttestation
  match env.sendAttestation with
  | (_, some e) => some (s.setFailure e, [c₀])
  | (txid, none) =>
    some ({ s with
        attestation := { s.attestation with txid := txid }
        state := .awaitConfirmation
        attestDelay := atimeConfirmation
        confirmTime := env.now }, [c₀])

/-- `doStateAwaitConfirmation`: bump after too long; otherwise check the wallet and, once the
transaction is in a block, store it as confirmed and announce its commitment. The delay that
follows a confirmation is an `int64` subtraction of durations, and wraps. -/
def doStateAwaitConfirmation (env : Env) (s : AttestService) : Outcome :=
  if s.atimeHandleUnconfirmed < since env.now s.confirmTime then
    some ({ s with state := .handleUnconfirmed }, [])
  else
    let c₀ := Call.getTransaction s.attestation.txid env.getTransaction
    match env.getTransaction with
    | (_, some e) => some (s.setFailure e, [c₀])
    | (none, none) => none -- `newTx.BlockHash` on the nil result
    | (some newTx, none) =>
      if newTx.blockHash ≠ "" then
        let a := ({ s.attestation with confirmed := true }).updateInfo newTx
        let c₁ := Call.updateLatestAttestation a (env.updateLatestAttestation a)
        match env.updateLatestAttestation a with
        | some e => some ({ s with attestation := a }.setFailure e, [c₀, c₁])
        | none =>
          some ({ s with
              attestation := a
              state := .nextCommitment
              attestDelay := (s.atimeNewAttestation - since env.now s.confirmTime).bmod (2 ^ 64) },
            [c₀, c₁, .resetFee s.isRegtest, .sendConfirmedHash a.commitmentHash])
      else
        some ({ s with attestDelay := atimeConfirmation }, [c₀])

/-- `doStateHandleUnconfirmed`: bump the fee of the in-flight transaction (in place, so the
transaction changes even when the bump fails) and publish it again for signing. -/
def doStateHandleUnconfirmed (env : Env) (s : AttestService) : Outcome :=
  let (bumpedTx, bumpErr) := env.bumpAttestationFees
  let c₀ := Call.bumpAttestationFees s.attestation.tx env.bumpAttestationFees
  let s' := { s with attestation := { s.attestation with tx := bumpedTx } }
  match bumpErr with
  | some e => some (s'.setFailure e, [c₀])
  | none =>
    some ({ s' with state := .signAttestation, attestDelay := atimeSigs },
      [c₀, .sendNewTx bumpedTx.serialize])

/-- The service once `doAttestation` has set the delay to `ATIME_FIXED`. -/
def tickStart (s : AttestService) : AttestService := { s with attestDelay := atimeFixed }

/-- `doAttestation`: one tick, `ATIME_FIXED` unless the handler sets another delay. -/
def doAttestation (env : Env) (s : AttestService) : Outcome :=
  match s.state with
  | .error => some (s.tickStart.doStateError, [])
  | .init => s.tickStart.doStateInit env
  | .nextCommitment => s.tickStart.doStateNextCommitment env
  | .newAttestation => s.tickStart.doStateNewAttestation env
  | .signAttestation => s.tickStart.doStateSignAttestation txHash env
  | .preSendStore => s.tickStart.doStatePreSendStore env
  | .sendAttestation => s.tickStart.doStateSendAttestation env
  | .awaitConfirmation => s.tickStart.doStateAwaitConfirmation env
  | .handleUnconfirmed => s.tickStart.doStateHandleUnconfirmed env

/-- One turn of `Run`'s loop after its timer fired: a tick, then the regtest delay. -/
def runStep (env : Env) (s : AttestService) : Outcome :=
  (s.doAttestation txHash env).map fun (s', calls) =>
    ({ s' with attestDelay := if s'.isRegtest then regtestDelay else s'.attestDelay }, calls)

/-- The state `Run` starts its loop in. -/
def startRun (s : AttestService) : AttestService :=
  { s with attestDelay := initialDelay }

end AttestService

end Mainstay
