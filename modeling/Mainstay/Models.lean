import Mathlib.Data.List.Basic
import Mathlib.Tactic.Ring

/-!
# Models — the values the attestation service passes around

The driver (`attestation` package) and the store (`server` package) exchange hashes,
transactions, wallet results, commitments and attestations. This module fixes their shape at the
grain the two packages read them:

* a `chainhash.Hash` is the 256-bit number its hex string displays, and `NewHashFromStr` parses
  such a string;
* a `wire.MsgTx` is only stored, hashed and serialized by the driver, so it is its serialization;
* `models.Commitment` and `models.Attestation` are not part of the sources read here; they are
  modelled from the specification's data model, and marked so.
-/

namespace Mainstay

/-! ## Hashes, errors and time -/

/-- A 32-byte parent-chain hash (`chainhash.Hash`), as the number its hex string shows. -/
abbrev Hash := BitVec 256

/-- A Go `error` value, kept as its message; `nil` is `none` wherever an error may be absent. -/
abbrev Error := String

/-- `time.Time`, in nanoseconds since the Unix epoch. -/
abbrev Time := Int

/-- `time.Duration`, in nanoseconds. -/
abbrev Duration := Int

def second : Duration := 1000000000

def minute : Duration := 60 * second

/-- `chainhash.MaxHashStringSize`. -/
def maxHashStringSize : Nat := 64

/-- `chainhash.ErrHashStrSize`. -/
def errHashStrSize : Error := "max hash string length is 64 bytes"


/-- The value of one hex digit, as `encoding/hex` reads it (either case). -/
def hexDigit? (c : Char) : Option Nat :=
  if '0' ≤ c ∧ c ≤ '9' then some (c.toNat - '0'.toNat)
  else if 'a' ≤ c ∧ c ≤ 'f' then some (c.toNat - 'a'.toNat + 10)
  else if 'A' ≤ c ∧ c ≤ 'F' then some (c.toNat - 'A'.toNat + 10)
  else none

/-- The lowercase hex digit `encoding/hex` writes for a value below 16. -/
def hexChar (d : Nat) : Char := if d < 10 then Char.ofNat (48 + d) else Char.ofNat (87 + d)

/-- The `k` low hex digits of `v`, most significant first. -/
def hexDigits : Nat → Nat → List Nat
  | 0, _ => []
  | k + 1, v => hexDigits k (v / 16) ++ [v % 16]

/-- `strconv.IsPrint` of a byte read as a rune: space and the graphic ASCII characters, and
`U+00A1` to `U+00FF` but the soft hyphen `U+00AD`. -/
def isPrintByte (b : UInt8) : Bool :=
  (0x20 ≤ b && b < 0x7F) || (0xA1 ≤ b && b != 0xAD)

/-- `hex.InvalidByteError(b).Error()`: the byte as a rune in the format `%#U`, that is `U+` and
four uppercase hex digits, then the character between quotes when it is printable. -/
def errInvalidHexByte (b : UInt8) : Error :=
  "encoding/hex: invalid byte: U+" ++ ⟨(hexDigits 4 b.toNat).map fun d => (hexChar d).toUpper⟩ ++
    if isPrintByte b then " \x27" ++ (Char.ofNat b.toNat).toString ++ "\x27" else ""

/-- One character of the digit loop of `hex.Decode`: the value so far times 16 plus the digit.
A character that is not a hex digit stops the loop with `InvalidByteError` of its first byte,
the first byte of the string that is not a hex digit (every byte of a multi-byte character is
above `0x7F`). -/
def decodeHexDigit (acc : Nat) (c : Char) : Except Error Nat :=
  match hexDigit? c with
  | some d => .ok (acc * 16 + d)
  | none => .error (errInvalidHexByte ((String.utf8EncodeChar c).headD 0))

/-- `chainhash.NewHashFromStr`: a hex string of at most 64 digits, read as the hash it displays.
An odd length is padded with a leading zero, which leaves the value and the first invalid byte
unchanged. -/
def newHashFromStr (s : String) : Except Error Hash :=
  if maxHashStringSize < s.utf8ByteSize then .error errHashStrSize
  else
    match s.toList.foldlM decodeHexDigit 0 with
    | .ok n => .ok (BitVec.ofNat 256 n)
    | .error e => .error e

example : newHashFromStr "0z" = .error "encoding/hex: invalid byte: U+007A \x27z\x27" := by rfl

example : newHashFromStr "0\n" = .error "encoding/hex: invalid byte: U+000A" := by rfl

/-- `Hash.String`: the 64 hex digits of the hash as it is displayed. -/
def hashString (h : Hash) : String := ⟨(hexDigits 64 h.toNat).map hexChar⟩

theorem hexDigit?_hexChar : ∀ d, d < 16 → hexDigit? (hexChar d) = some d
  | 0, _ | 1, _ | 2, _ | 3, _ | 4, _ | 5, _ | 6, _ | 7, _ | 8, _ | 9, _ | 10, _ | 11, _ | 12, _
  | 13, _ | 14, _ | 15, _ => by decide
  | _ + 16, h => absurd h (by omega)

theorem utf8Size_hexChar : ∀ d, d < 16 → (hexChar d).utf8Size = 1
  | 0, _ | 1, _ | 2, _ | 3, _ | 4, _ | 5, _ | 6, _ | 7, _ | 8, _ | 9, _ | 10, _ | 11, _ | 12, _
  | 13, _ | 14, _ | 15, _ => by decide
  | _ + 16, h => absurd h (by omega)

theorem hexDigits_lt (k v : Nat) : ∀ d ∈ hexDigits k v, d < 16 := by
  induction k generalizing v with
  | zero => simp [hexDigits]
  | succ k ih =>
    simp only [hexDigits, List.mem_append, List.mem_singleton]
    rintro d (hd | rfl)
    · exact ih _ d hd
    · exact Nat.mod_lt _ (by omega)

theorem length_hexDigits (k v : Nat) : (hexDigits k v).length = k := by
  induction k generalizing v with
  | zero => rfl
  | succ k ih => simp [hexDigits, ih]

/-- Reading the digits back, after a prefix worth `acc`. -/
theorem foldl_hexDigits (k v acc : Nat) :
    (hexDigits k v).foldl (fun a d => a * 16 + d) acc = acc * 16 ^ k + v % 16 ^ k := by
  induction k generalizing v acc with
  | zero => simp [hexDigits, Nat.mod_one]
  | succ k ih =>
    rw [hexDigits, List.foldl_append, ih]
    simp only [List.foldl_cons, List.foldl_nil, pow_succ', Nat.mod_mul]
    ring

theorem foldlM_hexChar (ds : List Nat) (hds : ∀ d ∈ ds, d < 16) (acc : Nat) :
    (ds.map hexChar).foldlM decodeHexDigit acc = .ok (ds.foldl (fun a d => a * 16 + d) acc) := by
  induction ds generalizing acc with
  | nil => rfl
  | cons d ds ih =>
    have hd : decodeHexDigit acc (hexChar d) = .ok (acc * 16 + d) := by
      simp [decodeHexDigit, hexDigit?_hexChar d (hds d (.head _))]
    rw [List.map_cons, List.foldlM_cons, hd]
    exact ih (fun d h => hds d (.tail _ h)) _

theorem utf8ByteSize_hexChars (ds : List Nat) (hds : ∀ d ∈ ds, d < 16) :
    String.utf8ByteSize ⟨ds.map hexChar⟩ = ds.length := by
  show String.utf8ByteSize.go _ = _
  induction ds with
  | nil => rfl
  | cons d ds ih =>
    simp only [List.map_cons, String.utf8ByteSize.go, List.length_cons,
      utf8Size_hexChar d (hds d (.head _)), ih fun d h => hds d (.tail _ h)]

/-- `NewHashFromStr` reads a string of at most 64 hex digits as their value. -/
theorem newHashFromStr_hexDigits (k v : Nat) (hk : k ≤ maxHashStringSize) :
    newHashFromStr ⟨(hexDigits k v).map hexChar⟩ = .ok (BitVec.ofNat 256 (v % 16 ^ k)) := by
  have hds := hexDigits_lt k v
  rw [newHashFromStr, if_neg (by rw [utf8ByteSize_hexChars _ hds, length_hexDigits]; omega)]
  simp only [String.toList, foldlM_hexChar _ hds, foldl_hexDigits, zero_mul, zero_add]

/-- `NewHashFromStr` reads back what `Hash.String` writes. -/
theorem newHashFromStr_hashString (h : Hash) : newHashFromStr (hashString h) = .ok h := by
  have hlt : h.toNat < 16 ^ 64 := by rw [show (16 : Nat) ^ 64 = 2 ^ 256 by norm_num]; exact h.isLt
  rw [hashString, newHashFromStr_hexDigits 64 _ le_rfl, Nat.mod_eq_of_lt hlt]
  simp

/-- The digit loop of `NewHashFromStr` reads a string exactly when each character is a hex
digit. -/
theorem foldlM_decodeHexDigit_ok (l : List Char) (acc : Nat) :
    (∃ n, l.foldlM decodeHexDigit acc = .ok n) ↔ ∀ c ∈ l, (hexDigit? c).isSome := by
  induction l generalizing acc with
  | nil => exact ⟨fun _ => by simp, fun _ => ⟨acc, rfl⟩⟩
  | cons c l ih =>
    rw [List.foldlM_cons, List.forall_mem_cons]
    cases h : hexDigit? c with
    | none =>
      simp only [decodeHexDigit, h, Option.isSome_none, Bool.false_eq_true, false_and, iff_false]
      rintro ⟨_, ⟨⟩⟩
    | some d => simpa [decodeHexDigit, h] using ih (acc * 16 + d)

/-- `NewHashFromStr` accepts exactly the strings of at most 64 bytes made of hex digits. -/
theorem newHashFromStr_ok_iff (s : String) :
    (∃ h, newHashFromStr s = .ok h) ↔
      s.utf8ByteSize ≤ maxHashStringSize ∧ ∀ c ∈ s.toList, (hexDigit? c).isSome := by
  rw [← foldlM_decodeHexDigit_ok _ 0, newHashFromStr]
  split
  · exact ⟨fun ⟨_, h⟩ => (by cases h), fun h => absurd h.1 (by omega)⟩
  · cases s.toList.foldlM decodeHexDigit 0 <;> simp_all

/-! ## The hash string format

`Hash.String` and `NewHashFromStr` are inverse on the strings the first writes, which are
exactly the strings of 64 lowercase hex digits. The store keys and queries documents by these
strings, so a key names one hash.
-/

/-- Digits below 16 read after a prefix worth `acc` give a value below `(acc + 1) * 16 ^ length`. -/
theorem foldl_digits_lt (ds : List Nat) (hds : ∀ d ∈ ds, d < 16) (acc : Nat) :
    ds.foldl (fun a d => a * 16 + d) acc < (acc + 1) * 16 ^ ds.length := by
  induction ds generalizing acc with
  | nil => simp
  | cons d ds ih =>
    have hd := hds d (.head _)
    calc (d :: ds).foldl (fun a d => a * 16 + d) acc
        = ds.foldl (fun a d => a * 16 + d) (acc * 16 + d) := rfl
      _ < (acc * 16 + d + 1) * 16 ^ ds.length := ih (fun d h => hds d (.tail _ h)) _
      _ ≤ (acc + 1) * 16 * 16 ^ ds.length := Nat.mul_le_mul_right _ (by omega)
      _ = (acc + 1) * 16 ^ (d :: ds).length := by rw [List.length_cons, pow_succ']; ring

/-- Writing the value of a list of digits back gives the list. -/
theorem hexDigits_foldl (ds : List Nat) (hds : ∀ d ∈ ds, d < 16) :
    hexDigits ds.length (ds.foldl (fun a d => a * 16 + d) 0) = ds := by
  induction ds using List.reverseRecOn with
  | nil => rfl
  | append_singleton ds d ih =>
    have hd := hds d (by simp)
    rw [List.length_append, List.length_singleton, hexDigits, List.foldl_append,
      List.foldl_cons, List.foldl_nil,
      show (ds.foldl (fun a d => a * 16 + d) 0 * 16 + d) / 16 = ds.foldl (fun a d => a * 16 + d) 0
        by omega,
      show (ds.foldl (fun a d => a * 16 + d) 0 * 16 + d) % 16 = d by omega,
      ih fun d h => hds d (by simp [h])]

/-- A list of lowercase hex digits is the writing of a list of digit values. -/
theorem exists_hexChars (l : List Char) (hl : ∀ c ∈ l, ∃ d < 16, hexChar d = c) :
    ∃ ds : List Nat, (∀ d ∈ ds, d < 16) ∧ ds.map hexChar = l := by
  induction l with
  | nil => exact ⟨[], by simp, rfl⟩
  | cons c l ih =>
    obtain ⟨d, hd, rfl⟩ := hl c (.head _)
    obtain ⟨ds, hds, rfl⟩ := ih fun c h => hl c (.tail _ h)
    exact ⟨d :: ds, List.forall_mem_cons.2 ⟨hd, hds⟩, rfl⟩

/-- `NewHashFromStr` reads at most 64 lowercase hex digits as their value. -/
theorem newHashFromStr_hexChars (ds : List Nat) (hds : ∀ d ∈ ds, d < 16)
    (hlen : ds.length ≤ maxHashStringSize) :
    newHashFromStr ⟨ds.map hexChar⟩ = .ok (BitVec.ofNat 256 (ds.foldl (fun a d => a * 16 + d) 0)) := by
  rw [newHashFromStr, if_neg (by rw [utf8ByteSize_hexChars _ hds]; omega)]
  simp only [String.toList, foldlM_hexChar _ hds]

/-- `Hash.String` writes exactly the strings of 64 lowercase hex digits, and `NewHashFromStr`
reads each of them back as the hash it was written from. -/
theorem hashString_eq_iff (h : Hash) (s : String) :
    hashString h = s ↔
      newHashFromStr s = .ok h ∧ s.length = maxHashStringSize ∧
        ∀ c ∈ s.toList, ∃ d < 16, hexChar d = c := by
  constructor
  · rintro rfl
    refine ⟨newHashFromStr_hashString h, ?_, fun c hc => ?_⟩
    · simp only [hashString, String.length, List.length_map, length_hexDigits, maxHashStringSize]
    · rw [hashString, String.toList] at hc
      dsimp only at hc
      obtain ⟨d, hd, rfl⟩ := List.mem_map.1 hc
      exact ⟨d, hexDigits_lt _ _ d hd, rfl⟩
  · rintro ⟨hparse, hlen, hchars⟩
    obtain ⟨ds, hds, hs⟩ := exists_hexChars _ hchars
    obtain rfl : s = ⟨ds.map hexChar⟩ := String.ext hs.symm
    have hlen' : ds.length = 64 := by simpa [String.length, maxHashStringSize] using hlen
    rw [newHashFromStr_hexChars ds hds (by rw [hlen']; rfl)] at hparse
    cases hparse
    have hv : ds.foldl (fun a d => a * 16 + d) 0 < 2 ^ 256 := by
      have := foldl_digits_lt ds hds 0
      rwa [hlen', zero_add, one_mul, show (16 : Nat) ^ 64 = 2 ^ 256 by norm_num] at this
    rw [hashString, BitVec.toNat_ofNat, Nat.mod_eq_of_lt hv, ← hlen', hexDigits_foldl ds hds]
/-! ## Parent-chain values -/

/-- A parent-chain transaction (`wire.MsgTx`). The driver never reads its fields: it stores it,
hashes it and publishes its serialization, so it is kept as that serialization. -/
structure MsgTx where
  bytes : List UInt8
  deriving DecidableEq, Repr

/-- `tx.Serialize`: the wire bytes the driver publishes to the signers. -/
def MsgTx.serialize (tx : MsgTx) : List UInt8 := tx.bytes

/-- `wire.MsgTx{}`: version 0, no inputs, no outputs, lock time 0. -/
def MsgTx.empty : MsgTx := ⟨List.replicate 10 0⟩

/-- A pay-to address (`btcutil.Address`), as its encoded string. -/
structure Address where
  encoded : String
  deriving DecidableEq, Repr

/-- `btcjson.ListUnspentResult`: the outpoint of a wallet unspent. The driver parses `TxID`;
the rest goes to the attest client unread. -/
structure ListUnspentResult where
  txID : String
  vout : UInt32
  deriving DecidableEq, Repr

/-- `btcjson.GetTransactionResult`: the wallet's view of a transaction. `BlockHash` is empty
while the transaction is unconfirmed. -/
structure GetTransactionResult where
  blockHash : String
  time : Int
  deriving DecidableEq, Repr

/-! ## Commitments and attestations -/

/-- Modelled from the spec (`models.CommitmentMerkleProof`, missing from the sources): the path
from one client's leaf to the Merkle root, which the store saves as an opaque document. -/
structure CommitmentMerkleProof where
  ops : List (Bool × Hash)
  deriving DecidableEq, Repr

/-- Modelled from the spec (`models.Commitment`, missing from the sources): the leaves of the
client slots in slot order, one Merkle proof per slot, and the Merkle root over the leaves. The
tree itself is built by the Merkle component, which the specification leaves out of scope. -/
structure Commitment where
  merkleCommitments : List Hash
  merkleProofs : List CommitmentMerkleProof
  merkleRoot : Hash
  deriving DecidableEq, Repr

/-- `Commitment.GetCommitmentHash`. -/
def Commitment.getCommitmentHash (c : Commitment) : Hash := c.merkleRoot

@[simp] theorem Commitment.getCommitmentHash_eq (c : Commitment) :
    c.getCommitmentHash = c.merkleRoot := rfl

/-- Modelled from the spec (`models.AttestationInfo`): the block-inclusion metadata. -/
structure AttestationInfo where
  blockHash : String
  time : Int
  deriving DecidableEq, Repr

/-- Modelled from the spec (`models.Attestation`, missing from the sources): txid, raw
transaction, confirmed flag, block-inclusion metadata and the attested commitment (a nil
pointer until one is set). -/
structure Attestation where
  txid : Hash
  tx : MsgTx
  confirmed : Bool
  info : AttestationInfo
  commitment : Option Commitment
  deriving DecidableEq, Repr

namespace Attestation

/-- Modelled from the spec (`models.NewAttestationDefault`): an unconfirmed attestation with zero
txid, the empty transaction and no commitment. -/
def newAttestationDefault : Attestation :=
  ⟨0, MsgTx.empty, false, ⟨"", 0⟩, none⟩

/-- Modelled from the spec (`models.NewAttestation`): an unconfirmed attestation of `txid`
bound to `commitment`. -/
def newAttestation (txid : Hash) (commitment : Commitment) : Attestation :=
  { newAttestationDefault with txid := txid, commitment := some commitment }

/-- Modelled from the spec (`Attestation.SetCommitment`). -/
def setCommitment (a : Attestation) (commitment : Commitment) : Attestation :=
  { a with commitment := some commitment }

/-- Modelled from the spec (`Attestation.CommitmentHash`): the root of the commitment, or the
zero hash while none is set. -/
def commitmentHash (a : Attestation) : Hash :=
  match a.commitment with
  | some c => c.getCommitmentHash
  | none => 0

/-- Modelled from the spec (`Attestation.UpdateInfo`): copy the block metadata of the wallet's
transaction. -/
def updateInfo (a : Attestation) (tx : GetTransactionResult) : Attestation :=
  { a with info := ⟨tx.blockHash, tx.time⟩ }

@[simp] theorem newAttestation_confirmed (txid : Hash) (c : Commitment) :
    (newAttestation txid c).confirmed = false := rfl

@[simp] theorem newAttestation_commitmentHash (txid : Hash) (c : Commitment) :
    (newAttestation txid c).commitmentHash = c.merkleRoot := rfl

@[simp] theorem newAttestationDefault_confirmed : newAttestationDefault.confirmed = false := rfl

@[simp] theorem newAttestationDefault_commitmentHash : newAttestationDefault.commitmentHash = 0 :=
  rfl

@[simp] theorem setCommitment_commitmentHash (a : Attestation) (c : Commitment) :
    (a.setCommitment c).commitmentHash = c.merkleRoot := rfl

@[simp] theorem setCommitment_confirmed (a : Attestation) (c : Commitment) :
    (a.setCommitment c).confirmed = a.confirmed := rfl

@[simp] theorem updateInfo_commitmentHash (a : Attestation) (tx : GetTransactionResult) :
    (a.updateInfo tx).commitmentHash = a.commitmentHash := rfl

/-- A record update that keeps the commitment keeps its hash. -/
@[simp] theorem commitmentHash_mk_commitment (a : Attestation) (txid : Hash) (tx : MsgTx)
    (confirmed : Bool) (info : AttestationInfo) :
    (Attestation.mk txid tx confirmed info a.commitment).commitmentHash = a.commitmentHash := rfl

@[simp] theorem commitmentHash_mk_some (txid : Hash) (tx : MsgTx) (confirmed : Bool)
    (info : AttestationInfo) (c : Commitment) :
    (Attestation.mk txid tx confirmed info (some c)).commitmentHash = c.merkleRoot := rfl

@[simp] theorem updateInfo_confirmed (a : Attestation) (tx : GetTransactionResult) :
    (a.updateInfo tx).confirmed = a.confirmed := rfl

end Attestation

end Mainstay
