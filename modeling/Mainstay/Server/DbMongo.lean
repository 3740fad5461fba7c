import Mainstay.Server.Upsert
import Mathlib.Data.List.Sort

/-!
# DbMongo — the store behind the attestation server

`DbMongo` of the `server` package: four collections of documents, read and written through the
mongo driver. A document is modelled with the fields the code writes and reads, as the values it
stores: hashes as their `String()` (64 hex digits), client positions as the `int32` the code
converts them to, times as `inserted_at` milliseconds.

A collection is a list in natural order, which is the order `FindOne` and `Find` return
documents in when they do not sort, and the order a sort keeps among equal keys. Writes may
fail (`OpResult`); reads are modelled without transport failures, so that their errors are the
ones the code raises on the data (no document, a string that is not a hash, `NewCommitment`).

`models.NewCommitment`, which builds the Merkle tree over the leaves, belongs to the Merkle
component and is a parameter here.
-/

namespace Mainstay

/-- `mongo.ErrNoDocuments`. -/
def errNoDocuments : Error := "mongo: no documents in result"

/-- A document of the `Attestation` collection. -/
structure AttestationDoc where
  txid : String
  merkleRoot : String
  insertedAt : Int
  confirmed : Bool
  deriving DecidableEq, Repr

/-- A document of the `MerkleCommitment` collection: the leaf of one client slot. -/
structure MerkleCommitmentDoc where
  merkleRoot : String
  clientPosition : BitVec 32
  commitment : String
  deriving DecidableEq, Repr

/-- A document of the `MerkleProof` collection: the Merkle proof of one client slot. -/
structure MerkleProofDoc where
  merkleRoot : String
  clientPosition : BitVec 32
  proof : CommitmentMerkleProof
  deriving DecidableEq, Repr

/-- A document of the `LatestCommitment` collection, which is written outside these sources;
the readers look up its `merkle_root`, `client_position` and `commitment`. -/
structure LatestCommitmentDoc where
  merkleRoot : String
  clientPosition : BitVec 32
  commitment : String
  deriving DecidableEq, Repr

/-- The filter `saveAttestation` upserts by. -/
def AttestationDoc.key (d : AttestationDoc) : String × String := (d.txid, d.merkleRoot)

/-- The filter `saveMerkleCommitments` upserts by. -/
def MerkleCommitmentDoc.key (d : MerkleCommitmentDoc) : String × BitVec 32 :=
  (d.merkleRoot, d.clientPosition)

/-- The filter `saveMerkleProofs` upserts by. -/
def MerkleProofDoc.key (d : MerkleProofDoc) : String × BitVec 32 :=
  (d.merkleRoot, d.clientPosition)

/-- `DbMongo`: the database's collections, each in natural order. -/
structure DbMongo where
  attestation : List AttestationDoc
  merkleCommitment : List MerkleCommitmentDoc
  merkleProof : List MerkleProofDoc
  latestCommitment : List LatestCommitmentDoc
  deriving DecidableEq, Repr

namespace DbMongo

/-- The database with no documents. -/
def empty : DbMongo := ⟨[], [], [], []⟩

/-- One document per key in the two collections the commitment writers upsert into. -/
def WellKeyed (d : DbMongo) : Prop :=
  (d.merkleCommitment.map MerkleCommitmentDoc.key).Nodup ∧
    (d.merkleProof.map MerkleProofDoc.key).Nodup

/-! ## Writes -/

/-- The document `saveAttestation` writes (its `newAttestation`), with `inserted_at` the
current Unix second in milliseconds. -/
def attestationDoc (now : Time) (attestation : Attestation) (confirmed : Bool) : AttestationDoc :=
  ⟨hashString attestation.txid, hashString attestation.commitmentHash, now / second * 1000,
    confirmed⟩

/-- `saveAttestation`: upsert the attestation's document by `{txid, merkle_root}`. -/
def saveAttestation (now : Time) (attestation : Attestation) (confirmed : Bool) (r : OpResult)
    (d : DbMongo) : DbMongo × Option Error :=
  let (col, err) :=
    upsertEach AttestationDoc.key [attestationDoc now attestation confirmed] [r] d.attestation
  ({ d with attestation := col }, err)

theorem saveAttestation_ok (now : Time) (attestation : Attestation) (confirmed : Bool)
    (d : DbMongo) :
    d.saveAttestation now attestation confirmed .ok =
      ({ d with
          attestation := upsert AttestationDoc.key (attestationDoc now attestation confirmed)
            d.attestation }, none) := rfl

/-- The documents `saveMerkleCommitments` writes: one per leaf, at `int32(pos)`. -/
def merkleCommitmentDocs (merkleRoot : Hash) (commitments : List Hash) :
    List MerkleCommitmentDoc :=
  commitments.enum.map fun (pos, c) => ⟨hashString merkleRoot, BitVec.ofNat 32 pos, hashString c⟩

/-- The documents `saveMerkleProofs` writes: one per proof, at `int32(pos)`. -/
def merkleProofDocs (merkleRoot : Hash) (proofs : List CommitmentMerkleProof) :
    List MerkleProofDoc :=
  proofs.enum.map fun (pos, p) => ⟨hashString merkleRoot, BitVec.ofNat 32 pos, p⟩

/-- `saveMerkleCommitments`: upsert one document per leaf, by `{merkle_root, client_position}`,
into `MerkleCommitment`. -/
def saveMerkleCommitments (merkleRoot : Hash) (commitments : List Hash) (rs : List OpResult)
    (d : DbMongo) : DbMongo × Option Error :=
  let (col, err) := upsertEach MerkleCommitmentDoc.key (merkleCommitmentDocs merkleRoot commitments)
    rs d.merkleCommitment
  ({ d with merkleCommitment := col }, err)

/-- `saveMerkleProofs`: upsert one document per proof, by `{merkle_root, client_position}`, into
`MerkleProof`. A proof that does not marshal is a failed write that was not applied. -/
def saveMerkleProofs (merkleRoot : Hash) (proofs : List CommitmentMerkleProof)
    (rs : List OpResult) (d : DbMongo) : DbMongo × Option Error :=
  let (col, err) := upsertEach MerkleProofDoc.key (merkleProofDocs merkleRoot proofs) rs
    d.merkleProof
  ({ d with merkleProof := col }, err)

/-- `saveCommitment`: the leaves, then the proofs, under the commitment's root. -/
def saveCommitment (commitment : Commitment) (rs : List OpResult) (d : DbMongo) :
    DbMongo × Option Error :=
  let merkleRoot := commitment.getCommitmentHash
  match d.saveMerkleCommitments merkleRoot commitment.merkleCommitments rs with
  | (d', some e) => (d', some e)
  | (d', none) =>
    d'.saveMerkleProofs merkleRoot commitment.merkleProofs
      (rs.drop commitment.merkleCommitments.length)

/-! ## Reads -/

/-- `FindOne` sorted by `inserted_at` descending: the latest document, the first in natural
order among equally late ones. -/
def latestInserted : List AttestationDoc → Option AttestationDoc
  | [] => none
  | doc :: docs =>
    match latestInserted docs with
    | some doc' => if doc.insertedAt < doc'.insertedAt then some doc' else some doc
    | none => some doc

/-- `getLatestAttestedCommitmentHash`: the `merkle_root` of the latest attestation document. -/
def getLatestAttestedCommitmentHash (d : DbMongo) : Except Error Hash :=
  match latestInserted d.attestation with
  | none => .error errNoDocuments
  | some attestationDoc => newHashFromStr attestationDoc.merkleRoot

/-- `Find` sorted by `client_position` ascending, equal positions in natural order. -/
def sortByClientPosition (docs : List LatestCommitmentDoc) : List LatestCommitmentDoc :=
  docs.insertionSort fun a b => a.clientPosition.toInt ≤ b.clientPosition.toInt

section Reads

variable (newCommitment : List Hash → Except Error Commitment)

/-- The cursor loop of the commitment readers: parse each `commitment`, then build the
commitment over the leaves. -/
def readCommitment (docs : List LatestCommitmentDoc) : Except Error Commitment := do
  let commitmentHashes ← docs.mapM fun commitmentDoc => newHashFromStr commitmentDoc.commitment
  newCommitment commitmentHashes

/-- `getLatestCommitment`: the commitment over every `LatestCommitment` leaf. -/
def getLatestCommitment (d : DbMongo) : Except Error Commitment :=
  readCommitment newCommitment (sortByClientPosition d.latestCommitment)

/-- `getAttestationCommitment`: find the attestation document of the txid, then build the
commitment over the `LatestCommitment` documents under its `merkle_root`. -/
def getAttestationCommitment (attestationHash : Hash) (d : DbMongo) : Except Error Commitment :=
  match d.attestation.find? (·.txid = hashString attestationHash) with
  | none => .error errNoDocuments
  | some attestationDoc =>
    readCommitment newCommitment
      (sortByClientPosition (d.latestCommitment.filter (·.merkleRoot = attestationDoc.merkleRoot)))

end Reads

/-! ## The latest attestation -/

theorem mem_of_latestInserted {docs : List AttestationDoc} {doc : AttestationDoc}
    (h : latestInserted docs = some doc) : doc ∈ docs := by
  induction docs generalizing doc with
  | nil => cases h
  | cons d ds ih =>
    unfold latestInserted at h
    split at h
    · split at h <;> cases h
      · exact .tail _ (ih ‹_›)
      · exact .head _
    · cases h; exact .head _

/-- A document later than every other one is the latest. -/
theorem latestInserted_of_max {doc : AttestationDoc} {docs : List AttestationDoc}
    (hdoc : doc ∈ docs) (hmax : ∀ d ∈ docs, d = doc ∨ d.insertedAt < doc.insertedAt) :
    latestInserted docs = some doc := by
  induction docs with
  | nil => cases hdoc
  | cons d ds ih =>
    unfold latestInserted
    rcases List.mem_cons.1 hdoc with rfl | hdoc
    · split
      · rename_i d' hd'
        rcases hmax d' (.tail _ (mem_of_latestInserted hd')) with rfl | hlt
        · simp
        · simp [not_lt.2 hlt.le]
      · rfl
    · rw [ih hdoc fun d' hd' => hmax d' (.tail _ hd')]
      rcases hmax d (.head _) with rfl | hlt
      · simp
      · simp [hlt]

/-- An attestation saved after every stored one is the one `getLatestAttestedCommitmentHash`
reads back. -/
theorem getLatestAttestedCommitmentHash_saveAttestation {now : Time} {d : DbMongo}
    (hlate : ∀ doc ∈ d.attestation, doc.insertedAt < now / second * 1000) (a : Attestation)
    (confirmed : Bool) :
    (d.saveAttestation now a confirmed .ok).1.getLatestAttestedCommitmentHash =
      .ok a.commitmentHash := by
  rw [saveAttestation_ok, getLatestAttestedCommitmentHash,
    latestInserted_of_max (mem_upsert_self _ _ _) fun doc hdoc =>
    (mem_upsert hdoc).imp_right fun h => hlate doc h]
  exact newHashFromStr_hashString _

end DbMongo

end Mainstay
