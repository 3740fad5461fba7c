import Mainstay.Server.DbMongo

/-!
# Commitments — what `saveCommitment` leaves in the store, and who reads it

`saveCommitment` writes a commitment as one `MerkleCommitment` and one `MerkleProof` document
per client position, keyed by `{merkle_root, client_position}`. This module says what a query
by that key finds afterwards, for every prior store: the new leaf and proof at each position the
commitment covers, and the old document everywhere else. It also shows that a save that failed
part way is repaired by the next one, which leaves the store a single save would have left.

The key stores `int32(pos)`. A commitment of more than `2^31` leaves puts its later leaves at
negative positions (and one of more than `2^32` leaves overwrites its own first leaves), so the
statement by position is for commitments of at most `2^31` leaves.

The reader that would find these documents does not exist: `getAttestationCommitment` builds the
commitment from the `LatestCommitment` collection, which `saveCommitment` never writes.
-/

namespace Mainstay

namespace DbMongo

/-- The `MerkleCommitment` document a query `{merkle_root: root, client_position: pos}` finds. -/
def findMerkleCommitment (d : DbMongo) (root : String) (pos : Int) : Option MerkleCommitmentDoc :=
  d.merkleCommitment.find? fun doc => doc.merkleRoot = root ∧ doc.clientPosition.toInt = pos

/-- The `MerkleProof` document a query `{merkle_root: root, client_position: pos}` finds. -/
def findMerkleProof (d : DbMongo) (root : String) (pos : Int) : Option MerkleProofDoc :=
  d.merkleProof.find? fun doc => doc.merkleRoot = root ∧ doc.clientPosition.toInt = pos

/-! ## `int32` positions -/

/-- An `int32` equals an integer exactly when the integer is in range and converts to it. -/
theorem toInt_eq_iff (x : BitVec 32) (i : Int) :
    x.toInt = i ↔ (-2 ^ 31 ≤ i ∧ i < 2 ^ 31) ∧ x = BitVec.ofInt 32 i := by
  have hx := x.isLt
  have hrange : -2 ^ 31 ≤ x.toInt ∧ x.toInt < 2 ^ 31 := by
    rw [BitVec.toInt_eq_toNat_cond]; split <;> omega
  constructor
  · rintro rfl
    refine ⟨hrange, BitVec.toInt_inj.1 ?_⟩
    rw [BitVec.toInt_ofInt, Int.bmod_def]
    split <;> omega
  · rintro ⟨hi, rfl⟩
    rw [BitVec.toInt_ofInt, Int.bmod_def]
    split <;> omega

/-- A query by position is a lookup by key, for a position an `int32` can hold. -/
theorem find?_position_eq {β : Type} (root? : β → String) (pos? : β → BitVec 32) (l : List β)
    (root : String) (pos : Int) :
    l.find? (fun doc => root? doc = root ∧ (pos? doc).toInt = pos) =
      if -2 ^ 31 ≤ pos ∧ pos < 2 ^ 31 then
        l.find? (fun doc => (root? doc, pos? doc) = (root, BitVec.ofInt 32 pos))
      else none := by
  split
  · rename_i h
    congr 1; funext doc
    simp only [toInt_eq_iff, h, true_and, Prod.ext_iff]
  · rename_i h
    exact List.find?_eq_none.2 fun doc _ hd => h (by
      simp only [toInt_eq_iff, decide_eq_true_eq] at hd; exact hd.2.1)

/-! ## The documents of a commitment -/

section Docs

variable {β δ : Type} (mk : String → BitVec 32 → β → δ) (key : δ → String × BitVec 32)

/-- The last document a save of `xs` from position `s` writes under a key: the one of the
element at that position, when the root is the commitment's. -/
theorem lastWrite_enumFrom (hkey : ∀ r b x, key (mk r b x) = (r, b)) (r : String) (xs : List β)
    (s : Nat) (hs : s + xs.length ≤ 2 ^ 32) (root : String) (b : BitVec 32) :
    lastWrite key ((xs.enumFrom s).map fun (pos, x) => mk r (BitVec.ofNat 32 pos) x) (root, b) =
      if root = r ∧ s ≤ b.toNat then (xs.get? (b.toNat - s)).map (mk r b) else none := by
  induction xs generalizing s with
  | nil => simp [lastWrite]
  | cons x xs ih =>
    rw [List.length_cons] at hs
    simp only [List.enumFrom_cons, List.map_cons, lastWrite, hkey]
    rw [ih (s + 1) (by omega)]
    have hb := b.isLt
    by_cases hr : root = r
    · subst hr
      rcases Nat.lt_trichotomy s b.toNat with h | h | h
      · have hne : BitVec.ofNat 32 s ≠ b := fun h' => by
          have := congrArg BitVec.toNat h'; simp at this; omega
        obtain ⟨k, hk⟩ : ∃ k, b.toNat - s = k + 1 := ⟨b.toNat - s - 1, by omega⟩
        simp [hne, show s + 1 ≤ b.toNat by omega, show s ≤ b.toNat by omega, hk,
          show b.toNat - (s + 1) = k by omega]
      · have hb' : BitVec.ofNat 32 s = b := BitVec.eq_of_toNat_eq (by simp; omega)
        simp [hb', h]
      · have hne : BitVec.ofNat 32 s ≠ b := fun h' => by
          have := congrArg BitVec.toNat h'; simp at this; omega
        simp [hne, show ¬ s + 1 ≤ b.toNat by omega, show ¬ s ≤ b.toNat by omega]
    · simp [hr, Ne.symm hr]

end Docs

@[simp] theorem key_mkCommitmentDoc (r : String) (b : BitVec 32) (c : String) :
    MerkleCommitmentDoc.key ⟨r, b, c⟩ = (r, b) := rfl

@[simp] theorem key_mkProofDoc (r : String) (b : BitVec 32) (p : CommitmentMerkleProof) :
    MerkleProofDoc.key ⟨r, b, p⟩ = (r, b) := rfl

/-- After the leaves of a commitment of at most `2^32` leaves are written, the lookup of a key
under its root finds the leaf of that `int32` position. -/
theorem find?_upsertAll_merkleCommitmentDocs (r : Hash) (cs : List Hash)
    (hn : cs.length ≤ 2 ^ 32) (l : List MerkleCommitmentDoc) (root : String) (b : BitVec 32) :
    (upsertAll MerkleCommitmentDoc.key (merkleCommitmentDocs r cs) l).find?
        (fun doc => doc.key = (root, b)) =
      (if root = hashString r then (cs.get? b.toNat).map fun c => ⟨root, b, hashString c⟩
        else none).or (l.find? fun doc => doc.key = (root, b)) := by
  rw [find?_upsertAll, merkleCommitmentDocs, List.enum,
    lastWrite_enumFrom (fun r b c => (⟨r, b, hashString c⟩ : MerkleCommitmentDoc)) _
      (fun _ _ _ => rfl) _ cs 0 (by simpa using hn)]
  by_cases h : root = hashString r <;> simp [h]

/-- After the proofs of a commitment of at most `2^32` proofs are written, the lookup of a key
under its root finds the proof of that `int32` position. -/
theorem find?_upsertAll_merkleProofDocs (r : Hash) (ps : List CommitmentMerkleProof)
    (hn : ps.length ≤ 2 ^ 32) (l : List MerkleProofDoc) (root : String) (b : BitVec 32) :
    (upsertAll MerkleProofDoc.key (merkleProofDocs r ps) l).find?
        (fun doc => doc.key = (root, b)) =
      (if root = hashString r then (ps.get? b.toNat).map fun p => ⟨root, b, p⟩
        else none).or (l.find? fun doc => doc.key = (root, b)) := by
  rw [find?_upsertAll, merkleProofDocs, List.enum,
    lastWrite_enumFrom (fun r b p => (⟨r, b, p⟩ : MerkleProofDoc)) _
      (fun _ _ _ => rfl) _ ps 0 (by simpa using hn)]
  by_cases h : root = hashString r <;> simp [h]

/-! ## `saveCommitment` -/

section Save

variable (c : Commitment) (d : DbMongo)

/-- The leaf documents of a commitment. -/
abbrev leafDocs : List MerkleCommitmentDoc :=
  merkleCommitmentDocs c.getCommitmentHash c.merkleCommitments

/-- The proof documents of a commitment. -/
abbrev proofDocs : List MerkleProofDoc := merkleProofDocs c.getCommitmentHash c.merkleProofs

/-- The store after the first `m` leaf writes and the first `p` proof writes of a save. -/
def afterWrites (m p : Nat) : DbMongo :=
  { d with
    merkleCommitment := upsertAll MerkleCommitmentDoc.key ((leafDocs c).take m) d.merkleCommitment
    merkleProof := upsertAll MerkleProofDoc.key ((proofDocs c).take p) d.merkleProof }

theorem length_leafDocs : (leafDocs c).length = c.merkleCommitments.length := by
  simp [merkleCommitmentDocs]

theorem length_proofDocs : (proofDocs c).length = c.merkleProofs.length := by
  simp [merkleProofDocs]

/-- `saveCommitment` as the two write loops it runs. -/
theorem saveCommitment_eq (rs : List OpResult) :
    d.saveCommitment c rs =
      match upsertEach MerkleCommitmentDoc.key (leafDocs c) rs d.merkleCommitment with
      | (col, some e) => ({ d with merkleCommitment := col }, some e)
      | (col, none) =>
        let (col', err) := upsertEach MerkleProofDoc.key (proofDocs c)
          (rs.drop c.merkleCommitments.length) d.merkleProof
        ({ d with merkleCommitment := col, merkleProof := col' }, err) := by
  unfold saveCommitment saveMerkleCommitments saveMerkleProofs
  dsimp only
  rcases upsertEach MerkleCommitmentDoc.key (leafDocs c) rs d.merkleCommitment with ⟨col, _ | e⟩
  all_goals rfl

/-- Whatever the outcomes of its writes, a save ran a prefix of its leaf writes and, if it ran
them all, a prefix of its proof writes. -/
theorem saveCommitment_prefix (rs : List OpResult) :
    ∃ m p, (d.saveCommitment c rs).1 = afterWrites c d m p := by
  obtain ⟨m, hm⟩ := upsertEach_prefix MerkleCommitmentDoc.key (leafDocs c) rs d.merkleCommitment
  rw [saveCommitment_eq]
  rcases h : upsertEach MerkleCommitmentDoc.key (leafDocs c) rs d.merkleCommitment with ⟨col, _ | e⟩
  · have hcol := upsertEach_ok (show (upsertEach MerkleCommitmentDoc.key (leafDocs c) rs
      d.merkleCommitment).2 = none by rw [h])
    obtain ⟨p, hp⟩ := upsertEach_prefix MerkleProofDoc.key (proofDocs c)
      (rs.drop c.merkleCommitments.length) d.merkleProof
    refine ⟨(leafDocs c).length, p, ?_⟩
    rw [h] at hcol
    simp only [afterWrites, List.take_length, ← hcol, ← hp]
  · refine ⟨m, 0, ?_⟩
    simp only [h] at hm
    simp only [afterWrites, List.take_zero, upsertAll_nil, ← hm]

/-- A save that returned no error ran every write. -/
theorem saveCommitment_ok {rs : List OpResult} (h : (d.saveCommitment c rs).2 = none) :
    (d.saveCommitment c rs).1 =
      afterWrites c d c.merkleCommitments.length c.merkleProofs.length := by
  rw [saveCommitment_eq] at h ⊢
  rcases he : upsertEach MerkleCommitmentDoc.key (leafDocs c) rs d.merkleCommitment with
    ⟨col, _ | e⟩ <;> simp only [he] at h ⊢
  · have hcol := upsertEach_ok (show (upsertEach MerkleCommitmentDoc.key (leafDocs c) rs
      d.merkleCommitment).2 = none by rw [he])
    rw [he] at hcol
    simp only [afterWrites, List.take_of_length_le (length_leafDocs c).le,
      List.take_of_length_le (length_proofDocs c).le, ← hcol, upsertEach_ok h]
  · cases h

/-- The save whose writes all succeed. -/
theorem saveCommitment_nil :
    d.saveCommitment c [] =
      (afterWrites c d c.merkleCommitments.length c.merkleProofs.length, none) := by
  rw [saveCommitment_eq, upsertEach_nil_results]
  simp only [List.drop_nil, upsertEach_nil_results, afterWrites,
    List.take_of_length_le (length_leafDocs c).le, List.take_of_length_le (length_proofDocs c).le]

theorem wellKeyed_afterWrites (hd : d.WellKeyed) (m p : Nat) : (afterWrites c d m p).WellKeyed :=
  ⟨nodup_keys_upsertAll _ hd.1, nodup_keys_upsertAll _ hd.2⟩

/-- A save that failed part way, followed by a save that succeeded, leaves the store a single
successful save leaves. -/
theorem saveCommitment_retry (hd : d.WellKeyed) (rs₁ rs₂ : List OpResult)
    (h : ((d.saveCommitment c rs₁).1.saveCommitment c rs₂).2 = none) :
    ((d.saveCommitment c rs₁).1.saveCommitment c rs₂).1 = (d.saveCommitment c []).1 := by
  obtain ⟨m, p, hmp⟩ := saveCommitment_prefix c d rs₁
  rw [saveCommitment_ok c _ h, hmp, saveCommitment_nil]
  simp only [afterWrites, List.take_of_length_le (length_leafDocs c).le,
    List.take_of_length_le (length_proofDocs c).le, upsertAll_take_idem _ _ hd.1,
    upsertAll_take_idem _ _ hd.2]

/-! ## Lookups after a save -/

/-- After the leaf writes of a commitment of at most `2^32` leaves, a lookup by key under its
root finds the leaf at that `int32` position; any other key finds what it found before. -/
theorem find?_leaf_afterWrites (hn : c.merkleCommitments.length ≤ 2 ^ 32) (p : Nat)
    (root : String) (b : BitVec 32) :
    (afterWrites c d c.merkleCommitments.length p).merkleCommitment.find?
        (fun doc => (doc.merkleRoot, doc.clientPosition) = (root, b)) =
      (if root = hashString c.merkleRoot then
          (c.merkleCommitments.get? b.toNat).map fun h => ⟨root, b, hashString h⟩
        else none).or
        (d.merkleCommitment.find? fun doc => (doc.merkleRoot, doc.clientPosition) = (root, b)) := by
  simp only [afterWrites, List.take_of_length_le (length_leafDocs c).le]
  exact find?_upsertAll_merkleCommitmentDocs _ _ hn _ _ _

/-- After the proof writes of a commitment of at most `2^32` proofs, a lookup by key under its
root finds the proof at that `int32` position; any other key finds what it found before. -/
theorem find?_proof_afterWrites (hn : c.merkleProofs.length ≤ 2 ^ 32) (m : Nat)
    (root : String) (b : BitVec 32) :
    (afterWrites c d m c.merkleProofs.length).merkleProof.find?
        (fun doc => (doc.merkleRoot, doc.clientPosition) = (root, b)) =
      (if root = hashString c.merkleRoot then
          (c.merkleProofs.get? b.toNat).map fun p => ⟨root, b, p⟩
        else none).or
        (d.merkleProof.find? fun doc => (doc.merkleRoot, doc.clientPosition) = (root, b)) := by
  simp only [afterWrites, List.take_of_length_le (length_proofDocs c).le]
  exact find?_upsertAll_merkleProofDocs _ _ hn _ _ _

/-- The leaf a position query finds after the leaf writes. -/
theorem findMerkleCommitment_afterWrites (hn : c.merkleCommitments.length ≤ 2 ^ 32) (p : Nat)
    (root : String) (pos : Int) :
    (afterWrites c d c.merkleCommitments.length p).findMerkleCommitment root pos =
      if -2 ^ 31 ≤ pos ∧ pos < 2 ^ 31 then
        (if root = hashString c.merkleRoot then
            (c.merkleCommitments.get? (BitVec.ofInt 32 pos).toNat).map
              fun h => ⟨root, BitVec.ofInt 32 pos, hashString h⟩
          else none).or (d.findMerkleCommitment root pos)
      else none := by
  unfold findMerkleCommitment
  rw [find?_position_eq MerkleCommitmentDoc.merkleRoot MerkleCommitmentDoc.clientPosition,
    find?_position_eq MerkleCommitmentDoc.merkleRoot MerkleCommitmentDoc.clientPosition]
  split
  · rw [find?_leaf_afterWrites c d hn]
  · rfl

/-- The proof a position query finds after the proof writes. -/
theorem findMerkleProof_afterWrites (hn : c.merkleProofs.length ≤ 2 ^ 32) (m : Nat)
    (root : String) (pos : Int) :
    (afterWrites c d m c.merkleProofs.length).findMerkleProof root pos =
      if -2 ^ 31 ≤ pos ∧ pos < 2 ^ 31 then
        (if root = hashString c.merkleRoot then
            (c.merkleProofs.get? (BitVec.ofInt 32 pos).toNat).map
              fun p => ⟨root, BitVec.ofInt 32 pos, p⟩
          else none).or (d.findMerkleProof root pos)
      else none := by
  unfold findMerkleProof
  rw [find?_position_eq MerkleProofDoc.merkleRoot MerkleProofDoc.clientPosition,
    find?_position_eq MerkleProofDoc.merkleRoot MerkleProofDoc.clientPosition]
  split
  · rw [find?_proof_afterWrites c d hn]
  · rfl

end Save

/-! ## `saveCommitment` by client position -/

theorem wellKeyed_empty : empty.WellKeyed := ⟨List.nodup_nil, List.nodup_nil⟩

/-- A position below `2^31` is stored as itself. -/
theorem ofInt_natCast_of_lt {i : Nat} (h : i < 2 ^ 31) :
    BitVec.ofInt 32 (i : Int) = BitVec.ofNat 32 i ∧ (BitVec.ofInt 32 (i : Int)).toNat = i := by
  rw [BitVec.ofInt_natCast, BitVec.toNat_ofNat]
  exact ⟨rfl, Nat.mod_eq_of_lt (by omega)⟩

/-- A position an `int32` holds that is not one of the first `n` stores no element of them. -/
theorem get?_ofInt_eq_none {β : Type} {xs : List β} (hn : xs.length ≤ 2 ^ 31) {pos : Int}
    (hr : -2 ^ 31 ≤ pos ∧ pos < 2 ^ 31) (h : ¬(0 ≤ pos ∧ pos < xs.length)) :
    xs.get? (BitVec.ofInt 32 pos).toNat = none := by
  rw [List.get?_eq_none, BitVec.toNat_ofInt]
  omega

section Positions

variable (c : Commitment) (d : DbMongo)

/-- The first leaves and proofs of a commitment are found at their positions. -/
theorem find_afterWrites_lt (hn : c.merkleCommitments.length ≤ 2 ^ 31)
    (hproofs : c.merkleProofs.length = c.merkleCommitments.length) :
    let d' := afterWrites c d c.merkleCommitments.length c.merkleProofs.length
    (∀ i (h : i < c.merkleCommitments.length),
      d'.findMerkleCommitment (hashString c.merkleRoot) i =
        some ⟨hashString c.merkleRoot, BitVec.ofNat 32 i,
          hashString (c.merkleCommitments.get ⟨i, h⟩)⟩) ∧
    (∀ i (h : i < c.merkleProofs.length),
      d'.findMerkleProof (hashString c.merkleRoot) i =
        some ⟨hashString c.merkleRoot, BitVec.ofNat 32 i, c.merkleProofs.get ⟨i, h⟩⟩) := by
  refine ⟨fun i hi => ?_, fun i hi => ?_⟩
  · obtain ⟨h₁, h₂⟩ := ofInt_natCast_of_lt (i := i) (by omega)
    rw [findMerkleCommitment_afterWrites c d (by omega), if_pos (by omega), if_pos rfl, h₂,
      List.get?_eq_get hi, h₁]
    rfl
  · obtain ⟨h₁, h₂⟩ := ofInt_natCast_of_lt (i := i) (by omega)
    rw [findMerkleProof_afterWrites c d (by omega), if_pos (by omega), if_pos rfl, h₂,
      List.get?_eq_get hi, h₁]
    rfl

/-- Every other position query finds what it found before. -/
theorem find_afterWrites_other (hn : c.merkleCommitments.length ≤ 2 ^ 31)
    (hproofs : c.merkleProofs.length = c.merkleCommitments.length) (root : String) (pos : Int)
    (hne : ¬(root = hashString c.merkleRoot ∧ 0 ≤ pos ∧ pos < c.merkleCommitments.length)) :
    let d' := afterWrites c d c.merkleCommitments.length c.merkleProofs.length
    d'.findMerkleCommitment root pos = d.findMerkleCommitment root pos ∧
      d'.findMerkleProof root pos = d.findMerkleProof root pos := by
  intro d'
  rw [findMerkleCommitment_afterWrites c d (by omega), findMerkleProof_afterWrites c d (by omega)]
  by_cases hr : -2 ^ 31 ≤ pos ∧ pos < 2 ^ 31
  · rw [if_pos hr, if_pos hr]
    by_cases hroot : root = hashString c.merkleRoot
    · have h : ¬(0 ≤ pos ∧ pos < c.merkleCommitments.length) := fun h => hne ⟨hroot, h⟩
      rw [if_pos hroot, if_pos hroot, get?_ofInt_eq_none hn hr h,
        get?_ofInt_eq_none (by omega) hr (hproofs ▸ h)]
      exact ⟨rfl, rfl⟩
    · rw [if_neg hroot, if_neg hroot]
      exact ⟨rfl, rfl⟩
  · unfold findMerkleCommitment findMerkleProof
    rw [if_neg hr, if_neg hr,
      find?_position_eq MerkleCommitmentDoc.merkleRoot MerkleCommitmentDoc.clientPosition,
      find?_position_eq MerkleProofDoc.merkleRoot MerkleProofDoc.clientPosition, if_neg hr, if_neg hr]
    exact ⟨rfl, rfl⟩

end Positions

theorem saveCommitment_overrides_positions (d : DbMongo) (hd : d.WellKeyed) (c : Commitment) :
    (∀ rs, (d.saveCommitment c rs).2 = none →
      (c.merkleProofs.length = c.merkleCommitments.length →
        c.merkleCommitments.length ≤ 2 ^ 31 →
        (∀ i (h : i < c.merkleCommitments.length),
          (d.saveCommitment c rs).1.findMerkleCommitment (hashString c.merkleRoot) i =
            some ⟨hashString c.merkleRoot, BitVec.ofNat 32 i,
              hashString (c.merkleCommitments.get ⟨i, h⟩)⟩) ∧
        (∀ i (h : i < c.merkleProofs.length),
          (d.saveCommitment c rs).1.findMerkleProof (hashString c.merkleRoot) i =
            some ⟨hashString c.merkleRoot, BitVec.ofNat 32 i, c.merkleProofs.get ⟨i, h⟩⟩) ∧
        (∀ root (pos : Int),
          ¬(root = hashString c.merkleRoot ∧ 0 ≤ pos ∧ pos < c.merkleCommitments.length) →
          (d.saveCommitment c rs).1.findMerkleCommitment root pos =
              d.findMerkleCommitment root pos ∧
            (d.saveCommitment c rs).1.findMerkleProof root pos = d.findMerkleProof root pos)) ∧
      (d.saveCommitment c rs).1.attestation = d.attestation ∧
      (d.saveCommitment c rs).1.latestCommitment = d.latestCommitment ∧
      (d.saveCommitment c rs).1.WellKeyed) ∧
    (d.saveCommitment c []).2 = none ∧
    ∀ rs₁ rs₂, ((d.saveCommitment c rs₁).1.saveCommitment c rs₂).2 = none →
      ((d.saveCommitment c rs₁).1.saveCommitment c rs₂).1 = (d.saveCommitment c []).1 := by
  refine ⟨fun rs h => ?_, by rw [saveCommitment_nil], saveCommitment_retry c d hd⟩
  rw [saveCommitment_ok c d h]
  refine ⟨fun hproofs hn => ?_, rfl, rfl, wellKeyed_afterWrites c d hd _ _⟩
  obtain ⟨hleaf, hproof⟩ := find_afterWrites_lt c d hn hproofs
  exact ⟨hleaf, hproof, fun root pos hne => find_afterWrites_other c d hn hproofs root pos hne⟩

/-- A one-leaf commitment saved into the empty store is found at position 0. -/
theorem saveCommitment_overrides_positions_one :
    (empty.saveCommitment ⟨[5], [⟨[]⟩], 5⟩ []).1.findMerkleCommitment (hashString 5) 0 =
      some ⟨hashString 5, 0, hashString 5⟩ :=
  (((saveCommitment_overrides_positions empty wellKeyed_empty ⟨[5], [⟨[]⟩], 5⟩).1 []
    (by rw [saveCommitment_nil])).1 rfl (by decide)).1 0 (by decide)

/-- A commitment of `2^31 + 1` leaves: its last leaf is not at position `2^31`, which no `int32`
holds, but at `-2^31`. -/
theorem saveCommitment_position_overflow :
    let c : Commitment := ⟨List.replicate (2 ^ 31 + 1) 0, List.replicate (2 ^ 31 + 1) ⟨[]⟩, 0⟩
    c.merkleProofs.length = c.merkleCommitments.length ∧ empty.WellKeyed ∧
      (empty.saveCommitment c []).2 = none ∧
      (empty.saveCommitment c []).1.findMerkleCommitment (hashString 0) (2 ^ 31) = none ∧
      (empty.saveCommitment c []).1.findMerkleCommitment (hashString 0) (-2 ^ 31) =
        some ⟨hashString 0, BitVec.ofNat 32 (2 ^ 31), hashString 0⟩ := by
  intro c
  have hn : c.merkleCommitments.length ≤ 2 ^ 32 := by simp only [c, List.length_replicate]; omega
  refine ⟨by simp only [c, List.length_replicate], wellKeyed_empty, by rw [saveCommitment_nil], ?_, ?_⟩
  · rw [saveCommitment_nil, findMerkleCommitment_afterWrites c empty hn,
      if_neg (by omega)]
  · rw [saveCommitment_nil, findMerkleCommitment_afterWrites c empty hn, if_pos (by omega),
      if_pos rfl]
    have h₁ : (BitVec.ofInt 32 (-2 ^ 31)).toNat = 2 ^ 31 := by rfl
    have h₂ : BitVec.ofInt 32 (-2 ^ 31) = BitVec.ofNat 32 (2 ^ 31) := by rfl
    rw [h₁, h₂, List.get?_eq_getElem?, List.getElem?_replicate, if_pos (by omega)]
    rfl

/-! ## The reader -/

theorem saveCommitment_attestation (c : Commitment) (rs : List OpResult) (d : DbMongo) :
    (d.saveCommitment c rs).1.attestation = d.attestation ∧
      (d.saveCommitment c rs).1.latestCommitment = d.latestCommitment := by
  obtain ⟨m, p, h⟩ := saveCommitment_prefix c d rs
  rw [h]
  exact ⟨rfl, rfl⟩

/-- With no `LatestCommitment` documents, `getAttestationCommitment` of a stored txid builds the
commitment over no leaves. -/
theorem getAttestationCommitment_of_latestCommitment_nil
    (newCommitment : List Hash → Except Error Commitment) {d : DbMongo} {t : Hash}
    (hd : d.latestCommitment = []) (ht : ∃ doc ∈ d.attestation, doc.txid = hashString t) :
    d.getAttestationCommitment newCommitment t = newCommitment [] := by
  unfold getAttestationCommitment
  obtain ⟨doc, hdoc, htxid⟩ := ht
  cases hf : d.attestation.find? (·.txid = hashString t) with
  | none => exact absurd (List.find?_eq_none.1 hf doc hdoc) (by simp [htxid])
  | some _ => simp only [hd, List.filter_nil, sortByClientPosition, List.insertionSort]; rfl

theorem getAttestationCommitment_ignores_saved
    (newCommitment : List Hash → Except Error Commitment)
    (hnew : ∀ l c', newCommitment l = .ok c' → c'.merkleCommitments = l)
    (d : DbMongo) (hd : d.latestCommitment = []) (now : Time) (a : Attestation) (confirmed : Bool)
    (c : Commitment) (hc : c.merkleCommitments ≠ []) (rs : List OpResult) :
    ((d.saveAttestation now a confirmed .ok).1.saveCommitment c rs).1.getAttestationCommitment
        newCommitment a.txid = newCommitment [] ∧
      ∀ c', ((d.saveAttestation now a confirmed .ok).1.saveCommitment c rs).1.getAttestationCommitment
        newCommitment a.txid = .ok c' → c'.merkleCommitments ≠ c.merkleCommitments := by
  obtain ⟨hatt, hlatest⟩ := saveCommitment_attestation c rs (d.saveAttestation now a confirmed .ok).1
  rw [saveAttestation_ok] at hatt hlatest ⊢
  have h := getAttestationCommitment_of_latestCommitment_nil newCommitment (t := a.txid)
    (hlatest.trans hd) ⟨attestationDoc now a confirmed, hatt ▸ mem_upsert_self _ _ _, rfl⟩
  exact ⟨h, fun c' hc' => by rw [hnew _ _ (h ▸ hc')]; exact hc.symm⟩

/-- The empty store, a one-leaf commitment, and a Merkle component that keeps the leaves: the
read gives the commitment over no leaves. -/
theorem getAttestationCommitment_ignores_saved_one :
    ((empty.saveAttestation 0 (Attestation.newAttestation 7 ⟨[5], [⟨[]⟩], 5⟩) true .ok).1.saveCommitment
        ⟨[5], [⟨[]⟩], 5⟩ []).1.getAttestationCommitment (fun l => .ok ⟨l, [], 0⟩) 7 =
      .ok ⟨[], [], 0⟩ :=
  (getAttestationCommitment_ignores_saved (fun l => .ok ⟨l, [], 0⟩)
    (fun _ _ h => by cases h; rfl) empty rfl 0 (Attestation.newAttestation 7 ⟨[5], [⟨[]⟩], 5⟩) true
    ⟨[5], [⟨[]⟩], 5⟩ (by simp) []).1

end DbMongo

end Mainstay
