import Mainstay.Models
import Mathlib.Data.List.Nodup

/-!
# Upsert — `FindOneAndUpdate` with `Upsert(true)` on a keyed collection

Every write of the store is a `FindOneAndUpdate` whose filter is the document's key and whose
`$set` covers every field the document has: the first document with that key is replaced, or,
when there is none, the document is inserted at the end of the collection's natural order.

A write can fail: the driver returns an error from the write itself, or the decode of its result
does, and a failure may come before or after the server applied the write. `upsertEach` is the
loop of `saveMerkleCommitments` and `saveMerkleProofs`: one write per document, stopping at the
first failure.

The results: a lookup by key after a run of writes sees the last write of that key
(`find?_upsertAll`); writes keep one document per key (`nodup_keys_upsertAll`); and running the
writes again after any prefix of them ran leaves the same collection as running them once
(`upsertAll_take_idem`), which is what makes a failed save repairable by a retry.
-/

namespace Mainstay

/-- How one write ends: applied with no error, or with an error, applied or not. -/
inductive OpResult
  | ok
  | fail (err : Error) (applied : Bool)
  deriving DecidableEq, Repr

section Upsert

variable {α κ : Type} [DecidableEq κ] (key : α → κ)

/-- `FindOneAndUpdate(filter, {$set: ...}, Upsert(true))`: replace the first document with
`x`'s key by `x`, or insert `x`. -/
def upsert (x : α) : List α → List α
  | [] => [x]
  | y :: ys => if key y = key x then x :: ys else y :: upsert x ys

/-- The writes of a loop that met no failure. -/
def upsertAll (xs : List α) (l : List α) : List α :=
  xs.foldl (fun l x => upsert key x l) l

/-- One write per document, in order, stopping at the first failure; `rs` holds the outcome
of each write, and the writes it has no entry for succeed. -/
def upsertEach : List α → List OpResult → List α → List α × Option Error
  | [], _, l => (l, none)
  | x :: xs, rs, l =>
    match rs.headD .ok with
    | .ok => upsertEach xs rs.tail (upsert key x l)
    | .fail e applied => (if applied then upsert key x l else l, some e)

/-- The last of `xs` with key `k`. -/
def lastWrite : List α → κ → Option α
  | [], _ => none
  | x :: xs, k => (lastWrite xs k).or (if key x = k then some x else none)

variable {key}

@[simp] theorem upsertAll_nil (l : List α) : upsertAll key [] l = l := rfl

@[simp] theorem upsertAll_cons (x : α) (xs l : List α) :
    upsertAll key (x :: xs) l = upsertAll key xs (upsert key x l) := rfl

theorem upsertAll_append (xs ys l : List α) :
    upsertAll key (xs ++ ys) l = upsertAll key ys (upsertAll key xs l) :=
  List.foldl_append _ _ _ _

theorem mem_upsert {x y : α} {l : List α} (h : y ∈ upsert key x l) : y = x ∨ y ∈ l := by
  induction l with
  | nil => simpa [upsert] using h
  | cons z zs ih =>
    unfold upsert at h
    split at h
    · rcases List.mem_cons.1 h with rfl | h
      · exact .inl rfl
      · exact .inr (.tail _ h)
    · rcases List.mem_cons.1 h with rfl | h
      · exact .inr (.head _)
      · exact (ih h).imp_right (.tail _)

theorem mem_upsert_self (key : α → κ) (x : α) (l : List α) : x ∈ upsert key x l := by
  induction l with
  | nil => exact .head _
  | cons z zs ih =>
    unfold upsert
    split
    · exact .head _
    · exact .tail _ ih

/-! ## Lookups -/

theorem find?_upsert (x : α) (l : List α) (k : κ) :
    (upsert key x l).find? (fun y => key y = k) =
      if key x = k then some x else l.find? (fun y => key y = k) := by
  induction l with
  | nil => by_cases h : key x = k <;> simp [upsert, h]
  | cons y ys ih =>
    unfold upsert
    by_cases hy : key y = key x
    · by_cases h : key x = k <;> simp_all
    · by_cases h : key y = k
      · have : key x ≠ k := fun h' => hy (h.trans h'.symm)
        simp_all
      · simp_all

/-- A lookup after a run of writes sees the last write of the key, or what was there. -/
theorem find?_upsertAll (xs l : List α) (k : κ) :
    (upsertAll key xs l).find? (fun y => key y = k) =
      (lastWrite key xs k).or (l.find? fun y => key y = k) := by
  induction xs generalizing l with
  | nil => rfl
  | cons x xs ih =>
    rw [upsertAll_cons, ih, find?_upsert, lastWrite, Option.or_assoc]
    split <;> simp

/-! ## Keys -/

theorem keys_upsert (x : α) (l : List α) :
    (upsert key x l).map key =
      if key x ∈ l.map key then l.map key else l.map key ++ [key x] := by
  induction l with
  | nil => simp [upsert]
  | cons y ys ih =>
    unfold upsert
    by_cases hy : key y = key x
    · simp [hy]
    · rw [if_neg hy, List.map_cons, ih]
      by_cases h : key x ∈ ys.map key <;> simp [h, Ne.symm hy]

theorem mem_keys_upsert {x : α} {l : List α} {k : κ} (hk : k ∈ l.map key ∨ k = key x) :
    k ∈ (upsert key x l).map key := by
  rw [keys_upsert]
  split <;> rcases hk with hk | rfl <;> simp_all

theorem nodup_keys_upsert (x : α) {l : List α} (hl : (l.map key).Nodup) :
    ((upsert key x l).map key).Nodup := by
  rw [keys_upsert]
  split
  · exact hl
  · rename_i h
    exact hl.append (List.nodup_singleton _) fun a ha hb => h (List.mem_singleton.1 hb ▸ ha)

theorem nodup_keys_upsertAll (xs : List α) {l : List α} (hl : (l.map key).Nodup) :
    ((upsertAll key xs l).map key).Nodup := by
  induction xs generalizing l with
  | nil => exact hl
  | cons x xs ih => exact ih (nodup_keys_upsert x hl)

theorem mem_keys_upsertAll {xs l : List α} {k : κ} (hk : k ∈ l.map key ∨ ∃ x ∈ xs, key x = k) :
    k ∈ (upsertAll key xs l).map key := by
  induction xs generalizing l with
  | nil => simpa using hk
  | cons x xs ih =>
    apply ih
    rcases hk with hk | ⟨y, hy, rfl⟩
    · exact .inl (mem_keys_upsert (.inl hk))
    · rcases List.mem_cons.1 hy with rfl | hy
      · exact .inl (mem_keys_upsert (.inr rfl))
      · exact .inr ⟨y, hy, rfl⟩

/-- With one document per key, the lookup of a document's key finds it. -/
theorem find?_key_of_mem {l : List α} (hl : (l.map key).Nodup) {y : α} (hy : y ∈ l) :
    l.find? (fun z => key z = key y) = some y := by
  induction l with
  | nil => cases hy
  | cons z zs ih =>
    rw [List.map_cons, List.nodup_cons] at hl
    rcases List.mem_cons.1 hy with rfl | hy
    · simp
    · have : key z ≠ key y := fun h => hl.1 (h ▸ List.mem_map_of_mem key hy)
      simp [this, ih hl.2 hy]

/-! ## Writing again -/

/-- A write of a key that is there replaces that document in place. -/
theorem upsert_of_mem_keys {x : α} {l : List α} (hl : (l.map key).Nodup)
    (hx : key x ∈ l.map key) : upsert key x l = l.map fun y => if key y = key x then x else y := by
  induction l with
  | nil => cases hx
  | cons y ys ih =>
    rw [List.map_cons, List.nodup_cons] at hl
    rw [List.map_cons] at hx
    unfold upsert
    by_cases hy : key y = key x
    · have : ∀ z ∈ ys, key z ≠ key x := fun z hz h => hl.1 (hy ▸ h ▸ List.mem_map_of_mem key hz)
      simp [hy, List.map_congr_left (fun z hz => if_neg (this z hz))]
    · have hx' : key x ∈ ys.map key := (List.mem_cons.1 hx).resolve_left fun h => hy h.symm
      rw [if_neg hy, List.map_cons, if_neg hy, ih hl.2 hx']

/-- Writes of keys that are all there replace each document by the last write of its key. -/
theorem upsertAll_of_mem_keys {xs l : List α} (hl : (l.map key).Nodup)
    (hxs : ∀ x ∈ xs, key x ∈ l.map key) :
    upsertAll key xs l = l.map fun y => (lastWrite key xs (key y)).getD y := by
  induction xs generalizing l with
  | nil => simp [lastWrite]
  | cons x xs ih =>
    have hkeys : (l.map fun y => if key y = key x then x else y).map key = l.map key := by
      simp only [List.map_map]
      exact List.map_congr_left fun y _ => by by_cases h : key y = key x <;> simp [h]
    rw [upsertAll_cons, upsert_of_mem_keys hl (hxs x (.head _)),
      ih (hkeys ▸ hl) (fun y hy => hkeys ▸ hxs y (.tail _ hy)), List.map_map]
    refine List.map_congr_left fun y _ => ?_
    by_cases h : key y = key x
    · cases hw : lastWrite key xs (key x) <;> simp [lastWrite, h, hw]
    · cases hw : lastWrite key xs (key y) <;> simp [lastWrite, h, hw, Ne.symm h]

/-- Running the same writes twice leaves what running them once leaves. -/
theorem upsertAll_idem (xs : List α) {l : List α} (hl : (l.map key).Nodup) :
    upsertAll key xs (upsertAll key xs l) = upsertAll key xs l := by
  have hM := nodup_keys_upsertAll xs hl
  rw [upsertAll_of_mem_keys hM fun x hx => mem_keys_upsertAll (.inr ⟨x, hx, rfl⟩)]
  conv_rhs => rw [← List.map_id (upsertAll key xs l)]
  refine List.map_congr_left fun y hy => ?_
  -- the document there is the last write of its key, if there was one
  have h : (upsertAll key xs l).find? (fun z => key z = key y) = _ := find?_upsertAll xs l (key y)
  rw [find?_key_of_mem hM hy] at h
  cases hw : lastWrite key xs (key y) <;> simp_all

/-- Running the writes after any prefix of them ran leaves what running them once leaves. -/
theorem upsertAll_take_idem (xs : List α) (n : Nat) {l : List α} (hl : (l.map key).Nodup) :
    upsertAll key xs (upsertAll key (xs.take n) l) = upsertAll key xs l := by
  calc upsertAll key xs (upsertAll key (xs.take n) l)
      = upsertAll key (xs.drop n) (upsertAll key (xs.take n) (upsertAll key (xs.take n) l)) := by
        rw [← upsertAll_append (xs.take n) (xs.drop n), List.take_append_drop]
    _ = upsertAll key (xs.drop n) (upsertAll key (xs.take n) l) := by rw [upsertAll_idem _ hl]
    _ = upsertAll key xs l := by rw [← upsertAll_append, List.take_append_drop]

/-! ## The write loop -/

variable (key) in
theorem upsertEach_nil_results (xs l : List α) : upsertEach key xs [] l = (upsertAll key xs l, none) := by
  induction xs generalizing l with
  | nil => rfl
  | cons x xs ih => exact ih _

/-- A loop that returned no error ran every write. -/
theorem upsertEach_ok {xs : List α} {rs : List OpResult} {l : List α}
    (h : (upsertEach key xs rs l).2 = none) : (upsertEach key xs rs l).1 = upsertAll key xs l := by
  induction xs generalizing rs l with
  | nil => rfl
  | cons x xs ih =>
    unfold upsertEach at h ⊢
    cases hr : rs.headD .ok <;> simp only [hr] at h ⊢
    · exact ih h
    · cases h

variable (key) in
/-- Whatever the outcomes, the loop ran a prefix of its writes. -/
theorem upsertEach_prefix (xs : List α) (rs : List OpResult) (l : List α) :
    ∃ n, (upsertEach key xs rs l).1 = upsertAll key (xs.take n) l := by
  induction xs generalizing rs l with
  | nil => exact ⟨0, rfl⟩
  | cons x xs ih =>
    unfold upsertEach
    split
    · obtain ⟨n, hn⟩ := ih rs.tail (upsert key x l)
      exact ⟨n + 1, hn⟩
    · rename_i e applied _
      cases applied
      · exact ⟨0, rfl⟩
      · exact ⟨1, rfl⟩

end Upsert

end Mainstay
