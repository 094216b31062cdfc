import SchemaCall.Proofs.Memo.Recollection

/-!
# What the operations of a memo do

One law for each operation, in terms of the remembered calls. The operations find a record by the
digest of its key. Where digests tell the keys of the records apart from a given one
(`Memo.Tells`), the laws can speak of keys instead.
-/

namespace SchemaCall.Memo

/-- What becomes of a memo when a call that it did not remember is answered: it counts the call, and
remembers the result if there is one. -/
def learn (memo : Memo) (key : CallKey) : Except CallError Json → Memo
  | .ok result => memo.countMiss.insert ⟨key, result⟩
  | .error _ => memo.countMiss

/-! ## What is remembered -/

/-- What is found under a digest is remembered, and its key has this digest. -/
theorem mem_of_find? {memo : Memo} {hash : String} {record : CallRecord}
    (h : memo.find? hash = some record) : record ∈ memo.records ∧ record.key.hash = hash :=
  memo.coherent.find?_eq_some_iff.mp h

/-- Nothing is found under a digest that no remembered call has. -/
theorem find?_eq_none_iff {memo : Memo} {hash : String} :
    memo.find? hash = none ↔ ∀ record ∈ memo.records, record.key.hash ≠ hash := by
  simp [find?_eq, Recollection.find?, recollection]

private theorem records_touch (memo : Memo) (hash : String) :
    (memo.touch hash).records = (memo.recollection.touch hash).records :=
  congrArg Recollection.records (memo.recollection_touch hash)

private theorem records_insert (memo : Memo) (record : CallRecord) :
    (memo.insert record).records = (memo.recollection.insert record).records :=
  congrArg Recollection.records (memo.recollection_insert record)

/-- Using a remembered call adds nothing. -/
theorem mem_of_mem_touch {memo : Memo} {hash : String} {record : CallRecord}
    (h : record ∈ (memo.touch hash).records) : record ∈ memo.records := by
  rw [records_touch, Recollection.touch] at h
  split at h
  · rename_i used _ hfind
    rcases List.mem_append.mp h with hothers | hlast
    · exact (List.mem_filter.mp hothers).1
    · rw [List.mem_singleton.mp hlast]
      exact List.mem_of_find?_eq_some hfind
  · exact h

/-- Remembering a call adds no other. -/
theorem mem_insert {memo : Memo} {new record : CallRecord}
    (h : record ∈ (memo.insert new).records) : record = new ∨ record ∈ memo.records := by
  rw [records_insert, Recollection.insert] at h
  split at h
  · exact Recollection.mem_replace h
  · rcases List.mem_append.mp (List.mem_of_mem_drop h) with hothers | hlast
    · exact .inr (List.mem_filter.mp hothers).1
    · exact .inl (List.mem_singleton.mp hlast)

/-- What a memo knows after an answer, it knew before or has learnt from the answer. -/
theorem mem_learn {memo : Memo} {key : CallKey} {answer : Except CallError Json}
    {record : CallRecord} (h : record ∈ (memo.learn key answer).records) :
    record ∈ memo.records ∨ answer = .ok record.result ∧ record.key = key := by
  cases answer with
  | error error => exact .inl h
  | ok result =>
    rcases mem_insert h with rfl | hold
    · exact .inr ⟨rfl, rfl⟩
    · exact .inl hold

/-! ## Keys instead of digests -/

/-- Digests tell the remembered calls from the one with the key. -/
def Tells (memo : Memo) (key : CallKey) : Prop :=
  ∀ record ∈ memo.records, record.key.hash = key.hash → record.key = key

/-- A remembered call is found, if digests tell its key from the others. -/
theorem find?_eq_some_of_mem {memo : Memo} (distinct : (memo.records.map (·.key)).Nodup)
    {record : CallRecord} (htells : memo.Tells record.key) (h : record ∈ memo.records) :
    memo.find? record.key.hash = some record := by
  cases hfind : memo.find? record.key.hash with
  | none => exact absurd rfl (find?_eq_none_iff.mp hfind record h)
  | some other =>
    obtain ⟨hother, hhash⟩ := mem_of_find? hfind
    rw [List.inj_on_of_nodup_map distinct hother h (htells other hother hhash)]

/-- A call that is not remembered is not found, if digests tell its key from the remembered ones. -/
theorem find?_eq_none_of_forall_ne {memo : Memo} {key : CallKey} (htells : memo.Tells key)
    (h : ∀ record ∈ memo.records, record.key ≠ key) : memo.find? key.hash = none :=
  find?_eq_none_iff.mpr fun record hrecord hhash => h record hrecord (htells record hrecord hhash)

/-- Without a bound, using a call changes nothing. -/
theorem records_touch_unbounded {memo : Memo} (hcapacity : memo.capacity = .unbounded)
    (hash : String) : (memo.touch hash).records = memo.records := by
  rw [records_touch, Recollection.touch, capacity_recollection,
    hcapacity]
  rfl

/-- With a bound, the record that is used moves to the end. -/
theorem records_touch_atMost {memo : Memo} {count : ℕ} {positive : 0 < count}
    (hcapacity : memo.capacity = .atMost count positive) {hash : String} {record : CallRecord}
    (hfind : memo.find? hash = some record) : (memo.touch hash).records =
      (memo.records.filter fun other => other.key.hash ≠ hash) ++ [record] := by
  rw [find?_eq] at hfind
  rw [records_touch, Recollection.touch, capacity_recollection,
    hcapacity, hfind]
  rfl

/-- Where digests tell the keys apart, the other records are those with other keys. -/
theorem filter_hash_eq {memo : Memo} {key : CallKey} (htells : memo.Tells key) :
    (memo.records.filter fun other => other.key.hash ≠ key.hash) =
      memo.records.filter (·.key ≠ key) := by
  refine List.filter_congr fun record hrecord => ?_
  have hkey : record.key.hash = key.hash ↔ record.key = key :=
    ⟨htells record hrecord, congrArg CallKey.hash⟩
  simp only [ne_eq, hkey]

/-- Without a bound, a new record is added at the end. -/
theorem records_insert_unbounded {memo : Memo} (hcapacity : memo.capacity = .unbounded)
    {key : CallKey} (h : memo.find? key.hash = none) (result : Json) :
    (memo.insert ⟨key, result⟩).records = memo.records ++ [⟨key, result⟩] := by
  rw [records_insert, Recollection.insert, capacity_recollection,
    hcapacity]
  exact Recollection.replace_of_forall_ne (find?_eq_none_iff.mp h)

/-- With a bound, the end of the list is kept when a new record is added. -/
theorem records_insert_atMost {memo : Memo} {count : ℕ} {positive : 0 < count}
    (hcapacity : memo.capacity = .atMost count positive) {key : CallKey}
    (h : memo.find? key.hash = none) (result : Json) :
    (memo.insert ⟨key, result⟩).records =
      List.rtake (memo.records ++ [⟨key, result⟩]) count := by
  have hothers : memo.recollection.others key.hash = memo.records :=
    List.filter_eq_self.mpr (by simpa using find?_eq_none_iff.mp h)
  rw [records_insert, Recollection.insert, capacity_recollection,
    hcapacity]
  dsimp only
  rw [hothers]

/-! ## What stays, and what is counted -/

/-- Using a call leaves the bound as it was. -/
@[simp] theorem capacity_touch (memo : Memo) (hash : String) :
    (memo.touch hash).capacity = memo.capacity := by
  have hlist := congrArg Recollection.capacity (memo.recollection_touch hash)
  rw [Recollection.touch] at hlist
  split at hlist <;> exact hlist

/-- Remembering a call leaves the bound as it was. -/
@[simp] theorem capacity_insert (memo : Memo) (record : CallRecord) :
    (memo.insert record).capacity = memo.capacity := by
  have hlist := congrArg Recollection.capacity (memo.recollection_insert record)
  rw [Recollection.insert] at hlist
  split at hlist <;> exact hlist

@[simp] theorem capacity_countHit (memo : Memo) : memo.countHit.capacity = memo.capacity := rfl

@[simp] theorem records_countHit (memo : Memo) : memo.countHit.records = memo.records := rfl

@[simp] theorem hits_insert (memo : Memo) (record : CallRecord) :
    (memo.insert record).hits = memo.hits := rfl

@[simp] theorem misses_insert (memo : Memo) (record : CallRecord) :
    (memo.insert record).misses = memo.misses := rfl

/-- An answer leaves the bound as it was. -/
@[simp] theorem capacity_learn (memo : Memo) (key : CallKey) (answer : Except CallError Json) :
    (memo.learn key answer).capacity = memo.capacity := by
  cases answer with
  | error error => rfl
  | ok result => exact capacity_insert _ _

/-- An answer that had to be learnt is not a hit. -/
@[simp] theorem hits_learn (memo : Memo) (key : CallKey) (answer : Except CallError Json) :
    (memo.learn key answer).hits = memo.hits := by
  cases answer with
  | error error => rfl
  | ok result => exact hits_insert _ _

/-- An answer that had to be learnt is one more miss, also when it is a failure. -/
@[simp] theorem misses_learn (memo : Memo) (key : CallKey) (answer : Except CallError Json) :
    (memo.learn key answer).misses = memo.misses + 1 := by
  cases answer with
  | error error => rfl
  | ok result => exact misses_insert _ _

/-! ## What the counters tell -/

/-- Of so many calls the memo has passed so many on. These are its misses, and the others its hits,
in 64 bits each. -/
structure Counted (memo : Memo) (calls passed : ℕ) : Prop where
  le : passed ≤ calls
  hits : memo.hits = .ofNat (calls - passed)
  misses : memo.misses = .ofNat passed

namespace Counted

variable {memo after : Memo} {calls passed : ℕ}

/-- After one more hit the memo has seen one more call, and passed on no more than before. -/
theorem hit (h : memo.Counted calls passed) (hits : after.hits = memo.hits + 1)
    (misses : after.misses = memo.misses) : after.Counted (calls + 1) passed where
  le := Nat.le_succ_of_le h.le
  hits := by
    rw [hits, h.hits, Nat.sub_add_comm h.le, UInt64.ofNat_add]
    rfl
  misses := misses.trans h.misses

/-- After one more miss the memo has seen one more call, and passed on one more. -/
theorem miss (h : memo.Counted calls passed) (hits : after.hits = memo.hits)
    (misses : after.misses = memo.misses + 1) : after.Counted (calls + 1) (passed + 1) where
  le := Nat.succ_le_succ h.le
  hits := by rw [hits, h.hits, Nat.add_sub_add_right]
  misses := by
    rw [misses, h.misses, UInt64.ofNat_add]
    rfl

/-- The two counters together have the number of calls, in 64 bits. -/
theorem hits_add_misses (h : memo.Counted calls passed) :
    memo.hits + memo.misses = .ofNat calls := by
  rw [h.hits, h.misses, ← UInt64.ofNat_add, Nat.sub_add_cancel h.le]

/-- As long as the calls can be counted in 64 bits, the misses are the calls passed on. -/
theorem toNat_misses (h : memo.Counted calls passed) (hbound : calls < UInt64.size) :
    memo.misses.toNat = passed := by
  rw [h.misses, UInt64.toNat_ofNat_of_lt' (Nat.lt_of_le_of_lt h.le hbound)]

/-- As long as the calls can be counted in 64 bits, the hits are the calls not passed on. -/
theorem toNat_hits (h : memo.Counted calls passed) (hbound : calls < UInt64.size) :
    memo.hits.toNat = calls - passed := by
  rw [h.hits, UInt64.toNat_ofNat_of_lt' (Nat.lt_of_le_of_lt (Nat.sub_le _ _) hbound)]

end Counted

/-- A new memo has counted nothing. -/
theorem counted_empty (capacity : Capacity) : (empty capacity).Counted 0 0 :=
  ⟨Nat.le_refl 0, rfl, rfl⟩

end SchemaCall.Memo
