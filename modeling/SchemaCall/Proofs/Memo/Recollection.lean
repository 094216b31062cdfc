import SchemaCall.Proofs.Memo.Recency

/-!
# Memos as lists

A memo comes to one list of records (`Recollection`): in the order in which calls were first
answered, or with a bound in the order in which they were last used. What is found in a store, how
much there is in it, and what becomes of it can all be told by this list, whichever kind of store it
is (`Memo.find?_eq`, `Memo.size_eq_length`, `Memo.recollection_touch`, `Memo.recollection_insert`).
So the list beside a map never gets out of step with the map
(`Store.Coherent.map_hash_records`), and the order of a cache is that of the list, read from the
other end.
-/

namespace SchemaCall

/-! ## The list -/

/-- A capacity and a list of remembered calls, the one that will be dropped first in front. -/
structure Recollection where
  capacity : Capacity
  records : List CallRecord

namespace Recollection

/-- The record of the call whose key has the given digest. -/
def find? (recollection : Recollection) (hash : String) : Option CallRecord :=
  recollection.records.find? fun record => record.key.hash = hash

/-- The records of the other calls. -/
def others (recollection : Recollection) (hash : String) : List CallRecord :=
  recollection.records.filter fun record => record.key.hash ≠ hash

/-- Note that a remembered call was used: with a bound it becomes the most recent one. -/
def touch (recollection : Recollection) (hash : String) : Recollection :=
  match recollection.capacity, recollection.find? hash with
  | .atMost .., some record =>
    { recollection with records := recollection.others hash ++ [record] }
  | _, _ => recollection

/-- Replace the record with the same digest, or add the record at the end. -/
def replace (record : CallRecord) : List CallRecord → List CallRecord
  | [] => [record]
  | first :: rest =>
    if first.key.hash = record.key.hash then record :: rest else first :: replace record rest

/-- Remember a call. -/
def insert (recollection : Recollection) (record : CallRecord) : Recollection :=
  match recollection.capacity with
  | .unbounded => { recollection with records := replace record recollection.records }
  | .atMost count _ =>
    { recollection with
      records := (recollection.others record.key.hash ++ [record]).rtake count }

/-- If no record has the digest of the new one, the new one comes to the end. -/
theorem replace_of_forall_ne {new : CallRecord} {records : List CallRecord}
    (h : ∀ record ∈ records, record.key.hash ≠ new.key.hash) :
    replace new records = records ++ [new] := by
  induction records with
  | nil => rfl
  | cons first rest ih =>
    rw [replace, if_neg (h first List.mem_cons_self), List.cons_append,
      ih fun record hrecord => h record (List.mem_cons_of_mem _ hrecord)]

/-- Replacing brings in the new record and no other. -/
theorem mem_replace {new record : CallRecord} {records : List CallRecord}
    (h : record ∈ replace new records) : record = new ∨ record ∈ records := by
  induction records with
  | nil => exact .inl (List.mem_singleton.mp h)
  | cons first rest ih =>
    rw [replace] at h
    split at h
    · exact (List.mem_cons.mp h).imp_right (List.mem_cons_of_mem _)
    · rcases List.mem_cons.mp h with rfl | hrest
      · exact .inr List.mem_cons_self
      · exact (ih hrest).imp_right (List.mem_cons_of_mem _)

end Recollection

namespace Store

/-! ## A map with a list beside it -/

section Unbounded

variable {calls : Std.TreeMap String CallRecord} {order : List String}

/-- The list beside a map names no digest twice. -/
theorem Coherent.nodup_order (h : (Store.unbounded calls order).Coherent) : order.Nodup := by
  cases h with
  | unbounded nodup mem_order size_order own => exact nodup

/-- The list beside a map names what is in the map. -/
theorem Coherent.mem_order (h : (Store.unbounded calls order).Coherent) {hash : String} :
    hash ∈ order ↔ hash ∈ calls := by
  cases h with
  | unbounded nodup mem_order size_order own => exact mem_order hash

/-- Under every digest of the list the map has a record with this digest. -/
theorem Coherent.exists_record (h : (Store.unbounded calls order).Coherent) {hash : String}
    (hhash : hash ∈ order) : ∃ record, calls[hash]? = some record ∧ record.key.hash = hash := by
  cases h with
  | unbounded nodup mem_order size_order own =>
    obtain ⟨record, hrecord⟩ := Option.isSome_iff_exists.mp
      (Std.TreeMap.mem_iff_isSome_getElem?.mp ((mem_order hash).mp hhash))
    exact ⟨record, hrecord, own hash record hrecord⟩

/-- The list beside the map has the digests of the records, in their order. -/
theorem Coherent.map_hash_records (h : (Store.unbounded calls order).Coherent) :
    (Store.unbounded calls order).records.map (·.key.hash) = order := by
  have hown : ∀ hash ∈ order, calls[hash]?.map (·.key.hash) = some hash := by
    intro hash hhash
    obtain ⟨record, hrecord, hown⟩ := h.exists_record hhash
    rw [hrecord, Option.map_some, hown]
  rw [records, List.map_filterMap, List.filterMap_congr hown, List.filterMap_some]

/-- A call that is kept under a digest of the list takes the place of the one that was there. -/
private theorem filterMap_insert (record : CallRecord) (nodup : order.Nodup)
    (own : ∀ hash ∈ order, ∃ record, calls[hash]? = some record ∧ record.key.hash = hash) :
    (order.filterMap fun hash => (calls.insert record.key.hash record)[hash]?) =
      if record.key.hash ∈ order then
        Recollection.replace record (order.filterMap fun hash => calls[hash]?)
      else order.filterMap fun hash => calls[hash]? := by
  induction order with
  | nil => rfl
  | cons hash rest ih =>
    obtain ⟨hnew, nodup⟩ := List.nodup_cons.mp nodup
    obtain ⟨first, hfirst, hhash⟩ := own hash List.mem_cons_self
    have ih := ih nodup fun other hother => own other (List.mem_cons_of_mem _ hother)
    rw [List.filterMap_cons, List.filterMap_cons, hfirst, Std.TreeMap.getElem?_insert, ih]
    -- the digest is at the head, and then nowhere behind, or it is in the rest
    by_cases heq : record.key.hash = hash
    · rw [if_pos (Std.LawfulEqCmp.compare_eq_iff_eq.mpr heq), if_neg (heq ▸ hnew),
        if_pos (heq ▸ List.mem_cons_self)]
      dsimp only
      rw [Recollection.replace, if_pos (hhash.trans heq.symm)]
    · have hne : first.key.hash ≠ record.key.hash := fun h => heq (h.symm.trans hhash)
      rw [if_neg (mt Std.LawfulEqCmp.compare_eq_iff_eq.mp heq), hfirst]
      dsimp only
      rw [Recollection.replace, if_neg hne]
      simp only [List.mem_cons, heq, false_or]
      split <;> rfl

/-- Keeping a call in a map with a list beside it is keeping it in the one list. -/
theorem Coherent.records_insert_unbounded (h : (Store.unbounded calls order).Coherent)
    (record : CallRecord) : ((Store.unbounded calls order).insert record).records =
      Recollection.replace record (Store.unbounded calls order).records := by
  have hhashes := h.map_hash_records
  have hinsert := filterMap_insert record h.nodup_order fun _ => h.exists_record
  cases h with
  | unbounded nodup mem_order size_order own =>
    rw [insert, records]
    by_cases hmem : record.key.hash ∈ calls
    · rw [if_pos hmem, hinsert, if_pos ((mem_order _).mpr hmem), records]
    · have hne : ∀ other ∈ (Store.unbounded calls order).records,
          other.key.hash ≠ record.key.hash := by
        intro other hother heq
        have hlisted := List.mem_map_of_mem (f := (·.key.hash)) hother
        rw [hhashes, mem_order, heq] at hlisted
        exact hmem hlisted
      rw [if_neg hmem, List.filterMap_append, hinsert, if_neg (mt (mem_order _).mp hmem),
        Recollection.replace_of_forall_ne hne, records]
      simp

end Unbounded

/-! ## A cache -/

section Bounded

variable {cache : Lru CallRecord}

/-- A cache never has more entries than there may be. -/
theorem Coherent.fits (h : (Store.bounded cache).Coherent) :
    cache.entries.length ≤ cache.capacity := by
  cases h with
  | bounded distinct fits own => exact fits

/-- The entries with other names hold the records with other digests. -/
private theorem reverse_map_others (own : ∀ entry ∈ cache.entries, entry.2.key.hash = entry.1)
    (hash : String) : ((cache.others hash).map Prod.snd).reverse =
      (bounded cache).records.filter fun record => record.key.hash ≠ hash := by
  rw [records, List.filter_reverse, List.filter_map, Lru.others]
  congr 2
  refine List.filter_congr fun entry hentry => ?_
  rw [Function.comp_apply, own entry hentry]

/-- The record that is used moves to the end of the list. -/
theorem Coherent.records_promote (h : (Store.bounded cache).Coherent) {hash : String}
    {record : CallRecord} (hpeek : cache.peek? hash = some record) :
    (Store.bounded (cache.promote hash)).records =
      ((Store.bounded cache).records.filter fun other => other.key.hash ≠ hash) ++ [record] := by
  cases h with
  | bounded distinct fits own =>
    rw [Lru.promote, hpeek, ← reverse_map_others own]
    exact List.reverse_cons

/-- A record comes to the end of the list, and if there are too many, the first one goes. -/
theorem Coherent.records_put (h : (Store.bounded cache).Coherent) (record : CallRecord) :
    (Store.bounded (cache.put record.key.hash record)).records =
      (((Store.bounded cache).records.filter fun other => other.key.hash ≠ record.key.hash) ++
        [record]).rtake cache.capacity := by
  cases h with
  | bounded distinct fits own =>
    rw [← reverse_map_others own]
    cases hpeek : cache.peek? record.key.hash with
    | some old =>
      -- the old record makes room, so that nothing is dropped
      have hothers := Lru.length_others_lt hpeek
      rw [Lru.put, hpeek, List.rtake]
      dsimp only
      rw [records, List.map_cons, List.reverse_cons, Nat.sub_eq_zero_of_le, List.drop_zero]
      simpa using Nat.le_trans hothers fits
    | none =>
      have hall : cache.others record.key.hash = cache.entries := by
        refine List.filter_eq_self.mpr fun entry hentry => ?_
        have hnames := Entries.get?_eq_none_iff.mp hpeek
        have hne : entry.1 ≠ record.key.hash :=
          fun heq => hnames (heq ▸ Entries.mem_names_of_mem hentry)
        simpa using hne
      rw [Lru.put, hpeek, hall]
      dsimp only
      rw [records, List.map_cons, List.reverse_cons]
      -- a new record pushes the first one out just if the cache is full
      obtain ⟨count, hcount⟩ := Nat.exists_eq_add_one.mpr cache.positive
      rw [hcount, List.rtake_concat_succ]
      split
      · rename_i hfull
        have hone : cache.entries.length - count = 1 := by omega
        rw [List.rtake, List.length_reverse, List.length_map, hone, List.drop_one,
          List.map_dropLast, List.tail_reverse]
      · rw [List.rtake, List.length_reverse, List.length_map, Nat.sub_eq_zero_of_le (by omega),
          List.drop_zero]

/-- The entries are the records under their digests, read from the other end. -/
theorem Coherent.entries_eq (h : (Store.bounded cache).Coherent) : cache.entries =
    ((Store.bounded cache).records.map fun record => (record.key.hash, record)).reverse := by
  cases h with
  | bounded distinct fits own =>
    have hentry : ∀ entry ∈ cache.entries, (entry.2.key.hash, entry.2) = entry :=
      fun entry hentry => Prod.ext (own entry hentry) rfl
    rw [records, List.map_reverse, List.reverse_reverse, List.map_map]
    exact (List.map_id _).symm.trans (List.map_congr_left fun entry h => (hentry entry h).symm)

end Bounded

/-! ## Stores of either kind -/

namespace Coherent

variable {store : Store}

/-- No two records have the same digest. -/
theorem nodup_map_hash (h : store.Coherent) : (store.records.map (·.key.hash)).Nodup := by
  cases store with
  | unbounded calls order =>
    rw [h.map_hash_records]
    exact h.nodup_order
  | bounded cache =>
    cases h with
    | bounded distinct fits own =>
      have hnames : (cache.entries.map Prod.snd).map (·.key.hash) = Entries.names cache.entries :=
        List.map_map.trans (List.map_congr_left own)
      rw [records, List.map_reverse, hnames, List.nodup_reverse]
      exact distinct

/-- What is found under a digest are the records with this digest. -/
theorem find?_eq_some_iff (h : store.Coherent) {hash : String} {record : CallRecord} :
    store.find? hash = some record ↔ record ∈ store.records ∧ record.key.hash = hash := by
  cases h with
  | @unbounded calls order nodup mem_order size_order own =>
    rw [find?, records, List.mem_filterMap]
    constructor
    · intro hrecord
      have hmem := Std.TreeMap.mem_iff_isSome_getElem?.mpr (Option.isSome_of_eq_some hrecord)
      exact ⟨⟨hash, (mem_order hash).mpr hmem, hrecord⟩, own hash record hrecord⟩
    · rintro ⟨⟨other, -, hrecord⟩, rfl⟩
      rwa [own other record hrecord]
  | @bounded cache distinct fits own =>
    rw [find?, records, List.mem_reverse, List.mem_map]
    constructor
    · intro hrecord
      have hentry := Entries.mem_of_get? hrecord
      exact ⟨⟨_, hentry, rfl⟩, own _ hentry⟩
    · rintro ⟨⟨⟨name, record⟩, hentry, rfl⟩, rfl⟩
      rw [own _ hentry]
      exact Entries.get?_of_mem distinct hentry

/-- The count that a store keeps is the number of its records. -/
theorem size_eq (h : store.Coherent) : store.size = store.records.length := by
  cases store with
  | unbounded calls order =>
    have hlength := congrArg List.length h.map_hash_records
    cases h with
    | unbounded nodup mem_order size_order own =>
      rw [size, size_order, ← hlength, List.length_map]
  | bounded cache => rw [size, records, List.length_reverse, List.length_map]

end Coherent

end Store

/-! ## Memos -/

namespace Memo

/-- A memo as one list. -/
def recollection (memo : Memo) : Recollection := ⟨memo.capacity, memo.records⟩

@[simp] theorem capacity_recollection (memo : Memo) :
    memo.recollection.capacity = memo.capacity := rfl

@[simp] theorem records_recollection (memo : Memo) : memo.recollection.records = memo.records := rfl

/-- A new memo has the bound it was made with. -/
theorem capacity_empty (capacity : Capacity) : (empty capacity).capacity = capacity := by
  cases capacity <;> rfl

/-- A new memo remembers nothing. -/
theorem records_empty (capacity : Capacity) : (empty capacity).records = [] := by
  cases capacity <;> rfl

/-- A memo finds a record where the list has one. -/
theorem find?_eq (memo : Memo) (hash : String) :
    memo.find? hash = memo.recollection.find? hash := by
  refine Option.ext fun record => memo.coherent.find?_eq_some_iff.trans ?_
  constructor
  · rintro ⟨hrecord, rfl⟩
    -- the list has a record with the digest, and no digest is there twice
    cases hfind : memo.recollection.find? record.key.hash with
    | none =>
      have hnone := List.find?_eq_none.mp hfind record hrecord
      simp at hnone
    | some other =>
      have hhash : other.key.hash = record.key.hash := by simpa using List.find?_some hfind
      rw [List.inj_on_of_nodup_map memo.coherent.nodup_map_hash (List.mem_of_find?_eq_some hfind)
        hrecord hhash]
  · intro hfind
    exact ⟨List.mem_of_find?_eq_some hfind, by simpa using List.find?_some hfind⟩

/-- A memo counts what the list has. -/
theorem size_eq_length (memo : Memo) : memo.size = memo.records.length :=
  memo.coherent.size_eq

/-- A new memo is the empty list under its bound. -/
theorem recollection_empty (capacity : Capacity) :
    (empty capacity).recollection = ⟨capacity, []⟩ := by
  rw [recollection, capacity_empty, records_empty]

/-- Using a call in a memo is using it in the list. -/
theorem recollection_touch (memo : Memo) (hash : String) :
    (memo.touch hash).recollection = memo.recollection.touch hash := by
  have hfind := memo.find?_eq hash
  obtain ⟨store, coherent, hits, misses⟩ := memo
  cases store with
  | unbounded calls order => rfl
  | bounded cache =>
    rw [Recollection.touch, ← hfind]
    show Recollection.mk (Store.bounded (cache.promote hash)).capacity
      (Store.bounded (cache.promote hash)).records = _
    cases hpeek : cache.peek? hash with
    | none =>
      have hsame : cache.promote hash = cache := by rw [Lru.promote, hpeek]
      have hnone : find? ⟨.bounded cache, coherent, hits, misses⟩ hash = none := hpeek
      rw [hsame, hnone]
      rfl
    | some record =>
      have hsome : find? ⟨.bounded cache, coherent, hits, misses⟩ hash = some record := hpeek
      rw [coherent.records_promote hpeek, hsome, Lru.promote, hpeek]
      rfl

/-- Remembering a call in a memo is remembering it in the list. -/
theorem recollection_insert (memo : Memo) (record : CallRecord) :
    (memo.insert record).recollection = memo.recollection.insert record := by
  obtain ⟨store, coherent, hits, misses⟩ := memo
  cases store with
  | unbounded calls order =>
    exact congrArg (Recollection.mk .unbounded) (coherent.records_insert_unbounded record)
  | bounded cache =>
    have hcapacity : (Store.bounded (cache.put record.key.hash record)).capacity =
        .atMost cache.capacity cache.positive := by
      rw [Lru.put]
      split <;> rfl
    show Recollection.mk (Store.bounded (cache.put record.key.hash record)).capacity
      (Store.bounded (cache.put record.key.hash record)).records = _
    rw [hcapacity, coherent.records_put]
    rfl

end Memo

end SchemaCall
