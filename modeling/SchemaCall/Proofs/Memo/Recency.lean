import Mathlib.Data.List.Dedup
import Mathlib.Data.List.DropRight
import SchemaCall.Memo.Basic

/-!
# First and last records

Out of a list of records, `firsts` keeps the first one of every key and `lasts` the last one. Both
are told by what a further record at the end does to them (`firsts_concat`, `lasts_concat`). The end
of `lasts` is the part that a bounded memo keeps; the last section says how a further record moves
this end (`rtake_lasts_concat_of_mem`, `rtake_lasts_concat_of_forall_ne`).
-/

namespace SchemaCall.CallRecord

/-- The first record of every key, in the order of the list. -/
def firsts : List CallRecord → List CallRecord
  | [] => []
  | record :: rest => record :: (firsts rest).filter (·.key ≠ record.key)

/-- The last record of every key, in the order of the list. -/
def lasts : List CallRecord → List CallRecord
  | [] => []
  | record :: rest => if record.key ∈ rest.map (·.key) then lasts rest else record :: lasts rest

/-! ## First records -/

/-- A record at the end is a first one, if its key has not come before. -/
theorem firsts_concat (records : List CallRecord) (record : CallRecord) :
    firsts (records ++ [record]) =
      if record.key ∈ records.map (·.key) then firsts records else firsts records ++ [record] := by
  induction records with
  | nil => rfl
  | cons first rest ih =>
    rw [List.cons_append, firsts, ih, firsts, List.map_cons]
    by_cases hrest : record.key ∈ rest.map (·.key)
    · rw [if_pos hrest, if_pos (List.mem_cons_of_mem _ hrest)]
    · rw [if_neg hrest, List.filter_append]
      by_cases hfirst : record.key = first.key
      · simp [hfirst]
      · simp [hfirst, hrest]

/-- The first records are among the records. -/
theorem mem_of_mem_firsts {record : CallRecord} {records : List CallRecord}
    (h : record ∈ firsts records) : record ∈ records := by
  induction records with
  | nil => exact h
  | cons first rest ih =>
    rcases List.mem_cons.mp h with rfl | hrest
    · exact List.mem_cons_self
    · exact List.mem_cons_of_mem _ (ih (List.mem_filter.mp hrest).1)

/-- Every key has its first record. -/
theorem key_mem_firsts {records : List CallRecord} {key : CallKey}
    (h : key ∈ records.map (·.key)) : key ∈ (firsts records).map (·.key) := by
  induction records with
  | nil => exact h
  | cons first rest ih =>
    rw [firsts, List.map_cons, List.mem_cons]
    by_cases hkey : key = first.key
    · exact .inl hkey
    · have hrest := (List.mem_cons.mp h).resolve_left hkey
      obtain ⟨record, hrecord, rfl⟩ := List.mem_map.mp (ih hrest)
      exact .inr (List.mem_map_of_mem (List.mem_filter.mpr ⟨hrecord, by simpa using hkey⟩))

/-- Every key has one first record. -/
theorem nodup_firsts (records : List CallRecord) : ((firsts records).map (·.key)).Nodup := by
  induction records with
  | nil => exact List.nodup_nil
  | cons first rest ih =>
    rw [firsts, List.map_cons, List.nodup_cons]
    constructor
    · simp
    · exact ih.sublist (List.filter_sublist.map _)

/-! ## Last records -/

/-- A record at the end takes the place of the one that was last with its key. -/
theorem lasts_concat (records : List CallRecord) (record : CallRecord) :
    lasts (records ++ [record]) = (lasts records).filter (·.key ≠ record.key) ++ [record] := by
  induction records with
  | nil => rfl
  | cons first rest ih =>
    have hmem : first.key ∈ (rest ++ [record]).map (·.key) ↔
        first.key ∈ rest.map (·.key) ∨ first.key = record.key := by simp
    rw [List.cons_append, lasts, ih, lasts]
    by_cases hrest : first.key ∈ rest.map (·.key)
    · rw [if_pos (hmem.mpr (.inl hrest)), if_pos hrest]
    · rw [if_neg hrest]
      by_cases hkey : first.key = record.key
      · rw [if_pos (hmem.mpr (.inr hkey)), List.filter_cons_of_neg (by simpa using hkey)]
      · rw [if_neg (by rw [hmem, not_or]; exact ⟨hrest, hkey⟩),
          List.filter_cons_of_pos (by simpa using hkey), List.cons_append]

/-- The last records are among the records. -/
theorem mem_of_mem_lasts {record : CallRecord} {records : List CallRecord}
    (h : record ∈ lasts records) : record ∈ records := by
  induction records with
  | nil => exact h
  | cons first rest ih =>
    rw [lasts] at h
    split at h
    · exact List.mem_cons_of_mem _ (ih h)
    · exact (List.mem_cons.mp h).elim (fun heq => heq ▸ List.mem_cons_self)
        fun hrest => List.mem_cons_of_mem _ (ih hrest)

/-- The keys of the last records are the different keys. -/
theorem map_key_lasts (records : List CallRecord) :
    (lasts records).map (·.key) = (records.map (·.key)).dedup := by
  induction records with
  | nil => rfl
  | cons first rest ih =>
    rw [lasts, List.map_cons]
    split
    · rename_i h
      rw [ih, List.dedup_cons_of_mem h]
    · rename_i h
      rw [List.map_cons, ih, List.dedup_cons_of_notMem h]

/-- Every key has one last record. -/
theorem nodup_lasts (records : List CallRecord) : ((lasts records).map (·.key)).Nodup := by
  rw [map_key_lasts]
  exact List.nodup_dedup _

/-! ## The end of a list -/

/-- The end of a longer end is the shorter end. -/
theorem rtake_rtake {α : Type} (list : List α) {short long : ℕ} (h : short ≤ long) :
    (list.rtake long).rtake short = list.rtake short := by
  rw [List.rtake_eq_reverse_take_reverse, List.rtake_eq_reverse_take_reverse,
    List.rtake_eq_reverse_take_reverse, List.reverse_reverse, List.take_take, Nat.min_eq_left h]

/-- The end of a list has as many entries as asked for, or all of them. -/
theorem length_rtake {α : Type} (list : List α) (count : ℕ) :
    (list.rtake count).length = min count list.length := by
  rw [List.rtake_eq_reverse_take_reverse, List.length_reverse, List.length_take,
    List.length_reverse]

/-- Nothing is left out for a key that no record has. -/
theorem filter_of_forall_ne {records : List CallRecord} {key : CallKey}
    (h : ∀ record ∈ records, record.key ≠ key) : records.filter (·.key ≠ key) = records :=
  List.filter_eq_self.mpr (by simpa using h)

private theorem filter_concat_of_eq {last : CallRecord} {key : CallKey} (h : last.key = key)
    (before : List CallRecord) :
    (before ++ [last]).filter (·.key ≠ key) = before.filter (·.key ≠ key) := by
  simp [h]

private theorem filter_concat_of_ne {last : CallRecord} {key : CallKey} (h : last.key ≠ key)
    (before : List CallRecord) :
    (before ++ [last]).filter (·.key ≠ key) = before.filter (·.key ≠ key) ++ [last] := by
  simp [h]

/-- Leaving out a key from the end of the list moves the end by one place. -/
theorem filter_rtake_of_mem {records : List CallRecord} {key : CallKey} {count : ℕ}
    (distinct : (records.map (·.key)).Nodup)
    (h : ∃ record ∈ records.rtake (count + 1), record.key = key) :
    (records.rtake (count + 1)).filter (·.key ≠ key) =
      (records.filter (·.key ≠ key)).rtake count := by
  induction records using List.reverseRecOn generalizing count with
  | nil => simp at h
  | append_singleton before last ih =>
    rw [List.map_append, List.nodup_append] at distinct
    rw [List.rtake_concat_succ] at h ⊢
    by_cases hlast : last.key = key
    · -- the key is at the very end, and nowhere else
      have hbefore : ∀ record ∈ before, record.key ≠ key := fun record hrecord heq =>
        distinct.2.2 record.key (List.mem_map_of_mem hrecord) last.key (by simp)
          (heq.trans hlast.symm)
      have hend : ∀ record ∈ before.rtake count, record.key ≠ key :=
        fun record hrecord => hbefore record (List.mem_of_mem_drop hrecord)
      rw [filter_concat_of_eq hlast, filter_concat_of_eq hlast, filter_of_forall_ne hbefore,
        filter_of_forall_ne hend]
    · obtain ⟨record, hrecord, hkey⟩ := h
      have hbefore : record ∈ before.rtake count := by
        refine (List.mem_append.mp hrecord).resolve_right fun heq => hlast ?_
        rw [← List.mem_singleton.mp heq, hkey]
      cases count with
      | zero => simp at hbefore
      | succ count =>
        rw [filter_concat_of_ne hlast, filter_concat_of_ne hlast, List.rtake_concat_succ,
          ih distinct.1 ⟨record, hbefore, hkey⟩]

/-- A key that is not in the end of the list can be left out in front of it. -/
theorem rtake_filter_of_forall_ne {records : List CallRecord} {key : CallKey} {count : ℕ}
    (h : ∀ record ∈ records.rtake count, record.key ≠ key) :
    (records.filter (·.key ≠ key)).rtake count = records.rtake count := by
  induction records using List.reverseRecOn generalizing count with
  | nil => rfl
  | append_singleton before last ih =>
    cases count with
    | zero => rw [List.rtake_zero, List.rtake_zero]
    | succ count =>
      rw [List.rtake_concat_succ] at h ⊢
      rw [filter_concat_of_ne (h last (by simp)), List.rtake_concat_succ,
        ih fun record hrecord => h record (List.mem_append_left _ hrecord)]

/-- A record that is in the end of the last records, and comes again, moves to the very end. -/
theorem rtake_lasts_concat_of_mem {records : List CallRecord} {record : CallRecord} {count : ℕ}
    (positive : 0 < count) (h : record ∈ (lasts records).rtake count) :
    (lasts (records ++ [record])).rtake count =
      ((lasts records).rtake count).filter (·.key ≠ record.key) ++ [record] := by
  obtain ⟨count, rfl⟩ := Nat.exists_eq_add_one.mpr positive
  rw [lasts_concat, List.rtake_concat_succ, filter_rtake_of_mem (nodup_lasts _) ⟨record, h, rfl⟩]

/-- A record whose key is not in the end of the last records is added to it. If there is an earlier
one of that key, it is in front of the end, where leaving it out makes no difference. -/
theorem rtake_lasts_concat_of_forall_ne {records : List CallRecord} {new : CallRecord} {count : ℕ}
    (positive : 0 < count) (h : ∀ record ∈ (lasts records).rtake count, record.key ≠ new.key) :
    (lasts (records ++ [new])).rtake count =
      ((lasts records).rtake count ++ [new]).rtake count := by
  obtain ⟨count, rfl⟩ := Nat.exists_eq_add_one.mpr positive
  have hend : (lasts records).rtake count = ((lasts records).rtake (count + 1)).rtake count := by
    rw [rtake_rtake _ (Nat.le_succ count)]
  have hne : ∀ record ∈ (lasts records).rtake count, record.key ≠ new.key :=
    fun record hrecord => h record (List.mem_of_mem_drop (hend ▸ hrecord))
  rw [lasts_concat, List.rtake_concat_succ, List.rtake_concat_succ, rtake_filter_of_forall_ne hne,
    ← hend]

end SchemaCall.CallRecord
