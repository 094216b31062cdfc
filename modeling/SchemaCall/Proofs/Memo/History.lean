import SchemaCall.Proofs.Memo.Runs

/-!
# What a memo has to show

A single memo is told completely by two lists: the calls that were made through it with their
answers, and those among them that it passed on. Without a bound it has the first success of every
key; with a bound it has the end of the list of last successes, hits included (`Recalls`). One call
keeps this up (`Memo.Kept.exists_call`), so a run does, and from it follow the counts and what the
next call will do (`Memo.Kept.account`). Nothing is assumed about what the memo stands in front of.
-/

namespace SchemaCall

open CallRecord

variable {σ : Type}

/-! ## Successes -/

/-- What there is to remember about a call that was answered. -/
def Invocation.record? (invocation : Invocation) : Option CallRecord :=
  match invocation.answer with
  | .ok result => some ⟨invocation.call.key, result⟩
  | .error _ => none

/-- The records of the calls that succeeded, in order. -/
def successes (history : List Invocation) : List CallRecord :=
  history.filterMap Invocation.record?

/-- A call that was answered comes to the end of the successes. -/
theorem successes_concat_ok (history : List Invocation) (call : Call) (result : Json) :
    successes (history ++ [⟨call, .ok result⟩]) = successes history ++ [⟨call.key, result⟩] := by
  rw [successes, List.filterMap_append]
  rfl

/-- A call that failed is not among the successes. -/
theorem successes_concat_error (history : List Invocation) (call : Call) (error : CallError) :
    successes (history ++ [⟨call, .error error⟩]) = successes history := by
  rw [successes, List.filterMap_append]
  exact List.append_nil _

/-- Every success belongs to a call of the history. -/
theorem exists_call_of_mem_successes {history : List Invocation} {record : CallRecord}
    (h : record ∈ successes history) : ∃ call ∈ history.map (·.call), call.key = record.key := by
  obtain ⟨⟨call, answer⟩, hinvocation, hrecord⟩ := List.mem_filterMap.mp h
  cases answer with
  | error error => exact nomatch hrecord
  | ok result =>
    obtain rfl := Option.some.inj hrecord
    exact ⟨call, List.mem_map_of_mem hinvocation, rfl⟩

/-! ## What is remembered -/

/-- These are the records of a memo of the capacity through which the calls of `history` were made,
and which passed those of `log` on. -/
def Recalls (capacity : Capacity) (history log : List Invocation) (records : List CallRecord) :
    Prop :=
  match capacity with
  | .unbounded => records = firsts (successes history) ∧ records = successes log
  | .atMost count _ =>
    records = (lasts (successes history)).rtake count ∧
      ∀ record ∈ lasts (successes history), record ∈ lasts (successes log)

namespace Recalls

variable {capacity : Capacity} {history log : List Invocation} {records : List CallRecord}

/-- A memo recalls nothing but successes of the history. -/
theorem mem_successes (h : Recalls capacity history log records) {record : CallRecord}
    (hrecord : record ∈ records) : record ∈ successes history := by
  cases capacity with
  | unbounded => exact mem_of_mem_firsts (h.1 ▸ hrecord)
  | atMost count positive =>
    rw [h.1] at hrecord
    exact mem_of_mem_lasts (List.mem_of_mem_drop hrecord)

/-- A memo recalls no call twice. -/
theorem nodup (h : Recalls capacity history log records) : (records.map (·.key)).Nodup := by
  cases capacity with
  | unbounded =>
    rw [h.1]
    exact nodup_firsts _
  | atMost count positive =>
    rw [h.1]
    exact (nodup_lasts _).sublist ((List.drop_sublist _ _).map _)

/-- Digests tell the remembered calls from any other call of the run. -/
theorem tells {memo : Memo} (h : Recalls memo.capacity history log memo.records) {call : Call}
    (distinct : NoCollision (history.map (·.call) ++ [call])) : memo.Tells call.key := by
  intro record hrecord hhash
  obtain ⟨other, hother, hkey⟩ := exists_call_of_mem_successes (h.mem_successes hrecord)
  rw [← hkey] at hhash ⊢
  exact distinct.key_eq (List.mem_append_left _ hother) (by simp) hhash

/-- A remembered call is made again: with a bound, its record moves to the end. -/
theorem hit {memo : Memo} (h : Recalls memo.capacity history log memo.records)
    {record : CallRecord} {call : Call} (hfind : memo.find? call.key.hash = some record)
    (htells : memo.Tells call.key) :
    Recalls memo.capacity (history ++ [⟨call, .ok record.result⟩]) log
      (memo.touch call.key.hash).records := by
  obtain ⟨hrecord, hhash⟩ := Memo.mem_of_find? hfind
  have hkey := htells record hrecord hhash
  have hsuccesses : successes (history ++ [⟨call, .ok record.result⟩]) =
      successes history ++ [record] := by
    rw [successes_concat_ok, ← hkey]
  have hmem := h.mem_successes hrecord
  unfold Recalls at h ⊢
  rw [hsuccesses]
  -- only with a bound does using a record change the order
  cases hcapacity : memo.capacity with
  | unbounded =>
    rw [hcapacity] at h
    rw [Memo.records_touch_unbounded hcapacity, firsts_concat,
      if_pos (List.mem_map_of_mem hmem)]
    exact h
  | atMost count positive =>
    rw [hcapacity] at h
    have hlast : record ∈ (lasts (successes history)).rtake count := h.1 ▸ hrecord
    refine ⟨?_, fun other hother => ?_⟩
    · rw [Memo.records_touch_atMost hcapacity hfind, Memo.filter_hash_eq htells, ← hkey,
        rtake_lasts_concat_of_mem positive hlast, h.1]
    · rw [lasts_concat] at hother
      rcases List.mem_append.mp hother with hother | hother
      · exact h.2 other (List.mem_filter.mp hother).1
      · rw [List.mem_singleton.mp hother]
        exact h.2 record (List.mem_of_mem_drop hlast)

/-- A call that is not remembered succeeds: its record is added. -/
theorem success {memo : Memo} (h : Recalls memo.capacity history log memo.records) {call : Call}
    (hnone : memo.find? call.key.hash = none) (result : Json) :
    Recalls memo.capacity (history ++ [⟨call, .ok result⟩]) (log ++ [⟨call, .ok result⟩])
      (memo.insert ⟨call.key, result⟩).records := by
  have hne : ∀ record ∈ memo.records, record.key ≠ call.key := fun record hrecord hkey =>
    Memo.find?_eq_none_iff.mp hnone record hrecord (congrArg CallKey.hash hkey)
  unfold Recalls at h ⊢
  rw [successes_concat_ok, successes_concat_ok]
  cases hcapacity : memo.capacity with
  | unbounded =>
    rw [hcapacity] at h
    have hnew : call.key ∉ (successes history).map (·.key) := by
      intro hmem
      obtain ⟨record, hrecord, hkey⟩ := List.mem_map.mp (key_mem_firsts hmem)
      exact hne record (h.1 ▸ hrecord) hkey
    rw [Memo.records_insert_unbounded hcapacity hnone result, firsts_concat, if_neg hnew]
    exact ⟨by rw [h.1], by rw [h.2]⟩
  | atMost count positive =>
    rw [hcapacity] at h
    -- the key may be among the successes, if its record was dropped, but not at the end of them
    have hend : ∀ record ∈ (lasts (successes history)).rtake count, record.key ≠ call.key :=
      fun record hrecord => hne record (h.1 ▸ hrecord)
    refine ⟨?_, fun other hother => ?_⟩
    · rw [Memo.records_insert_atMost hcapacity hnone result,
        rtake_lasts_concat_of_forall_ne positive hend, h.1]
    · rw [lasts_concat] at hother ⊢
      rcases List.mem_append.mp hother with hother | hother
      · obtain ⟨hmem, hkey⟩ := List.mem_filter.mp hother
        exact List.mem_append_left _ (List.mem_filter.mpr ⟨h.2 other hmem, hkey⟩)
      · exact List.mem_append_right _ hother

/-- A call fails: nothing changes. -/
theorem failure (h : Recalls capacity history log records) (call : Call) (error : CallError) :
    Recalls capacity (history ++ [⟨call, .error error⟩]) (log ++ [⟨call, .error error⟩])
      records := by
  unfold Recalls
  rw [successes_concat_error, successes_concat_error]
  exact h

end Recalls

/-! ## One call through one memo -/

namespace Layers

variable {inner : Caller σ} {memo : Memo} {call : Call}

/-- A call that a single memo finds is answered from it: the caller behind it stays as it was. -/
theorem call_of_find?_eq_some {record : CallRecord}
    (h : memo.find? call.key.hash = some record) (state : σ) :
    Layers.call inner call.operation call.args ⟨[memo], state⟩ =
      (.ok record.result, ⟨[(memo.touch call.key.hash).countHit], state⟩) := by
  rw [Call.key] at h ⊢
  rw [Layers.call, callThrough_of_find?_eq_some inner call.operation call.args h]

/-- A call that a single memo does not find goes to the caller behind it, and the memo learns the
answer. -/
theorem call_of_find?_eq_none (h : memo.find? call.key.hash = none) (state : σ) :
    Layers.call inner call.operation call.args ⟨[memo], state⟩ =
      ((inner call.operation call.args state).1,
        ⟨[memo.learn call.key (inner call.operation call.args state).1],
          (inner call.operation call.args state).2⟩) := by
  rw [Call.key] at h
  rw [Layers.call, callThrough_of_find?_eq_none inner call.operation call.args h]
  rfl

end Layers

/-- The memo has recorded and counted the calls of `history`, and passed on those of `log`. -/
structure Memo.Kept (memo : Memo) (history log : List Invocation) : Prop where
  recalls : Recalls memo.capacity history log memo.records
  counted : memo.Counted history.length log.length

/-- A new memo has recorded and counted no calls. -/
theorem Memo.kept_empty (capacity : Capacity) : (empty capacity).Kept [] [] := by
  refine ⟨?_, counted_empty capacity⟩
  rw [capacity_empty, records_empty]
  cases capacity with
  | unbounded => exact ⟨rfl, rfl⟩
  | atMost count positive => exact ⟨(List.rtake_nil count).symm, by simp [successes, lasts]⟩

namespace Memo.Kept

variable {memo : Memo} {history log : List Invocation} {call : Call}

/-- A call that is found prolongs the history, but not the log. -/
theorem hit (h : memo.Kept history log) {record : CallRecord}
    (hfind : memo.find? call.key.hash = some record) (htells : memo.Tells call.key) :
    (memo.touch call.key.hash).countHit.Kept (history ++ [⟨call, .ok record.result⟩]) log where
  recalls := by
    rw [capacity_countHit, records_countHit, capacity_touch]
    exact h.recalls.hit hfind htells
  counted := by
    rw [List.length_append]
    exact h.counted.hit rfl rfl

/-- A call that is not found prolongs the history and the log, whatever the answer. -/
theorem miss (h : memo.Kept history log) (hfind : memo.find? call.key.hash = none)
    (answer : Except CallError Json) :
    (memo.learn call.key answer).Kept (history ++ [⟨call, answer⟩]) (log ++ [⟨call, answer⟩]) where
  recalls := by
    rw [capacity_learn]
    cases answer with
    | ok result =>
      have hrecalls : Recalls memo.countMiss.capacity history log memo.countMiss.records :=
        h.recalls
      exact hrecalls.success hfind result
    | error error => exact h.recalls.failure call error
  counted := by
    rw [List.length_append, List.length_append]
    exact h.counted.miss (hits_learn memo call.key answer) (misses_learn memo call.key answer)

/-- One call keeps the books in order. -/
theorem exists_call (h : memo.Kept history log) (inner : Caller σ)
    (distinct : NoCollision (history.map (·.call) ++ [call])) (state : σ) :
    ∃ answer after log' state',
      Layers.call inner.recorded call.operation call.args ⟨[memo], (log, state)⟩ =
        (answer, ⟨[after], (log', state')⟩) ∧
      after.capacity = memo.capacity ∧ after.Kept (history ++ [⟨call, answer⟩]) log' := by
  -- the memo answers, and the log stays; or the call goes on, and the log grows by it
  cases hfind : memo.find? call.key.hash with
  | some record =>
    exact ⟨_, _, _, _, Layers.call_of_find?_eq_some hfind (log, state), capacity_touch _ _,
      h.hit hfind (h.recalls.tells distinct)⟩
  | none =>
    exact ⟨_, _, _, _, Layers.call_of_find?_eq_none hfind (log, state), capacity_learn _ _ _,
      h.miss hfind _⟩

/-- A run keeps the books in order. -/
theorem exists_run (h : memo.Kept history log) (inner : Caller σ) (calls : List Call)
    (distinct : NoCollision (history.map (·.call) ++ calls)) (state : σ) :
    ∃ answers after log' state',
      (Layers.call inner.recorded).run calls ⟨[memo], (log, state)⟩ =
        (answers, ⟨[after], (log', state')⟩) ∧
      after.capacity = memo.capacity ∧ answers.length = calls.length ∧
      after.Kept (history ++ List.zipWith .mk calls answers) log' := by
  induction calls generalizing memo history log state with
  | nil =>
    refine ⟨[], memo, log, state, rfl, rfl, rfl, ?_⟩
    rwa [List.zipWith_nil_left, List.append_nil]
  | cons call rest ih =>
    have hnow : NoCollision (history.map (·.call) ++ [call]) := distinct.subset (by simp)
    obtain ⟨answer, between, log₁, state₁, hcall, hcapacity₁, hkept₁⟩ :=
      h.exists_call inner hnow state
    have hlater : NoCollision ((history ++ [Invocation.mk call answer]).map (·.call) ++ rest) := by
      simpa using distinct
    obtain ⟨answers, after, log₂, state₂, hrun, hcapacity₂, hanswers, hkept₂⟩ :=
      ih hkept₁ hlater state₁
    refine ⟨answer :: answers, after, log₂, state₂, ?_, hcapacity₂.trans hcapacity₁, ?_, ?_⟩
    · rw [Caller.run_cons, hcall]
      dsimp only
      rw [hrun]
    · rw [List.length_cons, List.length_cons, hanswers]
    · rwa [List.append_assoc] at hkept₂

end Memo.Kept

/-! ## Whole runs -/

/-- Everything there is to say about a memo in front of `inner` after `calls` had these `answers`:
the calls of `log` were passed on, and left the `state` behind.

Without a bound the memo has the first success of every key, and these are the successes that were
passed on. With a bound it has the end of the list of last successes, as many as there is room for,
each with the result of the last success of its key that was passed on. No key is remembered twice,
and what is remembered is what is found.

The memo's own books agree with this: the count it keeps is the number of records; the list beside a
map has their digests, in their order and none twice, and they are the digests of the map; a cache
has the records under their digests, the last one in front. Every call is a hit or a miss, and the
misses are the calls that were passed on, in 64 bits (`counted`) and exactly, as long as 64 bits are
enough (`exact`).

A next call whose key is remembered has the remembered result and is not passed on. Any other next
call is passed on once and answered as `inner` answers it; if it fails, the records stay. -/
structure Memo.Account (inner : Caller σ) (calls : List Call)
    (answers : List (Except CallError Json)) (memo : Memo) (log : List Invocation) (state : σ) :
    Prop where
  answered : answers.length = calls.length
  unbounded : memo.capacity = .unbounded →
    memo.records = firsts (successes (.zipWith .mk calls answers)) ∧ memo.records = successes log
  bounded : ∀ count positive, memo.capacity = .atMost count positive →
    memo.records = (lasts (successes (.zipWith .mk calls answers))).rtake count ∧
      memo.size =
        min count ((successes (.zipWith .mk calls answers)).map (·.key)).dedup.length ∧
      ∀ record ∈ memo.records, record ∈ lasts (successes log)
  found : (memo.records.map (·.key)).Nodup ∧
    ∀ record ∈ memo.records, memo.find? record.key.hash = some record
  size_eq : memo.size = memo.records.length
  listed : ∀ calls order, memo.store = .unbounded calls order →
    order = memo.records.map (·.key.hash) ∧ order.Nodup ∧ ∀ hash, hash ∈ order ↔ hash ∈ calls
  cached : ∀ cache, memo.store = .bounded cache →
    cache.entries = (memo.records.map fun record => (record.key.hash, record)).reverse ∧
      cache.entries.length ≤ cache.capacity
  counted : memo.Counted calls.length log.length ∧ memo.hits + memo.misses = .ofNat calls.length
  exact : calls.length < UInt64.size →
    memo.hits.toNat + memo.misses.toNat = calls.length ∧ memo.misses.toNat = log.length
  hit : ∀ call, NoCollision (calls ++ [call]) → ∀ record ∈ memo.records, record.key = call.key →
    ∃ after, Layers.call inner.recorded call.operation call.args ⟨[memo], (log, state)⟩ =
      (.ok record.result, ⟨[after], (log, state)⟩)
  miss : ∀ call, NoCollision (calls ++ [call]) → (∀ record ∈ memo.records, record.key ≠ call.key) →
    ∃ after, Layers.call inner.recorded call.operation call.args ⟨[memo], (log, state)⟩ =
        ((inner call.operation call.args state).1,
          ⟨[after], (log ++ [⟨call, (inner call.operation call.args state).1⟩],
            (inner call.operation call.args state).2)⟩) ∧
      ∀ error, (inner call.operation call.args state).1 = .error error →
        after.records = memo.records

private theorem map_call_zipWith {calls : List Call} {answers : List (Except CallError Json)}
    (h : answers.length = calls.length) :
    (List.zipWith Invocation.mk calls answers).map (·.call) = calls := by
  rw [List.map_zipWith, ← List.map_uncurry_zip_eq_zipWith]
  exact List.map_fst_zip h.ge

/-- A memo that has kept its books can give account of them. -/
theorem Memo.Kept.account {inner : Caller σ} {calls : List Call}
    {answers : List (Except CallError Json)} {memo : Memo} {log : List Invocation}
    (h : memo.Kept (.zipWith .mk calls answers) log)
    (hanswers : answers.length = calls.length) (distinct : NoCollision calls) (state : σ) :
    Account inner calls answers memo log state := by
  have hcalls := map_call_zipWith hanswers
  have hcounted : memo.Counted calls.length log.length := by
    have hzipped := h.counted
    rwa [List.length_zipWith, hanswers, Nat.min_self] at hzipped
  -- digests of the run do not collide, so what is found is what the key asks for
  have htells {call : Call} (hnext : NoCollision (calls ++ [call])) : memo.Tells call.key :=
    h.recalls.tells (hcalls.symm ▸ hnext)
  have hrecalls := h.recalls
  unfold Recalls at hrecalls
  constructor
  case answered => exact hanswers
  case unbounded =>
    intro hcapacity
    rw [hcapacity] at hrecalls
    exact hrecalls
  case bounded =>
    intro count positive hcapacity
    rw [hcapacity] at hrecalls
    refine ⟨hrecalls.1, ?_, fun record hrecord => hrecalls.2 record ?_⟩
    · rw [size_eq_length, hrecalls.1, length_rtake, ← map_key_lasts, List.length_map]
    · exact List.mem_of_mem_drop (hrecalls.1 ▸ hrecord)
  case found =>
    refine ⟨h.recalls.nodup, fun record hrecord => ?_⟩
    obtain ⟨call, hcall, hkey⟩ := exists_call_of_mem_successes (h.recalls.mem_successes hrecord)
    rw [hcalls] at hcall
    exact find?_eq_some_of_mem h.recalls.nodup
      (hkey ▸ htells (distinct.subset (by simp [hcall]))) hrecord
  case size_eq => exact memo.size_eq_length
  case listed =>
    intro calls order hstore
    have hcoherent := hstore ▸ memo.coherent
    have hrecords : memo.records = (Store.unbounded calls order).records :=
      congrArg Store.records hstore
    rw [hrecords, hcoherent.map_hash_records]
    exact ⟨rfl, hcoherent.nodup_order, fun _ => hcoherent.mem_order⟩
  case cached =>
    intro cache hstore
    have hcoherent := hstore ▸ memo.coherent
    have hrecords : memo.records = (Store.bounded cache).records := congrArg Store.records hstore
    rw [hrecords]
    exact ⟨hcoherent.entries_eq, hcoherent.fits⟩
  case counted => exact ⟨hcounted, hcounted.hits_add_misses⟩
  case exact =>
    intro hbound
    rw [hcounted.toNat_hits hbound, hcounted.toNat_misses hbound,
      Nat.sub_add_cancel hcounted.le]
    exact ⟨rfl, rfl⟩
  case hit =>
    rintro call hnext record hrecord hkey
    have hfind := find?_eq_some_of_mem h.recalls.nodup (hkey ▸ htells hnext) hrecord
    rw [hkey] at hfind
    exact ⟨_, Layers.call_of_find?_eq_some hfind (log, state)⟩
  case miss =>
    intro call hnext hne
    have hfind := find?_eq_none_of_forall_ne (htells hnext) hne
    refine ⟨_, Layers.call_of_find?_eq_none hfind (log, state), fun error herror => ?_⟩
    -- a failure is counted and nothing else
    have hcoins : (memo.learn call.key (.error error)).records = memo.records := rfl
    exact herror ▸ hcoins

/-- After any run of calls through one memo, whatever it stands in front of, the memo can give
account: of what it remembers, of what it has counted, and of what it will do next. Watching the
run changes nothing. -/
theorem Memo.exists_account (inner : Caller σ) (capacity : Capacity) (start : σ)
    (calls : List Call) (distinct : NoCollision calls) :
    ∃ answers memo log state,
      (Layers.call inner).run calls (.fresh [capacity] start) = (answers, ⟨[memo], state⟩) ∧
      (Layers.call inner.recorded).run calls (.fresh [capacity] ([], start)) =
        (answers, ⟨[memo], (log, state)⟩) ∧
      memo.capacity = capacity ∧ Account inner calls answers memo log state := by
  obtain ⟨answers, memo, log, state, hrun, hcapacity, hanswers, hkept⟩ :=
    (kept_empty capacity).exists_run inner calls distinct start
  exact ⟨answers, memo, log, state, Layers.run_of_recorded hrun, hrun,
    hcapacity.trans (capacity_empty capacity),
    hkept.account hanswers distinct state⟩

/-- A brush that fails when it has to polish, and whose colour wears off with every stroke. -/
def Caller.brush : Caller ℕ := fun operation args strokes =>
  if operation = "paint" then (.ok (.array (.replicate strokes (.object args.keyword.entries))),
    strokes + 1)
  else (.error (.unknownOperation operation), strokes + 1)

/-- With room for one result, the second call of another colour makes the memo forget the first. -/
def Call.brushStrokes : List Call :=
  [.paintRed, ⟨"polish", .none⟩, ⟨"paint", .ofLists [] [("colour", .string "grey")]⟩, .paintRed,
    ⟨"paint", .ofLists [] [("glossy", .bool true), ("colour", .string "red")]⟩]

/-- The account of a run of brush strokes through a memo with room for one call. -/
theorem Memo.exists_account_brushStrokes :
    NoCollision Call.brushStrokes ∧ ∃ answers memo log state,
      (Layers.call Caller.brush).run Call.brushStrokes (.fresh [.atMost 1 Nat.one_pos] 0) =
        (answers, ⟨[memo], state⟩) ∧
      (Layers.call Caller.brush.recorded).run Call.brushStrokes
          (.fresh [.atMost 1 Nat.one_pos] ([], 0)) = (answers, ⟨[memo], (log, state)⟩) ∧
      memo.capacity = .atMost 1 Nat.one_pos ∧
      Account Caller.brush Call.brushStrokes answers memo log state := by
  have distinct : NoCollision Call.brushStrokes := by decide +kernel
  exact ⟨distinct,
    Memo.exists_account Caller.brush (.atMost 1 Nat.one_pos) 0 Call.brushStrokes distinct⟩

end SchemaCall
