import SchemaCall.Proofs.Memo.History

/-!
# A larger memo is never worse

Two memos of different capacities stand in front of the same caller, and the same calls are made
through both. The caller answers by the key of a call only, so that it does not matter that it hears
of fewer calls through one of them. Then the larger memo has every record that the smaller one has
(`Memo.Beside.records_subset`): the end of the list of last successes contains every shorter end of
it. One call keeps the two memos beside each other (`Memo.Beside.exists_call`), hence a run does,
and as long as the smaller memo has room for everything, the two do the same.
-/

namespace SchemaCall

open CallRecord

variable {σ : Type}

/-! ## Capacities -/

/-- The order of capacities; without a bound is the largest. -/
instance : LE Capacity where
  le
    | _, .unbounded => True
    | .unbounded, .atMost .. => False
    | .atMost few _, .atMost many _ => few ≤ many

/-- There is room for all that succeeded. -/
def Capacity.Suffices (capacity : Capacity) (history : List Invocation) : Prop :=
  match capacity with
  | .unbounded => True
  | .atMost count _ => ((successes history).map (·.key)).dedup.length ≤ count

/-- What has room for the calls so far had room for them before. -/
theorem Capacity.Suffices.of_append {capacity : Capacity} {history later : List Invocation}
    (h : capacity.Suffices (history ++ later)) : capacity.Suffices history := by
  cases capacity with
  | unbounded => trivial
  | atMost count positive =>
    have hsubset : ((successes history).map (·.key)).dedup ⊆
        ((successes (history ++ later)).map (·.key)).dedup := by
      intro key hkey
      rw [List.mem_dedup] at hkey ⊢
      rw [successes, List.filterMap_append, List.map_append]
      exact List.mem_append_left _ hkey
    have hlength := ((List.nodup_dedup _).subperm hsubset).length_le
    exact hlength.trans h

/-! ## Answers by key -/

/-- The calls with the answers that belong to their keys. -/
def answered (answer : CallKey → Except CallError Json) (calls : List Call) : List Invocation :=
  calls.map fun call => ⟨call, answer call.key⟩

section Answered

variable {answer : CallKey → Except CallError Json} {calls : List Call}

/-- One more call is one more answered call. -/
theorem answered_concat (call : Call) :
    answered answer (calls ++ [call]) = answered answer calls ++ [⟨call, answer call.key⟩] :=
  List.map_append

/-- Answering leaves the calls as they are. -/
theorem map_call_answered : (answered answer calls).map (·.call) = calls := by
  rw [answered, List.map_map]
  exact List.map_id calls

/-- A success has the answer that belongs to its key. -/
theorem answer_of_mem_successes {record : CallRecord}
    (h : record ∈ successes (answered answer calls)) : answer record.key = .ok record.result := by
  obtain ⟨invocation, hinvocation, hrecord⟩ := List.mem_filterMap.mp h
  obtain ⟨call, -, rfl⟩ := List.mem_map.mp hinvocation
  cases hanswer : answer call.key with
  | error error =>
    rw [Invocation.record?, hanswer] at hrecord
    exact nomatch hrecord
  | ok result =>
    rw [Invocation.record?, hanswer] at hrecord
    obtain rfl := Option.some.inj hrecord
    exact hanswer

/-- There is one success for a key. -/
theorem eq_of_mem_successes {r s : CallRecord} (hr : r ∈ successes (answered answer calls))
    (hs : s ∈ successes (answered answer calls)) (hkey : r.key = s.key) : r = s := by
  have hresult : Except.ok (ε := CallError) r.result = .ok s.result := by
    rw [← answer_of_mem_successes hr, ← answer_of_mem_successes hs, hkey]
  obtain ⟨key, result⟩ := r
  obtain rfl : key = s.key := hkey
  obtain rfl : result = s.result := Except.ok.inj hresult
  rfl

end Answered

/-! ## What two memos remember -/

namespace Recalls

variable {answer : CallKey → Except CallError Json} {calls : List Call}

/-- If there is room for everything, everything is remembered. -/
theorem mem_of_suffices {capacity : Capacity} {log : List Invocation} {records : List CallRecord}
    (h : Recalls capacity (answered answer calls) log records)
    (hsuffices : capacity.Suffices (answered answer calls)) {record : CallRecord}
    (hrecord : record ∈ successes (answered answer calls)) : record ∈ records := by
  have hall : record.key ∈ records.map (·.key) := by
    cases capacity with
    | unbounded =>
      rw [h.1]
      exact key_mem_firsts (List.mem_map_of_mem hrecord)
    | atMost count positive =>
      have hlength : (lasts (successes (answered answer calls))).length ≤ count := by
        rw [← List.length_map (·.key), map_key_lasts]
        exact hsuffices
      rw [h.1, List.rtake, Nat.sub_eq_zero_of_le hlength, List.drop_zero, map_key_lasts,
        List.mem_dedup]
      exact List.mem_map_of_mem hrecord
  obtain ⟨other, hother, hkey⟩ := List.mem_map.mp hall
  rwa [← eq_of_mem_successes (h.mem_successes hother) hrecord hkey]

/-- What is remembered with a smaller capacity is remembered with a larger one. -/
theorem subset_of_le {small large : Capacity} {fewLog manyLog : List Invocation}
    {few many : List CallRecord} (hle : small ≤ large)
    (hfew : Recalls small (answered answer calls) fewLog few)
    (hmany : Recalls large (answered answer calls) manyLog many) : few ⊆ many := by
  intro record hrecord
  cases large with
  | unbounded => exact hmany.mem_of_suffices trivial (hfew.mem_successes hrecord)
  | atMost count positive =>
    cases small with
    | unbounded => exact hle.elim
    | atMost less positive =>
      -- the smaller end of the list is the end of the larger one
      rw [hfew.1, ← rtake_rtake _ hle, ← hmany.1] at hrecord
      exact List.mem_of_mem_drop hrecord

/-- If there is room for everything even with the smaller capacity, the same is remembered. -/
theorem perm_of_suffices {small large : Capacity} {fewLog manyLog : List Invocation}
    {few many : List CallRecord} (hle : small ≤ large)
    (hfew : Recalls small (answered answer calls) fewLog few)
    (hmany : Recalls large (answered answer calls) manyLog many)
    (hsuffices : small.Suffices (answered answer calls)) : few.Perm many := by
  refine (List.perm_ext_iff_of_nodup hfew.nodup.of_map hmany.nodup.of_map).mpr fun record => ?_
  constructor
  · intro hrecord
    exact subset_of_le hle hfew hmany hrecord
  · intro hrecord
    exact hfew.mem_of_suffices hsuffices (hmany.mem_successes hrecord)

end Recalls

/-! ## One call -/

namespace Memo

/-- What a memo passes on of a call that has this answer. -/
def passedOn (memo : Memo) (call : Call) (answer : Except CallError Json) : List Invocation :=
  match memo.find? call.key.hash with
  | some _ => []
  | none => [⟨call, answer⟩]

variable {inner : Caller σ} {answer : CallKey → Except CallError Json} {calls : List Call}

/-- Whether or not the memo remembers the call, the answer is the one that belongs to the key. -/
theorem Kept.exists_answer
    (keyed : ∀ (call : Call) state, (inner call.operation call.args state).1 = answer call.key)
    {memo : Memo} {log : List Invocation} (h : memo.Kept (answered answer calls) log) {call : Call}
    (distinct : NoCollision (calls ++ [call])) (state : σ) :
    ∃ after state', Layers.call inner.recorded call.operation call.args ⟨[memo], (log, state)⟩ =
        (answer call.key, ⟨[after], (log ++ memo.passedOn call (answer call.key), state')⟩) ∧
      after.capacity = memo.capacity ∧ after.Kept (answered answer (calls ++ [call]))
        (log ++ memo.passedOn call (answer call.key)) := by
  have htells : memo.Tells call.key := h.recalls.tells (by rwa [map_call_answered])
  rw [answered_concat]
  cases hfind : memo.find? call.key.hash with
  | some record =>
    obtain ⟨hrecord, hhash⟩ := mem_of_find? hfind
    -- a remembered result is the answer that belongs to the key, so it cannot be out of date
    have hanswer : answer call.key = .ok record.result := by
      rw [← htells record hrecord hhash]
      exact answer_of_mem_successes (h.recalls.mem_successes hrecord)
    have hpassed : memo.passedOn call (answer call.key) = [] := by rw [passedOn, hfind]
    rw [hpassed, List.append_nil, hanswer]
    exact ⟨_, _, Layers.call_of_find?_eq_some hfind (log, state), capacity_touch _ _,
      h.hit hfind htells⟩
  | none =>
    have hpassed : memo.passedOn call (answer call.key) = [⟨call, answer call.key⟩] := by
      rw [passedOn, hfind]
    have hasked : inner.recorded call.operation call.args (log, state) =
        (answer call.key, log ++ [⟨call, answer call.key⟩],
          (inner call.operation call.args state).2) := by
      rw [← keyed call state]
      rfl
    rw [hpassed, Layers.call_of_find?_eq_none hfind, hasked]
    exact ⟨_, _, rfl, capacity_learn _ _ _, h.miss hfind _⟩

/-- The same calls were made through two memos in front of a caller that answers by key. The one of
smaller capacity passed those of `fewLog` on, the other one those of `manyLog`. -/
structure Beside (answer : CallKey → Except CallError Json) (calls : List Call) (few many : Memo)
    (fewLog manyLog : List Invocation) : Prop where
  fewKept : few.Kept (answered answer calls) fewLog
  manyKept : many.Kept (answered answer calls) manyLog
  capacities : few.capacity ≤ many.capacity
  log : manyLog.Sublist fewLog
  log_eq : few.capacity.Suffices (answered answer calls) → fewLog = manyLog

namespace Beside

variable {few many : Memo} {fewLog manyLog : List Invocation} {call : Call}

/-- What the smaller memo remembers, the larger one remembers. -/
theorem records_subset (h : Beside answer calls few many fewLog manyLog) :
    few.records ⊆ many.records :=
  Recalls.subset_of_le h.capacities h.fewKept.recalls h.manyKept.recalls

/-- What the smaller memo finds, the larger one finds. -/
theorem find?_eq_some (h : Beside answer calls few many fewLog manyLog)
    (distinct : NoCollision (calls ++ [call])) {record : CallRecord}
    (hfind : few.find? call.key.hash = some record) : many.find? call.key.hash = some record := by
  have htells : many.Tells call.key := h.manyKept.recalls.tells (by rwa [map_call_answered])
  obtain ⟨hrecord, hhash⟩ := mem_of_find? hfind
  have hmany := h.records_subset hrecord
  have hkey := htells record hmany hhash
  rw [← hkey]
  exact find?_eq_some_of_mem h.manyKept.recalls.nodup (hkey ▸ htells) hmany

/-- If there is room for everything, the smaller memo finds what the larger one finds. -/
theorem find?_eq (h : Beside answer calls few many fewLog manyLog)
    (distinct : NoCollision (calls ++ [call]))
    (hsuffices : few.capacity.Suffices (answered answer calls)) :
    few.find? call.key.hash = many.find? call.key.hash := by
  cases hfind : few.find? call.key.hash with
  | some record => rw [h.find?_eq_some distinct hfind]
  | none =>
    have hperm :=
      Recalls.perm_of_suffices h.capacities h.fewKept.recalls h.manyKept.recalls hsuffices
    refine (find?_eq_none_iff.mpr fun record hrecord => ?_).symm
    exact find?_eq_none_iff.mp hfind record (hperm.mem_iff.mpr hrecord)

/-- The larger memo passes a call on only if the smaller one does. -/
theorem passedOn_sublist (h : Beside answer calls few many fewLog manyLog)
    (distinct : NoCollision (calls ++ [call])) (reply : Except CallError Json) :
    (many.passedOn call reply).Sublist (few.passedOn call reply) := by
  unfold passedOn
  cases hfew : few.find? call.key.hash with
  | some record =>
    rw [h.find?_eq_some distinct hfew]
  | none =>
    cases many.find? call.key.hash with
    | some record => exact List.nil_sublist _
    | none => exact List.Sublist.refl _

/-- One call keeps the two memos beside each other, and has the same answer through both. -/
theorem exists_call
    (keyed : ∀ (call : Call) state, (inner call.operation call.args state).1 = answer call.key)
    (h : Beside answer calls few many fewLog manyLog) (distinct : NoCollision (calls ++ [call]))
    (s t : σ) :
    ∃ few' many' fewLog' manyLog' s' t',
      Layers.call inner.recorded call.operation call.args ⟨[few], (fewLog, s)⟩ =
        (answer call.key, ⟨[few'], (fewLog', s')⟩) ∧
      Layers.call inner.recorded call.operation call.args ⟨[many], (manyLog, t)⟩ =
        (answer call.key, ⟨[many'], (manyLog', t')⟩) ∧
      few'.capacity = few.capacity ∧ many'.capacity = many.capacity ∧
      Beside answer (calls ++ [call]) few' many' fewLog' manyLog' := by
  obtain ⟨few', s', hfew, hsmall, hfew'⟩ := h.fewKept.exists_answer keyed distinct s
  obtain ⟨many', t', hmany, hlarge, hmany'⟩ := h.manyKept.exists_answer keyed distinct t
  refine ⟨few', many', _, _, s', t', hfew, hmany, hsmall, hlarge, hfew', hmany', ?_, ?_, ?_⟩
  · rw [hsmall, hlarge]
    exact h.capacities
  · exact h.log.append (h.passedOn_sublist distinct _)
  · intro hsuffices
    rw [hsmall, answered_concat] at hsuffices
    have hbefore := hsuffices.of_append
    rw [h.log_eq hbefore, passedOn, passedOn, h.find?_eq distinct hbefore]

/-- A run keeps the two memos beside each other, and has the same answers through both. -/
theorem exists_run
    (keyed : ∀ (call : Call) state, (inner call.operation call.args state).1 = answer call.key)
    (h : Beside answer calls few many fewLog manyLog) (rest : List Call)
    (distinct : NoCollision (calls ++ rest)) (s t : σ) :
    ∃ few' many' fewLog' manyLog' s' t',
      (Layers.call inner.recorded).run rest ⟨[few], (fewLog, s)⟩ =
        (rest.map fun call => answer call.key, ⟨[few'], (fewLog', s')⟩) ∧
      (Layers.call inner.recorded).run rest ⟨[many], (manyLog, t)⟩ =
        (rest.map fun call => answer call.key, ⟨[many'], (manyLog', t')⟩) ∧
      few'.capacity = few.capacity ∧ many'.capacity = many.capacity ∧
      Beside answer (calls ++ rest) few' many' fewLog' manyLog' := by
  induction rest generalizing calls few many fewLog manyLog s t with
  | nil =>
    refine ⟨few, many, fewLog, manyLog, s, t, rfl, rfl, rfl, rfl, ?_⟩
    rwa [List.append_nil]
  | cons call rest ih =>
    have hnow : NoCollision (calls ++ [call]) := distinct.subset (by simp)
    have hlater : NoCollision (calls ++ [call] ++ rest) := by simpa using distinct
    obtain ⟨few₁, many₁, fewLog₁, manyLog₁, s₁, t₁, hfew₁, hmany₁, hsmall₁, hlarge₁, hbeside₁⟩ :=
      h.exists_call keyed hnow s t
    obtain ⟨few₂, many₂, fewLog₂, manyLog₂, s₂, t₂, hfew₂, hmany₂, hsmall₂, hlarge₂, hbeside₂⟩ :=
      ih hbeside₁ hlater s₁ t₁
    refine ⟨few₂, many₂, fewLog₂, manyLog₂, s₂, t₂, ?_, ?_, hsmall₂.trans hsmall₁,
      hlarge₂.trans hlarge₁, ?_⟩
    · rw [Caller.run_cons, hfew₁]
      dsimp only
      rw [hfew₂]
      rfl
    · rw [Caller.run_cons, hmany₁]
      dsimp only
      rw [hmany₂]
      rfl
    · rwa [List.append_assoc] at hbeside₂

end Beside

/-! ## Whole runs -/

/-- After `calls` were made through both memos, `many` is never worse than `few`: it remembers all
that `few` does, with the same results, and finds it when the next call comes; it passed on only
what `few` passed on, and the counters of both tell how many calls these were. As long as the
counters are exact, it shows no fewer hits and no more misses. -/
structure Covers (many few : Memo) (calls : List Call) (manyLog fewLog : List Invocation) :
    Prop where
  records : few.records ⊆ many.records
  found : ∀ call, NoCollision (calls ++ [call]) → ∀ record,
    few.find? call.key.hash = some record → many.find? call.key.hash = some record
  log : manyLog.Sublist fewLog
  counted : few.Counted calls.length fewLog.length ∧ many.Counted calls.length manyLog.length
  counters : calls.length < UInt64.size → few.hits ≤ many.hits ∧ many.misses ≤ few.misses

/-- A larger memo beside a smaller one covers it. -/
theorem Beside.covers {few many : Memo} {fewLog manyLog : List Invocation}
    (h : Beside answer calls few many fewLog manyLog) : Covers many few calls manyLog fewLog := by
  have hfew : few.Counted calls.length fewLog.length := by
    simpa [answered] using h.fewKept.counted
  have hmany : many.Counted calls.length manyLog.length := by
    simpa [answered] using h.manyKept.counted
  refine ⟨h.records_subset, fun call distinct record => h.find?_eq_some distinct, h.log,
    ⟨hfew, hmany⟩, fun hbound => ?_⟩
  have hlength := h.log.length_le
  rw [UInt64.le_iff_toNat_le, UInt64.le_iff_toNat_le, hfew.toNat_hits hbound,
    hmany.toNat_hits hbound, hfew.toNat_misses hbound, hmany.toNat_misses hbound]
  exact ⟨Nat.sub_le_sub_left hlength _, hlength⟩

/-- Whatever calls are made in front of a caller that answers by key only, through a memo of some
capacity and through one that is no smaller: all answers are the same, and the larger memo is never
worse. As long as there is room in the smaller one for all keys that had a success, both have the
same hits and misses and pass the same calls on, and they remember the same, if not in the same
order. Watching the runs changes nothing. -/
theorem exists_covers (inner : Caller σ) (answer : CallKey → Except CallError Json)
    (keyed : ∀ (call : Call) state, (inner call.operation call.args state).1 = answer call.key)
    {small large : Capacity} (hle : small ≤ large) (start : σ) (calls : List Call)
    (distinct : NoCollision calls) :
    ∃ few many fewLog manyLog s t,
      (Layers.call inner).run calls (.fresh [small] start) =
        (calls.map fun call => answer call.key, ⟨[few], s⟩) ∧
      (Layers.call inner.recorded).run calls (.fresh [small] ([], start)) =
        (calls.map fun call => answer call.key, ⟨[few], (fewLog, s)⟩) ∧
      (Layers.call inner).run calls (.fresh [large] start) =
        (calls.map fun call => answer call.key, ⟨[many], t⟩) ∧
      (Layers.call inner.recorded).run calls (.fresh [large] ([], start)) =
        (calls.map fun call => answer call.key, ⟨[many], (manyLog, t)⟩) ∧
      few.capacity = small ∧ many.capacity = large ∧ Covers many few calls manyLog fewLog ∧
      (small.Suffices (answered answer calls) → few.hits = many.hits ∧ few.misses = many.misses ∧
        fewLog = manyLog ∧ few.records.Perm many.records) := by
  have hempty : Beside answer [] (empty small) (empty large) [] [] :=
    ⟨kept_empty small, kept_empty large, by rwa [capacity_empty, capacity_empty],
      List.Sublist.refl _, fun _ => rfl⟩
  obtain ⟨few, many, fewLog, manyLog, s, t, hfew, hmany, hsmall, hlarge, hbeside⟩ :=
    hempty.exists_run keyed calls distinct start start
  rw [List.nil_append] at hbeside
  rw [capacity_empty] at hsmall hlarge
  have hcovers := hbeside.covers
  refine ⟨few, many, fewLog, manyLog, s, t, Layers.run_of_recorded hfew, hfew,
    Layers.run_of_recorded hmany, hmany, hsmall, hlarge, hcovers, ?_⟩
  intro hsuffices
  rw [show small = few.capacity from hsmall.symm] at hsuffices
  -- with room for everything, both memos pass the same calls on, which settles the counters
  have hlog := hbeside.log_eq hsuffices
  have hmisses : few.misses = many.misses := by
    rw [hbeside.fewKept.counted.misses, hbeside.manyKept.counted.misses, hlog]
  have hhits : few.hits = many.hits := by
    rw [hbeside.fewKept.counted.hits, hbeside.manyKept.counted.hits, hlog]
  exact ⟨hhits, hmisses, hlog, Recalls.perm_of_suffices hbeside.capacities hbeside.fewKept.recalls
    hbeside.manyKept.recalls hsuffices⟩

end Memo

/-- The answer to a call of the paint shop is its text. -/
def CallKey.echo (key : CallKey) : Except CallError Json :=
  if key.operation = "paint" then .ok (.string key.encoded)
  else .error (.unknownOperation key.operation)

/-- A caller that echoes calls and counts them. -/
def Caller.echo : Caller ℕ := fun operation args count =>
  (CallKey.echo (.of operation args), count + 1)

/-- With room for two results, the memo has what one without a bound has, in another order: red is
used last, grey was new last. -/
theorem Memo.exists_covers_paintRed :
    NoCollision [.paintRed, .paintGrey, .paintRed] ∧ ∃ few many fewLog manyLog s t,
      (Layers.call Caller.echo.recorded).run [.paintRed, .paintGrey, .paintRed]
          (.fresh [.atMost 2 Nat.two_pos] ([], 0)) =
        ([Call.paintRed, .paintGrey, .paintRed].map fun call => call.key.echo,
          ⟨[few], (fewLog, s)⟩) ∧
      (Layers.call Caller.echo.recorded).run [.paintRed, .paintGrey, .paintRed]
          (.fresh [.unbounded] ([], 0)) =
        ([Call.paintRed, .paintGrey, .paintRed].map fun call => call.key.echo,
          ⟨[many], (manyLog, t)⟩) ∧
      Covers many few [.paintRed, .paintGrey, .paintRed] manyLog fewLog ∧ fewLog = manyLog ∧
      few.records.Perm many.records ∧ few.records.getLast? ≠ many.records.getLast? := by
  have distinct : NoCollision [.paintRed, .paintGrey, .paintRed] := by decide +kernel
  have hsuffices : Capacity.Suffices (.atMost 2 Nat.two_pos)
      (answered CallKey.echo [.paintRed, .paintGrey, .paintRed]) := by
    show List.length _ ≤ 2
    decide +kernel
  have hle : Capacity.atMost 2 Nat.two_pos ≤ .unbounded := trivial
  obtain ⟨few, many, fewLog, manyLog, s, t, -, hfew, -, hmany, -, -, hcovers, hsame⟩ :=
    Memo.exists_covers Caller.echo CallKey.echo (fun _ _ => rfl) hle 0
      [.paintRed, .paintGrey, .paintRed] distinct
  obtain ⟨-, -, hlog, hperm⟩ := hsame hsuffices
  refine ⟨distinct, few, many, fewLog, manyLog, s, t, hfew, hmany, hcovers, hlog, hperm, ?_⟩
  have hends : ((Layers.call Caller.echo.recorded).run [.paintRed, .paintGrey, .paintRed]
        (.fresh [.atMost 2 Nat.two_pos] ([], 0))).2.memos.map (·.records.getLast?) ≠
      ((Layers.call Caller.echo.recorded).run [.paintRed, .paintGrey, .paintRed]
        (.fresh [.unbounded] ([], 0))).2.memos.map (·.records.getLast?) := by
    decide +kernel
  rw [hfew, hmany] at hends
  intro hlast
  exact hends (congrArg (fun record => [record]) hlast)

end SchemaCall
