import Mathlib.Data.List.Forall2
import SchemaCall.Proofs.Memo.History

/-!
# Accounts of a stack of memos

Every memo of a stack counts the calls that the one in front of it passes on, the outermost all
calls, and what the innermost passes on is what the caller behind it is asked (`Memo.Chained`). One
call does one of three things (`Layers.Serves`): a memo answers it, and nothing behind that memo is
touched; or the caller answers it; or it fails, and the memos do no more than count it. Whoever
passed a call on that was answered has its result then, as the most recent one if there is a bound
(`Memo.Holds`).
-/

namespace SchemaCall

variable {σ : Type}

namespace Memo

/-! ## A memo before and after a call -/

/-- The memo has this record: it is what is found, and with a bound it is the most recent one. -/
def Holds (memo : Memo) (record : CallRecord) : Prop :=
  memo.find? record.key.hash = some record ∧
    ∀ count positive, memo.capacity = .atMost count positive →
      memo.records.getLast? = some record

/-- The memo answers a call that it remembers: it had the result before and has it now (`Holds`),
and it counts a hit and no miss. -/
structure Recalled (key : CallKey) (result : Json) (before after : Memo) : Prop where
  holds : ∃ record, before.find? key.hash = some record ∧ record.result = result ∧
    after.Holds record
  capacity : after.capacity = before.capacity
  hits : after.hits = before.hits + 1
  misses : after.misses = before.misses

/-- The memo passes a call on that it does not remember, and learns the result: it has the result
then (`Holds`), and it counts a miss and no hit. -/
structure Learnt (key : CallKey) (result : Json) (before after : Memo) : Prop where
  missed : before.find? key.hash = none
  capacity : after.capacity = before.capacity
  hits : after.hits = before.hits
  misses : after.misses = before.misses + 1
  holds : after.Holds ⟨key, result⟩

private theorem find?_concat {front : List CallRecord} {record : CallRecord} {hash : String}
    (hfront : ∀ r ∈ front, r.key.hash ≠ hash) (hrecord : record.key.hash = hash) :
    (front ++ [record]).find? (fun r => r.key.hash = hash) = some record := by
  have hnone : front.find? (fun r => r.key.hash = hash) = none := by
    rw [List.find?_eq_none]
    intro r hr
    simpa using hfront r hr
  rw [List.find?_append, hnone, Option.none_or]
  simp [hrecord]

private theorem holds_of_records_concat {memo : Memo} {front : List CallRecord}
    {record : CallRecord} (hrecords : memo.records = front ++ [record])
    (hfront : ∀ r ∈ front, r.key.hash ≠ record.key.hash) : memo.Holds record := by
  constructor
  · rw [find?_eq, Recollection.find?, records_recollection, hrecords]
    exact find?_concat hfront rfl
  · intro count positive _
    rw [hrecords, List.getLast?_concat]

/-- After a call was used it is still there, and with a bound it is the most recent one. -/
theorem holds_touch {memo : Memo} {record : CallRecord} {hash : String}
    (h : memo.find? hash = some record) : (memo.touch hash).Holds record := by
  have hhash := (mem_of_find? h).2
  cases hcapacity : memo.capacity with
  | unbounded =>
    constructor
    · rw [find?_eq, Recollection.find?, records_recollection, records_touch_unbounded hcapacity,
        ← records_recollection, ← Recollection.find?, ← find?_eq, hhash, h]
    · intro count positive hbounded
      rw [capacity_touch, hcapacity] at hbounded
      contradiction
  | atMost count positive =>
    refine holds_of_records_concat (records_touch_atMost hcapacity h) ?_
    intro r hr
    simpa [hhash] using (List.mem_filter.mp hr).2

/-- A call that was just remembered is there, and with a bound it is the most recent one. -/
theorem holds_insert {memo : Memo} {key : CallKey} (h : memo.find? key.hash = none)
    (result : Json) : (memo.insert ⟨key, result⟩).Holds ⟨key, result⟩ := by
  have hnone := find?_eq_none_iff.mp h
  cases hcapacity : memo.capacity with
  | unbounded => exact holds_of_records_concat (records_insert_unbounded hcapacity h result) hnone
  | atMost count positive =>
    obtain ⟨count, rfl⟩ := Nat.exists_eq_add_one.mpr positive
    have hrecords := records_insert_atMost hcapacity h result
    rw [List.rtake_concat_succ] at hrecords
    refine holds_of_records_concat hrecords ?_
    intro r hr
    exact hnone r (List.mem_of_mem_drop hr)

/-- A call that is found has been recalled when it is noted and counted. -/
theorem recalled_touch {memo : Memo} {record : CallRecord} {key : CallKey}
    (h : memo.find? key.hash = some record) :
    Recalled key record.result memo (memo.touch key.hash).countHit where
  holds := ⟨record, h, rfl, holds_touch h⟩
  capacity := capacity_touch memo key.hash
  hits := rfl
  misses := rfl

/-- A result for a call that was not found has been learnt when it is put in and counted. -/
theorem learnt_learn {memo : Memo} {key : CallKey} (h : memo.find? key.hash = none)
    (result : Json) : Learnt key result memo (memo.learn key (.ok result)) where
  missed := h
  capacity := capacity_learn memo key (.ok result)
  hits := hits_learn memo key (.ok result)
  misses := misses_learn memo key (.ok result)
  holds := by
    have hcounted : memo.countMiss.find? key.hash = none := h
    exact holds_insert hcounted result

/-! ## The counters of a stack -/

/-- The memos were asked `asked` calls and passed `passed` on: each has counted as hits and misses
what the one in front of it missed. -/
def Chained : (asked : ℕ) → List Memo → (passed : ℕ) → Prop
  | asked, [], passed => passed = asked
  | asked, memo :: behind, passed =>
    ∃ missed, memo.Counted asked missed ∧ Chained missed behind passed

/-- The same, where the counters are the numbers. -/
def ChainedExactly : (asked : ℕ) → List Memo → (passed : ℕ) → Prop
  | asked, [], passed => passed = asked
  | asked, memo :: behind, passed =>
    memo.hits.toNat + memo.misses.toNat = asked ∧ ChainedExactly memo.misses.toNat behind passed

/-- Up to a number of calls that 64 bits can hold, the counters are exact. -/
theorem Chained.exactly {memos : List Memo} {asked passed : ℕ} (h : Chained asked memos passed)
    (hbound : asked < UInt64.size) : ChainedExactly asked memos passed := by
  induction memos generalizing asked with
  | nil => exact h
  | cons memo behind ih =>
    obtain ⟨missed, hcounted, hbehind⟩ := h
    have hmisses := hcounted.toNat_misses hbound
    refine ⟨?_, ?_⟩
    · rw [hmisses, hcounted.toNat_hits hbound, Nat.sub_add_cancel hcounted.le]
    · rw [hmisses]
      exact ih hbehind (Nat.lt_of_le_of_lt hcounted.le hbound)

/-- The memo counts a miss. -/
def CountsMiss (before after : Memo) : Prop :=
  after.hits = before.hits ∧ after.misses = before.misses + 1

/-- New memos have counted nothing, and nothing was sent. -/
theorem chained_empty (capacities : List Capacity) :
    Chained 0 (capacities.map empty) 0 := by
  induction capacities with
  | nil => rfl
  | cons capacity rest ih => exact ⟨0, counted_empty capacity, ih⟩

/-- If the memos in front count a miss each, what is behind them is asked once more. -/
theorem Chained.of_front {front left behind changed : List Memo} {asked passed total : ℕ}
    (h : Chained asked (front ++ behind) passed)
    (hfront : List.Forall₂ CountsMiss front left)
    (hbehind : ∀ count, Chained count behind passed → Chained (count + 1) changed total) :
    Chained (asked + 1) (left ++ changed) total := by
  -- each memo in front hands its miss on as a call to the next one
  induction hfront generalizing asked with
  | nil => exact hbehind asked h
  | cons hcounts _ ih =>
    obtain ⟨missed, hcounted, hrest⟩ := h
    exact ⟨missed + 1, hcounted.miss hcounts.1 hcounts.2, ih hrest⟩

/-- If all memos count a miss, the caller is asked once more. -/
theorem Chained.of_all {memos left : List Memo} {asked passed : ℕ} (h : Chained asked memos passed)
    (hcounts : List.Forall₂ CountsMiss memos left) : Chained (asked + 1) left (passed + 1) := by
  rw [← List.append_nil memos] at h
  rw [← List.append_nil left]
  refine h.of_front hcounts ?_
  intro count hcount
  exact congrArg (· + 1) hcount

end Memo

/-! ## One call through a stack -/

namespace Layers

/-- What a call does to a stack of memos in front of a caller that is watched. A memo may remember
it: those in front of that memo learn the result, those behind it and the caller stay as they were.
Or it is passed on behind all of them: if it is answered, all learn the result, and if it fails, all
count a miss and remember nothing. -/
inductive Serves (inner : Caller σ) (call : Call) :
    Layers (List Invocation × σ) → Except CallError Json → Layers (List Invocation × σ) → Prop where
  | remembered {front left behind : List Memo} {memo used : Memo} {log : List Invocation}
      {state : σ} {result : Json} (passed : List.Forall₂ (Memo.Learnt call.key result) front left)
      (recalled : Memo.Recalled call.key result memo used) :
      Serves inner call ⟨front ++ memo :: behind, (log, state)⟩ (.ok result)
        ⟨left ++ used :: behind, (log, state)⟩
  | answered {memos left : List Memo} {log : List Invocation} {state after : σ} {result : Json}
      (passed : List.Forall₂ (Memo.Learnt call.key result) memos left)
      (asked : inner call.operation call.args state = (.ok result, after)) :
      Serves inner call ⟨memos, (log, state)⟩ (.ok result)
        ⟨left, (log ++ [⟨call, .ok result⟩], after)⟩
  | failed {memos : List Memo} {log : List Invocation} {state after : σ} {error : CallError}
      (missed : ∀ memo ∈ memos, memo.find? call.key.hash = none)
      (asked : inner call.operation call.args state = (.error error, after)) :
      Serves inner call ⟨memos, (log, state)⟩ (.error error)
        ⟨memos.map Memo.countMiss, (log ++ [⟨call, .error error⟩], after)⟩

private theorem forall₂_learnt {call : Call} {memos : List Memo}
    (h : ∀ memo ∈ memos, memo.find? call.key.hash = none) (result : Json) :
    List.Forall₂ (Memo.Learnt call.key result) memos
      (memos.map (·.learn call.key (.ok result))) := by
  rw [List.forall₂_map_right_iff, List.forall₂_same]
  intro memo hmemo
  exact Memo.learnt_learn (h memo hmemo) result

/-- Every call through a stack does one of the three things. -/
theorem serves_call (inner : Caller σ) (call : Call) (layers : Layers (List Invocation × σ)) :
    Serves inner call layers (Layers.call inner.recorded call.operation call.args layers).1
      (Layers.call inner.recorded call.operation call.args layers).2 := by
  obtain ⟨memos, log, state⟩ := layers
  rw [Layers.call]
  rcases callThrough_cases inner.recorded call.operation call.args memos (log, state) with
    ⟨front, memo, behind, record, rfl, hfront, hfind, hthrough⟩ | ⟨hmemos, hthrough⟩
  · dsimp only
    rw [hthrough]
    exact .remembered (forall₂_learnt hfront record.result) (Memo.recalled_touch hfind)
  · dsimp only
    rw [hthrough, Caller.recorded]
    dsimp only
    rcases hasked : inner call.operation call.args state with ⟨answer, after⟩
    cases answer with
    | ok result => exact .answered (forall₂_learnt hmemos result) hasked
    | error error => exact .failed hmemos hasked

private theorem counts_of_learnt {key : CallKey} {result : Json} {front left : List Memo}
    (h : List.Forall₂ (Memo.Learnt key result) front left) :
    List.Forall₂ Memo.CountsMiss front left :=
  h.imp fun _ _ hlearnt => ⟨hlearnt.hits, hlearnt.misses⟩

private theorem capacities_of_learnt {key : CallKey} {result : Json} {front left : List Memo}
    (h : List.Forall₂ (Memo.Learnt key result) front left) :
    left.map (·.capacity) = front.map (·.capacity) := by
  induction h with
  | nil => rfl
  | cons hhead _ ih => rw [List.map_cons, List.map_cons, hhead.capacity, ih]

/-- One call keeps the counters of a stack in step. -/
theorem Serves.chained {inner : Caller σ} {call : Call}
    {layers after : Layers (List Invocation × σ)} {answer : Except CallError Json}
    (h : Serves inner call layers answer after) {count : ℕ}
    (hchained : Memo.Chained count layers.memos layers.state.1.length) :
    Memo.Chained (count + 1) after.memos after.state.1.length := by
  cases h with
  | @remembered front left behind memo used log state result passed recalled =>
    refine hchained.of_front (counts_of_learnt passed) ?_
    -- the memo that answers counts a hit, so that nothing changes behind it
    rintro asked ⟨missed, hcounted, hbehind⟩
    exact ⟨missed, hcounted.hit recalled.hits recalled.misses, hbehind⟩
  | @answered memos left log state after result passed asked =>
    rw [List.length_append, List.length_singleton]
    exact hchained.of_all (counts_of_learnt passed)
  | @failed memos log state after error missed asked =>
    have hcounts : List.Forall₂ Memo.CountsMiss memos (memos.map Memo.countMiss) := by
      rw [List.forall₂_map_right_iff, List.forall₂_same]
      exact fun memo _ => ⟨rfl, rfl⟩
    rw [List.length_append, List.length_singleton]
    exact hchained.of_all hcounts

/-- One call leaves the capacities as they are. -/
theorem Serves.capacities {inner : Caller σ} {call : Call}
    {layers after : Layers (List Invocation × σ)} {answer : Except CallError Json}
    (h : Serves inner call layers answer after) :
    after.memos.map (·.capacity) = layers.memos.map (·.capacity) := by
  cases h with
  | remembered passed recalled =>
    rw [List.map_append, List.map_append, List.map_cons, List.map_cons,
      capacities_of_learnt passed, recalled.capacity]
  | answered passed asked => exact capacities_of_learnt passed
  | failed missed asked => rw [List.map_map]; rfl

/-! ## Runs through a stack -/

/-- A run keeps the counters of a stack in step, and its capacities as they are. -/
theorem chained_run (inner : Caller σ) (calls : List Call) {layers : Layers (List Invocation × σ)}
    {count : ℕ} (hchained : Memo.Chained count layers.memos layers.state.1.length) :
    Memo.Chained (count + calls.length) ((Layers.call inner.recorded).run calls layers).2.memos
        ((Layers.call inner.recorded).run calls layers).2.state.1.length ∧
      ((Layers.call inner.recorded).run calls layers).2.memos.map (·.capacity) =
        layers.memos.map (·.capacity) := by
  induction calls generalizing layers count with
  | nil => exact ⟨hchained, rfl⟩
  | cons call rest ih =>
    have hserves := serves_call inner call layers
    obtain ⟨hcounters, hcapacities⟩ := ih (hserves.chained hchained)
    have hcount : count + (call :: rest).length = count + 1 + rest.length := by
      rw [List.length_cons]
      omega
    rw [Caller.run_cons, hcount]
    exact ⟨hcounters, hcapacities.trans hserves.capacities⟩

/-- Nothing has to be known of a result for memos to remember it. -/
private theorem sound_true (inner : Caller σ) (calls : List Call) :
    Sound inner calls fun _ _ _ => True where
  made _ _ _ _ _ := trivial
  kept _ _ _ _ _ _ := trivial
  alike _ _ _ _ _ _ _ := trivial

/-- If digests tell the calls of a run apart, they tell what is remembered from any of the calls. -/
theorem tells_run (inner : Caller σ) (capacities : List Capacity) (start : σ) {calls : List Call}
    (distinct : NoCollision calls) {call : Call} (hcall : call ∈ calls) :
    ∀ memo ∈ ((Layers.call inner).run calls (.fresh capacities start)).2.memos,
      memo.Tells call.key := by
  -- what is remembered belongs to calls of the run, whatever the results are
  have hremembers := (sound_true inner calls).remembers_run distinct (List.Subset.refl calls)
    (remembers_fresh calls _ capacities start)
  intro memo hmemo record hrecord hhash
  obtain ⟨other, hother, hkey, -⟩ := hremembers memo hmemo record hrecord
  rw [← hkey] at hhash ⊢
  exact distinct.key_eq hother hcall hhash

/-- After any run through any stack of memos, in front of any caller, the counters are in step with
the number of calls and with what the caller was asked, and the next call does one of three things:
a memo answers it and what is behind that memo is not touched, or the caller answers it, or it fails
and leaves nothing but a miss behind. What is found under the digest of the call belongs to its key,
unless digests of the run collide. Watching the run changes nothing. -/
theorem chained_and_serves (inner : Caller σ) (capacities : List Capacity) (start : σ)
    (calls : List Call) (call : Call) :
    ∃ layers answer after,
      ((Layers.call inner.recorded).run calls (.fresh capacities ([], start))).2 = layers ∧
      ((Layers.call inner).run calls (.fresh capacities start)).2 = layers.map Prod.snd ∧
      Layers.call inner.recorded call.operation call.args layers = (answer, after) ∧
      layers.memos.map (·.capacity) = capacities ∧
      Memo.Chained calls.length layers.memos layers.state.1.length ∧
      (calls.length < UInt64.size →
        Memo.ChainedExactly calls.length layers.memos layers.state.1.length) ∧
      Serves inner call layers answer after ∧
      (NoCollision (calls ++ [call]) → ∀ memo ∈ after.memos, memo.Tells call.key) := by
  have hfresh : Memo.Chained 0 (Layers.fresh capacities (([] : List Invocation), start)).memos 0 :=
    Memo.chained_empty capacities
  obtain ⟨hchained, hcapacities⟩ := chained_run inner calls hfresh
  rw [Nat.zero_add] at hchained
  refine ⟨_, _, _, rfl, ?_, rfl, ?_, hchained, hchained.exactly, serves_call inner call _, ?_⟩
  · exact congrArg Prod.snd ((refines_recorded inner).run_fresh calls capacities ([], start))
  · rw [hcapacities]
    simp [fresh, Function.comp_def, Memo.capacity_empty]
  · intro distinct
    have hcall : call ∈ calls ++ [call] := by simp
    have htells := tells_run inner.recorded capacities ([], start) distinct hcall
    rw [Caller.run_append] at htells
    exact htells

end Layers

/-- A large memo behind a small one: when grey comes again, the small one has no room for it any
more, the large one answers, and the brush does not hear of it. -/
theorem Layers.chained_and_serves_paintGrey :
    ∃ (layers : Layers (List Invocation × ℕ)) (answer : Except CallError Json)
      (after : Layers (List Invocation × ℕ)),
      ((Layers.call Caller.brush.recorded).run [.paintGrey, .paintRed]
        (.fresh [.atMost 1 Nat.one_pos, .unbounded] ([], 0))).2 = layers ∧
      Memo.ChainedExactly 2 layers.memos 2 ∧ Serves Caller.brush .paintGrey layers answer after ∧
      after.memos.map (fun memo => (memo.hits, memo.misses, memo.size)) = [(0, 3, 1), (1, 2, 2)] ∧
      after.state.1.length = 2 ∧ ∀ memo ∈ after.memos, memo.Tells Call.paintGrey.key := by
  have distinct : NoCollision [.paintGrey, .paintRed, .paintGrey] := by decide +kernel
  obtain ⟨layers, answer, after, hrun, -, hcall, -, -, hexactly, hserves, htells⟩ :=
    chained_and_serves Caller.brush [.atMost 1 Nat.one_pos, .unbounded] 0 [.paintGrey, .paintRed]
      .paintGrey
  obtain rfl : (Layers.call _ _ _ layers).2 = after := congrArg Prod.snd hcall
  subst hrun
  have hlog : ((Layers.call Caller.brush.recorded).run [.paintGrey, .paintRed]
      (.fresh [.atMost 1 Nat.one_pos, .unbounded] ([], 0))).2.state.1.length = 2 := by
    decide +kernel
  have hchained := hexactly (by decide)
  rw [hlog] at hchained
  exact ⟨_, _, _, rfl, hchained, hserves, by decide +kernel, by decide +kernel, htells distinct⟩

end SchemaCall
