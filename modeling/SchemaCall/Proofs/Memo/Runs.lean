import Mathlib.Data.List.Pairwise
import SchemaCall.Proofs.Call.Runs
import SchemaCall.Proofs.Memo.Basic
import SchemaCall.Proofs.Memo.CallKey

/-!
# Runs of calls through memos

`Layers.fresh` is the state in which a run of calls through memos starts.
`Layers.callThrough_cases` says once what a call through memos can do: it is answered by the first
memo that remembers it, or it is passed on behind all of them. From this follows what runs keep:
whatever is true of every result when it comes from behind the memos, and stays true, is true of
everything that is ever remembered or answered (`Sound.remembers_run`, `Sound.property_of_call`).
Memos do not notice whether what they stand in front of is watched (`Refines.run_fresh`).
-/

namespace SchemaCall

variable {σ τ : Type}

/-- The key of a call. -/
def Call.key (call : Call) : CallKey := .of call.operation call.args

/-- No two texts of the calls have the same digest. -/
def NoCollision (calls : List Call) : Prop :=
  ∀ c ∈ calls, ∀ d ∈ calls, c.key.hash = d.key.hash → c.key.encoded = d.key.encoded

/-- It is enough to compare each call with those after it, and digests where texts differ. -/
theorem noCollision_iff_pairwise {calls : List Call} : NoCollision calls ↔
    calls.Pairwise fun c d => c.key.encoded = d.key.encoded ∨ c.key.hash ≠ d.key.hash := by
  have hiff (c d : Call) : (c.key.encoded = d.key.encoded ∨ c.key.hash ≠ d.key.hash) ↔
      (c.key.hash = d.key.hash → c.key.encoded = d.key.encoded) := by
    rw [imp_iff_or_not]
  constructor
  · intro h
    exact List.pairwise_of_forall_mem_list fun c hc d hd => (hiff c d).mpr (h c hc d hd)
  · intro h c hc d hd
    have hsymm : Std.Symm fun c d : Call =>
        c.key.encoded = d.key.encoded ∨ c.key.hash ≠ d.key.hash :=
      ⟨fun _ _ => Or.imp Eq.symm Ne.symm⟩
    exact (hiff c d).mp (h.forall_of_forall (fun _ _ => .inl rfl) hc hd)

instance (calls : List Call) : Decidable (NoCollision calls) :=
  decidable_of_iff _ noCollision_iff_pairwise.symm

/-- Fewer calls have no more collisions. -/
theorem NoCollision.subset {calls others : List Call} (h : NoCollision calls)
    (hothers : others ⊆ calls) : NoCollision others :=
  fun c hc d hd => h c (hothers hc) d (hothers hd)

/-- Calls of one digest are calls of one operation with arguments that are alike. -/
theorem NoCollision.alike {calls : List Call} (h : NoCollision calls) {c d : Call}
    (hc : c ∈ calls) (hd : d ∈ calls) (hhash : c.key.hash = d.key.hash) :
    c.operation = d.operation ∧ c.args.Alike d.args :=
  CallKey.encode_eq_iff.mp (CallKey.encode_eq_of_encoded_eq (h c hc d hd hhash))

/-- Calls of one digest have one key. -/
theorem NoCollision.key_eq {calls : List Call} (h : NoCollision calls) {c d : Call}
    (hc : c ∈ calls) (hd : d ∈ calls) (hhash : c.key.hash = d.key.hash) : c.key = d.key := by
  obtain ⟨hoperation, halike⟩ := h.alike hc hd hhash
  rw [Call.key, Call.key, hoperation, CallKey.of_eq_of_alike _ halike]

/-- The start of a run through memos that remember nothing, the outermost first. -/
def Layers.fresh (capacities : List Capacity) (state : σ) : Layers σ :=
  ⟨capacities.map Memo.empty, state⟩

/-! ## One call through memos -/

namespace Layers

variable (inner : Caller σ) (operation : String) (args : Arguments)

/-- A call that the outermost memo finds is answered from there, and the memos behind stay as they
were. -/
theorem callThrough_of_find?_eq_some {memo : Memo} {record : CallRecord}
    (h : memo.find? (CallKey.of operation args).hash = some record) (behind : List Memo)
    (state : σ) : callThrough inner operation args (memo :: behind) state =
      (.ok record.result,
        (memo.touch (CallKey.of operation args).hash).countHit :: behind, state) := by
  rw [callThrough, h]

/-- A call that the outermost memo does not find is answered by what is behind, and the memo learns
the answer. -/
theorem callThrough_of_find?_eq_none {memo : Memo}
    (h : memo.find? (CallKey.of operation args).hash = none) (behind : List Memo) (state : σ) :
    callThrough inner operation args (memo :: behind) state =
      ((callThrough inner operation args behind state).1,
        memo.learn (.of operation args) (callThrough inner operation args behind state).1 ::
          (callThrough inner operation args behind state).2.1,
        (callThrough inner operation args behind state).2.2) := by
  rw [callThrough, h]
  dsimp only
  rcases callThrough inner operation args behind state with ⟨_ | _, _, _⟩ <;> rfl

/-- What a call through memos can do. Either some memo is the first to remember it: those in front
of it learn its result, and those behind it and the state are not touched. Or none remembers it: it
is passed on, and all of them learn the answer. -/
theorem callThrough_cases (memos : List Memo) (state : σ) :
    (∃ front memo behind record, memos = front ++ memo :: behind ∧
      (∀ m ∈ front, m.find? (CallKey.of operation args).hash = none) ∧
      memo.find? (CallKey.of operation args).hash = some record ∧
      callThrough inner operation args memos state =
        (.ok record.result, front.map (·.learn (.of operation args) (.ok record.result)) ++
          (memo.touch (CallKey.of operation args).hash).countHit :: behind, state)) ∨
    ((∀ m ∈ memos, m.find? (CallKey.of operation args).hash = none) ∧
      callThrough inner operation args memos state =
        ((inner operation args state).1,
          memos.map (·.learn (.of operation args) (inner operation args state).1),
          (inner operation args state).2)) := by
  induction memos with
  | nil => exact .inr ⟨by simp, rfl⟩
  | cons first rest ih =>
    -- either the first memo answers, or the same holds of those behind it
    cases hfind : first.find? (CallKey.of operation args).hash with
    | some record =>
      exact .inl ⟨[], first, rest, record, rfl, by simp, hfind,
        callThrough_of_find?_eq_some inner operation args hfind rest state⟩
    | none =>
      rw [callThrough_of_find?_eq_none inner operation args hfind]
      rcases ih with ⟨front, memo, behind, record, rfl, hfront, hmemo, hcall⟩ | ⟨hrest, hcall⟩
      · refine .inl ⟨first :: front, memo, behind, record, rfl, ?_, hmemo, ?_⟩
        · exact List.forall_mem_cons.mpr ⟨hfind, hfront⟩
        · rw [hcall]
          rfl
      · refine .inr ⟨List.forall_mem_cons.mpr ⟨hfind, hrest⟩, ?_⟩
        rw [hcall]
        rfl

/-- A failure that comes through the memos comes from what they stand in front of. -/
theorem call_eq_error {inner : Caller σ} {operation : String} {args : Arguments}
    {layers : Layers σ} {error : CallError}
    (h : (call inner operation args layers).1 = .error error) :
    (inner operation args layers.state).1 = .error error := by
  unfold call at h
  rcases callThrough_cases inner operation args layers.memos layers.state with
    ⟨_, _, _, _, -, -, -, hthrough⟩ | ⟨-, hthrough⟩
  · rw [hthrough] at h
    exact nomatch h
  · rwa [hthrough] at h

end Layers

/-- The same memos in front of what `view` leaves of the state. -/
def Layers.map (view : τ → σ) (layers : Layers τ) : Layers σ :=
  ⟨layers.memos, view layers.state⟩

/-- Memos do not notice whether what they stand in front of is watched. -/
theorem Refines.layers {view : τ → σ} {fine : Caller τ} {coarse : Caller σ}
    (h : Refines view fine coarse) :
    Refines (Layers.map view) (Layers.call fine) (Layers.call coarse) := by
  rintro operation args ⟨memos, state⟩
  have hthrough : Layers.callThrough coarse operation args memos (view state) =
      (Layers.callThrough fine operation args memos state).map id (Prod.map id view) := by
    induction memos with
    | nil =>
      rw [Layers.callThrough, Layers.callThrough, h]
      rfl
    | cons memo behind ih =>
      cases hfind : memo.find? (CallKey.of operation args).hash with
      | some record =>
        rw [Layers.callThrough_of_find?_eq_some _ _ _ hfind,
          Layers.callThrough_of_find?_eq_some _ _ _ hfind]
        rfl
      | none =>
        rw [Layers.callThrough_of_find?_eq_none _ _ _ hfind,
          Layers.callThrough_of_find?_eq_none _ _ _ hfind, ih]
        rfl
  rw [Layers.map, Layers.call, Layers.call]
  dsimp only
  rw [hthrough]
  rfl

/-- Neither do whole runs through memos. -/
theorem Refines.run_fresh {view : τ → σ} {fine : Caller τ} {coarse : Caller σ}
    (h : Refines view fine coarse) (calls : List Call) (capacities : List Capacity) (state : τ) :
    (Layers.call coarse).run calls (.fresh capacities (view state)) =
      ((Layers.call fine).run calls (.fresh capacities state)).map id (Layers.map view) :=
  h.layers.run calls (.fresh capacities state)

/-- What a run does that is watched, it does when it is not. -/
theorem Layers.run_of_recorded {inner : Caller σ} {calls : List Call} {capacities : List Capacity}
    {start state : σ} {answers : List (Except CallError Json)} {memos : List Memo}
    {log : List Invocation}
    (h : (Layers.call inner.recorded).run calls (.fresh capacities ([], start)) =
      (answers, ⟨memos, (log, state)⟩)) :
    (Layers.call inner).run calls (.fresh capacities start) = (answers, ⟨memos, state⟩) := by
  rw [(refines_recorded inner).run_fresh calls capacities ([], start)]
  exact congrArg (Prod.map id (Layers.map Prod.snd)) h

/-! ## What runs keep -/

/-- Whatever the memos remember is the result of one of the calls, and has the property of such a
result in the present state. -/
def Layers.Remembers (calls : List Call) (property : Call → Json → σ → Prop) (layers : Layers σ) :
    Prop :=
  ∀ memo ∈ layers.memos, ∀ record ∈ memo.records,
    ∃ call ∈ calls, call.key = record.key ∧ property call record.result layers.state

/-- Layers that remember nothing have any property of what they remember. -/
theorem Layers.remembers_fresh (calls : List Call) (property : Call → Json → σ → Prop)
    (capacities : List Capacity) (state : σ) :
    (Layers.fresh capacities state).Remembers calls property := by
  intro memo hmemo record hrecord
  obtain ⟨capacity, -, rfl⟩ := List.mem_map.mp hmemo
  rw [Memo.records_empty] at hrecord
  contradiction

/-- A property of the results of calls that the caller provides for (`made`), that does not get lost
when other calls are made (`kept`), and that calls with arguments that are alike have together
(`alike`). -/
structure Sound (inner : Caller σ) (calls : List Call) (property : Call → Json → σ → Prop) :
    Prop where
  made : ∀ call ∈ calls, ∀ state result, (inner call.operation call.args state).1 = .ok result →
    property call result (inner call.operation call.args state).2
  kept : ∀ next ∈ calls, ∀ call result state, property call result state →
    property call result (inner next.operation next.args state).2
  alike : ∀ operation a b result state, a.Alike b → property ⟨operation, a⟩ result state →
    property ⟨operation, b⟩ result state

namespace Sound

variable {inner : Caller σ} {calls : List Call} {property : Call → Json → σ → Prop}

/-- A remembered result that is found for a call is one that the call may have. -/
theorem property_of_find? (h : Sound inner calls property) (distinct : NoCollision calls)
    {layers : Layers σ} (hlayers : layers.Remembers calls property) {call : Call}
    (hcall : call ∈ calls) {memo : Memo} (hmemo : memo ∈ layers.memos) {record : CallRecord}
    (hfind : memo.find? call.key.hash = some record) :
    property call record.result layers.state := by
  obtain ⟨hrecord, hhash⟩ := Memo.mem_of_find? hfind
  obtain ⟨other, hother, hkey, hproperty⟩ := hlayers memo hmemo record hrecord
  rw [← hkey] at hhash
  obtain ⟨hoperation, halike⟩ := distinct.alike hother hcall hhash
  have htransfer := h.alike other.operation other.args call.args _ _ halike hproperty
  rwa [hoperation] at htransfer

/-- A result that comes through the memos has the property. -/
theorem property_of_call (h : Sound inner calls property) (distinct : NoCollision calls)
    {layers : Layers σ} (hlayers : layers.Remembers calls property) {call : Call}
    (hcall : call ∈ calls) {result : Json}
    (hresult : (Layers.call inner call.operation call.args layers).1 = .ok result) :
    property call result (Layers.call inner call.operation call.args layers).2.state := by
  unfold Layers.call at hresult ⊢
  rcases Layers.callThrough_cases inner call.operation call.args layers.memos layers.state with
    ⟨front, memo, behind, record, hmemos, -, hfind, hthrough⟩ | ⟨-, hthrough⟩
  · rw [hthrough] at hresult ⊢
    rw [← Except.ok.inj hresult]
    exact h.property_of_find? distinct hlayers hcall (hmemos ▸ by simp) hfind
  · rw [hthrough] at hresult ⊢
    exact h.made call hcall _ _ hresult

/-- What the memos remember after a call is in order if it was before. -/
theorem remembers_call (h : Sound inner calls property) (distinct : NoCollision calls)
    {layers : Layers σ} (hlayers : layers.Remembers calls property) {call : Call}
    (hcall : call ∈ calls) :
    (Layers.call inner call.operation call.args layers).2.Remembers calls property := by
  unfold Layers.call
  rcases Layers.callThrough_cases inner call.operation call.args layers.memos layers.state with
    ⟨front, memo, behind, used, hmemos, -, hfind, hthrough⟩ | ⟨-, hthrough⟩
  · have hproperty := h.property_of_find? distinct hlayers hcall (hmemos ▸ by simp) hfind
    rw [hthrough]
    intro m hm record hrecord
    rcases List.mem_append.mp hm with hfront | hbehind
    -- a memo in front learns the result under the key of this call, not of the one that made it
    · obtain ⟨old, hold, rfl⟩ := List.mem_map.mp hfront
      rcases Memo.mem_learn hrecord with hrecord | ⟨hanswer, hkey⟩
      · exact hlayers old (by simp [hmemos, hold]) record hrecord
      · exact ⟨call, hcall, hkey.symm, Except.ok.inj hanswer ▸ hproperty⟩
    · rcases List.mem_cons.mp hbehind with rfl | hbehind
      · exact hlayers memo (by simp [hmemos]) record
          (Memo.mem_of_mem_touch hrecord)
      · exact hlayers m (by simp [hmemos, hbehind]) record hrecord
  · rw [hthrough]
    intro m hm record hrecord
    obtain ⟨old, hold, rfl⟩ := List.mem_map.mp hm
    rcases Memo.mem_learn hrecord with hrecord | ⟨hanswer, hkey⟩
    · obtain ⟨other, hother, hkey, hproperty⟩ := hlayers old hold record hrecord
      exact ⟨other, hother, hkey, h.kept call hcall other _ _ hproperty⟩
    · exact ⟨call, hcall, hkey.symm, h.made call hcall _ _ hanswer⟩

/-- What the memos remember after a run is in order. -/
theorem remembers_run (h : Sound inner calls property) (distinct : NoCollision calls)
    {made : List Call} (hmade : made ⊆ calls) {layers : Layers σ}
    (hlayers : layers.Remembers calls property) :
    ((Layers.call inner).run made layers).2.Remembers calls property := by
  induction made generalizing layers with
  | nil => exact hlayers
  | cons call rest ih =>
    rw [Caller.run_cons]
    exact ih (fun c hc => hmade (List.mem_cons_of_mem _ hc))
      (h.remembers_call distinct hlayers (hmade List.mem_cons_self))

end Sound

/-- The orders of paint have different digests where they have different keys. -/
theorem Call.noCollision_paintOrders : NoCollision (Call.paintOrders ++ [.paintRed]) := by
  decide +kernel

end SchemaCall
