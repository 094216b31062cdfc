import Mathlib.Data.List.Basic
import SchemaCall.Client.Settings
import SchemaCall.Proofs.Client.Ways
import SchemaCall.Proofs.Memo.Accounting

/-!
# What settings leave to the environment

A client that is built from a model looks at the environment for what the settings leave open: is it
to remember results, and how many (`Settings.Resolves`). The bound is read as a number of a machine
word (`readWord?_eq_some_iff`), and anything else stands for no bound. Where the settings say it,
the environment does not matter to anything that can be seen of the client in a whole session
(`Settings.explicit_settings_win`).
-/

namespace SchemaCall

variable {σ : Type}

/-! ## Numbers in the environment -/

namespace Text

private theorem isDigit_iff {c : Char} : c.isDigit = true ↔ '0' ≤ c ∧ c ≤ '9' := by
  rw [Char.le_def, Char.le_def, UInt32.le_iff_toNat_le, UInt32.le_iff_toNat_le]
  exact Char.isDigit_iff_toNat

/-- A decimal digit has its value, which is less than ten. -/
theorem digitValue?_of_isDigit {c : Char} (h : c.isDigit = true) :
    digitValue? c = some (c.toNat - '0'.toNat) ∧ c.toNat - '0'.toNat < 10 := by
  rw [digitValue?, if_pos (isDigit_iff.mp h)]
  refine ⟨rfl, ?_⟩
  obtain ⟨hlower, hupper⟩ := Char.isDigit_iff_toNat.mp h
  have hzero : '0'.toNat = 48 := rfl
  have hnine : '9'.toNat = 57 := rfl
  omega

/-- Letters are digits from ten on. -/
theorem ten_le_of_digitValue? {c : Char} {digit : ℕ} (h : ¬c.isDigit = true)
    (hdigit : digitValue? c = some digit) : 10 ≤ digit := by
  rw [digitValue?, if_neg (mt isDigit_iff.mpr h)] at hdigit
  split at hdigit
  · rw [← Option.some.inj hdigit]
    exact Nat.le_add_left ..
  · split at hdigit
    · rw [← Option.some.inj hdigit]
      exact Nat.le_add_left ..
    · exact absurd hdigit.symm (Option.some_ne_none digit)

/-- One more decimal digit is read, or nothing is. -/
private theorem digit_step (value : ℕ) (c : Char) :
    (do let digit ← digitValue? c
        if digit < 10 then some (value * 10 + digit) else none) =
      if c.isDigit then some (10 * value + (c.toNat - '0'.toNat)) else none := by
  rw [Option.bind_eq_bind]
  by_cases h : c.isDigit = true
  · obtain ⟨hdigit, hlt⟩ := digitValue?_of_isDigit h
    rw [if_pos h, hdigit, Option.bind_some, if_pos hlt, Nat.mul_comm]
  · rw [if_neg h]
    cases hdigit : digitValue? c with
    | none => rfl
    | some digit =>
      have hten := ten_le_of_digitValue? h hdigit
      rw [Option.bind_some, if_neg (Nat.not_lt.mpr hten)]

/-- Decimal digits are read as the number that they write; anything else is not read. -/
theorem digitsValue?_ten_eq_some_iff {digits : List Char} {count : ℕ} :
    digitsValue? 10 digits = some count ↔
      (∀ c ∈ digits, c.isDigit = true) ∧ Nat.ofDigitChars 10 digits 0 = count := by
  simp only [digitsValue?, digit_step]
  generalize 0 = value
  induction digits generalizing value with
  | nil => simp
  | cons c rest ih =>
    rw [List.foldlM_cons, Nat.ofDigitChars_cons, List.forall_mem_cons]
    by_cases hc : c.isDigit = true
    · rw [if_pos hc, Option.bind_eq_bind, Option.bind_some, ih, and_iff_right hc]
    · rw [if_neg hc, Option.bind_eq_bind, Option.bind_none]
      exact iff_of_false nofun fun h => hc h.1.1

end Text

/-- The text spells a number of a machine word: decimal digits, at least one, perhaps behind a plus
sign. -/
def SpellsWord (text : String) (count : ℕ) : Prop :=
  ∃ digits : List Char, (text.toList = digits ∨ text.toList = '+' :: digits) ∧ digits ≠ [] ∧
    (∀ c ∈ digits, c.isDigit = true) ∧ Nat.ofDigitChars 10 digits 0 = count ∧
    count ≤ 0xffffffffffffffff

/-- What is behind the plus sign, if there is one. -/
def behindSign : List Char → List Char
  | '+' :: rest => rest
  | chars => chars

/-- Where there is no sign, nothing is left out. -/
theorem behindSign_of_ne {chars : List Char} (h : ∀ rest, chars ≠ '+' :: rest) :
    behindSign chars = chars := by
  unfold behindSign
  split
  · rename_i rest
    exact absurd rfl (h rest)
  · rfl

private theorem readWord?_eq_some_iff_behindSign {text : String} {count : ℕ} :
    readWord? text = some count ↔ behindSign text.toList ≠ [] ∧
      (∀ c ∈ behindSign text.toList, c.isDigit = true) ∧
      Nat.ofDigitChars 10 (behindSign text.toList) 0 = count ∧ count ≤ 0xffffffffffffffff := by
  have hread : readWord? text =
      (Text.digitsValue? 10 (behindSign text.toList)).bind fun value =>
        if (behindSign text.toList).isEmpty ∨ 0xffffffffffffffff < value then none
        else some value := rfl
  rw [hread, Option.bind_eq_some_iff]
  constructor
  · rintro ⟨value, hvalue, hbound⟩
    obtain ⟨hdigits, hcount⟩ := Text.digitsValue?_ten_eq_some_iff.mp hvalue
    split at hbound
    · exact nomatch hbound
    · rename_i hproper
      obtain rfl := Option.some.inj hbound
      rw [not_or, List.isEmpty_iff, Nat.not_lt] at hproper
      exact ⟨hproper.1, hdigits, hcount, hproper.2⟩
  · rintro ⟨hne, hdigits, hcount, hbound⟩
    refine ⟨count, Text.digitsValue?_ten_eq_some_iff.mpr ⟨hdigits, hcount⟩, if_neg ?_⟩
    rw [not_or, List.isEmpty_iff, Nat.not_lt]
    exact ⟨hne, hbound⟩

/-- A text is read as a number of a machine word if and only if it spells this number. -/
theorem readWord?_eq_some_iff {text : String} {count : ℕ} :
    readWord? text = some count ↔ SpellsWord text count := by
  rw [readWord?_eq_some_iff_behindSign]
  constructor
  · intro h
    refine ⟨behindSign text.toList, ?_, h⟩
    by_cases hsign : ∃ rest, text.toList = '+' :: rest
    · obtain ⟨rest, hrest⟩ := hsign
      rw [hrest]
      exact .inr rfl
    · exact .inl (behindSign_of_ne (not_exists.mp hsign)).symm
  · rintro ⟨digits, hwritten, hdigits⟩
    suffices hbehind : behindSign text.toList = digits by rwa [hbehind]
    rcases hwritten with hplain | hsigned
    · rw [hplain]
      -- a plus sign is no digit
      refine behindSign_of_ne fun rest hrest => ?_
      have hplus : '+'.isDigit = true := hdigits.2.1 '+' (hrest ▸ List.mem_cons_self)
      exact absurd hplus (by decide)
    · rw [hsigned]
      rfl

namespace Environment

/-- The bound that the environment sets on the number of results that are remembered: a positive
number of a machine word, and no bound if there is nothing of this kind. -/
inductive Bounds (environment : Environment) : Capacity → Prop where
  | atMost {text : String} {count : ℕ}
      (given : environment.get? "MODELRPC_CACHE_MAX_ENTRIES" = some text)
      (spells : SpellsWord text count) (positive : 0 < count) :
      Bounds environment (.atMost count positive)
  | unbounded (absent : ∀ text count,
      environment.get? "MODELRPC_CACHE_MAX_ENTRIES" = some text → SpellsWord text count →
        count = 0) : Bounds environment .unbounded

/-- The bound that the environment sets is what is read from it. -/
theorem bounds_iff {environment : Environment} {capacity : Capacity} :
    environment.Bounds capacity ↔ capacity =
      .ofNat (((environment.get? "MODELRPC_CACHE_MAX_ENTRIES").bind readWord?).getD 0) := by
  constructor
  · rintro (⟨given, spells, positive⟩ | absent)
    · rw [given, Option.bind_some, readWord?_eq_some_iff.mpr spells, Option.getD_some,
        Capacity.ofNat, dif_pos positive]
    · cases hread : (environment.get? "MODELRPC_CACHE_MAX_ENTRIES").bind readWord? with
      | none => rfl
      | some count =>
        obtain ⟨text, given, hcount⟩ := Option.bind_eq_some_iff.mp hread
        obtain rfl : count = 0 := absent text count given (readWord?_eq_some_iff.mp hcount)
        rfl
  · rintro rfl
    cases hread : (environment.get? "MODELRPC_CACHE_MAX_ENTRIES").bind readWord? with
    | none =>
      -- a text that spells no number sets no bound
      refine .unbounded fun text count given spells => ?_
      rw [given, Option.bind_some, readWord?_eq_some_iff.mpr spells] at hread
      exact nomatch hread
    | some count =>
      obtain ⟨text, given, hcount⟩ := Option.bind_eq_some_iff.mp hread
      rw [Option.getD_some, Capacity.ofNat]
      split
      · rename_i positive
        exact .atMost given (readWord?_eq_some_iff.mp hcount) positive
      · rename_i hzero
        -- and neither does one that spells zero
        refine .unbounded fun other found hother spells => ?_
        obtain rfl : text = other := Option.some.inj (given.symm.trans hother)
        obtain rfl : count = found :=
          Option.some.inj (hcount.symm.trans (readWord?_eq_some_iff.mpr spells))
        exact Nat.eq_zero_of_not_pos hzero

end Environment

/-! ## What is seen of a client -/

namespace Setup

/-- What answers the calls on a client, over a transport that is watched. -/
def caller (setup : Setup) (transport : Transport σ) : Caller (Layers (List Exchange × σ)) :=
  setup.client.call (Layers.call (setup.client.model.call transport.recorded))

/-- All that is seen of a client while calls are made one after the other: the answers, and what is
sent. -/
def session (setup : Setup) (transport : Transport σ) (calls : List Call) (start : σ) :
    List (Except CallError Json) × List Exchange :=
  let (answers, layers) := (setup.caller transport).run calls ⟨setup.memos, [], start⟩
  (answers, layers.state.1)

/-- What is seen of a caller in front of a transport that is watched. -/
def observed (caller : Caller (List Exchange × σ)) (calls : List Call) (start : σ) :
    List (Except CallError Json) × List Exchange :=
  let (answers, log, _) := caller.run calls ([], start)
  (answers, log)

/-- The client passes on every call that it does not refuse itself. If the operations of its model
bear the names that they are declared under, its sessions are those of the model. -/
structure PassesOn (setup : Setup) : Prop where
  offered : ∀ (σ : Type) (transport : Transport σ) (calls : List Call) (start : σ),
    setup.session transport calls start =
      observed (setup.client.call (setup.client.model.call transport.recorded)) calls start
  named : setup.client.model.Named →
    ∀ (σ : Type) (transport : Transport σ) (calls : List Call) (start : σ),
      setup.session transport calls start =
        observed (setup.client.model.call transport.recorded) calls start

/-- The client remembers results: after any calls, one that has just succeeded is answered in the
same way when it is made again, and is not sent again. -/
def Remembers (setup : Setup) : Prop :=
  ∀ (σ : Type) (transport : Transport σ) (calls : List Call) (call : Call) (start : σ)
    (answers : List (Except CallError Json)) (result : Json) (sent : List Exchange),
    setup.session transport (calls ++ [call]) start = (answers ++ [.ok result], sent) →
    setup.session transport (calls ++ [call, call]) start =
      (answers ++ [.ok result, .ok result], sent)

/-- Without memos there is nothing between a client and its model. -/
private theorem refines_caller (client : Client) (transport : Transport σ) :
    Refines (fun state => ⟨[], state⟩) (client.call (client.model.call transport.recorded))
      (caller ⟨client, []⟩ transport) := by
  intro name args state
  rw [caller, Client.call, Client.call]
  split <;> rfl

/-- In front of a model whose operations are named, a client makes no difference. -/
private theorem call_ofModel {model : Model} (named : model.Named) (transport : Transport σ) :
    (Client.ofModel model).call (model.call transport) = model.call transport := by
  funext name args state
  cases hoperation : model.operation? name with
  | some operation =>
    exact Client.via_of_declared named (Option.isSome_iff_exists.mpr ⟨operation, hoperation⟩)
      (model.call transport) .named args state
  | none =>
    have hnamed : Client.Way.named ≠ .direct := nofun
    rw [Model.call_of_params_error (Model.params_of_operation?_eq_none hoperation args)]
    exact Client.via_of_undeclared named hoperation (model.call transport) hnamed args state

private theorem session_of_no_memos (client : Client) (transport : Transport σ)
    (calls : List Call) (start : σ) :
    session ⟨client, []⟩ transport calls start =
      observed (client.call (client.model.call transport.recorded)) calls start := by
  have hrun := (refines_caller client transport).run calls ([], start)
  rw [session, observed]
  dsimp only at hrun ⊢
  rw [hrun]
  rfl

/-- A client without memos passes calls on. -/
theorem passesOn_ofModel (model : Model) : PassesOn ⟨.ofModel model, []⟩ where
  offered _ transport calls start := session_of_no_memos _ transport calls start
  named hnamed _ transport calls start := by
    have hcall : (Client.ofModel model).call (model.call transport.recorded) =
        model.call transport.recorded :=
      call_ofModel hnamed transport.recorded
    have hsession := session_of_no_memos (.ofModel model) transport calls start
    rw [hsession]
    exact congrArg (observed · calls start) hcall

/-- There is one memo after a call if there was one before. -/
private theorem exists_memo_caller (setup : Setup) (transport : Transport σ) (call : Call)
    (memo : Memo) (state : List Exchange × σ) :
    ∃ after, (setup.caller transport call.operation call.args ⟨[memo], state⟩).2.memos =
      [after] := by
  rw [caller, Client.call]
  split
  · cases hfind : memo.find? call.key.hash with
    | some record =>
      rw [Layers.call_of_find?_eq_some hfind]
      exact ⟨_, rfl⟩
    | none =>
      rw [Layers.call_of_find?_eq_none hfind]
      exact ⟨_, rfl⟩
  · exact ⟨memo, rfl⟩

/-- There is one memo after a run if there was one before. -/
private theorem exists_memo_run (setup : Setup) (transport : Transport σ) (calls : List Call)
    {layers : Layers (List Exchange × σ)} (h : ∃ memo, layers.memos = [memo]) :
    ∃ after, ((setup.caller transport).run calls layers).2.memos = [after] := by
  induction calls generalizing layers with
  | nil => exact h
  | cons call rest ih =>
    obtain ⟨memo, hmemo⟩ := h
    obtain ⟨memos, state⟩ := layers
    obtain rfl : memos = [memo] := hmemo
    rw [Caller.run_cons]
    exact ih (setup.exists_memo_caller transport call memo state)

/-- A call that succeeds is remembered. -/
private theorem exists_record_of_call {inner : Caller σ} {call : Call} {memo : Memo} {state : σ}
    {result : Json}
    (h : (Layers.call inner call.operation call.args ⟨[memo], state⟩).1 = .ok result) :
    ∃ after record, (Layers.call inner call.operation call.args ⟨[memo], state⟩).2.memos =
        [after] ∧
      after.find? call.key.hash = some record ∧ record.result = result := by
  cases hfind : memo.find? call.key.hash with
  | some record =>
    rw [Layers.call_of_find?_eq_some hfind] at h ⊢
    obtain rfl := Except.ok.inj h
    obtain ⟨-, hhash⟩ := Memo.mem_of_find? hfind
    exact ⟨_, record, rfl, hhash ▸ (Memo.holds_touch hfind).1, rfl⟩
  | none =>
    rw [Layers.call_of_find?_eq_none hfind] at h ⊢
    dsimp only at h ⊢
    rw [h]
    exact ⟨_, _, rfl, (Memo.learnt_learn hfind result).holds.1, rfl⟩

/-- A call that succeeds is answered alike when it is made again, and then nothing is sent. -/
private theorem caller_again {setup : Setup} {transport : Transport σ} {call : Call}
    {layers after : Layers (List Exchange × σ)} (hlayers : ∃ memo, layers.memos = [memo])
    {result : Json}
    (h : setup.caller transport call.operation call.args layers = (.ok result, after)) :
    ∃ later, setup.caller transport call.operation call.args after = (.ok result, later) ∧
      later.state = after.state := by
  obtain ⟨memo, hmemo⟩ := hlayers
  obtain ⟨memos, state⟩ := layers
  obtain rfl : memos = [memo] := hmemo
  unfold caller Client.call at h ⊢
  split at h
  · rename_i hoffered
    rw [if_pos hoffered]
    -- the memo that the first call leaves has its record, and answers the second one
    obtain ⟨remembering, record, hmemos, hfind, hresult⟩ :=
      exists_record_of_call (congrArg Prod.fst h)
    rw [h] at hmemos
    obtain ⟨memos, state⟩ := after
    obtain rfl : memos = [remembering] := hmemos
    rw [Layers.call_of_find?_eq_some hfind, hresult]
    exact ⟨_, rfl, rfl⟩
  · exact nomatch h

/-- A setup with one memo remembers. -/
theorem remembers_of_memos_eq {setup : Setup} {memo : Memo} (hmemo : setup.memos = [memo]) :
    setup.Remembers := by
  intro σ transport calls call start answers result sent h
  have hlayers : ∃ after,
      ((setup.caller transport).run calls ⟨setup.memos, [], start⟩).2.memos = [after] :=
    setup.exists_memo_run transport calls ⟨memo, hmemo⟩
  rw [session] at h ⊢
  dsimp only at h ⊢
  rw [Caller.run_append] at h ⊢
  -- only the memo that the first calls leave matters, so what they did is forgotten
  generalize (setup.caller transport).run calls ⟨setup.memos, [], start⟩ = front at h hlayers ⊢
  obtain ⟨earlier, layers⟩ := front
  rw [Caller.run_cons, Caller.run_cons]
  rw [Caller.run_cons] at h
  cases hcall : setup.caller transport call.operation call.args layers with
  | mk answer after =>
    rw [hcall] at h
    obtain ⟨hanswers, hsent⟩ := Prod.mk.inj h
    obtain ⟨hearlier, hanswer⟩ := List.append_inj' hanswers rfl
    obtain rfl : answer = .ok result := (List.cons.inj hanswer).1
    obtain ⟨later, hagain, hstate⟩ := caller_again hlayers hcall
    dsimp only
    rw [hagain, ← hearlier, ← hsent]
    refine Prod.ext rfl ?_
    exact congrArg Prod.fst hstate

end Setup

/-! ## Settings and environment -/

/-- What is said if there is no model. -/
def missingModel : CallError :=
  .configuration "an API model is required" ⟨some "builder.model", none, some "client_builder"⟩

namespace Settings

/-- The memos of a client are those that the settings ask for, and where the settings leave it open,
those that the environment asks for. Whether there is one and how much it remembers are settled
apart: zero results mean that there is no bound, and a bound alone asks for no memo. -/
structure Resolves (settings : Settings) (environment : Environment) (memos : List Memo) :
    Prop where
  off : settings.memoize = some false → memos = []
  on : settings.memoize = some true → memos ≠ []
  unset : settings.memoize = none →
    (memos ≠ [] ↔ environment.get? "MODELRPC_MEMOIZE" = some "1")
  bound : memos ≠ [] → ∀ count, settings.maxEntries = some count →
    (count = 0 → memos = [.empty .unbounded]) ∧
      ∀ positive : 0 < count, memos = [.empty (.atMost count positive)]
  unbound : memos ≠ [] → settings.maxEntries = none →
    ∃ capacity, environment.Bounds capacity ∧ memos = [.empty capacity]

/-- There are memos just if memoizing is on. -/
theorem memos_ne_nil_iff {settings : Settings} {environment : Environment} :
    settings.memos environment ≠ [] ↔ settings.memoizes environment = true := by
  rw [memos]
  split <;> simp [*]

/-- If there are memos, there is one, of the capacity of the settings. -/
theorem memos_of_ne_nil {settings : Settings} {environment : Environment}
    (h : settings.memos environment ≠ []) :
    settings.memos environment = [.empty (settings.capacity environment)] := by
  rw [memos, if_pos (memos_ne_nil_iff.mp h)]

/-- The memos that are set up are those that the rules of precedence ask for. -/
theorem resolves_memos (settings : Settings) (environment : Environment) :
    settings.Resolves environment (settings.memos environment) where
  off hoff := by
    rw [memos, memoizes, hoff]
    rfl
  on hon := by
    rw [memos_ne_nil_iff, memoizes, hon]
    rfl
  unset hunset := by
    rw [memos_ne_nil_iff, memoizes, hunset, Option.getD_none, decide_eq_true_iff]
  bound hmemos count hcount := by
    have hcapacity : settings.capacity environment = .ofNat count := by
      rw [capacity, hcount]
      rfl
    rw [memos_of_ne_nil hmemos, hcapacity]
    constructor
    · rintro rfl
      rfl
    · intro positive
      rw [Capacity.ofNat, dif_pos positive]
  unbound hmemos hcount := by
    refine ⟨settings.capacity environment, Environment.bounds_iff.mpr ?_, memos_of_ne_nil hmemos⟩
    rw [capacity, hcount]

/-- If the settings say whether results are remembered, and how many if they are, the environment
does not matter to the memos. -/
theorem memos_eq_of_explicit {settings : Settings}
    (h : settings.memoize = some false ∨
      settings.memoize = some true ∧ settings.maxEntries.isSome)
    (one other : Environment) : settings.memos one = settings.memos other := by
  rcases h with hoff | ⟨hon, hcount⟩
  · rw [(settings.resolves_memos one).off hoff, (settings.resolves_memos other).off hoff]
  · obtain ⟨count, hcount⟩ := Option.isSome_iff_exists.mp hcount
    rw [memos_of_ne_nil ((settings.resolves_memos one).on hon),
      memos_of_ne_nil ((settings.resolves_memos other).on hon), capacity, capacity, hcount]

variable {settings : Settings} {model : Model}

/-- A model that is given is taken, and no file is read. -/
theorem resolveModel_of_model (h : settings.model = some model) (files : Directory) :
    settings.resolveModel files = .ok model := by
  rw [resolveModel, h]

/-- Without a model, and without a file to read it from, there is no client. -/
theorem resolveModel_of_none (hmodel : settings.model = none) (hpath : settings.modelPath = none)
    (files : Directory) : settings.resolveModel files = .error missingModel := by
  rw [resolveModel, hmodel, hpath]
  rfl

/-- A client is built from a model in every environment. -/
theorem build_of_model (h : settings.model = some model) (environment : Environment)
    (files : Directory) :
    settings.build environment files = .ok ⟨.ofModel model, settings.memos environment⟩ := by
  rw [build, resolveModel_of_model h]
  rfl

/-- Settings win over the environment. Two clients that are built from the same model, with settings
that say whether results are remembered, and how many if they are, answer and send alike in every
session, whatever the two environments are. Where the settings leave it open, what is remembered
depends on two variables of the environment, as told by `Resolves`; a client with a memo remembers
what it was answered, and one without passes every call on. If there is a model, no file is read. If
there is neither a model nor a file, building fails in one way whatever else is set. -/
theorem explicit_settings_win (settings : Settings) :
    (∀ model, settings.model = some model →
      (settings.memoize = some false ∨
          settings.memoize = some true ∧ settings.maxEntries.isSome →
        ∀ (one other : Environment) (files others : Directory), ∃ first second,
          settings.build one files = .ok first ∧ settings.build other others = .ok second ∧
          ∀ (σ : Type) (transport : Transport σ) (calls : List Call) (start : σ),
            first.session transport calls start = second.session transport calls start) ∧
      (∀ environment files, ∃ setup, settings.build environment files = .ok setup ∧
        setup.client = .ofModel model ∧ settings.Resolves environment setup.memos ∧
        (setup.memos = [] → setup.PassesOn) ∧ (setup.memos ≠ [] → setup.Remembers)) ∧
      ∀ path environment files others,
        build { settings with modelPath := path } environment others =
            settings.build environment files ∧
          buildHttp { settings with modelPath := path } environment others =
            settings.buildHttp environment files) ∧
    (settings.model = none → settings.modelPath = none → ∀ environment files,
      settings.build environment files = .error missingModel ∧
        settings.buildHttp environment files = .error missingModel) := by
  refine ⟨fun model hmodel => ⟨fun hexplicit one other files others => ?_,
    fun environment files => ?_, fun path environment files others => ?_⟩,
    fun hmodel hpath environment files => ?_⟩
  · refine ⟨_, _, build_of_model hmodel one files, build_of_model hmodel other others, ?_⟩
    rw [memos_eq_of_explicit hexplicit one other]
    exact fun σ transport calls start => rfl
  · refine ⟨_, build_of_model hmodel environment files, rfl, settings.resolves_memos environment,
      fun hnone => ?_, fun hsome => Setup.remembers_of_memos_eq (memos_of_ne_nil hsome)⟩
    dsimp only at hnone
    rw [hnone]
    exact Setup.passesOn_ofModel model
  -- the path is looked at only where no model is given
  · have hresolve : resolveModel { settings with modelPath := path } others =
        settings.resolveModel files := by
      have hother : Settings.model { settings with modelPath := path } = some model := hmodel
      rw [resolveModel_of_model hmodel, resolveModel_of_model hother]
    unfold build buildHttp
    rw [hresolve]
    exact ⟨rfl, rfl⟩
  · unfold build buildHttp
    rw [resolveModel_of_none hmodel hpath]
    exact ⟨rfl, rfl⟩

/-- Settings of a paint shop where everything is remembered. -/
def rememberAll : Settings :=
  { empty with model := some .paintShop, memoize := some true, maxEntries := some 0 }

/-- Settings of a paint shop that leave the rest to the environment. -/
def plain : Settings :=
  { empty with model := some .paintShop }

/-- An environment where two results are remembered. -/
def rememberTwo : Environment :=
  ⟨[("MODELRPC_CACHE_MAX_ENTRIES", "+02"), ("MODELRPC_MEMOIZE", "1")]⟩

/-- The zero of the settings wins over the two of the environment, which counts for settings without
a number. -/
theorem explicit_settings_win_paintShop :
    (rememberAll.model = some .paintShop ∧ rememberAll.memoize = some true ∧
      rememberAll.maxEntries = some 0 ∧ ∃ first second,
        rememberAll.build rememberTwo ⟨[]⟩ = .ok first ∧
        rememberAll.build ⟨[]⟩ ⟨[]⟩ = .ok second ∧
        ∀ (σ : Type) (transport : Transport σ) (calls : List Call) (start : σ),
          first.session transport calls start = second.session transport calls start) ∧
    (∃ setup, rememberAll.build rememberTwo ⟨[]⟩ = .ok setup ∧
      setup.memos = [.empty .unbounded]) ∧
    (plain.model = some .paintShop ∧ ∃ setup, plain.build rememberTwo ⟨[]⟩ = .ok setup ∧
      setup.memos = [.empty (.atMost 2 Nat.two_pos)] ∧ setup.Remembers) ∧
    empty.build rememberTwo ⟨[]⟩ = .error missingModel := by
  have hagree := ((explicit_settings_win rememberAll).1 .paintShop rfl).1 (.inr ⟨rfl, rfl⟩)
    rememberTwo ⟨[]⟩ ⟨[]⟩ ⟨[]⟩
  obtain ⟨all, hall, -, hresolves, -, -⟩ :=
    ((explicit_settings_win rememberAll).1 .paintShop rfl).2.1 rememberTwo ⟨[]⟩
  have hunbounded := (hresolves.bound (hresolves.on rfl) 0 rfl).1 rfl
  obtain ⟨two, htwo, -, hopen, -, hremembers⟩ :=
    ((explicit_settings_win plain).1 .paintShop rfl).2.1 rememberTwo ⟨[]⟩
  have hmemo : two.memos ≠ [] := (hopen.unset rfl).mpr (by decide)
  obtain ⟨capacity, hbounds, hmemos⟩ := hopen.unbound hmemo rfl
  have hcapacity : capacity = .atMost 2 Nat.two_pos := by
    rw [Environment.bounds_iff.mp hbounds]
    decide
  rw [hcapacity] at hmemos
  exact ⟨⟨rfl, rfl, rfl, hagree⟩, ⟨all, hall, hunbounded⟩,
    ⟨rfl, two, htwo, hmemos, hremembers hmemo⟩,
    ((explicit_settings_win empty).2 rfl rfl rememberTwo ⟨[]⟩).1⟩

end Settings

end SchemaCall
