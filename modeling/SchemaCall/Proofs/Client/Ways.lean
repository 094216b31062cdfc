import Mathlib.Data.List.TFAE
import SchemaCall.Client.Basic
import SchemaCall.Proofs.Call.Requests
import SchemaCall.Proofs.Memo.Transparency
import SchemaCall.Proofs.Model.Load

/-!
# Ways of calling an operation

An operation is called by its name on a client, through a binding that the client hands out, or on
what the client passes calls on to. The ways are one for the operations that a model declares
(`Client.via_of_declared`), and the client itself refuses all others (`Client.via_of_undeclared`).
Called directly, those others find no memo that remembers them, since nothing is remembered but
calls of declared operations (`Client.remembers_after`); they are refused behind all memos, each of
which counts a miss (`Client.direct_of_undeclared`).
-/

namespace SchemaCall

variable {σ : Type}

namespace Client

/-! ## What a client offers -/

section Offers

variable {model : Model} (named : model.Named)

include named

/-- A client keys the operations by the names that they bear, which are the keys of the model. -/
private theorem entries_docs : (ofModel model).docs.entries =
    model.operations.entries.map fun entry => (entry.1, OperationDoc.of entry.2) := by
  have hkeys : (model.operations.entries.map fun entry =>
      (entry.2.name, OperationDoc.of entry.2)) =
        model.operations.entries.map fun entry => (entry.1, OperationDoc.of entry.2) :=
    List.map_congr_left fun entry hentry => Prod.ext (named entry hentry) rfl
  rw [ofModel]
  dsimp only
  rw [hkeys]
  refine Table.entries_ofList ?_
  have hdistinct := model.operations.distinct
  rwa [Entries.Distinct, Entries.names, List.map_map]

/-- The operations of a client are those of its model, in the same order. -/
theorem operationNames_ofModel : (ofModel model).operationNames = model.operationNames := by
  rw [operationNames, Table.names, entries_docs named, Entries.names, List.map_map]
  rfl

/-- An operation has the documentation that its declaration gives it. -/
theorem doc?_ofModel (name : String) :
    (ofModel model).doc? name = (model.operation? name).map OperationDoc.of := by
  rw [doc?, Table.get?, entries_docs named]
  exact Entries.get?_map ..

/-- A client has the operations that its model declares. -/
theorem hasOperation_ofModel (name : String) :
    (ofModel model).hasOperation name = (model.operation? name).isSome := by
  rw [hasOperation, Table.contains, ← doc?, doc?_ofModel named, Option.isSome_map]

/-- All questions about whether a client offers an operation have one answer: whether its model
declares it. -/
theorem offers_tfae (name : String) :
    [(ofModel model).hasOperation name = true,
      ∃ binding, (ofModel model).bind name = .ok binding,
      ((ofModel model).doc? name).isSome = true,
      name ∈ (ofModel model).operationNames,
      (model.operation? name).isSome = true].TFAE := by
  tfae_have 1 ↔ 2 := by
    rw [bind]
    cases (ofModel model).hasOperation name <;> simp
  tfae_have 1 ↔ 5 := by rw [hasOperation_ofModel named]
  tfae_have 3 ↔ 5 := by rw [doc?_ofModel named, Option.isSome_map]
  tfae_have 4 ↔ 5 := by
    rw [operationNames_ofModel named]
    exact Entries.isSome_get?_iff.symm
  tfae_finish

end Offers

/-! ## Three ways -/

/-- A way of calling an operation. -/
inductive Way where
  | named
  | bound
  | direct
  deriving DecidableEq

/-- What answers calls that are made in the given way, for a client in front of another caller. -/
def via (client : Client) (inner : Caller σ) : Way → Caller σ
  | .named => client.call inner
  | .bound => client.callBound inner
  | .direct => inner

/-- The state after calls that are made one after the other, each in a way of its own. -/
def after (client : Client) (inner : Caller σ) : List (Way × Call) → σ → σ
  | [], state => state
  | (way, call) :: rest, state =>
    after client inner rest (client.via inner way call.operation call.args state).2

variable {model : Model} {name : String}

/-- A declared operation is called alike in all ways. -/
theorem via_of_declared (named : model.Named) (h : (model.operation? name).isSome)
    (inner : Caller σ) (way : Way) (args : Arguments) (state : σ) :
    (ofModel model).via inner way name args state = inner name args state := by
  have hoffered : (ofModel model).hasOperation name = true := by rwa [hasOperation_ofModel named]
  have hcall : (ofModel model).call inner name args state = inner name args state := by
    rw [call, if_pos hoffered]
  cases way with
  | named => exact hcall
  | bound =>
    rw [via, callBound, bind, if_pos hoffered]
    exact hcall
  | direct => rfl

/-- An operation that is not declared is refused by the client, and nothing is changed. -/
theorem via_of_undeclared (named : model.Named) (h : model.operation? name = none)
    (inner : Caller σ) {way : Way} (hway : way ≠ .direct) (args : Arguments) (state : σ) :
    (ofModel model).via inner way name args state = (.error (.unknownOperation name), state) := by
  have hoffered : ¬(ofModel model).hasOperation name = true := by
    simp [hasOperation_ofModel named, h]
  cases way with
  | named => rw [via, call, if_neg hoffered]
  | bound => rw [via, callBound, bind, if_neg hoffered]
  | direct => exact absurd rfl hway

/-- A call either reaches what the client stands in front of, or it changes nothing. -/
private theorem via_state (named : model.Named) (inner : Caller σ) (way : Way) (name : String)
    (args : Arguments) (state : σ) :
    ((ofModel model).via inner way name args state).2 = (inner name args state).2 ∨
      ((ofModel model).via inner way name args state).2 = state := by
  cases h : model.operation? name with
  | some operation =>
    rw [via_of_declared named (Option.isSome_iff_exists.mpr ⟨operation, h⟩)]
    exact .inl rfl
  | none =>
    by_cases hway : way = .direct
    · subst hway
      exact .inl rfl
    · rw [via_of_undeclared named h inner hway]
      exact .inr rfl

/-! ## What is remembered -/

/-- To be a call of a declared operation is a property of results that memos can rely on: nothing
else has a result. -/
private theorem sound_declared (model : Model) (transport : Transport σ) (calls : List Call) :
    Sound (model.call transport) calls fun call _ _ =>
      (model.operation? call.operation).isSome where
  made call _ state result hresult := by
    obtain ⟨operation, _, _, _, hoperation, -⟩ := Model.call_eq_ok_iff.mp hresult
    rw [hoperation]
    rfl
  kept _ _ _ _ _ hdeclared := hdeclared
  alike _ _ _ _ _ _ hdeclared := hdeclared

variable {transport : Transport σ} {calls : List Call} {layers : Layers σ}

/-- However calls are made, nothing is remembered but calls of declared operations. -/
theorem remembers_after (named : model.Named) (distinct : NoCollision calls)
    {steps : List (Way × Call)}
    (hsteps : steps.map Prod.snd ⊆ calls)
    (hlayers : layers.Remembers calls fun call _ _ => (model.operation? call.operation).isSome) :
    ((ofModel model).after (Layers.call (model.call transport)) steps layers).Remembers calls
      fun call _ _ => (model.operation? call.operation).isSome := by
  induction steps generalizing layers with
  | nil => exact hlayers
  | cons step rest ih =>
    obtain ⟨way, call⟩ := step
    rw [List.map_cons, List.cons_subset] at hsteps
    rw [after]
    -- what the client refuses leaves the memos alone; all else is a call through them
    refine ih hsteps.2 ?_
    rcases via_state named (Layers.call (model.call transport)) way call.operation call.args layers
      with hreached | hunchanged
    · rw [hreached]
      exact (sound_declared model transport calls).remembers_call distinct hlayers hsteps.1
    · rwa [hunchanged]

/-- A direct call of an operation that is not declared passes all memos, which count it, and is
refused behind them. -/
theorem direct_of_undeclared (distinct : NoCollision calls)
    (hlayers : layers.Remembers calls fun call _ _ => (model.operation? call.operation).isSome)
    {call : Call} (hcall : call ∈ calls) (h : model.operation? call.operation = none) :
    Layers.call (model.call transport) call.operation call.args layers =
      (.error (.unknownOperation call.operation),
        ⟨layers.memos.map Memo.countMiss, layers.state⟩) := by
  unfold Layers.call
  rcases Layers.callThrough_cases (model.call transport) call.operation call.args layers.memos
    layers.state with ⟨_, memo, _, record, hmemos, -, hfind, -⟩ | ⟨-, hthrough⟩
  · have hmemo : memo ∈ layers.memos := hmemos ▸ by simp
    have hdeclared := (sound_declared model transport calls).property_of_find? distinct hlayers
      hcall hmemo hfind
    rw [h] at hdeclared
    exact nomatch hdeclared
  · rw [hthrough, Model.call_of_params_error (Model.params_of_operation?_eq_none h call.args)]
    rfl

end Client

/-! ## The order of operations -/

namespace Model

/-- A model that is loaded has its operations in the order of its document. -/
theorem operationNames_of_load {document : Json} {model : Model} {validate : Bool}
    (distinct : document.Distinct) (h : (load validate document).outcome = .ok model)
    {fields members : List (String × Json)} (hfields : shape.written? document = some fields)
    (hmembers : Entries.get? fields "operations" = some (.object members)) :
    model.operationNames = Entries.names members := by
  have hdistinct : (Json.object members).Distinct :=
    shape.distinct_of_mem_written? distinct hfields (Entries.mem_of_get? hmembers)
  obtain ⟨-, -, hmatches⟩ := (ofJson_eq_ok_iff_members distinct.bindsOnce hdistinct.bindsOnce
    hfields hmembers).mp (ofJson_of_load h)
  exact hmatches.names_eq.symm

/-- A new operation comes last; one that is declared again keeps its place. -/
theorem operationNames_withOperation (model : Model) (name documentation : String)
    (input output : Schema) :
    (model.withOperation name documentation input output).operationNames =
      if name ∈ model.operationNames then model.operationNames
      else model.operationNames ++ [name] :=
  Table.names_set ..

end Model

/-! ## All ways in all states -/

/-- Take any model that was loaded or declared operation by operation, any stack of memos in front
of it over any transport, and any state that calls lead to, each made in a way of its own. There a
declared operation is called alike in all ways: the answer is the same, and so are the requests and
the memos. One that is not declared is refused in all ways, without a request; the client changes
nothing, and a direct call is counted as a miss by each memo. What the client says about its
operations is what the model says, for every name and in the order of declaration: that of the
document if the model was loaded, and otherwise that in which the operations were first declared.
The client finds operations by the names that they bear, and the model by the keys that they are
declared under; these are the same, so that what is found under a name bears it, in the model as in
the documentation. -/
theorem Client.ways_agree {model : Model} (obtained : model.Obtained) (transport : Transport σ)
    (capacities : List Capacity) (start : σ) (steps : List (Client.Way × Call)) (call : Call) :
    let client := Client.ofModel model
    let dispatcher := Layers.call (model.call transport.recorded)
    let layers := client.after dispatcher steps (.fresh capacities ([], start))
    ((model.operation? call.operation).isSome → ∀ way,
      client.via dispatcher way call.operation call.args layers =
        dispatcher call.operation call.args layers) ∧
    (model.operation? call.operation = none →
      (∀ way ≠ .direct, client.via dispatcher way call.operation call.args layers =
        (.error (.unknownOperation call.operation), layers)) ∧
      (NoCollision (steps.map Prod.snd ++ [call]) →
        client.via dispatcher .direct call.operation call.args layers =
          (.error (.unknownOperation call.operation),
            ⟨layers.memos.map Memo.countMiss, layers.state⟩))) ∧
    client.model = model ∧
    (∀ name operation, model.operation? name = some operation → operation.name = name) ∧
    (∀ name doc, client.doc? name = some doc → doc.name = name) ∧
    (∀ name, [client.hasOperation name = true, ∃ binding, client.bind name = .ok binding,
      (client.doc? name).isSome = true, name ∈ client.operationNames,
      (client.model.operation? name).isSome = true].TFAE) ∧
    (∀ name, client.doc? name = (client.model.operation? name).map OperationDoc.of) ∧
    client.operationNames = model.operationNames ∧
    (∀ validate document fields members, document.Distinct →
      (Model.load validate document).outcome = .ok model →
      Model.shape.written? document = some fields →
      Entries.get? fields "operations" = some (.object members) →
      client.operationNames = Entries.names members) ∧
    ∀ name documentation input output,
      (Client.ofModel (model.withOperation name documentation input output)).operationNames =
      if name ∈ client.operationNames then client.operationNames
      else client.operationNames ++ [name] := by
  intro client dispatcher layers
  have named := obtained.named
  have hnames : client.operationNames = model.operationNames := Client.operationNames_ofModel named
  refine ⟨fun hdeclared way => ?_, fun hundeclared => ⟨fun way hway => ?_, fun distinct => ?_⟩,
    rfl, fun name operation => named.name_eq, fun name doc hdoc => ?_, Client.offers_tfae named,
    Client.doc?_ofModel named, hnames, ?_, ?_⟩
  · exact Client.via_of_declared named hdeclared dispatcher way call.args layers
  · exact Client.via_of_undeclared named hundeclared dispatcher hway call.args layers
  -- here digests matter: no memo may answer under the key of an undeclared operation
  · refine Client.direct_of_undeclared distinct ?_ (by simp) hundeclared
    exact Client.remembers_after named distinct (List.subset_append_left _ _)
      (Layers.remembers_fresh _ _ capacities _)
  · rw [Client.doc?_ofModel named] at hdoc
    obtain ⟨operation, hoperation, rfl⟩ := Option.map_eq_some_iff.mp hdoc
    exact named.name_eq hoperation
  · intro validate document fields members distinct hload hfields hmembers
    rw [hnames, Model.operationNames_of_load distinct hload hfields hmembers]
  · intro name documentation input output
    rw [Client.operationNames_ofModel (named.withOperation name documentation input output),
      Model.operationNames_withOperation, hnames]

/-- Two orders of paint, and one of a polish that the shop does not offer. -/
def Client.paintSession : List (Client.Way × Call) :=
  [(.named, .paintRed), (.bound, .paintRed), (.direct, ⟨"polish", .none⟩)]

/-- The shop declares its only operation. -/
theorem Model.obtained_paintShop : Model.paintShop.Obtained :=
  .declared (.endpoint _) _ _ _ _

/-- The memos of the shop after these orders, each with what it counted. -/
theorem Client.ways_agree_paintShop :
    Model.paintShop.Obtained ∧
    let client := Client.ofModel .paintShop
    let dispatcher := Layers.call (Model.paintShop.call Transport.mirror.recorded)
    let layers := client.after dispatcher Client.paintSession
      (.fresh [.atMost 1 Nat.one_pos, .unbounded] ([], 0))
    (layers.memos.map (fun memo => (memo.hits, memo.misses)) = [(1, 2), (0, 2)] ∧
      layers.state.1.length = 1) ∧
    (∀ way, client.via dispatcher way "paint" Call.paintRed.args layers =
      dispatcher "paint" Call.paintRed.args layers) ∧
    (∀ way ≠ .direct, client.via dispatcher way "polish" .none layers =
      (.error (.unknownOperation "polish"), layers)) ∧
    client.via dispatcher .direct "polish" .none layers = (.error (.unknownOperation "polish"),
      ⟨layers.memos.map Memo.countMiss, layers.state⟩) := by
  have distinct :
      NoCollision (Client.paintSession.map Prod.snd ++ [⟨"polish", .none⟩]) := by
    decide +kernel
  have hpaint := Client.ways_agree Model.obtained_paintShop .mirror
    [.atMost 1 Nat.one_pos, .unbounded] 0 Client.paintSession .paintRed
  have hpolish := Client.ways_agree Model.obtained_paintShop .mirror
    [.atMost 1 Nat.one_pos, .unbounded] 0 Client.paintSession ⟨"polish", .none⟩
  exact ⟨Model.obtained_paintShop, by decide +kernel, hpaint.1 (by decide +kernel),
    (hpolish.2.1 (by decide +kernel)).1, (hpolish.2.1 (by decide +kernel)).2 distinct⟩

end SchemaCall
