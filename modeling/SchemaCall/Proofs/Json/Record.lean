import Mathlib.Data.List.Basic
import SchemaCall.Json.Record
import SchemaCall.Proofs.Entries

/-!
# What reading a record finds

A record is read from the fields that it is written with, whether it is an object or an array.
Where each field is read on its own, as a `RecordReader` says, the order of the fields does not
matter: the result is the state in which each field is found
(`RecordReader.readRecord_eq_ok_iff`), provided that no name is bound twice.
-/

namespace SchemaCall.Json

/-! ## Values that bind no name twice -/

/-- The value is no object that binds a name twice, whatever is inside it. -/
def BindsOnce : Json → Prop
  | .object members => Entries.Distinct members
  | _ => True

/-- What has no name twice anywhere has none twice at the root. -/
theorem Distinct.bindsOnce {value : Json} (h : value.Distinct) : value.BindsOnce := by
  cases value with
  | object members => exact h.1
  | _ => trivial

/-- No name is bound twice in a member, if none is in the object. -/
theorem Distinct.of_mem_object {members : List (String × Json)} {name : String} {value : Json}
    (h : (object members).Distinct) (hmem : (name, value) ∈ members) : value.Distinct :=
  distinctMembers_iff.mp h.2 _ hmem

/-- No name is bound twice in an item, if none is in the array. -/
theorem Distinct.of_mem_array {items : List Json} {item : Json} (h : (array items).Distinct)
    (hmem : item ∈ items) : item.Distinct :=
  distinctItems_iff.mp h _ hmem

/-- No name is bound twice in what is found in a value, if none is in the value. -/
theorem Distinct.of_get? {value found : Json} {name : String} (h : value.Distinct)
    (hget : value.get? name = some found) : found.Distinct := by
  cases value with
  | object members => exact h.of_mem_object (Entries.mem_of_get? hget)
  | _ => exact nomatch hget

/-- An object with the names of a list binds no name twice if the list does not. -/
theorem distinct_object_map {α : Type*} {entries : List (String × α)} {f : α → Json}
    (distinct : Entries.Distinct entries) (h : ∀ entry ∈ entries, (f entry.2).Distinct) :
    (object (entries.map fun entry => (entry.1, f entry.2))).Distinct := by
  refine ⟨?_, distinctMembers_iff.mpr ?_⟩
  · rwa [Entries.Distinct, Entries.names_map]
  · rw [List.forall_mem_map]
    exact h

/-! ## The fields of a record -/

/-- The fields that a record is written with: the members of an object, or the items of an array
under the names of the fields. An array may not have more items than the record has fields. -/
def RecordShape.written? (shape : RecordShape) : Json → Option (List (String × Json))
  | .object members => some members
  | .array items =>
    if items.length ≤ shape.fields.length then some ((shape.fields.map (·.1)).zip items) else none
  | _ => none

/-- As many names are used as there are items. -/
private theorem names_zip (names : List String) (items : List Json) :
    Entries.names (names.zip items) = names.take items.length := by
  induction names generalizing items with
  | nil => simp
  | cons name rest ih =>
    cases items with
    | nil => rfl
    | cons item items =>
      rw [List.zip_cons_cons, Entries.names_cons, ih, List.length_cons, List.take_succ_cons]

/-- A record is written with each field once. -/
theorem RecordShape.distinct_of_written? {shape : RecordShape} {value : Json}
    {entries : List (String × Json)} (fields : (shape.fields.map (·.1)).Nodup)
    (distinct : value.BindsOnce) (h : shape.written? value = some entries) :
    Entries.Distinct entries := by
  cases value with
  | object members => exact Option.some.inj h ▸ distinct
  | array items =>
    rw [written?] at h
    split at h
    · rw [Entries.Distinct, ← Option.some.inj h, names_zip]
      exact fields.sublist (List.take_sublist _ _)
    · contradiction
  | _ => contradiction

/-- No name is bound twice in what is written in a record, if none is in the value it is read from.
-/
theorem RecordShape.distinct_of_mem_written? {shape : RecordShape} {value : Json}
    {entries : List (String × Json)} (distinct : value.Distinct)
    (h : shape.written? value = some entries) {entry : String × Json} (hentry : entry ∈ entries) :
    entry.2.Distinct := by
  cases value with
  | object members => exact distinct.of_mem_object (Option.some.inj h ▸ hentry)
  | array items =>
    rw [written?] at h
    split at h
    · rw [← Option.some.inj h] at hentry
      exact distinct.of_mem_array (List.of_mem_zip hentry).2
    · exact nomatch h
  | _ => exact nomatch h

/-- A field holds a text; one that is not there counts as the empty text. -/
inductive DefaultText : Option Json → String → Prop
  | absent : DefaultText none ""
  | text (content : String) : DefaultText (some (.string content)) content

/-- A written text is a text itself: the default is for what is not written. -/
theorem defaultText_some_iff {value : Json} {content : String} :
    DefaultText (some value) content ↔ value = .string content :=
  ⟨fun | .text _ => rfl, fun h => h ▸ .text content⟩

/-- Only texts are read as texts. -/
theorem expectString_eq_ok_iff {value : Json} {content : String} :
    expectString value = .ok content ↔ value = .string content := by
  cases value <;> simp [expectString]

/-- There is one text for what is written. -/
theorem DefaultText.unique {written : Option Json} {a b : String} (ha : DefaultText written a)
    (hb : DefaultText written b) : a = b := by
  cases ha <;> cases hb <;> rfl

/-! ## Reading field by field -/

section Walk

variable {σ ε : Type} {shape : RecordShape} {fail : ShapeError → ε}
  {take : σ → String → Json → Except ε σ} {start state : σ} {value : Json}
  {entries : List (String × Json)}

/-- Read the given fields one after the other. -/
def walk (take : σ → String → Json → Except ε σ) (entries : List (String × Json)) (start : σ) :
    Except ε σ :=
  entries.foldlM (fun state entry => take state entry.1 entry.2) start

private theorem bind_eq_ok_iff {first : Except ε σ} {next : σ → Except ε σ} {result : σ} :
    first >>= next = .ok result ↔ ∃ found, first = .ok found ∧ next found = .ok result := by
  cases first with
  | error error => exact ⟨(nomatch ·), fun ⟨_, h, _⟩ => nomatch h⟩
  | ok found => exact ⟨fun h => ⟨found, rfl, h⟩, fun ⟨_, h, hnext⟩ => Except.ok.inj h ▸ hnext⟩

/-- A walk over entries takes the first and goes on with the rest. -/
theorem walk_cons_eq_ok_iff {name : String} {rest : List (String × Json)} :
    walk take ((name, value) :: rest) start = .ok state ↔
      ∃ next, take start name value = .ok next ∧ walk take rest next = .ok state := by
  rw [walk, List.foldlM_cons, bind_eq_ok_iff]
  rfl

/-- A walk succeeds if each of its fields can be read in any state. -/
theorem exists_walk_eq_ok
    (accepts : ∀ entry ∈ entries, ∀ state, ∃ next, take state entry.1 entry.2 = .ok next)
    (start : σ) : ∃ state, walk take entries start = .ok state := by
  induction entries generalizing start with
  | nil => exact ⟨start, rfl⟩
  | cons entry rest ih =>
    obtain ⟨next, hnext⟩ := accepts entry List.mem_cons_self start
    obtain ⟨state, hstate⟩ := ih (fun e he => accepts e (List.mem_cons_of_mem _ he)) next
    exact ⟨state, walk_cons_eq_ok_iff.mpr ⟨next, hnext, hstate⟩⟩

/-- What succeeds has no reason to fail. -/
theorem eq_none_of_eq_ok {α : Type} {result : Except ε α} {refusal : Option ε} {found : α}
    (h : ∀ error, result = .error error ↔ refusal = some error) (hok : result = .ok found) :
    refusal = none := by
  cases refusal with
  | none => rfl
  | some error => exact nomatch hok.symm.trans ((h error).mpr rfl)

/-- What is done in two steps fails in the first step, or else in the second. -/
theorem bind_eq_error_iff {α β : Type} {first : Except ε α} {next : α → Except ε β}
    {early late : Option ε} (hfirst : ∀ error, first = .error error ↔ early = some error)
    (hnext : ∀ found error, next found = .error error ↔ late = some error) {error : ε} :
    first.bind next = .error error ↔ early.or late = some error := by
  cases hresult : first with
  | error found =>
    rw [(hfirst found).mp hresult, Option.some_or, Option.some.injEq]
    exact Except.error.injEq found error ▸ Iff.rfl
  | ok found =>
    rw [eq_none_of_eq_ok hfirst hresult, Option.none_or]
    exact hnext found error

/-- A walk fails at the first field that cannot be read, if the state has no say in which fields
these are. -/
theorem walk_eq_error_iff {refused? : String → Json → Option ε} {error : ε}
    (refuses : ∀ state name value error, take state name value = .error error ↔
      refused? name value = some error) :
    walk take entries start = .error error ↔
      entries.findSome? (fun entry => refused? entry.1 entry.2) = some error := by
  induction entries generalizing start error with
  | nil => exact ⟨(nomatch ·), (nomatch ·)⟩
  | cons entry rest ih =>
    rw [walk, List.foldlM_cons, ← List.singleton_append, List.findSome?_append,
      List.findSome?_singleton]
    exact bind_eq_error_iff (refuses start entry.1 entry.2) fun next error => ih

/-- The fields that an array is too short for are optional if and only if the required ones are
among those that it has. -/
private theorem find?_missing_eq_none_iff {fields : List (String × Bool)}
    (distinct : (fields.map (·.1)).Nodup) (count : ℕ) :
    (fields.zipIdx.drop count).find? (fun field => field.1.2) = none ↔
      ∀ name ∈ (fields.filter (·.2)).map (·.1), name ∈ (fields.map (·.1)).take count := by
  have hmissing : (fields.zipIdx.drop count).find? (fun field => field.1.2) = none ↔
      ∀ field ∈ fields.drop count, field.2 = false := by
    rw [List.find?_eq_none, ← List.zipIdx_map_fst 0 fields, ← List.map_drop, List.forall_mem_map]
    simp
  -- what is not among the first fields is among the others, since no name comes twice
  rw [hmissing, ← List.map_take]
  have hsplit := List.take_append_drop count fields
  constructor
  · intro hoptional name hname
    obtain ⟨field, hfield, rfl⟩ := List.mem_map.mp hname
    obtain ⟨hmem, hrequired⟩ := List.mem_filter.mp hfield
    rw [← hsplit] at hmem
    rcases List.mem_append.mp hmem with htake | hdrop
    · exact List.mem_map_of_mem htake
    · exact absurd (hoptional field hdrop) (by simp [hrequired])
  · intro hrequired field hfield
    by_contra hneeded
    have hmem : field ∈ fields := List.mem_of_mem_drop hfield
    have htake := hrequired field.1
      (List.mem_map_of_mem (List.mem_filter.mpr ⟨hmem, by simpa using hneeded⟩))
    rw [← hsplit, List.map_append] at distinct
    exact (List.nodup_append.mp distinct).2.2 _ htake _ (List.mem_map_of_mem hfield) rfl

/-- A record is read by a walk over the fields that it is written with, if all that have to be
present are. -/
private theorem readRecord_eq_ok_iff_walk (distinct : (shape.fields.map (·.1)).Nodup) :
    readRecord shape fail take start value = .ok state ↔
      ∃ entries, shape.written? value = some entries ∧ walk take entries start = .ok state ∧
        ∀ name ∈ shape.required, name ∈ Entries.names entries := by
  cases value with
  | object members =>
    rw [readRecord, bind_eq_ok_iff]
    simp only [RecordShape.written?, Option.some.injEq, exists_eq_left']
    constructor
    · rintro ⟨found, hwalk, hrest⟩
      split at hrest
      · contradiction
      · rename_i hnone
        obtain rfl := Except.ok.inj hrest
        exact ⟨hwalk, by simpa using hnone⟩
    · rintro ⟨hwalk, hrequired⟩
      refine ⟨state, hwalk, ?_⟩
      rw [List.find?_eq_none.mpr (by simpa using hrequired)]
  | array items =>
    rw [readRecord, bind_eq_ok_iff]
    -- an array is walked over like the object of its items under the names of the fields
    have hwalk : (shape.fields.zip items).foldlM (fun state pair => take state pair.1.1 pair.2)
        start = walk take ((shape.fields.map (·.1)).zip items) start := by
      rw [walk, List.zip_map_left, List.foldlM_map]
      rfl
    have hnames := names_zip (shape.fields.map (·.1)) items
    rw [hwalk]
    constructor
    · rintro ⟨found, hfound, hrest⟩
      split at hrest
      · contradiction
      · rename_i hnone
        split at hrest
        · contradiction
        · rename_i hfits
          obtain rfl := Except.ok.inj hrest
          refine ⟨_, if_pos (Nat.le_of_not_lt hfits), hfound, ?_⟩
          rw [hnames]
          exact (find?_missing_eq_none_iff distinct items.length).mp hnone
    · rintro ⟨entries, hentries, hfound, hrequired⟩
      rw [RecordShape.written?] at hentries
      split at hentries
      · rename_i hfits
        obtain rfl := Option.some.inj hentries
        rw [hnames] at hrequired
        refine ⟨state, hfound, ?_⟩
        rw [(find?_missing_eq_none_iff distinct items.length).mpr hrequired]
        exact if_neg (Nat.not_lt.mpr hfits)
      · contradiction
  | _ => simp [readRecord, RecordShape.written?]

/-- Each field is read on its own: `Finds state name written` says that `state` holds what the field
`name` is read as if it is written as `written`, where `none` stands for a field that is not there.
A field that is not known is found whatever is written. To take a field settles how it is found, and
leaves how the others are; and a state is settled by how its fields are found. -/
structure RecordReader (take : σ → String → Json → Except ε σ) (start : σ)
    (Finds : σ → String → Option Json → Prop) : Prop where
  absent : ∀ name, Finds start name none
  self : ∀ {state name value next}, take state name value = .ok next →
    Finds next name (some value)
  other : ∀ {state key value next name written}, key ≠ name → take state key value = .ok next →
    (Finds next name written ↔ Finds state name written)
  accepts : ∀ {target name value} (state), Finds target name (some value) →
    ∃ next, take state name value = .ok next
  unique : ∀ {a b}, (∀ name, ∃ written, Finds a name written ∧ Finds b name written) → a = b

namespace RecordReader

variable {Finds : σ → String → Option Json → Prop}

private theorem finds_iff_of_get?_eq_none (reader : RecordReader take start Finds)
    {name : String} {written : Option Json} {first : σ}
    (absent : Entries.get? entries name = none) (h : walk take entries first = .ok state) :
    Finds state name written ↔ Finds first name written := by
  induction entries generalizing first with
  | nil => rw [← Except.ok.inj h]
  | cons entry rest ih =>
    obtain ⟨key, found⟩ := entry
    obtain ⟨next, hnext, hrest⟩ := walk_cons_eq_ok_iff.mp h
    rw [Entries.get?_cons] at absent
    split at absent
    · exact nomatch absent
    · rename_i hkey
      exact (ih absent hrest).trans (reader.other hkey hnext)

private theorem finds_of_get?_eq_some (reader : RecordReader take start Finds) {name : String}
    {first : σ} (distinct : Entries.Distinct entries)
    (present : Entries.get? entries name = some value) (h : walk take entries first = .ok state) :
    Finds state name (some value) := by
  induction entries generalizing first with
  | nil => exact nomatch present
  | cons entry rest ih =>
    obtain ⟨key, found⟩ := entry
    obtain ⟨next, hnext, hrest⟩ := walk_cons_eq_ok_iff.mp h
    obtain ⟨hnew, hdistinct⟩ := List.nodup_cons.mp distinct
    rw [Entries.get?_cons] at present
    split at present
    · rename_i hkey
      obtain rfl := hkey
      obtain rfl := Option.some.inj present
      -- the name does not come again, so that what was read stays
      exact (reader.finds_iff_of_get?_eq_none (Entries.get?_eq_none_iff.mpr hnew) hrest).mpr
        (reader.self hnext)
    · exact ih hdistinct present hrest

private theorem finds_of_walk (reader : RecordReader take start Finds)
    (distinct : Entries.Distinct entries) (h : walk take entries start = .ok state)
    (name : String) : Finds state name (Entries.get? entries name) := by
  cases hfield : Entries.get? entries name with
  | none => exact (reader.finds_iff_of_get?_eq_none hfield h).mpr (reader.absent name)
  | some value => exact reader.finds_of_get?_eq_some distinct hfield h

/-- A walk over fields of distinct names ends in the state in which each of them is found. -/
theorem walk_eq_ok_iff (reader : RecordReader take start Finds)
    (distinct : Entries.Distinct entries) :
    walk take entries start = .ok state ↔
      ∀ name, Finds state name (Entries.get? entries name) := by
  refine ⟨reader.finds_of_walk distinct, fun h => ?_⟩
  have haccepts : ∀ entry ∈ entries, ∀ current, ∃ next,
      take current entry.1 entry.2 = .ok next := by
    intro entry hentry current
    have hfinds := h entry.1
    rw [Entries.get?_of_mem distinct hentry] at hfinds
    exact reader.accepts current hfinds
  -- the walk ends somewhere, and what it finds there is what `state` holds
  obtain ⟨last, hlast⟩ := exists_walk_eq_ok haccepts start
  have hsame : last = state :=
    reader.unique fun name => ⟨_, reader.finds_of_walk distinct hlast name, h name⟩
  exact hsame ▸ hlast

/-- A record is read if all required fields are written, as the state in which each field is
found. -/
theorem readRecord_eq_ok_iff (reader : RecordReader take start Finds)
    (fields : (shape.fields.map (·.1)).Nodup) (distinct : value.BindsOnce) :
    readRecord shape fail take start value = .ok state ↔
      ∃ entries, shape.written? value = some entries ∧
        (∀ name ∈ shape.required, name ∈ Entries.names entries) ∧
        ∀ name, Finds state name (Entries.get? entries name) := by
  rw [readRecord_eq_ok_iff_walk fields]
  refine exists_congr fun entries => and_congr_right fun hwritten => ?_
  rw [reader.walk_eq_ok_iff (shape.distinct_of_written? fields distinct hwritten), and_comm]

end RecordReader

end Walk

end SchemaCall.Json
