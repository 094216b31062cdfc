/-!
# Lists of named values

Object members, structure members, keyword arguments and operations are all lists of named values
whose order matters: it is the order in which they were written, and it is shown again in every
output. This module holds the operations on such lists. `set` keeps the place of a name that is
already bound, so the order is always that of first mention.

The main facts are that `set` binds the name it is given (`get?_set_self`), leaves every other name
alone (`get?_set_of_ne`), and keeps names distinct (`Distinct.set`). A `Table` is a list in which no
name occurs twice.
-/

namespace SchemaCall

namespace Entries

variable {α β : Type _}

/-- The names of a list of named values, in order. -/
def names (entries : List (String × α)) : List String :=
  entries.map Prod.fst

/-- The value of the first entry with the given name. -/
def get? : List (String × α) → String → Option α
  | [], _ => none
  | (key, value) :: rest, name => if key = name then some value else get? rest name

/-- Bind a name: in place if it is already there, at the end otherwise. -/
def set : List (String × α) → String → α → List (String × α)
  | [], name, value => [(name, value)]
  | (key, old) :: rest, name, value =>
    if key = name then (key, value) :: rest else (key, old) :: set rest name value

/-- Bind a list of names one after the other: a repeated name keeps its first place and its last
value. -/
def setAll (entries pairs : List (String × α)) : List (String × α) :=
  pairs.foldl (fun bound pair => set bound pair.1 pair.2) entries

/-- Take out the first entry with the given name; the last entry moves to its place. If its name
also has an earlier entry, it stays at the end, so that the look-up of other names never changes. -/
def swapRemove : List (String × α) → String → List (String × α)
  | [], _ => []
  | entry :: rest, name =>
    if entry.1 = name then
      match rest.getLast? with
      | none => []
      | some last => if last.1 ∈ names rest.dropLast then rest else last :: rest.dropLast
    else entry :: swapRemove rest name

/-- No name occurs twice. -/
def Distinct (entries : List (String × α)) : Prop :=
  (names entries).Nodup

instance (entries : List (String × α)) : Decidable (Distinct entries) :=
  inferInstanceAs (Decidable (names entries).Nodup)

/-! ## Names -/

@[simp] theorem names_nil : names ([] : List (String × α)) = [] := rfl

@[simp] theorem names_cons (entry : String × α) (rest : List (String × α)) :
    names (entry :: rest) = entry.1 :: names rest := rfl

/-- Setting a bound name keeps the names as they are; setting a new one adds it at the end. -/
theorem names_set (entries : List (String × α)) (name : String) (value : α) :
    names (set entries name value) =
      if name ∈ names entries then names entries else names entries ++ [name] := by
  induction entries with
  | nil => simp [set]
  | cons entry rest ih =>
    obtain ⟨key, old⟩ := entry
    by_cases h : key = name
    · simp [set, h]
    · have h' : ¬ name = key := fun e => h e.symm
      simp only [set, if_neg h, names_cons, ih, List.mem_cons, h', false_or]
      split <;> simp

/-- Setting a value brings in its own name and no other. -/
@[simp] theorem mem_names_set {entries : List (String × α)} {name other : String} {value : α} :
    other ∈ names (set entries name value) ↔ other = name ∨ other ∈ names entries := by
  rw [names_set]
  split
  · constructor
    · exact Or.inr
    · rintro (rfl | h) <;> assumption
  · simp [or_comm]

/-- The name of an entry is one of the names. -/
theorem mem_names_of_mem {entries : List (String × α)} {entry : String × α} (h : entry ∈ entries) :
    entry.1 ∈ names entries :=
  List.mem_map_of_mem h

/-! ## Look-up -/

@[simp] theorem get?_nil (name : String) : get? ([] : List (String × α)) name = none := rfl

theorem get?_cons (key : String) (value : α) (rest : List (String × α)) (name : String) :
    get? ((key, value) :: rest) name = if key = name then some value else get? rest name := rfl

/-- The first entry is found under its name. -/
@[simp] theorem get?_cons_self (name : String) (value : α) (rest : List (String × α)) :
    get? ((name, value) :: rest) name = some value := by
  simp [get?]

/-- Nothing is found under a name just if no entry has it. -/
theorem get?_eq_none_iff {entries : List (String × α)} {name : String} :
    get? entries name = none ↔ name ∉ names entries := by
  induction entries with
  | nil => simp
  | cons entry rest ih =>
    obtain ⟨key, value⟩ := entry
    by_cases h : key = name
    · simp [get?, h]
    · have h' : ¬ name = key := fun e => h e.symm
      simp [get?, h, h', ih]

/-- Something is found under a name just if some entry has it. -/
theorem isSome_get?_iff {entries : List (String × α)} {name : String} :
    (get? entries name).isSome ↔ name ∈ names entries := by
  induction entries with
  | nil => simp
  | cons entry rest ih =>
    obtain ⟨key, value⟩ := entry
    by_cases h : key = name
    · simp [get?, h]
    · have h' : ¬ name = key := fun e => h e.symm
      simp [get?, h, h', ih]

/-- What is found is an entry of the list. -/
theorem mem_of_get? {entries : List (String × α)} {name : String} {value : α}
    (h : get? entries name = some value) : (name, value) ∈ entries := by
  induction entries with
  | nil => simp at h
  | cons entry rest ih =>
    obtain ⟨key, old⟩ := entry
    by_cases hk : key = name
    · subst hk
      simp only [get?_cons_self, Option.some.injEq] at h
      simp [h]
    · rw [get?_cons, if_neg hk] at h
      exact List.mem_cons_of_mem _ (ih h)

/-- With distinct names, every entry is found under its name. -/
theorem get?_of_mem {entries : List (String × α)} (distinct : Distinct entries)
    {name : String} {value : α} (h : (name, value) ∈ entries) : get? entries name = some value := by
  induction entries with
  | nil => simp at h
  | cons entry rest ih =>
    obtain ⟨key, old⟩ := entry
    have hd : key ∉ names rest ∧ Distinct rest := List.nodup_cons.mp distinct
    rcases List.mem_cons.mp h with heq | hin
    · obtain ⟨rfl, rfl⟩ := Prod.mk.injEq .. ▸ heq
      simp
    · have hk : key ≠ name := by
        rintro rfl
        exact hd.1 (mem_names_of_mem hin)
      rw [get?_cons, if_neg hk]
      exact ih hd.2 hin

/-- What was set is found. -/
@[simp] theorem get?_set_self (entries : List (String × α)) (name : String) (value : α) :
    get? (set entries name value) name = some value := by
  induction entries with
  | nil => simp [set]
  | cons entry rest ih =>
    obtain ⟨key, old⟩ := entry
    by_cases h : key = name
    · simp [set, h]
    · simp [set, h, get?_cons, ih]

/-- Setting a value changes nothing under the other names. -/
theorem get?_set_of_ne (entries : List (String × α)) {name other : String} (value : α)
    (h : name ≠ other) : get? (set entries name value) other = get? entries other := by
  induction entries with
  | nil => simp [set, get?_cons, h]
  | cons entry rest ih =>
    obtain ⟨key, old⟩ := entry
    by_cases hk : key = name
    · subst hk
      simp [set, get?_cons, h]
    · simp [set, hk, get?_cons, ih]

/-! ## Distinct names -/

@[simp] theorem distinct_nil : Distinct ([] : List (String × α)) := List.nodup_nil

/-- Setting a name keeps the names distinct. -/
theorem Distinct.set {entries : List (String × α)} (distinct : Distinct entries) (name : String)
    (value : α) : Distinct (set entries name value) := by
  unfold Distinct
  rw [names_set]
  split
  · exact distinct
  · rename_i h
    exact List.nodup_append.mpr ⟨distinct, by simp, by
      intro a ha b hb e
      rw [List.mem_singleton] at hb
      exact h (hb ▸ e ▸ ha)⟩

/-- Setting any number of values leaves no name twice. -/
theorem Distinct.setAll {entries : List (String × α)} (distinct : Distinct entries)
    (pairs : List (String × α)) : Distinct (setAll entries pairs) := by
  induction pairs generalizing entries with
  | nil => exact distinct
  | cons pair rest ih => exact ih (distinct.set pair.1 pair.2)

/-- Setting a new name adds the entry at the end. -/
theorem set_of_not_mem {entries : List (String × α)} {name : String} (h : name ∉ names entries)
    (value : α) : set entries name value = entries ++ [(name, value)] := by
  induction entries with
  | nil => rfl
  | cons entry rest ih =>
    obtain ⟨key, old⟩ := entry
    simp only [names_cons, List.mem_cons, not_or] at h
    have hk : ¬ key = name := fun e => h.1 e.symm
    simp [set, hk, ih h.2]

/-- Setting distinct new names one after the other appends them. -/
theorem setAll_of_distinct {entries pairs : List (String × α)}
    (distinct : Distinct (entries ++ pairs)) : setAll entries pairs = entries ++ pairs := by
  induction pairs generalizing entries with
  | nil => simp [setAll]
  | cons pair rest ih =>
    obtain ⟨name, value⟩ := pair
    have hnew : name ∉ names entries := by
      intro hmem
      have hd := distinct
      simp only [Distinct, names, List.map_append, List.map_cons] at hd
      exact (List.nodup_append.mp hd).2.2 name hmem name (by simp) rfl
    have hstep : setAll entries ((name, value) :: rest) =
        setAll (entries ++ [(name, value)]) rest := by
      simp [setAll, set_of_not_mem hnew]
    rw [hstep, ih (by simpa using distinct)]
    simp

end Entries

/-! ## Tables -/

/-- Named values in order of first mention, each name bound once. -/
structure Table (α : Type u) where
  entries : List (String × α)
  distinct : Entries.Distinct entries
  deriving DecidableEq

namespace Table

variable {α : Type u} {β : Type v}

/-- The table without bindings. -/
def empty : Table α := ⟨[], Entries.distinct_nil⟩

instance : EmptyCollection (Table α) := ⟨empty⟩
instance : Inhabited (Table α) := ⟨empty⟩

/-- The names, in order. -/
def names (table : Table α) : List String :=
  Entries.names table.entries

/-- The value bound to a name. -/
def get? (table : Table α) (name : String) : Option α :=
  Entries.get? table.entries name

/-- Is the name bound? -/
def contains (table : Table α) (name : String) : Bool :=
  (table.get? name).isSome

/-- Bind a name, in place if it is already bound. -/
def set (table : Table α) (name : String) (value : α) : Table α :=
  ⟨Entries.set table.entries name value, table.distinct.set name value⟩

/-- The number of bindings. -/
def size (table : Table α) : Nat :=
  table.entries.length

/-- Bind a list of names one after the other: a repeated name keeps its first place and its last
value. -/
def ofList (pairs : List (String × α)) : Table α :=
  ⟨Entries.setAll [] pairs, Entries.distinct_nil.setAll pairs⟩

/-- A name that is new to a table comes to the end. -/
@[simp] theorem names_set (table : Table α) (name : String) (value : α) :
    (table.set name value).names =
      if name ∈ table.names then table.names else table.names ++ [name] :=
  Entries.names_set ..

/-- A table has what was set in it. -/
@[simp] theorem get?_set_self (table : Table α) (name : String) (value : α) :
    (table.set name value).get? name = some value :=
  Entries.get?_set_self ..

/-- A list of distinct names is its own table. -/
theorem entries_ofList {pairs : List (String × α)} (distinct : Entries.Distinct pairs) :
    (ofList pairs).entries = pairs :=
  Entries.setAll_of_distinct ((List.nil_append pairs).symm ▸ distinct)

end Table

end SchemaCall
