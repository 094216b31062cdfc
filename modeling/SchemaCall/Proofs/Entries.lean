import Mathlib.Data.List.Forall2
import Mathlib.Data.List.Nodup
import SchemaCall.Entries

/-!
# More on lists of named values

A list of named values can be changed at every name (`get?_map`), at one name in its place
(`get?_modify_self`, `get?_modify_of_ne`), or by taking a name out, with the last entry moved to its
place (`get?_swapRemove_self`, `get?_swapRemove_of_ne`). The order of distinct names does not matter
to a look-up (`get?_eq_of_perm`).

Two lists of named values match if they have the same names in the same order and the values under
each name are related. This is how members and operations are read: `exists_matches_iff` says when
a list can be read at all, and `Matches.names_eq` that its names and their order are kept. If only
the names are the same, in any order, the values are related as those of maps (`rel_get?`).
-/

namespace SchemaCall.Entries

section

variable {α β : Type*} {entries : List (String × α)} {name other : String}

/-! ## Changing every value -/

/-- Changing the values leaves the names. -/
theorem names_map (f : α → β) (entries : List (String × α)) :
    names (entries.map fun entry => (entry.1, f entry.2)) = names entries := by
  rw [names, List.map_map]
  rfl

/-- What is found after the values were changed is what was found before, changed. -/
theorem get?_map (f : α → β) (entries : List (String × α)) (name : String) :
    get? (entries.map fun entry => (entry.1, f entry.2)) name = (get? entries name).map f := by
  induction entries with
  | nil => rfl
  | cons entry rest ih =>
    rw [List.map_cons, get?_cons, get?_cons, ih]
    split <;> rfl

/-! ## Changing one value -/

/-- Change the value of a name in its place, if the name is bound. -/
def modify (entries : List (String × α)) (name : String) (change : α → α) : List (String × α) :=
  match get? entries name with
  | some value => set entries name (change value)
  | none => entries

/-- To modify a value that is there is to set it. -/
theorem modify_of_get?_eq_some {value : α} (h : get? entries name = some value) (change : α → α) :
    modify entries name change = set entries name (change value) := by
  rw [modify, h]

/-- Under the name that is modified, the modified value is found. -/
theorem get?_modify_self (entries : List (String × α)) (name : String) (change : α → α) :
    get? (modify entries name change) name = (get? entries name).map change := by
  unfold modify
  cases h : get? entries name with
  | none => exact h
  | some value => exact get?_set_self ..

/-- Modifying a value changes nothing under the other names. -/
theorem get?_modify_of_ne (change : α → α) (h : name ≠ other) :
    get? (modify entries name change) other = get? entries other := by
  unfold modify
  cases get? entries name with
  | none => rfl
  | some value => exact get?_set_of_ne _ _ h

/-- Modifying a value leaves no name twice. -/
theorem Distinct.modify (distinct : Distinct entries) (name : String) (change : α → α) :
    Distinct (modify entries name change) := by
  unfold Entries.modify
  cases get? entries name with
  | none => exact distinct
  | some value => exact distinct.set name _

/-- An entry that is there after a name was bound was there before, or is the new one. -/
theorem mem_of_mem_set {value : α} {entry : String × α} (h : entry ∈ set entries name value) :
    entry ∈ entries ∨ entry = (name, value) := by
  induction entries with
  | nil => exact .inr (List.mem_singleton.mp h)
  | cons first rest ih =>
    obtain ⟨key, old⟩ := first
    rw [set] at h
    split at h
    · rename_i hkey
      rcases List.mem_cons.mp h with rfl | hrest
      · exact .inr (by rw [hkey])
      · exact .inl (List.mem_cons_of_mem _ hrest)
    · rcases List.mem_cons.mp h with rfl | hrest
      · exact .inl List.mem_cons_self
      · exact (ih hrest).imp_left (List.mem_cons_of_mem _)

/-! ## Taking out one name -/

/-- A look-up does not depend on the order of entries with distinct names. -/
theorem get?_eq_of_perm {as bs : List (String × α)} (h : as.Perm bs) (distinct : Distinct as)
    (name : String) : get? as name = get? bs name := by
  have hdistinct : Distinct bs := (h.map Prod.fst).nodup_iff.mp distinct
  apply Option.ext
  intro value
  constructor
  · intro hvalue
    exact get?_of_mem hdistinct (h.mem_iff.mp (mem_of_get? hvalue))
  · intro hvalue
    exact get?_of_mem distinct (h.mem_iff.mpr (mem_of_get? hvalue))

/-- A name that is kept by a selection of names is looked up as before. -/
theorem get?_filter_of_pos (kept : String → Bool) (h : kept name = true)
    (entries : List (String × α)) :
    get? (entries.filter fun entry => kept entry.1) name = get? entries name := by
  induction entries with
  | nil => rfl
  | cons entry rest ih =>
    obtain ⟨key, value⟩ := entry
    by_cases hkey : key = name
    · subst hkey
      rw [List.filter_cons, if_pos h, get?_cons_self, get?_cons_self]
    · rw [get?_cons, if_neg hkey, ← ih, List.filter_cons]
      split
      · rw [get?_cons, if_neg hkey]
      · rfl

/-- Some of the entries have no name twice, if all have none. -/
theorem Distinct.filter (distinct : Distinct entries) (kept : String × α → Bool) :
    Distinct (entries.filter kept) :=
  List.Nodup.sublist (List.filter_sublist.map Prod.fst) distinct

/-- The last entry can be put in front of entries with other names. -/
theorem get?_last_cons_dropLast {last : String × α} (h : entries.getLast? = some last)
    (hnew : last.1 ∉ names entries.dropLast) (name : String) :
    get? (last :: entries.dropLast) name = get? entries name := by
  obtain ⟨front, rfl⟩ := List.getLast?_eq_some_iff.mp h
  rw [List.dropLast_concat] at hnew ⊢
  induction front with
  | nil => rfl
  | cons entry rest ih =>
    obtain ⟨hne, hrest⟩ := not_or.mp (mt List.mem_cons.mpr hnew)
    have ih := ih (by simp) hrest
    rw [get?_cons] at ih
    rw [get?_cons, get?_cons, List.cons_append, get?_cons, ← ih]
    by_cases hentry : entry.1 = name
    · rw [if_pos hentry, if_pos hentry, if_neg (hentry ▸ hne)]
    · rw [if_neg hentry, if_neg hentry]

/-- Taking a name out leaves every other name bound as it was. -/
theorem get?_swapRemove_of_ne (entries : List (String × α)) (h : other ≠ name) :
    get? (swapRemove entries name) other = get? entries other := by
  induction entries with
  | nil => rfl
  | cons entry rest ih =>
    obtain ⟨key, value⟩ := entry
    by_cases hkey : key = name
    · have hskip : get? ((key, value) :: rest) other = get? rest other := by
        rw [get?_cons, if_neg (hkey ▸ h.symm)]
      rw [swapRemove, if_pos hkey, hskip]
      split
      · rename_i hempty
        rw [List.getLast?_eq_none_iff.mp hempty]
      · rename_i last hlast
        split
        · rfl
        · rename_i hnew
          exact get?_last_cons_dropLast hlast hnew other
    · rw [swapRemove, if_neg hkey, get?_cons, get?_cons, ih]

/-- What is left after the swap is the rest of the list, in another order. -/
theorem swapRemove_perm (distinct : Distinct entries) (name : String) :
    (swapRemove entries name).Perm (entries.filter fun entry => entry.1 ≠ name) := by
  induction entries with
  | nil => exact .refl _
  | cons entry rest ih =>
    have hd : entry.1 ∉ names rest ∧ Distinct rest := List.nodup_cons.mp distinct
    by_cases h : entry.1 = name
    · have hkept : (rest.filter fun entry => entry.1 ≠ name) = rest := by
        rw [List.filter_eq_self]
        intro other hother
        simp only [ne_eq, decide_not, Bool.not_eq_eq_eq_not, Bool.not_true, decide_eq_false_iff_not]
        rintro rfl
        exact hd.1 (h ▸ mem_names_of_mem hother)
      rw [swapRemove, if_pos h, List.filter_cons_of_neg (by simp [h]), hkept]
      -- the last entry, if there is one left, has moved to the front of the rest
      split
      · rename_i hempty
        rw [List.getLast?_eq_none_iff.mp hempty]
      · rename_i last hlast
        obtain ⟨front, rfl⟩ := List.getLast?_eq_some_iff.mp hlast
        split
        · exact .refl _
        · rw [List.dropLast_concat]
          exact (List.perm_append_singleton last front).symm
    · rw [swapRemove, if_neg h, List.filter_cons_of_pos (by simp [h])]
      exact (ih hd.2).cons entry

/-- A name that was taken out is bound no longer. -/
theorem get?_swapRemove_self (distinct : Distinct entries) (name : String) :
    get? (swapRemove entries name) name = none := by
  rw [get?_eq_none_iff]
  intro hname
  obtain ⟨entry, hentry, hkey⟩ := List.mem_map.mp hname
  have hkept := (swapRemove_perm distinct name).mem_iff.mp hentry
  simp [List.mem_filter, hkey] at hkept

end

/-! ## Lists that match -/

/-- The lists have the same names in the same order, with related values under them. -/
def Matches {α β : Type*} (R : α → β → Prop) : List (String × α) → List (String × β) → Prop :=
  List.Forall₂ fun a b => a.1 = b.1 ∧ R a.2 b.2

variable {α β : Type*} {R : α → β → Prop} {as : List (String × α)} {bs : List (String × β)}

/-- Only no entries match no entries. -/
theorem matches_nil_left : Matches R [] bs ↔ bs = [] :=
  List.forall₂_nil_left_iff

/-- What matches a first entry and the rest is a first entry of the same name and a rest. -/
theorem matches_cons_left {name : String} {a : α} : Matches R ((name, a) :: as) bs ↔
    ∃ b rest, R a b ∧ Matches R as rest ∧ bs = (name, b) :: rest := by
  rw [Matches, List.forall₂_cons_left_iff]
  constructor
  · rintro ⟨⟨_, b⟩, rest, ⟨rfl, hab⟩, hrest, rfl⟩
    exact ⟨b, rest, hab, hrest, rfl⟩
  · rintro ⟨b, rest, hab, hrest, rfl⟩
    exact ⟨(name, b), rest, ⟨rfl, hab⟩, hrest, rfl⟩

/-- Lists that match have the same names. -/
theorem Matches.names_eq (h : Matches R as bs) : names as = names bs := by
  induction h with
  | nil => rfl
  | cons hhead _ ih => rw [names_cons, names_cons, hhead.1, ih]

/-- Entries that match have the same names, hence none twice. -/
theorem Matches.distinct (h : Matches R as bs) (distinct : Distinct as) : Distinct bs := by
  rw [Distinct, ← h.names_eq]
  exact distinct

/-- Every entry on the left has its partner on the right. -/
theorem Matches.exists_right (h : Matches R as bs) {a : String × α} (ha : a ∈ as) :
    ∃ b, (a.1, b) ∈ bs ∧ R a.2 b := by
  induction as generalizing bs with
  | nil => exact absurd ha List.not_mem_nil
  | cons first rest ih =>
    obtain ⟨b, others, hab, hothers, rfl⟩ := matches_cons_left.mp h
    rcases List.mem_cons.mp ha with rfl | hrest
    · exact ⟨b, List.mem_cons_self, hab⟩
    · obtain ⟨b, hb, hrel⟩ := ih hothers hrest
      exact ⟨b, List.mem_cons_of_mem _ hb, hrel⟩

/-- Every entry on the right has its partner on the left. -/
theorem Matches.exists_left (h : Matches R as bs) {b : String × β} (hb : b ∈ bs) :
    ∃ a, (b.1, a) ∈ as ∧ R a b.2 := by
  induction as generalizing bs with
  | nil => exact absurd (matches_nil_left.mp h ▸ hb) List.not_mem_nil
  | cons first rest ih =>
    obtain ⟨found, others, hab, hothers, rfl⟩ := matches_cons_left.mp h
    rcases List.mem_cons.mp hb with rfl | hrest
    · exact ⟨first.2, List.mem_cons_self, hab⟩
    · obtain ⟨a, ha, hrel⟩ := ih hothers hrest
      exact ⟨a, List.mem_cons_of_mem _ ha, hrel⟩

/-- Lists that match have related values under the same names. -/
theorem Matches.get?_eq_some (h : Matches R as bs) {name : String} {b : β}
    (hb : get? bs name = some b) : ∃ a, get? as name = some a ∧ R a b := by
  induction h with
  | nil => exact nomatch hb
  | @cons first second as bs hhead _ ih =>
    obtain ⟨j, a⟩ := first
    obtain ⟨k, b'⟩ := second
    obtain ⟨rfl, hrel⟩ := hhead
    rw [get?_cons] at hb ⊢
    split at hb
    · rename_i hname
      exact ⟨a, if_pos hname, Option.some.inj hb ▸ hrel⟩
    · rename_i hname
      rw [if_neg hname]
      exact ih hb

/-- Lists still match when one name is bound to related values in both. -/
theorem Matches.set (h : Matches R as bs) (name : String) {a : α} {b : β} (hab : R a b) :
    Matches R (set as name a) (set bs name b) := by
  induction h with
  | nil => exact .cons ⟨rfl, hab⟩ .nil
  | @cons first second as bs hhead hrest ih =>
    obtain ⟨j, a'⟩ := first
    obtain ⟨k, b'⟩ := second
    obtain ⟨rfl, hrel⟩ := hhead
    rw [Entries.set, Entries.set]
    split
    · exact .cons ⟨rfl, hab⟩ hrest
    · exact .cons ⟨rfl, hrel⟩ ih

/-- A list has a match if each of its values is related to something. -/
theorem exists_matches_iff : (∃ bs, Matches R as bs) ↔ ∀ a ∈ as, ∃ b, R a.2 b := by
  constructor
  · rintro ⟨bs, h⟩ a ha
    obtain ⟨b, -, hrel⟩ := h.exists_right ha
    exact ⟨b, hrel⟩
  · intro h
    induction as with
    | nil => exact ⟨[], .nil⟩
    | cons first rest ih =>
      obtain ⟨b, hb⟩ := h first List.mem_cons_self
      obtain ⟨bs, hbs⟩ := ih fun a ha => h a (List.mem_cons_of_mem _ ha)
      exact ⟨(first.1, b) :: bs, .cons ⟨rfl, hb⟩ hbs⟩

/-- A list that is made from another by a function on its values matches it. -/
theorem matches_map {f : β → α} (h : ∀ b ∈ bs, R (f b.2) b.2) :
    Matches R (bs.map fun b => (b.1, f b.2)) bs := by
  rw [Matches, List.forall₂_map_left_iff]
  exact List.forall₂_same.mpr fun b hb => ⟨rfl, h b hb⟩

/-- Look-ups that find the same names find values that are related. -/
theorem rel_get? (sameNames : ∀ name, name ∈ names as ↔ name ∈ names bs)
    (each : ∀ name a b, get? as name = some a → get? bs name = some b → R a b) (name : String) :
    Option.Rel R (get? as name) (get? bs name) := by
  cases ha : get? as name with
  | none =>
    have hb : get? bs name = none :=
      get?_eq_none_iff.mpr fun h => get?_eq_none_iff.mp ha ((sameNames name).mpr h)
    rw [hb]
    exact .none
  | some a =>
    have hname : name ∈ names bs := (sameNames name).mp (isSome_get?_iff.mp (by rw [ha]; rfl))
    obtain ⟨b, hb⟩ := Option.isSome_iff_exists.mp (isSome_get?_iff.mpr hname)
    rw [hb]
    exact .some (each name a b ha hb)

end SchemaCall.Entries
