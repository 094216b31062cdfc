import Mathlib.Data.List.Forall2
import Mathlib.Data.List.Sort
import Mathlib.Data.String.Basic
import SchemaCall.Json.Printer
import SchemaCall.Proofs.Entries

/-!
# Values up to member order

Two values are `Alike` when one becomes the other by reordering members of objects, at any depth.
Sorting all members is a normal form for this relation (`alike_iff_canonical_eq`), so arrays are
alike item by item (`alike_array_iff`), objects without repeated names are alike as maps from names
to values (`alike_object_iff`), and everything else is alike only to itself.
-/

namespace SchemaCall.Json

/-- The values differ only in the order of object members, at any depth. -/
inductive Alike : Json → Json → Prop where
  | refl (value : Json) : Alike value value
  | item {a b : Json} {as bs : List Json} (first : Alike a b)
      (rest : Alike (.array as) (.array bs)) : Alike (.array (a :: as)) (.array (b :: bs))
  | member (name : String) {a b : Json} {as bs : List (String × Json)} (first : Alike a b)
      (rest : Alike (.object as) (.object bs)) :
      Alike (.object ((name, a) :: as)) (.object ((name, b) :: bs))
  | swap {j k : String} (differ : j ≠ k) (a b : Json) (rest : List (String × Json)) :
      Alike (.object ((j, a) :: (k, b) :: rest)) (.object ((k, b) :: (j, a) :: rest))
  | trans {a b c : Json} (before : Alike a b) (after : Alike b c) : Alike a c

theorem Alike.symm {a b : Json} (h : Alike a b) : Alike b a := by
  induction h with
  | refl value => exact .refl value
  | item _ _ ihfirst ihrest => exact .item ihfirst ihrest
  | member name _ _ ihfirst ihrest => exact .member name ihfirst ihrest
  | swap differ a b rest => exact .swap differ.symm b a rest
  | trans _ _ ihbefore ihafter => exact .trans ihafter ihbefore

/-! ## Sorting by name -/

section Sorting

variable {α : Type}

/-- The first entry may stand before the second one: its name is not greater. -/
def MayPrecede (a b : String × α) : Prop :=
  ¬ b.1 < a.1

instance : DecidableRel (MayPrecede (α := α)) := fun a b =>
  inferInstanceAs (Decidable (¬ b.1 < a.1))

/-- It does not matter whether the earlier of two entries is put in place before or after the later
one. -/
private theorem insertByName_orderedInsert (early late : String × α) (entries : List (String × α)) :
    insertByName late (entries.orderedInsert MayPrecede early) =
      (insertByName late entries).orderedInsert MayPrecede early := by
  induction entries with
  | nil =>
    by_cases h : late.1 < early.1 <;> simp [insertByName, MayPrecede, h]
  | cons first rest ih =>
    by_cases h1 : first.1 < early.1 <;> by_cases h2 : late.1 < first.1 <;>
      by_cases h3 : late.1 < early.1 <;> simp [insertByName, MayPrecede, h1, h2, h3, ih]
    · exact absurd (h2.trans h1) h3
    · exact absurd (lt_of_lt_of_le h3 (not_lt.mp h1)) h2

private theorem foldl_insertByName (entry : String × α) (entries sorted : List (String × α)) :
    entries.foldl (fun sorted entry => insertByName entry sorted)
        (sorted.orderedInsert MayPrecede entry) =
      (entries.foldl (fun sorted entry => insertByName entry sorted) sorted).orderedInsert
        MayPrecede entry := by
  induction entries generalizing sorted with
  | nil => rfl
  | cons late entries ih =>
    rw [List.foldl_cons, List.foldl_cons, insertByName_orderedInsert, ih]

/-- Sorting by name puts the first entry in front of those with the same name. -/
theorem sortByName_cons (entry : String × α) (entries : List (String × α)) :
    sortByName (entry :: entries) = (sortByName entries).orderedInsert MayPrecede entry :=
  foldl_insertByName entry entries []

/-- Entries of different names are put in place in any order. -/
private theorem orderedInsert_comm {j k : String} (h : j ≠ k) (a b : α)
    (entries : List (String × α)) :
    (entries.orderedInsert MayPrecede (k, b)).orderedInsert MayPrecede (j, a) =
      (entries.orderedInsert MayPrecede (j, a)).orderedInsert MayPrecede (k, b) := by
  induction entries with
  | nil =>
    rcases lt_or_gt_of_ne h with hlt | hlt <;> simp [MayPrecede, hlt, hlt.asymm]
  | cons first rest ih =>
    by_cases h1 : first.1 < j <;> by_cases h2 : first.1 < k <;>
      rcases lt_or_gt_of_ne h with hlt | hlt <;>
      simp [MayPrecede, h1, h2, hlt, hlt.asymm, ih]
    · exact absurd (h1.trans hlt) h2
    · exact absurd (h2.trans hlt) h1

/-- Sorting keeps the first entry of every name. -/
private theorem get?_orderedInsert (entry : String × α) (entries : List (String × α))
    (name : String) : Entries.get? (entries.orderedInsert MayPrecede entry) name =
      Entries.get? (entry :: entries) name := by
  induction entries with
  | nil => rfl
  | cons first rest ih =>
    by_cases h : first.1 < entry.1
    · have hne : first.1 ≠ entry.1 := h.ne
      simp only [List.orderedInsert_cons, MayPrecede, h, not_true, if_false]
      rw [Entries.get?, ih, Entries.get?, Entries.get?, Entries.get?]
      grind
    · simp only [List.orderedInsert_cons, MayPrecede, h, not_false_eq_true, if_true]

/-- Sorting by name changes nothing that is found. -/
theorem get?_sortByName (entries : List (String × α)) (name : String) :
    Entries.get? (sortByName entries) name = Entries.get? entries name := by
  induction entries with
  | nil => rfl
  | cons entry entries ih =>
    rw [sortByName_cons, get?_orderedInsert, Entries.get?, Entries.get?, ih]

end Sorting

/-! ## The normal form -/

/-- Members are brought into canonical form one by one. -/
theorem canonicalMembers_eq_map (members : List (String × Json)) :
    canonicalMembers members = members.map fun member => (member.1, member.2.canonical) := by
  induction members with
  | nil => rfl
  | cons member members ih => rw [canonicalMembers, ih, List.map_cons]

/-- What is found among canonical members is the canonical form of what was found. -/
theorem get?_canonicalMembers (members : List (String × Json)) (name : String) :
    Entries.get? (canonicalMembers members) name =
      (Entries.get? members name).map canonical := by
  rw [canonicalMembers_eq_map, Entries.get?_map]

/-- Canonical form leaves the names of members. -/
theorem names_canonicalMembers (members : List (String × Json)) :
    Entries.names (canonicalMembers members) = Entries.names members := by
  rw [canonicalMembers_eq_map, Entries.names_map]

/-- Reordering members does not change the sorted value. -/
theorem Alike.canonical_eq {a b : Json} (h : Alike a b) : a.canonical = b.canonical := by
  induction h with
  | refl value => rfl
  | item _ _ ihfirst ihrest =>
    simp only [canonical, array.injEq] at ihrest
    simp only [canonical, canonicalItems, ihfirst, ihrest]
  | member name _ _ ihfirst ihrest =>
    simp only [canonical, object.injEq] at ihrest
    simp only [canonical, canonicalMembers, sortByName_cons, ihfirst, ihrest]
  | swap differ a b rest =>
    simp only [canonical, canonicalMembers, sortByName_cons, orderedInsert_comm differ]
  | trans _ _ ihbefore ihafter => exact ihbefore.trans ihafter

private theorem alike_canonicalItems {items : List Json}
    (ih : ∀ item ∈ items, Alike item item.canonical) :
    Alike (.array items) (.array (canonicalItems items)) := by
  induction items with
  | nil => exact .refl _
  | cons item rest ihrest =>
    exact .item (ih item (by simp)) (ihrest fun x hx => ih x (List.mem_cons_of_mem _ hx))

private theorem alike_canonicalMembers {members : List (String × Json)}
    (ih : ∀ member ∈ members, Alike member.2 member.2.canonical) :
    Alike (.object members) (.object (canonicalMembers members)) := by
  induction members with
  | nil => exact .refl _
  | cons member rest ihrest =>
    exact .member member.1 (ih member (by simp))
      (ihrest fun x hx => ih x (List.mem_cons_of_mem _ hx))

private theorem alike_orderedInsert (member : String × Json) (members : List (String × Json)) :
    Alike (.object (member :: members)) (.object (members.orderedInsert MayPrecede member)) := by
  induction members with
  | nil => exact .refl _
  | cons first rest ih =>
    rw [List.orderedInsert_cons]
    split
    · exact .refl _
    · rename_i h
      exact .trans (.swap (not_not.mp h).ne' _ _ _) (.member first.1 (.refl _) ih)

private theorem alike_sortByName (members : List (String × Json)) :
    Alike (.object members) (.object (sortByName members)) := by
  induction members with
  | nil => exact .refl _
  | cons member rest ih =>
    rw [sortByName_cons]
    exact .trans (.member member.1 (.refl _) ih) (alike_orderedInsert _ _)

/-- Sorting the members of every object is a reordering. -/
theorem alike_canonical (value : Json) : Alike value value.canonical := by
  induction value with
  | array items ih => exact alike_canonicalItems ih
  | object members ih => exact (alike_canonicalMembers ih).trans (alike_sortByName _)
  | _ => exact .refl _

/-- Values are alike exactly when sorting all members makes them equal. -/
theorem alike_iff_canonical_eq {a b : Json} : Alike a b ↔ a.canonical = b.canonical := by
  constructor
  · exact Alike.canonical_eq
  · intro h
    exact (h ▸ alike_canonical a).trans (alike_canonical b).symm

/-! ## What it means for each kind of value -/

/-- Numbers are alike only if they are the same integer or the same double. -/
theorem alike_number_iff {m n : Number} : Alike (.number m) (.number n) ↔ m = n := by
  simp [alike_iff_canonical_eq, canonical]

/-- Arrays are alike item by item. -/
theorem alike_array_iff {as bs : List Json} :
    Alike (.array as) (.array bs) ↔ List.Forall₂ Alike as bs := by
  constructor
  · intro h
    have hitems : canonicalItems as = canonicalItems bs := array.inj h.canonical_eq
    clear h
    induction as generalizing bs with
    | nil =>
      cases bs with
      | nil => exact .nil
      | cons b bs => exact absurd hitems (List.cons_ne_nil _ _).symm
    | cons a as ih =>
      cases bs with
      | nil => exact absurd hitems (List.cons_ne_nil _ _)
      | cons b bs =>
        obtain ⟨hfirst, hrest⟩ := List.cons.inj hitems
        exact .cons (alike_iff_canonical_eq.mpr hfirst) (ih hrest)
  · intro h
    induction h with
    | nil => exact .refl _
    | cons hfirst _ ih => exact .item hfirst ih

private theorem map_canonical_eq_iff {x y : Option Json} :
    x.map canonical = y.map canonical ↔ Option.Rel Alike x y := by
  constructor
  · intro h
    cases x with
    | none =>
      cases y with
      | none => exact .none
      | some b => simp at h
    | some a =>
      cases y with
      | none => simp at h
      | some b => exact .some (alike_iff_canonical_eq.mpr (Option.some.inj h))
  · intro h
    cases h with
    | none => rfl
    | some hab => exact congrArg some hab.canonical_eq

/-- A name is bound to alike values in alike objects, or in neither. -/
theorem Alike.get? {as bs : List (String × Json)} (h : Alike (.object as) (.object bs))
    (name : String) : Option.Rel Alike (Entries.get? as name) (Entries.get? bs name) := by
  have hmembers : sortByName (canonicalMembers as) = sortByName (canonicalMembers bs) :=
    object.inj h.canonical_eq
  rw [← map_canonical_eq_iff, ← get?_canonicalMembers, ← get?_canonicalMembers,
    ← get?_sortByName, hmembers, get?_sortByName]

/-- A permutation of members with distinct names is a reordering. -/
theorem alike_of_perm {as bs : List (String × Json)} (h : as.Perm bs)
    (distinct : Entries.Distinct as) : Alike (.object as) (.object bs) := by
  induction h with
  | nil => exact .refl _
  | cons member _ ih =>
    exact .member member.1 (.refl _) (ih (List.nodup_cons.mp distinct).2)
  | swap first second rest =>
    refine .swap (fun heq => ?_) _ _ _
    exact (List.nodup_cons.mp distinct).1 (heq ▸ List.mem_cons_self)
  | trans hbefore _ ihbefore ihafter =>
    exact (ihbefore distinct).trans
      (ihafter ((hbefore.map Prod.fst).nodup_iff.mp distinct))

/-- Objects without repeated names are alike when they are equal as maps from names to values, with
values that are alike. -/
theorem alike_object_iff {as bs : List (String × Json)} (ha : Entries.Distinct as)
    (hb : Entries.Distinct bs) : Alike (.object as) (.object bs) ↔
      ∀ name, Option.Rel Alike (Entries.get? as name) (Entries.get? bs name) := by
  constructor
  · exact fun h name => h.get? name
  · intro h
    have hxs : Entries.Distinct (canonicalMembers as) := by
      rwa [Entries.Distinct, names_canonicalMembers]
    have hys : Entries.Distinct (canonicalMembers bs) := by
      rwa [Entries.Distinct, names_canonicalMembers]
    have hget (name : String) : Entries.get? (canonicalMembers as) name =
        Entries.get? (canonicalMembers bs) name := by
      rw [get?_canonicalMembers, get?_canonicalMembers]
      exact map_canonical_eq_iff.mpr (h name)
    -- the canonical members are the same entries in another order
    have hperm : (canonicalMembers as).Perm (canonicalMembers bs) := by
      rw [List.perm_ext_iff_of_nodup hxs.of_map hys.of_map]
      rintro ⟨name, value⟩
      constructor
      · exact fun hmem => Entries.mem_of_get? (hget name ▸ Entries.get?_of_mem hxs hmem)
      · exact fun hmem => Entries.mem_of_get? ((hget name).symm ▸ Entries.get?_of_mem hys hmem)
    have hvalues (members : List (String × Json)) :
        Alike (.object members) (.object (canonicalMembers members)) :=
      alike_canonicalMembers fun member _ => alike_canonical member.2
    exact ((hvalues as).trans (alike_of_perm hperm hxs)).trans (hvalues bs).symm

end SchemaCall.Json
