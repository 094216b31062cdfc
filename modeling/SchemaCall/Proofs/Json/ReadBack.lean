import SchemaCall.Proofs.Json.Written

/-!
# Values that are read back

The compact text of a value is read as the value (`readChars_write`), if the value is one that texts
carry without loss (`Restorable`): its numbers are integers, it does not nest too deep, and no name
is bound twice. The reader finds out by itself where the text of a value ends, so the main lemma
(`readsBack`) is about texts with something behind them, and by induction over the value. Of its
fuel the reader needs no more than two for each character.
-/

namespace SchemaCall.Json

open Decimal

/-! ## Restorable values -/

mutual

/-- The number of arrays and objects that are inside of each other. -/
def depth : Json → ℕ
  | .array items => depthItems items + 1
  | .object members => depthMembers members + 1
  | _ => 0

/-- The depth of the deepest item. -/
def depthItems : List Json → ℕ
  | [] => 0
  | item :: rest => max item.depth (depthItems rest)

/-- The depth of the deepest member. -/
def depthMembers : List (String × Json) → ℕ
  | [] => 0
  | (_, value) :: rest => max value.depth (depthMembers rest)

end

mutual

/-- All numbers in the value are integers. -/
def Integral : Json → Prop
  | .number n => n.isInteger = true
  | .array items => IntegralItems items
  | .object members => IntegralMembers members
  | _ => True

/-- Each item is `Integral`. -/
def IntegralItems : List Json → Prop
  | [] => True
  | item :: rest => item.Integral ∧ IntegralItems rest

/-- The value of each member is `Integral`. -/
def IntegralMembers : List (String × Json) → Prop
  | [] => True
  | (_, value) :: rest => value.Integral ∧ IntegralMembers rest

end

/-- The clause for the items of a list, over all of them at once. -/
theorem integralItems_iff {items : List Json} :
    IntegralItems items ↔ ∀ item ∈ items, item.Integral := by
  induction items with
  | nil => simp [IntegralItems]
  | cons item rest ih => simp [IntegralItems, ih]

/-- The clause for the members of an object, over all of them at once. -/
theorem integralMembers_iff {members : List (String × Json)} :
    IntegralMembers members ↔ ∀ member ∈ members, member.2.Integral := by
  induction members with
  | nil => simp [IntegralMembers]
  | cons member rest ih =>
    obtain ⟨name, value⟩ := member
    simp [IntegralMembers, ih]

/-- A value that texts carry without loss: no object binds a name twice, all numbers are integers,
and the nesting is no deeper than a reader follows. -/
structure Restorable (value : Json) : Prop where
  distinct : value.Distinct
  integral : value.Integral
  shallow : value.depth ≤ maxDepth

/-! ## What is read back -/

/-- Nothing comes after a value, or what comes after an item or a member. -/
def Closing (rest : List Char) : Prop :=
  ∀ c ∈ rest.head?, c ∈ [',', ']', '}']

/-- A value may end where the text does. -/
theorem closing_nil : Closing [] :=
  fun _ h => nomatch h

/-- A value may end before what goes on or closes. -/
theorem closing_cons {c : Char} (hc : c ∈ [',', ']', '}']) (rest : List Char) :
    Closing (c :: rest) := by
  rintro _ ⟨⟩
  exact hc

/-- The text of the value is read as the value, and the reader stops behind it. -/
def ReadsBack (value : Json) : Prop :=
  ∀ ⦃fuel depth : ℕ⦄ ⦃rest : List Char⦄, Closing rest → value.depth ≤ depth →
    2 * value.write.length ≤ fuel → readValue fuel depth (value.write ++ rest) = .ok (value, rest)

/-! ## Integers -/

/-- Only zero is written with a zero in front. -/
private theorem head_toDigits {n : ℕ} (hn : 0 < n) : (Nat.toDigits 10 n).head? ≠ some '0' := by
  induction n using Nat.strong_induction_on with
  | _ n ih =>
    rw [Nat.toDigits_eq_if (by decide)]
    split
    · rename_i hlt
      have hdigit : ∀ d < 10, 0 < d → [d.digitChar].head? ≠ some '0' := by decide
      exact hdigit n hlt hn
    · rw [List.head?_append_of_ne_nil _ Nat.toDigits_ne_nil]
      exact ih (n / 10) (by omega) (by omega)

private theorem toDigits_ne_zero_cons (n : ℕ) (c : Char) (rest : List Char) :
    Nat.toDigits 10 n ≠ '0' :: c :: rest := by
  intro h
  rcases Nat.eq_zero_or_pos n with rfl | hn
  · rw [Nat.toDigits_zero] at h
    exact nomatch h
  · exact head_toDigits hn (by rw [h]; rfl)

private theorem le_ofDigitChars (digits : List Char) (init : ℕ) :
    init ≤ Nat.ofDigitChars 10 digits init := by
  induction digits generalizing init with
  | nil => exact Nat.le_refl init
  | cons c rest ih =>
    have hnext := ih (10 * init + (c.toNat - '0'.toNat))
    rw [Nat.ofDigitChars_cons]
    omega

/-- Digits whose value fits are all kept. -/
private theorem integerDigits_go_of_le {digits : List Char} {significand : ℕ}
    (h : Nat.ofDigitChars 10 digits significand ≤ maxSignificand) :
    integerDigits.go significand digits = (Nat.ofDigitChars 10 digits significand, 0) := by
  induction digits generalizing significand with
  | nil => rfl
  | cons c rest ih =>
    rw [Nat.ofDigitChars_cons, Nat.mul_comm] at h ⊢
    have hnext := (le_ofDigitChars rest _).trans h
    rw [integerDigits.go, if_neg (by omega), ih h]

private theorem integerDigits_toDigits {n : ℕ} (hn : n ≤ maxSignificand) :
    integerDigits (Nat.toDigits 10 n) = (n, 0) := by
  have hvalue : Nat.ofDigitChars 10 (Nat.toDigits 10 n) 0 = n := Nat.ofDigitChars_ten_toDigits
  rw [integerDigits, integerDigits_go_of_le (by rwa [hvalue]), hvalue]

/-- The digits of a number end where its text ends. -/
private theorem span_digits {digits rest : List Char} (hdigits : AllDigits digits)
    (hrest : Closing rest) : (digits ++ rest).takeWhile Char.isDigit = digits ∧
      (digits ++ rest).dropWhile Char.isDigit = rest := by
  have hstop : rest.takeWhile Char.isDigit = [] ∧ rest.dropWhile Char.isDigit = rest := by
    cases rest with
    | nil => exact ⟨rfl, rfl⟩
    | cons c rest =>
      have hc : ¬c.isDigit = true := by
        have hclosing := hrest c rfl
        simp only [List.mem_cons, List.not_mem_nil, or_false] at hclosing
        rcases hclosing with rfl | rfl | rfl <;> decide
      exact ⟨List.takeWhile_cons_of_neg hc, List.dropWhile_cons_of_neg hc⟩
  rw [List.takeWhile_append_of_pos hdigits, List.dropWhile_append_of_pos hdigits, hstop.1, hstop.2,
    List.append_nil]
  exact ⟨rfl, rfl⟩

/-- The digits of a natural number that fits are read as an integer literal. -/
private theorem readNumber_toDigits (negative : Bool) {n : ℕ} (hn : n ≤ maxSignificand)
    {rest : List Char} (hrest : Closing rest) :
    readNumber negative (Nat.toDigits 10 n ++ rest) = integerLiteral negative n rest := by
  obtain ⟨htake, hdrop⟩ := span_digits (allDigits_toDigits n) hrest
  rw [readNumber]
  simp only [htake, hdrop]
  split
  · rename_i hnil
    exact absurd hnil Nat.toDigits_ne_nil
  · rename_i hzero
    exact absurd hzero (toDigits_ne_zero_cons n _ _)
  · rw [integerDigits_toDigits hn]
    dsimp only
    split
    · exact absurd (hrest _ rfl) (by decide)
    · exact absurd (hrest _ rfl) (by decide)
    · exact absurd (hrest _ rfl) (by decide)
    · rfl
  · simp [Nat.toDigits_ne_nil]

private theorem integerLiteral_natAbs {value : ℤ} (fits : FitsWord value) (rest : List Char) :
    integerLiteral (decide (value < 0)) value.natAbs rest =
      .ok (.number (.integer value fits), rest) := by
  have hvalue :
      (if decide (value < 0) = true then -(value.natAbs : ℤ) else value.natAbs) = value := by
    by_cases h : value < 0
    · rw [if_pos (decide_eq_true h), Int.ofNat_natAbs_of_nonpos h.le, neg_neg]
    · rw [if_neg (by simpa using h), Int.natAbs_of_nonneg (not_lt.mp h)]
  have hnumber : Number.ofInt? value = some (.integer value fits) := dif_pos fits
  rw [integerLiteral, if_neg (by simp; omega), hvalue, hnumber]

private theorem readValue_digit {c : Char} (hc : c.isDigit) (fuel depth : ℕ) (rest : List Char) :
    readValue (fuel + 1) depth (c :: rest) = readNumber false (c :: rest) := by
  have hne (d : Char) (hd : d.isDigit = false) : c ≠ d := by
    rintro rfl
    exact absurd (hd.symm.trans hc) Bool.false_ne_true
  have hblank : isBlank c = false := by
    simp [isBlank, hne ' ' rfl, hne '\n' rfl, hne '\t' rfl, hne '\r' rfl]
  rw [readValue, skipBlanks, List.dropWhile_cons_of_neg (by simp [hblank])]
  split
  case h_9 hlead =>
    obtain ⟨rfl, rfl⟩ := List.cons.inj hlead
    exact if_pos hc
  case h_1 hlead => exact absurd hlead (List.cons_ne_nil _ _)
  all_goals
    rename_i hlead
    exact absurd (List.cons.inj hlead).1 (hne _ rfl)

/-- The reader takes the text of an integer for a number. -/
private theorem readValue_writeInt (value : ℤ) (fuel depth : ℕ) (rest : List Char) :
    readValue (fuel + 1) depth (Number.writeInt value ++ rest) =
      readNumber (decide (value < 0)) (Nat.toDigits 10 value.natAbs ++ rest) := by
  unfold Number.writeInt
  split
  · rename_i h
    rw [decide_eq_true h, List.cons_append, readValue]
    rfl
  · rename_i h
    obtain ⟨c, digits, hdigits⟩ :=
      List.exists_cons_of_ne_nil (Nat.toDigits_ne_nil (b := 10) (n := value.natAbs))
    have hc : c.isDigit := allDigits_toDigits value.natAbs c (hdigits ▸ List.mem_cons_self)
    rw [decide_eq_false h, hdigits, List.cons_append, readValue_digit hc]

private theorem write_ne_nil (value : Json) : value.write ≠ [] := by
  obtain ⟨c, rest, hwrite, -⟩ := exists_lead value
  rw [hwrite]
  exact List.cons_ne_nil c rest

/-- The fuel for a text is enough for two steps, since the text is not empty. -/
private theorem exists_fuel {text : List Char} (hne : text ≠ []) {fuel : ℕ}
    (h : 2 * text.length ≤ fuel) : ∃ less, fuel = less + 2 := by
  have hlength := List.length_pos_iff.mpr hne
  exact ⟨fuel - 2, by omega⟩

private theorem readsBack_integer {value : ℤ} (fits : FitsWord value) :
    ReadsBack (.number (.integer value fits)) := by
  intro fuel depth rest hrest _ hfuel
  obtain ⟨fuel, rfl⟩ := exists_fuel (write_ne_nil _) hfuel
  have hle : value.natAbs ≤ maxSignificand := by
    unfold FitsWord at fits
    rw [maxSignificand]
    omega
  rw [write, Number.write, readValue_writeInt, readNumber_toDigits _ hle hrest,
    integerLiteral_natAbs fits]

/-! ## Words and strings -/

private theorem readsBack_null : ReadsBack .null := by
  intro fuel depth rest _ _ hfuel
  obtain ⟨fuel, rfl⟩ := exists_fuel (write_ne_nil _) hfuel
  rw [readValue]
  rfl

private theorem readsBack_bool (value : Bool) : ReadsBack (.bool value) := by
  intro fuel depth rest _ _ hfuel
  obtain ⟨fuel, rfl⟩ := exists_fuel (write_ne_nil _) hfuel
  rw [readValue]
  cases value <;> rfl

/-- The reader finds the end of a written string, which starts behind the opening quote. -/
private theorem readString_writeString (text : String) (rest : List Char) :
    ∃ body, writeString text ++ rest = '"' :: body ∧ readString [] body = .ok (text, rest) := by
  refine ⟨text.toList.flatMap escape ++ '"' :: rest, by simp [writeString], ?_⟩
  rw [readString_escaped, List.reverse_nil, List.nil_append, String.ofList_toList]

private theorem readsBack_string (text : String) : ReadsBack (.string text) := by
  intro fuel depth rest _ _ hfuel
  obtain ⟨fuel, rfl⟩ := exists_fuel (write_ne_nil _) hfuel
  obtain ⟨body, hbody, hread⟩ := readString_writeString text rest
  rw [write, hbody, readValue]
  show (readString [] body).map _ = _
  rw [hread]
  rfl

/-! ## Arrays -/

/-- The text of a value starts with a character that is neither a blank nor a closing bracket. -/
private theorem exists_first (value : Json) : ∃ c rest, value.write = c :: rest ∧
    isBlank c = false ∧ c ≠ ']' := by
  obtain ⟨c, rest, hwrite, hkind⟩ := exists_lead value
  have hlead : kindOfLead c ≠ 6 := by
    intro h
    rw [hkind] at h
    cases value <;> nomatch h
  refine ⟨c, rest, hwrite, ?_, ?_⟩
  · by_contra hblank
    simp only [isBlank, Bool.not_eq_false, Bool.or_eq_true, decide_eq_true_eq] at hblank
    obtain ((rfl | rfl) | rfl) | rfl := hblank <;> exact hlead rfl
  · rintro rfl
    exact hlead rfl

private theorem skipBlanks_cons {c : Char} (hc : isBlank c = false) (rest : List Char) :
    skipBlanks (c :: rest) = c :: rest :=
  List.dropWhile_cons_of_neg (by simp [hc])

section Items

variable {fuel depth : ℕ} {items : List Json} {rest : List Char}

/-- The first item needs no comma. -/
private theorem readItems_first (item : Json) (rest : List Char) :
    readItems (fuel + 1) depth true (item.write ++ rest) =
      readItem fuel depth (item.write ++ rest) := by
  obtain ⟨c, more, hwrite, hblank, hbracket⟩ := exists_first item
  rw [hwrite, List.cons_append, readItems, skipBlanks_cons hblank]
  split
  case h_1 h => exact absurd h (List.cons_ne_nil _ _)
  case h_2 h => exact absurd (List.cons.inj h).1 hbracket
  case h_3 h =>
    obtain ⟨rfl, rfl⟩ := List.cons.inj h
    exact if_pos rfl

/-- The items after it need one. -/
private theorem readItems_comma (item : Json) (rest : List Char) :
    readItems (fuel + 1) depth false (',' :: (item.write ++ rest)) =
      readItem fuel depth (item.write ++ rest) := by
  obtain ⟨c, more, hwrite, hblank, hbracket⟩ := exists_first item
  rw [hwrite, List.cons_append, readItems, skipBlanks_cons rfl]
  split
  case h_1 h => exact absurd h (List.cons_ne_nil _ _)
  case h_2 h => exact absurd (List.cons.inj h).1 (by decide)
  case h_3 h =>
    obtain ⟨rfl, rfl⟩ := List.cons.inj h
    rw [if_neg Bool.false_ne_true, if_pos rfl, skipBlanks_cons hblank]
    split
    case h_1 h => exact absurd h (List.cons_ne_nil _ _)
    case h_2 h => exact absurd (List.cons.inj h).1 hbracket
    case h_3 => rfl

private theorem closing_moreItems (items : List Json) (rest : List Char) :
    Closing (writeMoreItems items ++ rest) := by
  cases items <;> exact closing_cons (by decide) _

/-- An item is read from its text, if the items after it are. -/
private theorem readItem_write {item : Json} (hitem : item.ReadsBack) (hdepth : item.depth ≤ depth)
    (hfuel : 2 * item.write.length ≤ fuel)
    (hitems : readItems fuel depth false (writeMoreItems items ++ rest) = .ok (items, rest)) :
    readItem (fuel + 1) depth (item.write ++ (writeMoreItems items ++ rest)) =
      .ok (item :: items, rest) := by
  rw [readItem, hitem (closing_moreItems items rest) hdepth hfuel]
  simp only [bind, Except.bind, hitems]
  rfl

private theorem readItems_writeMoreItems (ih : ∀ item ∈ items, ReadsBack item)
    (hdepth : depthItems items ≤ depth) (hfuel : 2 * (writeMoreItems items).length ≤ fuel) :
    readItems fuel depth false (writeMoreItems items ++ rest) = .ok (items, rest) := by
  induction items generalizing fuel with
  | nil =>
    obtain ⟨fuel, rfl⟩ := exists_fuel (List.cons_ne_nil _ _) hfuel
    rw [readItems]
    rfl
  | cons item items ihrest =>
    obtain ⟨fuel, rfl⟩ := exists_fuel (List.cons_ne_nil _ _) hfuel
    -- the comma pays for the two steps that lead to the item
    simp only [writeMoreItems, List.length_cons, List.length_append] at hfuel
    rw [depthItems, max_le_iff] at hdepth
    have hitems : readItems fuel depth false (writeMoreItems items ++ rest) = .ok (items, rest) :=
      ihrest (fun other h => ih other (List.mem_cons_of_mem _ h)) hdepth.2 (by omega)
    rw [writeMoreItems, List.cons_append, List.append_assoc, readItems_comma]
    exact readItem_write (ih item List.mem_cons_self) hdepth.1 (by omega) hitems

private theorem readItems_writeItems (ih : ∀ item ∈ items, ReadsBack item)
    (hdepth : depthItems items ≤ depth) (hfuel : 2 * (writeItems items).length ≤ fuel) :
    readItems fuel depth true (writeItems items ++ rest) = .ok (items, rest) := by
  cases items with
  | nil =>
    obtain ⟨fuel, rfl⟩ := exists_fuel (List.cons_ne_nil _ _) hfuel
    rw [readItems]
    rfl
  | cons item items =>
    have hfirst : 0 < item.write.length := List.length_pos_iff.mpr (write_ne_nil item)
    have hmore : 0 < (writeMoreItems items).length := by cases items <;> exact Nat.succ_pos _
    simp only [writeItems, List.length_append] at hfuel
    rw [depthItems, max_le_iff] at hdepth
    obtain ⟨fuel, rfl⟩ : ∃ less, fuel = less + 2 := ⟨fuel - 2, by omega⟩
    have hitems : readItems fuel depth false (writeMoreItems items ++ rest) = .ok (items, rest) :=
      readItems_writeMoreItems (fun other h => ih other (List.mem_cons_of_mem _ h)) hdepth.2
        (by omega)
    rw [writeItems, List.append_assoc, readItems_first]
    exact readItem_write (ih item List.mem_cons_self) hdepth.1 (by omega) hitems

private theorem readValue_bracket (fuel depth : ℕ) (rest : List Char) :
    readValue (fuel + 1) (depth + 1) ('[' :: rest) =
      (readItems fuel depth true rest).map fun (items, rest) => (.array items, rest) := by
  rw [readValue]
  rfl

private theorem readsBack_array (ih : ∀ item ∈ items, ReadsBack item) :
    ReadsBack (.array items) := by
  intro fuel depth rest _ hdepth hfuel
  rw [Json.depth] at hdepth
  simp only [write, List.length_cons] at hfuel
  obtain ⟨fuel, rfl⟩ : ∃ less, fuel = less + 1 := ⟨fuel - 1, by omega⟩
  obtain ⟨depth, rfl⟩ : ∃ less, depth = less + 1 := ⟨depth - 1, by omega⟩
  rw [write, List.cons_append, readValue_bracket, readItems_writeItems ih (by omega) (by omega)]
  rfl

end Items

/-! ## Objects -/

section Members

variable {fuel depth : ℕ} {members : List (String × Json)} {rest : List Char}

private theorem closing_moreMembers (members : List (String × Json)) (rest : List Char) :
    Closing (writeMoreMembers members ++ rest) := by
  cases members <;> exact closing_cons (by decide) _

/-- A member is read from its text, from behind the opening quote of its name, if the members after
it are. -/
private theorem readMember_write (name : String) {value : Json} (hvalue : value.ReadsBack)
    (hdepth : value.depth ≤ depth) (hfuel : 2 * value.write.length ≤ fuel)
    (hmembers : readMembers fuel depth false (writeMoreMembers members ++ rest) =
      .ok (members, rest)) :
    ∃ body, writeString name ++ ':' :: (value.write ++ (writeMoreMembers members ++ rest)) =
        '"' :: body ∧
      readMember (fuel + 1) depth body = .ok ((name, value) :: members, rest) := by
  obtain ⟨body, hbody, hname⟩ :=
    readString_writeString name (':' :: (value.write ++ (writeMoreMembers members ++ rest)))
  refine ⟨body, hbody, ?_⟩
  have hcolon (text : List Char) : skipBlanks (':' :: text) = ':' :: text :=
    skipBlanks_cons rfl text
  rw [readMember, hname]
  simp only [bind, Except.bind, hcolon, hvalue (closing_moreMembers members rest) hdepth hfuel,
    hmembers]
  rfl

private theorem readMembers_writeMoreMembers (ih : ∀ member ∈ members, ReadsBack member.2)
    (hdepth : depthMembers members ≤ depth) (hfuel : 2 * (writeMoreMembers members).length ≤ fuel) :
    readMembers fuel depth false (writeMoreMembers members ++ rest) = .ok (members, rest) := by
  induction members generalizing fuel with
  | nil =>
    obtain ⟨fuel, rfl⟩ := exists_fuel (List.cons_ne_nil _ _) hfuel
    rw [readMembers]
    rfl
  | cons member members ihrest =>
    obtain ⟨name, value⟩ := member
    have hvalue : value.ReadsBack := ih (name, value) List.mem_cons_self
    obtain ⟨fuel, rfl⟩ := exists_fuel (List.cons_ne_nil _ _) hfuel
    simp only [writeMoreMembers, List.length_cons, List.length_append] at hfuel
    rw [depthMembers, max_le_iff] at hdepth
    obtain ⟨body, hbody, hmember⟩ := readMember_write name hvalue hdepth.1 (by omega)
      (ihrest (fun other h => ih other (List.mem_cons_of_mem _ h)) hdepth.2
        (show _ ≤ fuel by omega))
    simp only [writeMoreMembers, List.cons_append, List.append_assoc]
    rw [hbody, readMembers, skipBlanks_cons rfl]
    exact hmember

private theorem readMembers_writeMembers (ih : ∀ member ∈ members, ReadsBack member.2)
    (hdepth : depthMembers members ≤ depth) (hfuel : 2 * (writeMembers members).length ≤ fuel) :
    readMembers fuel depth true (writeMembers members ++ rest) = .ok (members, rest) := by
  cases members with
  | nil =>
    obtain ⟨fuel, rfl⟩ := exists_fuel (List.cons_ne_nil _ _) hfuel
    rw [readMembers]
    rfl
  | cons member members =>
    obtain ⟨name, value⟩ := member
    have hvalue : value.ReadsBack := ih (name, value) List.mem_cons_self
    obtain ⟨fuel, rfl⟩ := exists_fuel (List.cons_ne_nil _ _) hfuel
    simp only [writeMembers, List.length_cons, List.length_append] at hfuel
    rw [depthMembers, max_le_iff] at hdepth
    obtain ⟨body, hbody, hmember⟩ := readMember_write name hvalue hdepth.1 (by omega)
      (readMembers_writeMoreMembers (fun other h => ih other (List.mem_cons_of_mem _ h)) hdepth.2
        (show _ ≤ fuel by omega))
    simp only [writeMembers, List.cons_append, List.append_assoc]
    rw [hbody, readMembers, skipBlanks_cons rfl]
    exact hmember

private theorem readValue_brace (fuel depth : ℕ) (rest : List Char) :
    readValue (fuel + 1) (depth + 1) ('{' :: rest) =
      (readMembers fuel depth true rest).map fun (members, rest) =>
        (.object (Entries.setAll [] members), rest) := by
  rw [readValue]
  rfl

private theorem readsBack_object (distinct : Entries.Distinct members)
    (ih : ∀ member ∈ members, ReadsBack member.2) : ReadsBack (.object members) := by
  intro fuel depth rest _ hdepth hfuel
  rw [Json.depth] at hdepth
  simp only [write, List.length_cons] at hfuel
  obtain ⟨fuel, rfl⟩ : ∃ less, fuel = less + 1 := ⟨fuel - 1, by omega⟩
  obtain ⟨depth, rfl⟩ : ∃ less, depth = less + 1 := ⟨depth - 1, by omega⟩
  have hset : Entries.setAll [] members = members :=
    Entries.setAll_of_distinct ((List.nil_append members).symm ▸ distinct)
  rw [write, List.cons_append, readValue_brace, readMembers_writeMembers ih (by omega) (by omega)]
  simp only [Except.map, hset]

end Members

/-! ## All values -/

/-- The text of a value is read as the value, whatever closes behind it. -/
theorem readsBack (value : Json) (distinct : value.Distinct) (integral : value.Integral) :
    ReadsBack value := by
  induction value with
  | null => exact readsBack_null
  | bool value => exact readsBack_bool value
  | number n =>
    cases n with
    | integer value fits => exact readsBack_integer fits
    | double x => exact nomatch integral
  | string text => exact readsBack_string text
  | array items ih =>
    exact readsBack_array fun item hitem => ih item hitem
      (distinctItems_iff.mp distinct item hitem) (integralItems_iff.mp integral item hitem)
  | object members ih =>
    exact readsBack_object distinct.1 fun member hmember => ih member hmember
      (distinctMembers_iff.mp distinct.2 member hmember)
      (integralMembers_iff.mp integral member hmember)

/-- A restorable value is read back from its compact text. -/
theorem readChars_write {value : Json} (h : value.Restorable) :
    readChars value.write = .ok value := by
  have hread := readsBack value h.distinct h.integral closing_nil h.shallow
    (show 2 * value.write.length ≤ 3 * value.write.length + 4 by omega)
  rw [List.append_nil] at hread
  rw [readChars, hread]
  rfl

end SchemaCall.Json
