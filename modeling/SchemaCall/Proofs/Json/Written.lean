import SchemaCall.Json.Printer
import SchemaCall.Json.Reader
import SchemaCall.Proofs.Decimal.Written

/-!
# Written values

The compact text of a value determines it, and shows where it ends (`write_append_inj`): two texts
that start with a written value and go on with something that no number goes on with start with the
same value. A number ends at the first character that numbers do not contain; a string ends where
the reader of strings finds its closing quote (`readString_escaped`).
-/

namespace SchemaCall.Json

open Decimal

/-! ## Numbers -/

namespace Number

private theorem allDigits_or_minus {value : ℤ} {c : Char} (hc : c ∈ writeInt value) :
    c.isDigit ∨ c = '-' := by
  unfold writeInt at hc
  split at hc
  · rcases List.mem_cons.mp hc with rfl | hc
    · exact .inr rfl
    · exact .inl (allDigits_toDigits _ c hc)
  · exact .inl (allDigits_toDigits _ c hc)

private theorem writeInt_injective : Function.Injective writeInt := by
  intro a b h
  have hminus (n : ℕ) : '-' ∉ Nat.toDigits 10 n := fun hmem =>
    absurd (allDigits_toDigits n _ hmem) (by decide)
  have hdigits {m n : ℕ} (h : Nat.toDigits 10 m = Nat.toDigits 10 n) : m = n := by
    rw [← Nat.ofDigitChars_ten_toDigits (n := m), h, Nat.ofDigitChars_ten_toDigits]
  unfold writeInt at h
  split at h <;> split at h
  · have := hdigits (List.cons.inj h).2
    omega
  · exact absurd (h ▸ List.mem_cons_self) (hminus _)
  · exact absurd (h ▸ List.mem_cons_self) (hminus _)
  · have := hdigits h
    omega

/-- The text of an integer has neither a point nor an exponent, which that of a double has. -/
private theorem writeInt_ne_write (value : ℤ) (x : Binary64) : writeInt value ≠ x.write := by
  intro h
  rcases x.point_or_exponent_mem_write with hmem | hmem <;> rw [← h] at hmem <;>
    rcases allDigits_or_minus hmem with hc | hc <;> exact absurd hc (by decide)

/-- The text of a number determines it. -/
theorem write_injective : Function.Injective write := by
  intro m n h
  cases m with
  | integer a ha =>
    cases n with
    | integer b hb =>
      obtain rfl := writeInt_injective h
      rfl
    | double y => exact absurd h (writeInt_ne_write a y)
  | double x =>
    cases n with
    | integer b hb => exact absurd h.symm (writeInt_ne_write b x)
    | double y =>
      obtain rfl := Binary64.write_injective h
      rfl

/-- A number is written in characters of numerals. -/
theorem isNumeral_of_mem_write {n : Number} {c : Char} (hc : c ∈ n.write) : isNumeral c = true := by
  cases n with
  | integer value _ =>
    rcases allDigits_or_minus hc with h | rfl
    · exact isNumeral_of_isDigit h
    · rfl
  | double x => exact Binary64.isNumeral_of_mem_write hc

/-- The text of a number starts with a digit or a minus sign. -/
theorem write_eq_cons (n : Number) : ∃ c rest, n.write = c :: rest ∧ (c.isDigit ∨ c = '-') := by
  cases n with
  | integer value _ =>
    have hne : writeInt value ≠ [] := by
      unfold writeInt
      split
      · exact List.cons_ne_nil _ _
      · exact Nat.toDigits_ne_nil
    obtain ⟨c, rest, h⟩ := List.exists_cons_of_ne_nil hne
    exact ⟨c, rest, h, allDigits_or_minus (h ▸ List.mem_cons_self)⟩
  | double x => exact x.write_eq_cons

end Number

/-! ## Strings -/

private theorem hexValue4?_control {n : ℕ} (h : n < 0x20) :
    hexValue4? '0' '0' (Nat.digitChar (n / 16)) (Nat.digitChar (n % 16)) = some n := by
  revert n
  decide

/-- The reader takes an escaped character for the character. -/
theorem readString_escape (done : List Char) (c : Char) (rest : List Char) :
    readString done (escape c ++ rest) = readString (c :: done) rest := by
  unfold escape
  split
  · rfl
  · rfl
  · rfl
  · rfl
  · rfl
  · rfl
  · rfl
  · rename_i hquote hbackslash _ _ _ _ _
    split
    · rename_i hcontrol
      -- a control character is no half of a surrogate pair, so that one escape is all of it
      have hlow : isTrailingUnit c.toNat = false ∧ isLeadingUnit c.toNat = false := by
        simp only [isTrailingUnit, isLeadingUnit, Bool.and_eq_false_iff, decide_eq_false_iff_not]
        omega
      simp only [List.cons_append, List.nil_append]
      rw [readString, hexValue4?_control hcontrol]
      simp only [hlow.1, hlow.2, Bool.false_eq_true, if_false, Char.ofNat_toNat]
    · rename_i hplain
      rw [List.singleton_append, readString]
      · rw [if_neg hplain]
      all_goals simp_all

/-- The reader finds the end of a written string. -/
theorem readString_escaped (done chars rest : List Char) :
    readString done (chars.flatMap escape ++ '"' :: rest) =
      .ok (String.ofList (done.reverse ++ chars), rest) := by
  induction chars generalizing done with
  | nil => simp [readString]
  | cons c chars ih =>
    rw [List.flatMap_cons, List.append_assoc, readString_escape, ih]
    simp

/-- A written string shows where it ends. -/
theorem writeString_append_inj {a b : String} {s t : List Char}
    (h : writeString a ++ s = writeString b ++ t) : a = b ∧ s = t := by
  have hbody : a.toList.flatMap escape ++ '"' :: s = b.toList.flatMap escape ++ '"' :: t := by
    simpa [writeString] using h
  have hread := readString_escaped [] a.toList s
  rw [hbody, readString_escaped] at hread
  simpa [eq_comm] using hread

/-! ## Where a value ends -/

/-- No number goes on into this text: it is empty or starts with another character. -/
def Delimited (rest : List Char) : Prop :=
  ∀ c ∈ rest.head?, isNumeral c = false

/-- What does not occur in numerals ends one. -/
theorem delimited_cons {c : Char} (hc : isNumeral c = false) (rest : List Char) :
    Delimited (c :: rest) := by
  simpa [Delimited] using hc

/-- A written number ends where no number goes on. -/
private theorem takeWhile_write (n : Number) {rest : List Char} (hrest : Delimited rest) :
    (n.write ++ rest).takeWhile isNumeral = n.write := by
  rw [List.takeWhile_append_of_pos fun c hc => Number.isNumeral_of_mem_write hc]
  cases rest with
  | nil => simp
  | cons c rest => simp [hrest c rfl]

/-- The kind of the values whose text starts with the character, as the index of a constructor;
six for a character that no text starts with. -/
def kindOfLead (c : Char) : ℕ :=
  match c with
  | 'n' => 0
  | 't' => 1
  | 'f' => 1
  | '"' => 3
  | '[' => 4
  | '{' => 5
  | c => if c.isDigit ∨ c = '-' then 2 else 6

private theorem kindOfLead_number {c : Char} (hc : c.isDigit ∨ c = '-') : kindOfLead c = 2 := by
  unfold kindOfLead
  split
  case h_7 => exact if_pos hc
  all_goals exact absurd hc (by decide)

/-- The text of a value starts with a character of its kind. -/
theorem exists_lead (value : Json) :
    ∃ c rest, write value = c :: rest ∧ kindOfLead c = value.ctorIdx := by
  cases value with
  | null => exact ⟨_, _, rfl, rfl⟩
  | bool value => cases value <;> exact ⟨_, _, rfl, rfl⟩
  | number n =>
    obtain ⟨c, rest, h, hc⟩ := n.write_eq_cons
    exact ⟨c, rest, by rw [write, h], kindOfLead_number hc⟩
  | string text => exact ⟨_, _, rfl, rfl⟩
  | array items => exact ⟨_, _, rfl, rfl⟩
  | object members => exact ⟨_, _, rfl, rfl⟩

/-- Values whose texts start alike are of one kind. -/
private theorem ctorIdx_eq_of_write {a b : Json} {s t : List Char}
    (h : write a ++ s = write b ++ t) : a.ctorIdx = b.ctorIdx := by
  obtain ⟨c, rest, ha, hc⟩ := exists_lead a
  obtain ⟨d, rest', hb, hd⟩ := exists_lead b
  rw [ha, hb] at h
  rw [← hc, ← hd, (List.cons.inj h).1]

/-- What the text of a value shows when no number goes on after it: the value, and where it ends. -/
def Shown (a : Json) : Prop :=
  ∀ ⦃b : Json⦄ ⦃s t : List Char⦄, Delimited s → Delimited t → write a ++ s = write b ++ t →
    a = b ∧ s = t

private theorem delimited_moreItems (items : List Json) (rest : List Char) :
    Delimited (writeMoreItems items ++ rest) := by
  cases items <;> exact delimited_cons rfl _

private theorem delimited_moreMembers (members : List (String × Json)) (rest : List Char) :
    Delimited (writeMoreMembers members ++ rest) := by
  cases members <;> exact delimited_cons rfl _

private theorem writeMoreItems_append_inj {as : List Json} (ih : ∀ a ∈ as, Shown a) :
    ∀ {bs : List Json} {s t : List Char}, writeMoreItems as ++ s = writeMoreItems bs ++ t →
      as = bs ∧ s = t := by
  induction as with
  | nil =>
    intro bs s t h
    cases bs with
    | nil => exact ⟨rfl, (List.cons.inj h).2⟩
    | cons b bs => exact absurd (List.cons.inj h).1 (by decide)
  | cons a as iha =>
    intro bs s t h
    cases bs with
    | nil => exact absurd (List.cons.inj h).1 (by decide)
    | cons b bs =>
      simp only [writeMoreItems, List.cons_append, List.append_assoc] at h
      obtain ⟨rfl, hrest⟩ := ih a (by simp) (delimited_moreItems as s) (delimited_moreItems bs t)
        (List.cons.inj h).2
      obtain ⟨rfl, hst⟩ := iha (fun x hx => ih x (List.mem_cons_of_mem _ hx)) hrest
      exact ⟨rfl, hst⟩

private theorem writeItems_append_inj {as bs : List Json} (ih : ∀ a ∈ as, Shown a) {s t : List Char}
    (h : writeItems as ++ s = writeItems bs ++ t) : as = bs ∧ s = t := by
  -- no value begins with the bracket that closes a list
  have hfirst (value : Json) (r u v : List Char) : ']' :: r ≠ write value ++ u ++ v := by
    obtain ⟨c, rest, hvalue, hc⟩ := exists_lead value
    intro heq
    rw [hvalue] at heq
    rw [← (List.cons.inj heq).1, show kindOfLead ']' = 6 by decide] at hc
    cases value <;> nomatch hc
  cases as with
  | nil =>
    cases bs with
    | nil => exact ⟨rfl, (List.cons.inj h).2⟩
    | cons b bs => exact absurd h (hfirst b _ _ _)
  | cons a as =>
    cases bs with
    | nil => exact absurd h.symm (hfirst a _ _ _)
    | cons b bs =>
      simp only [writeItems, List.append_assoc] at h
      obtain ⟨rfl, hrest⟩ := ih a (by simp) (delimited_moreItems as s) (delimited_moreItems bs t) h
      obtain ⟨rfl, hst⟩ :=
        writeMoreItems_append_inj (fun x hx => ih x (List.mem_cons_of_mem _ hx)) hrest
      exact ⟨rfl, hst⟩

/-- A written member shows its name, its value and where it ends. -/
private theorem writeMember_append_inj {j k : String} {a b : Json} (ih : Shown a) {s t : List Char}
    (hs : Delimited s) (ht : Delimited t)
    (h : writeString j ++ ':' :: (write a ++ s) = writeString k ++ ':' :: (write b ++ t)) :
    j = k ∧ a = b ∧ s = t := by
  obtain ⟨hname, hvalue⟩ := writeString_append_inj h
  exact ⟨hname, ih hs ht (List.cons.inj hvalue).2⟩

private theorem writeMoreMembers_append_inj {as : List (String × Json)}
    (ih : ∀ a ∈ as, Shown a.2) : ∀ {bs : List (String × Json)} {s t : List Char},
      writeMoreMembers as ++ s = writeMoreMembers bs ++ t → as = bs ∧ s = t := by
  induction as with
  | nil =>
    intro bs s t h
    cases bs with
    | nil => exact ⟨rfl, (List.cons.inj h).2⟩
    | cons b bs => exact absurd (List.cons.inj h).1 (by decide)
  | cons a as iha =>
    intro bs s t h
    cases bs with
    | nil => exact absurd (List.cons.inj h).1 (by decide)
    | cons b bs =>
      simp only [writeMoreMembers, List.cons_append, List.append_assoc] at h
      obtain ⟨hname, hvalue, hrest⟩ := writeMember_append_inj (ih a (by simp))
        (delimited_moreMembers as s) (delimited_moreMembers bs t) (List.cons.inj h).2
      obtain ⟨rfl, hst⟩ := iha (fun x hx => ih x (List.mem_cons_of_mem _ hx)) hrest
      rw [show a = b from Prod.ext hname hvalue]
      exact ⟨rfl, hst⟩

private theorem writeMembers_append_inj {as bs : List (String × Json)} (ih : ∀ a ∈ as, Shown a.2)
    {s t : List Char} (h : writeMembers as ++ s = writeMembers bs ++ t) : as = bs ∧ s = t := by
  cases as with
  | nil =>
    cases bs with
    | nil => exact ⟨rfl, (List.cons.inj h).2⟩
    | cons b bs => exact absurd (List.cons.inj h).1 (by decide)
  | cons a as =>
    cases bs with
    | nil => exact absurd (List.cons.inj h).1 (by decide)
    | cons b bs =>
      simp only [writeMembers, List.cons_append, List.append_assoc] at h
      obtain ⟨hname, hvalue, hrest⟩ := writeMember_append_inj (ih a (by simp))
        (delimited_moreMembers as s) (delimited_moreMembers bs t) h
      obtain ⟨rfl, hst⟩ :=
        writeMoreMembers_append_inj (fun x hx => ih x (List.mem_cons_of_mem _ hx)) hrest
      rw [show a = b from Prod.ext hname hvalue]
      exact ⟨rfl, hst⟩

/-- A written value shows where it ends and what it is. -/
theorem write_append_inj (a : Json) : Shown a := by
  induction a with
  | null =>
    intro b s t _ _ h
    -- the first character tells of which kind the other value is
    have hkind := ctorIdx_eq_of_write h
    cases b with
    | null => exact ⟨rfl, List.append_cancel_left h⟩
    | _ => nomatch hkind
  | bool value =>
    intro b s t _ _ h
    have hkind := ctorIdx_eq_of_write h
    cases b with
    | bool other =>
      cases value <;> cases other
      · exact ⟨rfl, List.append_cancel_left h⟩
      · exact absurd (List.cons.inj h).1 (by decide)
      · exact absurd (List.cons.inj h).1 (by decide)
      · exact ⟨rfl, List.append_cancel_left h⟩
    | _ => nomatch hkind
  | number m =>
    intro b s t hs ht h
    have hkind := ctorIdx_eq_of_write h
    cases b with
    | number n =>
      have hwrite : m.write = n.write := by
        rw [← takeWhile_write m hs, ← takeWhile_write n ht]
        exact congrArg (List.takeWhile isNumeral) h
      obtain rfl := Number.write_injective hwrite
      exact ⟨rfl, List.append_cancel_left h⟩
    | _ => nomatch hkind
  | string text =>
    intro b s t _ _ h
    have hkind := ctorIdx_eq_of_write h
    cases b with
    | string other =>
      obtain ⟨rfl, hst⟩ := writeString_append_inj h
      exact ⟨rfl, hst⟩
    | _ => nomatch hkind
  | array items ih =>
    intro b s t _ _ h
    have hkind := ctorIdx_eq_of_write h
    cases b with
    | array others =>
      obtain ⟨rfl, hst⟩ := writeItems_append_inj ih (List.cons.inj h).2
      exact ⟨rfl, hst⟩
    | _ => nomatch hkind
  | object members ih =>
    intro b s t _ _ h
    have hkind := ctorIdx_eq_of_write h
    cases b with
    | object others =>
      obtain ⟨rfl, hst⟩ := writeMembers_append_inj ih (List.cons.inj h).2
      exact ⟨rfl, hst⟩
    | _ => nomatch hkind

end SchemaCall.Json
