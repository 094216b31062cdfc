import SchemaCall.Proofs.Json.Written

/-!
# Inside and outside of strings

A reader that goes through the compact text of values stands outside of strings, inside of one, or
behind a backslash in one. Outside of strings such a text has no backslash and no opening
parenthesis. Two readers that start on opposite sides of a quotation mark therefore stay on opposite
sides of it (`scan_opposite`): what one of them takes for the text of values, the other one can not
take for the end of a text of values.
-/

namespace SchemaCall.Json

/-- Where a reader stands. -/
inductive Place where
  | outside
  | inside
  | escaped
  deriving DecidableEq

/-- Where a reader stands after a character; `none` for a character that no text of values has
there. -/
def Place.next : Place → Char → Option Place
  | .outside, c =>
    if c = '"' then some .inside else if c = '\\' ∨ c = '(' then none else some .outside
  | .inside, c =>
    if c = '"' then some .outside else if c = '\\' then some .escaped else some .inside
  | .escaped, c => if c = '(' then none else some .inside

/-- Where a reader stands after a text. -/
def scan (place : Place) : List Char → Option Place
  | [] => some place
  | c :: text => (place.next c).bind fun place => scan place text

/-- To scan one text and then another is to scan both together. -/
theorem scan_append (place : Place) (text more : List Char) :
    scan place (text ++ more) = (scan place text).bind fun place => scan place more := by
  induction text generalizing place with
  | nil => rfl
  | cons c text ih =>
    rw [List.cons_append, scan, scan]
    cases place.next c with
    | none => rfl
    | some place => exact ih place

/-- A text that leaves the reader where it was can be skipped. -/
theorem scan_append_of_stay {place : Place} {text : List Char} (h : scan place text = some place)
    (more : List Char) : scan place (text ++ more) = scan place more := by
  rw [scan_append, h, Option.bind_some]

/-- Readers that start outside and inside of a string end there, or have changed places. -/
theorem scan_opposite {text : List Char} {p q : Place} (hp : scan .outside text = some p)
    (hq : scan .inside text = some q) :
    p = .outside ∧ q = .inside ∨ p = .inside ∧ q = .outside := by
  induction text generalizing p q with
  | nil => exact .inl ⟨(Option.some.inj hp).symm, (Option.some.inj hq).symm⟩
  | cons c text ih =>
    rw [scan] at hp hq
    by_cases hquote : c = '"'
    · -- the quotation mark opens a string for one reader and closes one for the other
      simp only [Place.next, hquote, if_true, Option.bind_some] at hp hq
      exact (ih hq hp).symm.imp And.symm And.symm
    · by_cases hstop : c = '\\' ∨ c = '('
      · simp [Place.next, hquote, hstop] at hp
      · have hbackslash : c ≠ '\\' := fun h => hstop (.inl h)
        have hout : Place.outside.next c = some .outside := by
          rw [Place.next, if_neg hquote, if_neg hstop]
        have hin : Place.inside.next c = some .inside := by
          rw [Place.next, if_neg hquote, if_neg hbackslash]
        rw [hout, Option.bind_some] at hp
        rw [hin, Option.bind_some] at hq
        exact ih hp hq

/-! ## Texts of values -/

private theorem scan_plain {text : List Char}
    (h : ∀ c ∈ text, Place.outside.next c = some .outside) :
    scan .outside text = some .outside := by
  induction text with
  | nil => rfl
  | cons c text ih =>
    rw [scan, h c (by simp), Option.bind_some]
    exact ih fun d hd => h d (List.mem_cons_of_mem _ hd)

private theorem next_of_isNumeral {c : Char} (h : Decimal.isNumeral c = true) :
    Place.outside.next c = some .outside := by
  have hne (d : Char) (hd : Decimal.isNumeral d = false) : c ≠ d := by
    rintro rfl
    rw [hd] at h
    exact absurd h (by decide)
  simp [Place.next, hne '"' (by decide), hne '\\' (by decide), hne '(' (by decide)]

/-- An escaped character keeps the reader inside of the string. -/
private theorem scan_escape (c : Char) : scan .inside (escape c) = some .inside := by
  unfold escape
  split
  case h_8 =>
    rename_i hquote hbackslash _ _ _ _ _
    split
    · rename_i hcontrol
      have hdigits : ∀ n < 0x20, scan .inside ['\\', 'u', '0', '0', Nat.digitChar (n / 16),
          Nat.digitChar (n % 16)] = some .inside := by decide
      exact hdigits _ hcontrol
    · simp_all [scan, Place.next]
  all_goals rfl

private theorem scan_escapes (chars : List Char) :
    scan .inside (chars.flatMap escape) = some .inside := by
  induction chars with
  | nil => rfl
  | cons c chars ih => rw [List.flatMap_cons, scan_append_of_stay (scan_escape c), ih]

private theorem scan_writeString (text : String) :
    scan .outside (writeString text) = some .outside := by
  show scan .inside (text.toList.flatMap escape ++ ['"']) = some .outside
  rw [scan_append_of_stay (scan_escapes _)]
  rfl

private theorem scan_cons_plain {c : Char} (hc : Place.outside.next c = some .outside)
    (text : List Char) : scan .outside (c :: text) = scan .outside text := by
  rw [scan, hc, Option.bind_some]

private theorem scan_writeMoreItems {items : List Json}
    (ih : ∀ item ∈ items, scan .outside (write item) = some .outside) :
    scan .outside (writeMoreItems items) = some .outside := by
  induction items with
  | nil => rfl
  | cons item rest ihrest =>
    rw [writeMoreItems, scan_cons_plain rfl, scan_append_of_stay (ih item (by simp))]
    exact ihrest fun x hx => ih x (List.mem_cons_of_mem _ hx)

private theorem scan_writeMember {name : String} {value : Json}
    (ih : scan .outside (write value) = some .outside) (text : List Char) :
    scan .outside (writeString name ++ ':' :: (write value ++ text)) = scan .outside text := by
  rw [scan_append_of_stay (scan_writeString name), scan_cons_plain rfl, scan_append_of_stay ih]

private theorem scan_writeMoreMembers {members : List (String × Json)}
    (ih : ∀ member ∈ members, scan .outside (write member.2) = some .outside) :
    scan .outside (writeMoreMembers members) = some .outside := by
  induction members with
  | nil => rfl
  | cons member rest ihrest =>
    rw [writeMoreMembers, scan_cons_plain rfl, scan_writeMember (ih member (by simp))]
    exact ihrest fun x hx => ih x (List.mem_cons_of_mem _ hx)

/-- The text of a value starts and ends outside of strings. -/
theorem scan_write (value : Json) : scan .outside (write value) = some .outside := by
  induction value with
  | null => rfl
  | bool value => cases value <;> rfl
  | number n => exact scan_plain fun c hc => next_of_isNumeral (Number.isNumeral_of_mem_write hc)
  | string text => exact scan_writeString text
  | array items ih =>
    rw [write, scan_cons_plain rfl]
    cases items with
    | nil => rfl
    | cons item rest =>
      rw [writeItems, scan_append_of_stay (ih item (by simp))]
      exact scan_writeMoreItems fun x hx => ih x (List.mem_cons_of_mem _ hx)
  | object members ih =>
    rw [write, scan_cons_plain rfl]
    cases members with
    | nil => rfl
    | cons member rest =>
      rw [writeMembers, scan_writeMember (ih member (by simp))]
      exact scan_writeMoreMembers fun x hx => ih x (List.mem_cons_of_mem _ hx)

end SchemaCall.Json
