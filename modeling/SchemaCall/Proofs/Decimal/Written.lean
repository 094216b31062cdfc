import SchemaCall.Proofs.Decimal.ReadBack

/-!
# Written doubles

The text of a double determines it (`write_injective`). The sign stands in front of the first digit,
and the rest of the text has a value, `textValue`, however it is laid out: with a point, with an
exponent or with both. That value is the value of the shortest decimal, which reads back.
-/

namespace SchemaCall.Decimal

/-! ## The value of a text -/

/-- The exponent that ends a decimal text; zero if there is none. -/
def exponentValue : List Char → ℤ
  | 'e' :: '+' :: digits => Nat.ofDigitChars 10 digits 0
  | 'e' :: '-' :: digits => -Nat.ofDigitChars 10 digits 0
  | _ => 0

/-- The value of a decimal text without a sign. -/
def textValue (text : List Char) : ℚ :=
  let mantissa := text.takeWhile (· ≠ 'e')
  let fraction := (mantissa.dropWhile (· ≠ '.')).drop 1
  Nat.ofDigitChars 10 (mantissa.takeWhile (· ≠ '.') ++ fraction) 0 *
    10 ^ (exponentValue (text.dropWhile (· ≠ 'e')) - fraction.length)

/-- Digits only. -/
def AllDigits (chars : List Char) : Prop :=
  ∀ c ∈ chars, c.isDigit

/-- Digits behind digits are digits. -/
theorem AllDigits.append {a b : List Char} (ha : AllDigits a) (hb : AllDigits b) :
    AllDigits (a ++ b) := fun c hc =>
  (List.mem_append.mp hc).elim (ha c) (hb c)

theorem allDigits_replicate_zero (count : ℕ) : AllDigits (List.replicate count '0') := by
  intro c hc
  rw [List.eq_of_mem_replicate hc]
  decide

/-- A natural number is written in digits. -/
theorem allDigits_toDigits (n : ℕ) : AllDigits (Nat.toDigits 10 n) := fun _ hc =>
  Nat.isDigit_of_mem_toDigits (by norm_num) (by norm_num) hc

private theorem ne_of_isDigit {c d : Char} (hc : c.isDigit) (hd : d.isDigit = false) :
    decide (c ≠ d) = true := by
  rw [decide_eq_true_iff]
  rintro rfl
  rw [hd] at hc
  exact absurd hc (by decide)

private theorem splitPoint {whole rest : List Char} (hwhole : AllDigits whole)
    (hrest : rest = [] ∨ ∃ fraction, rest = '.' :: fraction) :
    (whole ++ rest).takeWhile (· ≠ '.') = whole ∧ (whole ++ rest).dropWhile (· ≠ '.') = rest := by
  have hpos : ∀ c ∈ whole, decide (c ≠ '.') = true := fun c hc =>
    ne_of_isDigit (hwhole c hc) (by decide)
  rw [List.takeWhile_append_of_pos hpos, List.dropWhile_append_of_pos hpos]
  obtain rfl | ⟨fraction, rfl⟩ := hrest <;> simp

private theorem splitExponent {mantissa rest : List Char} (hmantissa : 'e' ∉ mantissa)
    (hrest : rest = [] ∨ ∃ exponent, rest = 'e' :: exponent) :
    (mantissa ++ rest).takeWhile (· ≠ 'e') = mantissa ∧
      (mantissa ++ rest).dropWhile (· ≠ 'e') = rest := by
  have hpos : ∀ c ∈ mantissa, decide (c ≠ 'e') = true := fun c hc => by
    rw [decide_eq_true_iff]
    rintro rfl
    exact hmantissa hc
  rw [List.takeWhile_append_of_pos hpos, List.dropWhile_append_of_pos hpos]
  obtain rfl | ⟨exponent, rfl⟩ := hrest <;> simp

private theorem not_mem_of_allDigits {chars : List Char} (h : AllDigits chars) : 'e' ∉ chars :=
  fun he => absurd (h _ he) (by decide)

/-- The value of digits with a point among them. -/
theorem textValue_point {whole fraction rest : List Char} (hwhole : AllDigits whole)
    (hfraction : AllDigits fraction) (hrest : rest = [] ∨ ∃ exponent, rest = 'e' :: exponent) :
    textValue (whole ++ '.' :: fraction ++ rest) =
      Nat.ofDigitChars 10 (whole ++ fraction) 0 * 10 ^ (exponentValue rest - fraction.length) := by
  have hmantissa : 'e' ∉ whole ++ '.' :: fraction := by
    simp [not_mem_of_allDigits hwhole, not_mem_of_allDigits hfraction]
  obtain ⟨h1, h2⟩ := splitExponent hmantissa hrest
  obtain ⟨h3, h4⟩ := splitPoint hwhole (.inr ⟨fraction, rfl⟩)
  simp only [textValue, h1, h2, h3, h4, List.drop_one, List.tail_cons]

/-- The value of digits without a point. -/
theorem textValue_digits {whole rest : List Char} (hwhole : AllDigits whole)
    (hrest : rest = [] ∨ ∃ exponent, rest = 'e' :: exponent) :
    textValue (whole ++ rest) = Nat.ofDigitChars 10 whole 0 * 10 ^ exponentValue rest := by
  obtain ⟨h1, h2⟩ := splitExponent (not_mem_of_allDigits hwhole) hrest
  obtain ⟨h3, h4⟩ := splitPoint hwhole (.inl rfl)
  rw [List.append_nil] at h3 h4
  simp only [textValue, h1, h2, h3, h4, List.drop_nil, List.append_nil, List.length_nil,
    Nat.cast_zero, sub_zero]

/-! ## The value of a layout -/

private theorem ofDigitChars_zeros_append (count : ℕ) (digits : List Char) :
    Nat.ofDigitChars 10 (List.replicate count '0' ++ digits) 0 = Nat.ofDigitChars 10 digits 0 := by
  rw [Nat.ofDigitChars_append, Nat.ofDigitChars_replicate_zero, Nat.mul_zero]

private theorem ofDigitChars_append_zeros (digits : List Char) (count : ℕ) :
    Nat.ofDigitChars 10 (digits ++ List.replicate count '0') 0 =
      10 ^ count * Nat.ofDigitChars 10 digits 0 := by
  rw [Nat.ofDigitChars_append, Nat.ofDigitChars_replicate_zero]

private theorem exponentValue_sign (leading : ℤ) :
    exponentValue ('e' :: (if leading < 0 then '-' else '+') :: Nat.toDigits 10 leading.natAbs) =
      leading := by
  split
  · simp only [exponentValue, Nat.ofDigitChars_ten_toDigits]
    omega
  · simp only [exponentValue, Nat.ofDigitChars_ten_toDigits]
    omega

/-- Zeros stand between the point and the digits. -/
private theorem textValue_zeros_first {digits : List Char} (hdigits : AllDigits digits)
    (count : ℕ) : textValue ('0' :: '.' :: (List.replicate count '0' ++ digits)) =
      Nat.ofDigitChars 10 digits 0 * 10 ^ (-((count + digits.length : ℕ) : ℤ)) := by
  have hvalue := textValue_point (allDigits_replicate_zero 1)
    ((allDigits_replicate_zero count).append hdigits) (.inl rfl)
  rw [List.append_nil, ofDigitChars_zeros_append, ofDigitChars_zeros_append, List.length_append,
    List.length_replicate] at hvalue
  rw [← zero_sub]
  exact hvalue

/-- The point stands after so many digits, which zeros fill up where there are too few. -/
private theorem textValue_whole {digits : List Char} (hdigits : AllDigits digits) (whole : ℕ) :
    let padded := digits ++ List.replicate (whole - digits.length) '0'
    let fraction := padded.drop whole
    textValue (padded.take whole ++ '.' :: (if fraction.isEmpty then ['0'] else fraction)) =
      Nat.ofDigitChars 10 digits 0 * 10 ^ ((whole : ℤ) - digits.length) := by
  dsimp only
  set padded := digits ++ List.replicate (whole - digits.length) '0' with hpadded
  have hall : AllDigits padded := hdigits.append (allDigits_replicate_zero _)
  have htake : AllDigits (padded.take whole) := fun c hc => hall c (List.mem_of_mem_take hc)
  have hdrop : AllDigits (padded.drop whole) := fun c hc => hall c (List.mem_of_mem_drop hc)
  have hlength : padded.length = digits.length + (whole - digits.length) := by
    rw [hpadded, List.length_append, List.length_replicate]
  have hdigitsValue : Nat.ofDigitChars 10 padded 0 =
      10 ^ (whole - digits.length) * Nat.ofDigitChars 10 digits 0 :=
    ofDigitChars_append_zeros _ _
  split
  · -- no digit is left for the fraction, which is then a zero
    rename_i hempty
    have hshort : padded.length ≤ whole := List.drop_eq_nil_iff.mp (List.isEmpty_iff.mp hempty)
    have hvalue := textValue_point htake (allDigits_replicate_zero 1) (.inl rfl)
    rw [List.append_nil, List.take_of_length_le hshort, ofDigitChars_append_zeros,
      hdigitsValue] at hvalue
    rw [List.take_of_length_le hshort, show ['0'] = List.replicate 1 '0' from rfl, hvalue,
      show (whole : ℤ) - digits.length = ((whole - digits.length : ℕ) : ℤ) by omega, zpow_natCast]
    push_cast
    simp only [exponentValue]
    norm_num
    ring
  · rename_i hsome
    have hlong : 0 < (padded.drop whole).length :=
      List.length_pos_iff.mpr fun hnil => hsome (List.isEmpty_iff.mpr hnil)
    rw [List.length_drop] at hlong
    have hvalue := textValue_point htake hdrop (.inl rfl)
    rw [List.append_nil, List.take_append_drop, hdigitsValue] at hvalue
    rw [hvalue, show whole - digits.length = 0 by omega, pow_zero, one_mul, List.length_drop]
    congr 2
    simp only [exponentValue]
    omega

/-- The value of a layout is that of its digits, the first of which stands for
`10 ^ leading`. -/
theorem textValue_layout {digits : List Char} (hdigits : AllDigits digits) (hne : digits ≠ [])
    (leading : ℤ) : textValue (layout digits leading) =
      Nat.ofDigitChars 10 digits 0 * 10 ^ (leading + 1 - digits.length) := by
  unfold layout
  split
  · split
    · rw [textValue_zeros_first hdigits]
      congr 2
      omega
    · rw [textValue_whole hdigits]
      congr 2
      omega
  · dsimp only
    -- the other layout has an exponent, behind one digit or more
    have hexponent := exponentValue_sign leading
    split
    · exact absurd rfl hne
    · rename_i digit
      rw [show digit :: 'e' :: _ = [digit] ++ 'e' :: _ from rfl,
        textValue_digits hdigits (.inr ⟨_, rfl⟩), hexponent, List.length_singleton, Nat.cast_one,
        add_sub_cancel_right]
    · rename_i digit more _
      have hfirst : AllDigits [digit] := fun c hc =>
        hdigits c (List.mem_of_mem_take (i := 1) hc)
      have hmore : AllDigits more := fun c hc => hdigits c (List.mem_cons_of_mem _ hc)
      rw [show digit :: '.' :: more ++ 'e' :: _ = [digit] ++ '.' :: more ++ 'e' :: _ from rfl,
        textValue_point hfirst hmore (.inr ⟨_, rfl⟩), hexponent, List.length_cons]
      congr 2
      push_cast
      ring

/-! ## The characters of a layout -/

/-- The characters that texts of numbers are made of. -/
def isNumeral (c : Char) : Bool :=
  c.isDigit || c = '-' || c = '+' || c = '.' || c = 'e'

/-- Digits occur in numerals. -/
theorem isNumeral_of_isDigit {c : Char} (h : c.isDigit) : isNumeral c = true := by
  simp [isNumeral, h]

/-- What is all digits has only characters of numerals. -/
theorem AllDigits.isNumeral {chars : List Char} (h : AllDigits chars) :
    ∀ c ∈ chars, isNumeral c = true := fun c hc =>
  isNumeral_of_isDigit (h c hc)

private theorem isNumeral_point {whole fraction : List Char} (hwhole : AllDigits whole)
    (hfraction : AllDigits fraction) : ∀ c ∈ whole ++ '.' :: fraction, isNumeral c = true := by
  intro c hc
  rcases List.mem_append.mp hc with h | h
  · exact hwhole.isNumeral c h
  · rcases List.mem_cons.mp h with rfl | h
    · rfl
    · exact hfraction.isNumeral c h

private theorem isNumeral_exponent (leading : ℤ) :
    ∀ c ∈ 'e' :: (if leading < 0 then '-' else '+') :: Nat.toDigits 10 leading.natAbs,
      isNumeral c = true := by
  intro c hc
  rcases List.mem_cons.mp hc with rfl | hc
  · rfl
  · rcases List.mem_cons.mp hc with rfl | hc
    · split <;> rfl
    · exact (allDigits_toDigits _).isNumeral c hc

/-- A layout is made of numeral characters. -/
theorem isNumeral_of_mem_layout {digits : List Char} (hdigits : AllDigits digits) (leading : ℤ) :
    ∀ c ∈ layout digits leading, isNumeral c = true := by
  unfold layout
  split
  · split
    · exact isNumeral_point (allDigits_replicate_zero 1)
        ((allDigits_replicate_zero _).append hdigits)
    · dsimp only
      have hall := hdigits.append (allDigits_replicate_zero (leading.toNat + 1 - digits.length))
      refine isNumeral_point (fun c hc => hall c (List.mem_of_mem_take hc)) ?_
      split
      · exact allDigits_replicate_zero 1
      · exact fun c hc => hall c (List.mem_of_mem_drop hc)
  · dsimp only
    split
    · exact isNumeral_exponent leading
    · rename_i digit
      intro c hc
      rcases List.mem_cons.mp hc with rfl | hc
      · exact hdigits.isNumeral _ (by simp)
      · exact isNumeral_exponent leading c hc
    · rename_i digit more _
      intro c hc
      rcases List.mem_append.mp hc with hc | hc
      · exact isNumeral_point (fun d hd => hdigits d (List.mem_of_mem_take (i := 1) hd))
          (fun d hd => hdigits d (List.mem_cons_of_mem _ hd)) c hc
      · exact isNumeral_exponent leading c hc

/-- A layout has a point or an exponent. -/
theorem point_or_exponent_mem_layout (digits : List Char) (leading : ℤ) :
    '.' ∈ layout digits leading ∨ 'e' ∈ layout digits leading := by
  unfold layout
  split
  · left
    split <;> simp
  · right
    dsimp only
    split <;> simp

/-- A layout starts with a digit. -/
theorem layout_eq_cons {digits : List Char} (hdigits : AllDigits digits) (hne : digits ≠ [])
    (leading : ℤ) : ∃ c rest, layout digits leading = c :: rest ∧ c.isDigit := by
  obtain ⟨digit, more, rfl⟩ := List.exists_cons_of_ne_nil hne
  have hdigit : digit.isDigit := hdigits digit (by simp)
  unfold layout
  split
  · split
    · exact ⟨'0', _, rfl, by decide⟩
    · exact ⟨digit, _, rfl, hdigit⟩
  · cases more with
    | nil => exact ⟨digit, _, rfl, hdigit⟩
    | cons second more => exact ⟨digit, _, rfl, hdigit⟩

/-! ## Texts of doubles -/

namespace Binary64

/-- The text of a double without its sign. -/
def writeMagnitude (x : Binary64) : List Char :=
  if x.isZero then ['0', '.', '0']
  else
    let digits := Nat.toDigits 10 x.shortest.coefficient
    layout digits (x.shortest.exponent + digits.length - 1)

/-- A number is written as its sign and its magnitude. -/
theorem write_eq (x : Binary64) :
    x.write = (if x.negative then ['-'] else []) ++ x.writeMagnitude := by
  unfold write writeMagnitude
  dsimp only
  split <;> split <;> rfl

/-- The text of a double has the value of its shortest decimal. -/
theorem textValue_writeMagnitude (x : Binary64) :
    textValue x.writeMagnitude = if x.isZero then 0 else x.shortest.value := by
  unfold writeMagnitude
  split
  · have hvalue := textValue_zeros_first (allDigits_replicate_zero 1) 0
    rw [Nat.ofDigitChars_replicate_zero, Nat.mul_zero, Nat.cast_zero, zero_mul] at hvalue
    exact hvalue
  · dsimp only
    rw [textValue_layout (allDigits_toDigits _) Nat.toDigits_ne_nil, Nat.ofDigitChars_ten_toDigits,
      Scaled.value, sub_add_cancel, add_sub_cancel_right]

/-- A number is written in characters of numerals. -/
theorem isNumeral_of_mem_write {x : Binary64} {c : Char} (hc : c ∈ x.write) :
    isNumeral c = true := by
  rw [write_eq] at hc
  rcases List.mem_append.mp hc with hc | hc
  · split at hc
    · rw [List.mem_singleton.mp hc]
      rfl
    · exact absurd hc (List.not_mem_nil)
  · unfold writeMagnitude at hc
    split at hc
    · exact isNumeral_point (allDigits_replicate_zero 1) (allDigits_replicate_zero 1) c hc
    · exact isNumeral_of_mem_layout (allDigits_toDigits _) _ c hc

/-- A binary number is written with a point or with an exponent. -/
theorem point_or_exponent_mem_write (x : Binary64) : '.' ∈ x.write ∨ 'e' ∈ x.write := by
  have h : '.' ∈ x.writeMagnitude ∨ 'e' ∈ x.writeMagnitude := by
    unfold writeMagnitude
    split
    · simp
    · exact point_or_exponent_mem_layout _ _
  rw [write_eq]
  exact h.imp (List.mem_append_right _) (List.mem_append_right _)

/-- A magnitude begins with a digit. -/
theorem writeMagnitude_eq_cons (x : Binary64) :
    ∃ c rest, x.writeMagnitude = c :: rest ∧ c.isDigit := by
  unfold writeMagnitude
  split
  · exact ⟨'0', _, rfl, by decide⟩
  · exact layout_eq_cons (allDigits_toDigits _) Nat.toDigits_ne_nil _

/-- The text of a double starts with a digit or a minus sign. -/
theorem write_eq_cons (x : Binary64) :
    ∃ c rest, x.write = c :: rest ∧ (c.isDigit ∨ c = '-') := by
  obtain ⟨c, rest, hmagnitude, hc⟩ := x.writeMagnitude_eq_cons
  rw [write_eq, hmagnitude]
  split
  · exact ⟨'-', _, rfl, .inr rfl⟩
  · exact ⟨c, rest, rfl, .inl hc⟩

/-- The sign is read off the first character. -/
private theorem negative_eq_of_write_eq {x y : Binary64} (h : x.write = y.write) :
    x.negative = y.negative := by
  obtain ⟨c, rest, hx, hc⟩ := x.writeMagnitude_eq_cons
  obtain ⟨d, rest', hy, hd⟩ := y.writeMagnitude_eq_cons
  rw [write_eq, write_eq, hx, hy] at h
  have hminus : ∀ e : Char, e.isDigit → e ≠ '-' := by
    rintro e he rfl
    exact absurd he (by decide)
  cases hxs : x.negative <;> cases hys : y.negative <;>
    simp only [hxs, hys, if_true, if_false, Bool.false_eq_true, List.nil_append, List.cons_append,
      List.cons.injEq] at h ⊢
  · exact absurd h.1 (hminus c hc)
  · exact absurd h.1.symm (hminus d hd)

/-- The text of a double determines it. -/
theorem write_injective : Function.Injective write := by
  intro x y h
  have hsign := negative_eq_of_write_eq h
  rw [write_eq, write_eq, hsign] at h
  have hvalue := congrArg textValue (List.append_cancel_left h)
  rw [textValue_writeMagnitude, textValue_writeMagnitude] at hvalue
  cases hx : x.isZero <;> cases hy : y.isZero <;>
    simp only [hx, hy, if_true, if_false, Bool.false_eq_true] at hvalue
  · exact eq_of_value_shortest hsign hvalue
  · exact absurd hvalue (value_shortest_ne_zero hx)
  · exact absurd hvalue.symm (value_shortest_ne_zero hy)
  · rw [eq_zero_of_isZero hx, eq_zero_of_isZero hy, hsign]

end Binary64

end SchemaCall.Decimal
