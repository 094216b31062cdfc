import Mathlib.Algebra.Order.Field.Power
import Mathlib.Data.Rat.Cast.Order
import Mathlib.Tactic.FieldSimp
import Mathlib.Tactic.Linarith
import Mathlib.Tactic.Positivity
import Mathlib.Tactic.Ring
import SchemaCall.Decimal

/-!
# Shortest decimals read back

Rounding a quotient to a double depends on its value only, not on the numerator and denominator that
stand for it (`ofQuotient_congr`), and a value that is a double is kept (`ofQuotient_self`). From
the two it follows that the decimal that is written for a double reads back as that double
(`shortest_readsBackAs`): every decimal that the search looks at is tried, and the exact decimal
behind the search needs no rounding.
-/

namespace SchemaCall.Decimal

/-! ## Quotients as rational numbers -/

/-- A power with an integer exponent, as a quotient of powers with natural exponents. -/
theorem zpow_eq_div (base : ℚ) (exponent : ℤ) :
    base ^ exponent = base ^ exponent.toNat / base ^ (-exponent).toNat := by
  obtain ⟨n, rfl | rfl⟩ := exponent.eq_nat_or_neg
  · simp
  · simp

/-- `reaches` compares the quotient with the power as rational numbers. -/
theorem reaches_iff {base numerator denominator : ℕ} (hbase : 0 < base) (hden : 0 < denominator)
    (exponent : ℤ) : reaches base numerator denominator exponent = true ↔
      (base : ℚ) ^ exponent ≤ (numerator : ℚ) / denominator := by
  have hb : (0 : ℚ) < base := by exact_mod_cast hbase
  have hd : (0 : ℚ) < denominator := by exact_mod_cast hden
  rw [zpow_eq_div, div_le_div_iff₀ (by positivity) hd]
  simp only [reaches, Nat.pow_eq, decide_eq_true_eq]
  rw [mul_comm denominator]
  exact_mod_cast Iff.rfl

/-! ## The power of two below a quotient -/

private theorem two_zpow_lt_two_zpow {a b : ℤ} (h : (2 : ℚ) ^ a < 2 ^ b) : a < b :=
  (zpow_lt_zpow_iff_right₀ (by norm_num)).mp h

/-- A positive natural number between two powers of two, as rational numbers. -/
private theorem log2_bounds {n : ℕ} (hn : 0 < n) :
    (2 : ℚ) ^ (n.log2 : ℤ) ≤ n ∧ (n : ℚ) < 2 ^ ((n.log2 : ℤ) + 1) := by
  constructor
  · rw [zpow_natCast]
    exact_mod_cast Nat.log2_self_le hn.ne'
  · rw [← Nat.cast_succ, zpow_natCast]
    exact_mod_cast Nat.lt_log2_self

/-- `floorLog2` is the exponent of the greatest power of two that the quotient reaches. -/
theorem floorLog2_spec {numerator denominator : ℕ} (hnum : 0 < numerator)
    (hden : 0 < denominator) :
    (2 : ℚ) ^ floorLog2 numerator denominator ≤ (numerator : ℚ) / denominator ∧
      (numerator : ℚ) / denominator < 2 ^ (floorLog2 numerator denominator + 1) := by
  have hd : (0 : ℚ) < denominator := by exact_mod_cast hden
  obtain ⟨hn1, hn2⟩ := log2_bounds hnum
  obtain ⟨hd1, hd2⟩ := log2_bounds hden
  set a : ℤ := (numerator.log2 : ℤ) with ha
  set b : ℤ := (denominator.log2 : ℤ) with hb
  -- the difference of the logarithms is off by one at most
  have hlow : (2 : ℚ) ^ (a - b - 1) ≤ (numerator : ℚ) / denominator := by
    rw [le_div_iff₀ hd]
    calc (2 : ℚ) ^ (a - b - 1) * denominator ≤ 2 ^ (a - b - 1) * 2 ^ (b + 1) := by gcongr
      _ = 2 ^ a := by rw [← zpow_add₀ (by norm_num)]; congr 1; ring
      _ ≤ numerator := hn1
  have hhigh : (numerator : ℚ) / denominator < 2 ^ (a - b + 1) := by
    rw [div_lt_iff₀ hd]
    calc (numerator : ℚ) < 2 ^ (a + 1) := hn2
      _ = 2 ^ (a - b + 1) * 2 ^ b := by rw [← zpow_add₀ (by norm_num)]; congr 1; ring
      _ ≤ 2 ^ (a - b + 1) * denominator := by gcongr
  have hreach : reaches 2 numerator denominator (a - b) = true ↔
      (2 : ℚ) ^ (a - b) ≤ (numerator : ℚ) / denominator :=
    reaches_iff (by norm_num) hden (a - b)
  unfold floorLog2
  dsimp only
  split
  · rename_i h
    exact ⟨hreach.mp h, hhigh⟩
  · rename_i h
    rw [sub_add_cancel]
    exact ⟨hlow, not_le.mp (mt hreach.mpr h)⟩

/-- The exponent is determined by the two powers of two around the quotient. -/
theorem floorLog2_eq {numerator denominator : ℕ} (hnum : 0 < numerator) (hden : 0 < denominator)
    {exponent : ℤ} (hlow : (2 : ℚ) ^ exponent ≤ (numerator : ℚ) / denominator)
    (hhigh : (numerator : ℚ) / denominator < 2 ^ (exponent + 1)) :
    floorLog2 numerator denominator = exponent := by
  obtain ⟨h1, h2⟩ := floorLog2_spec hnum hden
  have hle := two_zpow_lt_two_zpow (lt_of_le_of_lt h1 hhigh)
  have hge := two_zpow_lt_two_zpow (lt_of_le_of_lt hlow h2)
  omega

/-! ## Rounding depends on the value only -/

/-- A common factor does not change the rounded quotient. -/
theorem roundHalfEven_mul_left {factor : ℕ} (hfactor : 0 < factor) (numerator denominator : ℕ) :
    roundHalfEven (factor * numerator) (factor * denominator) =
      roundHalfEven numerator denominator := by
  have hleft : 2 * (factor * (numerator % denominator)) < factor * denominator ↔
      2 * (numerator % denominator) < denominator := by
    rw [← Nat.mul_left_comm factor 2, Nat.mul_lt_mul_left hfactor]
  have hright : factor * denominator < 2 * (factor * (numerator % denominator)) ↔
      denominator < 2 * (numerator % denominator) := by
    rw [← Nat.mul_left_comm factor 2, Nat.mul_lt_mul_left hfactor]
  simp only [roundHalfEven, Nat.mul_div_mul_left _ _ hfactor, Nat.mul_mod_mul_left, hleft, hright]

/-- Equal quotients round to the same number. -/
theorem roundHalfEven_congr {n d n' d' : ℕ} (hd : 0 < d) (hd' : 0 < d') (h : n * d' = n' * d) :
    roundHalfEven n d = roundHalfEven n' d' := by
  rw [← roundHalfEven_mul_left hd' n d, ← roundHalfEven_mul_left hd n' d', Nat.mul_comm d' n, h,
    Nat.mul_comm d n', Nat.mul_comm d' d]

namespace Binary64

/-- Equal quotients round to the same double. -/
theorem ofQuotient_congr (negative : Bool) {n d n' d' : ℕ} (hd : 0 < d) (hd' : 0 < d')
    (h : n * d' = n' * d) : ofQuotient negative n d = ofQuotient negative n' d' := by
  rcases Nat.eq_zero_or_pos n with rfl | hn
  · have hn' : n' = 0 := by simpa [hd.ne'] using h.symm
    subst hn'
    simp [ofQuotient]
  · have hn' : 0 < n' := by
      refine Nat.pos_of_ne_zero fun h0 => ?_
      rw [h0, Nat.zero_mul] at h
      exact absurd h (Nat.mul_pos hn hd').ne'
    have hvalue : (n : ℚ) / d = (n' : ℚ) / d' := by
      rw [div_eq_div_iff (by exact_mod_cast hd.ne') (by exact_mod_cast hd'.ne')]
      exact_mod_cast h
    -- the exponent depends on the value of the quotient alone, and so does the rounding
    have hlog : floorLog2 n d = floorLog2 n' d' := by
      obtain ⟨h1, h2⟩ := floorLog2_spec hn' hd'
      exact floorLog2_eq hn hd (hvalue ▸ h1) (hvalue ▸ h2)
    have hround (up down : ℕ) : roundHalfEven (n * Nat.pow 2 up) (d * Nat.pow 2 down) =
        roundHalfEven (n' * Nat.pow 2 up) (d' * Nat.pow 2 down) :=
      have hpow : 0 < Nat.pow 2 down := Nat.pow_pos (by norm_num)
      roundHalfEven_congr (Nat.mul_pos hd hpow) (Nat.mul_pos hd' hpow) (by
        rw [Nat.mul_mul_mul_comm, h, Nat.mul_mul_mul_comm])
    simp only [ofQuotient, if_neg hn.ne', if_neg hn'.ne', hlog, hround]

/-! ## Doubles are kept -/

/-- The exact value of the magnitude of a double. -/
theorem numerator_div_denominator (x : Binary64) :
    (x.numerator : ℚ) / x.denominator = x.significand * 2 ^ x.exponent := by
  simp only [numerator, denominator, Nat.pow_eq]
  push_cast
  rw [zpow_eq_div, mul_div_assoc]

/-- The denominator of a number is not zero. -/
theorem denominator_pos (x : Binary64) : 0 < x.denominator :=
  Nat.pow_pos (by norm_num)

/-- Rounding finds the exponent that a double is stored with. -/
private theorem exponent_eq {x : Binary64} (hx : 0 < x.significand) :
    max (-1074) (floorLog2 x.numerator x.denominator - 52) = x.exponent := by
  have hnum : 0 < x.numerator := Nat.mul_pos hx (Nat.pow_pos (by norm_num))
  have hs : (0 : ℚ) < x.significand := by exact_mod_cast hx
  rcases x.canonical with ⟨hsmall, he⟩ | ⟨hlow, hhigh, hmin, -⟩
  · -- below full width the quotient does not reach the least normal number
    have h := (floorLog2_spec hnum x.denominator_pos).1
    rw [numerator_div_denominator] at h
    have hlt : (x.significand : ℚ) * 2 ^ x.exponent < 2 ^ (52 + x.exponent) := by
      rw [zpow_add₀ (by norm_num)]
      gcongr
      exact_mod_cast hsmall
    have := two_zpow_lt_two_zpow (lt_of_le_of_lt h hlt)
    omega
  · have hlog : floorLog2 x.numerator x.denominator = 52 + x.exponent := by
      apply floorLog2_eq hnum x.denominator_pos
      · rw [numerator_div_denominator, zpow_add₀ (by norm_num)]
        gcongr
        exact_mod_cast hlow
      · rw [numerator_div_denominator, show 52 + x.exponent + 1 = 53 + x.exponent by ring,
          zpow_add₀ (by norm_num)]
        gcongr
        exact_mod_cast hhigh
    omega

/-- A double without significant bits is a zero. -/
theorem eq_zero_of_isZero {x : Binary64} (hx : x.isZero = true) : x = zero x.negative := by
  have hs : x.significand = 0 := beq_iff_eq.mp hx
  have he : x.exponent = -1074 := by
    rcases x.canonical with ⟨-, he⟩ | ⟨hlow, -⟩
    · exact he
    · rw [hs] at hlow
      exact absurd hlow (by norm_num)
  obtain ⟨negative, significand, exponent, canonical⟩ := x
  obtain rfl : significand = 0 := hs
  obtain rfl : exponent = -1074 := he
  rfl

/-- The exact value of a double rounds to that double. -/
theorem ofQuotient_self (x : Binary64) :
    ofQuotient x.negative x.numerator x.denominator = some x := by
  rcases Nat.eq_zero_or_pos x.significand with hx | hx
  · have hnum : x.numerator = 0 := by rw [numerator, hx, Nat.zero_mul]
    rw [ofQuotient, if_pos hnum, ← eq_zero_of_isZero (beq_iff_eq.mpr hx)]
  · have hnum : x.numerator ≠ 0 := (Nat.mul_pos hx (Nat.pow_pos (by norm_num))).ne'
    have hround : roundHalfEven (x.numerator * Nat.pow 2 (-x.exponent).toNat)
        (x.denominator * Nat.pow 2 x.exponent.toNat) = x.significand := by
      rw [numerator, denominator, Nat.mul_assoc, Nat.mul_comm (Nat.pow 2 (-x.exponent).toNat)]
      exact roundHalfEven_mul_right _
        (Nat.mul_pos (Nat.pow_pos (by norm_num)) (Nat.pow_pos (by norm_num)))
    simp only [ofQuotient, if_neg hnum, exponent_eq hx, hround, dif_pos x.canonical]

/-! ## Decimals that read back -/

/-- A decimal is rounded like any quotient of the same value. -/
theorem ofDecimal_eq_ofQuotient (negative : Bool) {digits n d : ℕ} {exponent : ℤ} (hd : 0 < d)
    (h : (digits : ℚ) * 10 ^ exponent = (n : ℚ) / d) :
    ofDecimal negative digits exponent = ofQuotient negative n d := by
  have hd' : (d : ℚ) ≠ 0 := by exact_mod_cast hd.ne'
  have hpow : (10 : ℚ) ^ (-exponent).toNat ≠ 0 := by positivity
  rw [zpow_eq_div, ← mul_div_assoc, div_eq_div_iff hpow hd'] at h
  refine ofQuotient_congr negative (Nat.pow_pos (by norm_num)) hd ?_
  simp only [Nat.pow_eq]
  exact_mod_cast h

end Binary64

namespace Scaled

/-- The value of a decimal. -/
def value (d : Scaled) : ℚ :=
  d.coefficient * 10 ^ d.exponent

/-- Moving trailing zeros into the exponent keeps the value. -/
theorem value_trim (count : ℕ) (d : Scaled) : (trim count d).value = d.value := by
  induction count generalizing d with
  | zero => rfl
  | succ count ih =>
    unfold trim
    split
    · rename_i h
      have hdiv : d.coefficient = d.coefficient / 10 * 10 :=
        (Nat.div_mul_cancel (Nat.dvd_of_mod_eq_zero h.2)).symm
      rw [ih, value, value, zpow_add_one₀ (by norm_num)]
      conv_rhs => rw [hdiv]
      push_cast
      ring
    · rfl

/-- A decimal reads back as a double when it has the exact value of its magnitude. -/
theorem readsBackAs_of_value_eq {d : Scaled} {x : Binary64}
    (h : d.value = (x.numerator : ℚ) / x.denominator) : d.readsBackAs x = true := by
  rw [readsBackAs, decide_eq_true_iff,
    Binary64.ofDecimal_eq_ofQuotient x.negative x.denominator_pos h, Binary64.ofQuotient_self]

/-- Decimals of one value read back as the same doubles. -/
theorem readsBackAs_congr {d d' : Scaled} (h : d.value = d'.value) (x : Binary64) :
    d.readsBackAs x = d'.readsBackAs x := by
  have hpow : 0 < 10 ^ (-d'.exponent).toNat := Nat.pow_pos (by norm_num)
  have hvalue : d'.value =
      ((d'.coefficient * 10 ^ d'.exponent.toNat : ℕ) : ℚ) / (10 ^ (-d'.exponent).toNat : ℕ) := by
    rw [value, zpow_eq_div]
    push_cast
    rw [mul_div_assoc]
  rw [readsBackAs, readsBackAs, Binary64.ofDecimal_eq_ofQuotient _ hpow (h.trans hvalue),
    Binary64.ofDecimal_eq_ofQuotient _ hpow hvalue]

end Scaled

namespace Binary64

/-- The exact decimal of a double has its value. -/
theorem value_exactDecimal (x : Binary64) :
    x.exactDecimal.value = (x.numerator : ℚ) / x.denominator := by
  rw [numerator_div_denominator, exactDecimal]
  simp only [Nat.pow_eq]
  split
  · rename_i h
    obtain ⟨n, hn⟩ := Int.eq_ofNat_of_zero_le h
    simp [Scaled.value, hn]
  · rename_i h
    obtain ⟨n, hn⟩ := Int.eq_ofNat_of_zero_le (show 0 ≤ -x.exponent by omega)
    rw [show x.exponent = -(n : ℤ) by omega]
    simp only [Scaled.value, neg_neg, Int.toNat_natCast, zpow_neg, zpow_natCast]
    push_cast
    rw [mul_assoc, show (10 : ℚ) = 5 * 2 by norm_num, mul_pow, mul_inv,
      mul_inv_cancel_left₀ (by positivity)]

/-- The decimal that is written for a double reads back as that double. -/
theorem shortest_readsBackAs (x : Binary64) : x.shortest.readsBackAs x = true := by
  rw [shortest, Scaled.readsBackAs_congr (Scaled.value_trim _ _)]
  cases h : (List.range 17).findSome? fun (more : ℕ) =>
      x.onGrid? (floorLog10 x.numerator x.denominator - more) with
  | none => exact Scaled.readsBackAs_of_value_eq x.value_exactDecimal
  | some d =>
    obtain ⟨more, -, hgrid⟩ := List.exists_of_findSome?_eq_some h
    unfold onGrid? at hgrid
    show d.readsBackAs x = true
    exact List.find?_some (p := (Scaled.readsBackAs · x)) hgrid

/-- The decimal that is written for a double other than zero is not zero. -/
theorem value_shortest_ne_zero {x : Binary64} (hx : x.isZero = false) : x.shortest.value ≠ 0 := by
  intro hzero
  have hread := x.shortest_readsBackAs
  have hvalue : x.shortest.value = (⟨0, 0⟩ : Scaled).value := by
    rw [hzero]
    simp [Scaled.value]
  rw [Scaled.readsBackAs_congr hvalue, Scaled.readsBackAs, decide_eq_true_iff, ofDecimal,
    Nat.zero_mul, ofQuotient, if_pos rfl] at hread
  rw [← Option.some.inj hread] at hx
  exact absurd (show true = false from hx) (by decide)

/-- Two doubles of one sign whose written decimals have the same value are equal. -/
theorem eq_of_value_shortest {x y : Binary64} (hsign : x.negative = y.negative)
    (h : x.shortest.value = y.shortest.value) : x = y := by
  have hx := Scaled.readsBackAs_congr h x ▸ x.shortest_readsBackAs
  have hy := y.shortest_readsBackAs
  rw [Scaled.readsBackAs, decide_eq_true_iff] at hx hy
  rw [hsign, hy] at hx
  exact (Option.some.inj hx).symm

end Binary64

end SchemaCall.Decimal
