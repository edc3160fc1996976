import CommandPipeline.Number.Binary64
import Mathlib

/-! Rounding keeps the order: to a whole number, to the numbers with a given count of significant bits,
and to the hundredths that are printed. -/
namespace CommandPipeline.Number

/-! ### To a whole number -/

/-- `RoundsTo x n`: no whole number is nearer to `x` than `n`, and of two equally near ones `n` is the
even one. -/
structure RoundsTo (x : Rat) (n : Nat) : Prop where
  le_half_above : 2 * x ≤ 2 * n + 1
  half_below_le : 2 * n ≤ 2 * x + 1
  even_of_tie : 2 * x = 2 * n + 1 ∨ 2 * n = 2 * x + 1 → n % 2 = 0

theorem roundsTo_roundDiv (num : Nat) {den : Nat} (hden : 0 < den) :
    RoundsTo (num / den) (roundDiv num den) := by
  have hparts : num = num / den * den + num % den := (Nat.div_add_mod' num den).symm
  have hrest : num % den < den := Nat.mod_lt num hden
  -- The three conditions without the division.
  have hwhole : ∀ n, n = roundDiv num den → 2 * num ≤ 2 * (n * den) + den ∧
      2 * (n * den) ≤ 2 * num + den ∧
      (2 * num = 2 * (n * den) + den ∨ 2 * (n * den) = 2 * num + den → n % 2 = 0) := by
    intro n hn
    simp only [roundDiv] at hn
    have hnext : (num / den + 1) * den = num / den * den + den := Nat.succ_mul _ _
    split_ifs at hn with hless hmore heven
    all_goals
      subst hn
      omega
  obtain ⟨habove, hbelow, htie⟩ := hwhole _ rfl
  have hscale : (num : Rat) / den * den = num := div_mul_cancel₀ _ (Nat.cast_ne_zero.2 hden.ne')
  have hdenRat : (0 : Rat) < den := Nat.cast_pos.2 hden
  generalize (num : Rat) / den = x at hscale
  constructor
  · have : (2 : Rat) * num ≤ 2 * (roundDiv num den * den) + den := by exact_mod_cast habove
    exact le_of_mul_le_mul_right (by linarith) hdenRat
  · have : (2 : Rat) * (roundDiv num den * den) ≤ 2 * num + den := by exact_mod_cast hbelow
    exact le_of_mul_le_mul_right (by linarith) hdenRat
  · rintro (h | h)
    · have : (2 : Rat) * num = 2 * (roundDiv num den * den) + den := by
        linear_combination den * h - 2 * hscale
      exact htie (.inl (by exact_mod_cast this))
    · have : (2 : Rat) * (roundDiv num den * den) = 2 * num + den := by
        linear_combination den * h + 2 * hscale
      exact htie (.inr (by exact_mod_cast this))

/-- Were the greater number rounded to less, both would be half way between the two results, and the
results neighbours and even. -/
theorem RoundsTo.mono {x y : Rat} {m n : Nat} (hx : RoundsTo x m) (hy : RoundsTo y n) (h : x ≤ y) :
    m ≤ n := by
  by_contra hlt
  have hnext : (n : Rat) + 1 ≤ m := by exact_mod_cast Nat.lt_of_not_le hlt
  have hbelow := hx.half_below_le
  have habove := hy.le_half_above
  have hm : m = n + 1 := by
    have : (m : Rat) = n + 1 := by linarith
    exact_mod_cast this
  have hmeven := hx.even_of_tie (.inr (by linarith))
  have hneven := hy.even_of_tie (.inl (by linarith))
  omega

theorem RoundsTo.natCast (n : Nat) : RoundsTo n n where
  le_half_above := by linarith
  half_below_le := by linarith
  even_of_tie h := by rcases h with h | h <;> linarith

/-! ### To a count of significant bits -/

theorem two_zpow_toNat {e : Int} (he : 0 ≤ e) : ((Nat.pow 2 e.toNat : Nat) : Rat) = 2 ^ e := by
  lift e to Nat using he
  simp

/-- The test of `binaryExponent` is whether the power of two is at or below the quotient. -/
theorem zpow_le_div_iff (num : Nat) {den : Nat} (hden : den ≠ 0) (e : Int) :
    (2 : Rat) ^ e ≤ num / den ↔
      if 0 ≤ e then den * Nat.pow 2 e.toNat ≤ num else den ≤ num * Nat.pow 2 (-e).toNat := by
  have hdenRat : (0 : Rat) < den := Nat.cast_pos.2 (Nat.pos_of_ne_zero hden)
  rw [le_div_iff₀ hdenRat]
  split_ifs with hsign
  · rw [← two_zpow_toNat hsign, mul_comm]
    norm_cast
  · rw [← neg_neg e, zpow_neg, inv_mul_le_iff₀ (zpow_pos two_pos _), neg_neg,
      ← two_zpow_toNat (by omega : 0 ≤ -e), mul_comm]
    norm_cast

/-- The exponent is that of the power of two at or below a number. -/
theorem binaryExponent_spec {num den : Nat} (hnum : num ≠ 0) (hden : den ≠ 0) :
    (2 : Rat) ^ binaryExponent num den ≤ num / den ∧
      (num : Rat) / den < 2 ^ (binaryExponent num den + 1) := by
  have hdenRat : (0 : Rat) < den := Nat.cast_pos.2 (Nat.pos_of_ne_zero hden)
  have hnumLow : (2 : Rat) ^ (num.log2 : Int) ≤ num := by exact_mod_cast Nat.log2_self_le hnum
  have hnumHigh : (num : Rat) < 2 ^ ((num.log2 : Int) + 1) := by exact_mod_cast Nat.lt_log2_self
  have hdenLow : (2 : Rat) ^ (den.log2 : Int) ≤ den := by exact_mod_cast Nat.log2_self_le hden
  have hdenHigh : (den : Rat) < 2 ^ ((den.log2 : Int) + 1) := by exact_mod_cast Nat.lt_log2_self
  generalize he : (num.log2 : Int) - den.log2 = e
  -- The difference of the two exponents is that of the quotient, or one too much.
  have hlow : (2 : Rat) ^ (e - 1) ≤ num / den := by
    rw [le_div_iff₀ hdenRat]
    calc (2 : Rat) ^ (e - 1) * den ≤ 2 ^ (e - 1) * 2 ^ ((den.log2 : Int) + 1) := by gcongr
      _ = 2 ^ (num.log2 : Int) := by rw [← zpow_add₀ two_ne_zero]; congr 1; omega
      _ ≤ num := hnumLow
  have hhigh : (num : Rat) / den < 2 ^ (e + 1) := by
    rw [div_lt_iff₀ hdenRat]
    calc (num : Rat) < 2 ^ ((num.log2 : Int) + 1) := hnumHigh
      _ = 2 ^ (e + 1) * 2 ^ (den.log2 : Int) := by rw [← zpow_add₀ two_ne_zero]; congr 1; omega
      _ ≤ 2 ^ (e + 1) * den := by gcongr
  have hreached := zpow_le_div_iff num hden e
  simp only [binaryExponent, he]
  by_cases h : (2 : Rat) ^ e ≤ num / den
  · rw [if_pos (by simpa using hreached.1 h)]
    exact ⟨h, hhigh⟩
  · rw [if_neg (by simpa using mt hreached.2 h), sub_add_cancel]
    exact ⟨hlow, not_le.1 h⟩

/-- A number is scaled so that its significant bits stand before the point, and rounded there. -/
theorem exists_nearest (bits : Nat) {num den : Nat} (hnum : num ≠ 0) (hden : den ≠ 0) :
    ∃ n, RoundsTo ((num : Rat) / den * 2 ^ ((bits : Int) - 1 - binaryExponent num den)) n ∧
      nearest bits num den = n / 2 ^ ((bits : Int) - 1 - binaryExponent num den) := by
  simp only [nearest, hnum, hden, or_self, if_false]
  generalize (bits : Int) - 1 - binaryExponent num den = shift
  by_cases hshift : 0 ≤ shift
  · refine ⟨roundDiv (num * Nat.pow 2 shift.toNat) den, ?_, ?_⟩
    · have := roundsTo_roundDiv (num * Nat.pow 2 shift.toNat) (Nat.pos_of_ne_zero hden)
      rwa [Nat.cast_mul, two_zpow_toNat hshift, mul_div_right_comm] at this
    · rw [if_pos hshift, Rat.mkRat_eq_div, Int.cast_natCast, two_zpow_toNat hshift]
  · have hscale := two_zpow_toNat (e := -shift) (by omega)
    refine ⟨roundDiv num (den * Nat.pow 2 (-shift).toNat), ?_, ?_⟩
    · have hpos : 0 < den * Nat.pow 2 (-shift).toNat :=
        Nat.mul_pos (Nat.pos_of_ne_zero hden) (Nat.two_pow_pos _)
      have := roundsTo_roundDiv num hpos
      rwa [Nat.cast_mul, hscale, ← div_div, zpow_neg, div_inv_eq_mul] at this
    · rw [if_neg hshift, Nat.cast_mul, hscale, zpow_neg, div_eq_mul_inv]

/-- Rounding does not leave the interval between two powers of two. -/
theorem nearest_bounds {bits num den : Nat} (hbits : 0 < bits) (hnum : num ≠ 0) (hden : den ≠ 0) :
    (2 : Rat) ^ binaryExponent num den ≤ nearest bits num den ∧
      nearest bits num den ≤ 2 ^ (binaryExponent num den + 1) := by
  obtain ⟨hlow, hhigh⟩ := binaryExponent_spec hnum hden
  obtain ⟨n, hn, heq⟩ := exists_nearest bits hnum hden
  rw [heq]
  generalize hshift : (bits : Int) - 1 - binaryExponent num den = shift at hn
  have hscale : (0 : Rat) < 2 ^ shift := zpow_pos two_pos _
  have hpower : ∀ (e : Int) (k : Nat), e + shift = k → (2 : Rat) ^ e * 2 ^ shift = (2 ^ k : Nat) := by
    intro e k h
    rw [← zpow_add₀ two_ne_zero, h, zpow_natCast, Nat.cast_pow, Nat.cast_ofNat]
  have hfirst := hpower (binaryExponent num den) (bits - 1) (by omega)
  have hlast := hpower (binaryExponent num den + 1) bits (by omega)
  constructor
  · rw [le_div_iff₀ hscale, hfirst]
    refine Nat.cast_le.2 ((RoundsTo.natCast _).mono hn ?_)
    rw [← hfirst]
    gcongr
  · rw [div_le_iff₀ hscale, hlast]
    refine Nat.cast_le.2 (hn.mono (RoundsTo.natCast _) ?_)
    rw [← hlast]
    gcongr

theorem nearest_nonneg {bits num den : Nat} (hbits : 0 < bits) : 0 ≤ nearest bits num den := by
  by_cases h : num = 0 ∨ den = 0
  · rw [nearest, if_pos h]
  · obtain ⟨hnum, hden⟩ := not_or.1 h
    exact (zpow_nonneg zero_le_two _).trans (nearest_bounds hbits hnum hden).1

/-- Between the same powers of two both numbers are scaled alike, and otherwise a power of two lies
between them. -/
theorem nearest_mono {bits num den num' den' : Nat} (hbits : 0 < bits) (hden : den ≠ 0) (hden' : den' ≠ 0)
    (h : (num : Rat) / den ≤ num' / den') : nearest bits num den ≤ nearest bits num' den' := by
  by_cases hnum : num = 0
  · rw [nearest, if_pos (.inl hnum)]
    exact nearest_nonneg hbits
  have hpos : (0 : Rat) < num / den := by positivity
  have hnum' : num' ≠ 0 := by
    rintro rfl
    rw [Nat.cast_zero, zero_div] at h
    exact h.not_gt hpos
  have hexponent : binaryExponent num den ≤ binaryExponent num' den' := by
    have hlow := (binaryExponent_spec hnum hden).1
    have hhigh := (binaryExponent_spec hnum' hden').2
    have := (zpow_lt_zpow_iff_right₀ one_lt_two).1 ((hlow.trans h).trans_lt hhigh)
    omega
  rcases hexponent.eq_or_lt with heq | hlt
  · obtain ⟨n, hn, hvalue⟩ := exists_nearest bits hnum hden
    obtain ⟨n', hn', hvalue'⟩ := exists_nearest bits hnum' hden'
    rw [← heq] at hn' hvalue'
    rw [hvalue, hvalue']
    have hle := hn.mono hn' (by gcongr)
    gcongr
  · calc nearest bits num den ≤ 2 ^ (binaryExponent num den + 1) := (nearest_bounds hbits hnum hden).2
      _ ≤ 2 ^ binaryExponent num' den' := zpow_le_zpow_right₀ one_le_two (by omega)
      _ ≤ nearest bits num' den' := (nearest_bounds hbits hnum' hden').1

theorem natCast_toNat_num_div_den {x : Rat} (hx : 0 ≤ x) : (x.num.toNat : Rat) / x.den = x := by
  have hnum : ((x.num.toNat : Int) : Rat) = x.num := by rw [Int.toNat_of_nonneg (Rat.num_nonneg.2 hx)]
  rw [← Int.cast_natCast, hnum, Rat.num_div_den]

theorem nearest53_mono {num num' : Nat} (den : Nat) (hden : den ≠ 0) (h : num ≤ num') :
    nearest53 num den ≤ nearest53 num' den :=
  nearest_mono (by decide) hden hden (by gcongr)

theorem nearest53_nonneg (num den : Nat) : 0 ≤ nearest53 num den := nearest_nonneg (by decide)

theorem round53_nonneg (x : Rat) : 0 ≤ round53 x := nearest53_nonneg _ _

theorem round53_mono {x y : Rat} (hx : 0 ≤ x) (h : x ≤ y) : round53 x ≤ round53 y := by
  refine nearest_mono (by decide) x.den_nz y.den_nz ?_
  rwa [natCast_toNat_num_div_den hx, natCast_toNat_num_div_den (hx.trans h)]

/-! ### To hundredths -/

theorem roundsTo_hundredths {x : Rat} (hx : 0 ≤ x) : RoundsTo (x * 100) (hundredths x) := by
  have := roundsTo_roundDiv (x.num.toNat * 100) x.den_pos
  rwa [Nat.cast_mul, mul_div_right_comm, natCast_toNat_num_div_den hx, Nat.cast_ofNat] at this

theorem hundredths_mono {x y : Rat} (hx : 0 ≤ x) (h : x ≤ y) : hundredths x ≤ hundredths y :=
  (roundsTo_hundredths hx).mono (roundsTo_hundredths (hx.trans h)) (by gcongr)

end CommandPipeline.Number
