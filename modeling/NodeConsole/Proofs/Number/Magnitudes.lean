import Mathlib.Algebra.Order.Field.Power
import Mathlib.Data.Rat.Cast.Order
import Mathlib.Tactic.Ring
import NodeConsole.Number.Binary64
/-!
How large rounded numbers are. Rounding a quotient below a power of two stays below the next power; so what is
small enough is finite, and so are products of such numbers.
-/

namespace NodeConsole.Binary64

/-! ## Powers of two -/

theorem scaled_le_iff (a b : Nat) (e : Int) :
    a * Nat.pow 2 (-e).toNat ≤ b * Nat.pow 2 e.toNat ↔ (a : ℚ) ≤ b * 2 ^ e := by
  rw [Nat.pow_eq, Nat.pow_eq]
  rcases Int.le_total 0 e with nonneg | nonpos
  · lift e to ℕ using nonneg
    have none : (-(e : Int)).toNat = 0 := by omega
    rw [none, Int.toNat_natCast, pow_zero, Nat.mul_one, zpow_natCast]
    exact_mod_cast Iff.rfl
  · obtain ⟨k, rfl⟩ : ∃ k : Nat, e = -(k : Int) := ⟨(-e).toNat, by omega⟩
    have none : (-(k : Int)).toNat = 0 := by omega
    rw [none, neg_neg, Int.toNat_natCast, pow_zero, Nat.mul_one, zpow_neg, zpow_natCast, ← div_eq_mul_inv,
      le_div_iff₀ (pow_pos two_pos k)]
    exact_mod_cast Iff.rfl

theorem scaled_lt_iff (a b : Nat) (e : Int) :
    a * Nat.pow 2 (-e).toNat < b * Nat.pow 2 e.toNat ↔ (a : ℚ) < b * 2 ^ e := by
  have flipped := scaled_le_iff b a (-e)
  rw [neg_neg] at flipped
  rw [← not_le, flipped, not_le, zpow_neg, ← div_eq_mul_inv, div_lt_iff₀ (by positivity)]

section

variable {num den : Nat}

theorem natCast_bounds (n : Nat) (positive : 0 < n) :
    (2 : ℚ) ^ (n.log2 : Int) ≤ n ∧ (n : ℚ) < 2 ^ (n.log2 + 1 : Int) := by
  have least := Nat.log2_self_le (Nat.ne_of_gt positive)
  have most := Nat.lt_log2_self (n := n)
  exact ⟨by exact_mod_cast least, by exact_mod_cast most⟩

/-- The binary exponent of a quotient tells between which powers of two it lies. -/
theorem binaryExponent_spec (positive : 0 < num) (positiveDen : 0 < den) :
    (den : ℚ) * 2 ^ binaryExponent num den ≤ num ∧ (num : ℚ) < den * 2 ^ (binaryExponent num den + 1) := by
  rcases natCast_bounds num positive with ⟨leastNum, mostNum⟩
  rcases natCast_bounds den positiveDen with ⟨leastDen, mostDen⟩
  have nonneg : (0 : ℚ) < den := by exact_mod_cast positiveDen
  have two : (2 : ℚ) ≠ 0 := two_ne_zero
  have estimate := scaled_le_iff den num (-((num.log2 : Int) - den.log2))
  rw [neg_neg, zpow_neg, ← div_eq_mul_inv, le_div_iff₀ (by positivity)] at estimate
  -- The difference of the logarithms is the exponent, or one more than it.
  rw [binaryExponent]
  split
  · next fits =>
    refine ⟨estimate.mp fits, ?_⟩
    calc (num : ℚ) < 2 ^ (num.log2 + 1 : Int) := mostNum
      _ = 2 ^ (den.log2 : Int) * 2 ^ ((num.log2 : Int) - den.log2 + 1) := by
        rw [← zpow_add₀ two]
        congr 1
        omega
      _ ≤ den * 2 ^ ((num.log2 : Int) - den.log2 + 1) := by gcongr
  · next large =>
    rw [Int.sub_add_cancel]
    refine ⟨?_, lt_of_not_ge fun below => large (estimate.mpr below)⟩
    calc (den : ℚ) * 2 ^ ((num.log2 : Int) - den.log2 - 1)
        ≤ 2 ^ (den.log2 + 1 : Int) * 2 ^ ((num.log2 : Int) - den.log2 - 1) := by gcongr
      _ = 2 ^ (num.log2 : Int) := by
        rw [← zpow_add₀ two]
        congr 1
        omega
      _ ≤ num := leastNum

theorem roundedQuotient_le {a b n : Nat} (below : a < b * n) : roundedQuotient a b ≤ n := by
  have quotient : a / b < n := Nat.div_lt_of_lt_mul below
  rw [roundedQuotient]
  split
  · omega
  · split
    · omega
    · split <;> omega

theorem ratioBits_le {k : Nat} (positiveDen : 0 < den) (bound : num ≤ den * 2 ^ k) :
    ratioBits num den ≤ (k + 1024) * 2 ^ 52 := by
  rw [ratioBits]
  split
  · exact Nat.zero_le _
  · next nonzero =>
    rcases binaryExponent_spec (Nat.pos_of_ne_zero fun zero => nonzero (.inl zero)) positiveDen with ⟨least, most⟩
    have nonneg : (0 : ℚ) < den := by exact_mod_cast positiveDen
    have within : binaryExponent num den ≤ k := by
      have below : (den : ℚ) * 2 ^ binaryExponent num den ≤ den * 2 ^ (k : Int) :=
        least.trans (by exact_mod_cast bound)
      exact (zpow_le_zpow_iff_right₀ one_lt_two).mp (le_of_mul_le_mul_left below nonneg)
    -- The spacing makes the rounded quotient a significand of at most 53 places, its field at most `k + 1022`.
    generalize binaryExponent num den = exponent at most within
    dsimp only
    generalize spaced : max (exponent - 52) (-1074) = spacing
    have steps : roundedQuotient (num * Nat.pow 2 (-spacing).toNat) (den * Nat.pow 2 spacing.toNat) ≤ 2 ^ 53 := by
      apply roundedQuotient_le
      rw [Nat.mul_right_comm, scaled_lt_iff]
      calc (num : ℚ) < den * 2 ^ (exponent + 1) := most
        _ ≤ den * 2 ^ (53 + spacing) :=
          mul_le_mul_of_nonneg_left (zpow_le_zpow_right₀ one_le_two (by omega)) nonneg.le
        _ = ((den * 2 ^ 53 : Nat) : ℚ) * 2 ^ spacing := by
          rw [zpow_add₀ two_ne_zero, ← mul_assoc]
          norm_num
    have places : (spacing + 1074).toNat ≤ k + 1022 := by omega
    have rest : (k + 1022) * 2 ^ 52 + 2 ^ 53 = (k + 1024) * 2 ^ 52 := by ring
    rw [← rest]
    exact (Nat.min_le_right _ _).trans (Nat.add_le_add (Nat.mul_le_mul_right _ places) steps)

end

/-! ## Rounded quotients -/

section

variable {num den k : Nat}

theorem ratioBits_le_infinityBits (num den : Nat) : ratioBits num den ≤ infinityBits := by
  rw [ratioBits]
  split
  · exact Nat.zero_le _
  · exact Nat.min_le_left _ _

theorem toNat_bits_ofRatio (num den : Nat) : (ofRatio num den).bits.toNat = ratioBits num den := by
  have bound := ratioBits_le_infinityBits num den
  have small : infinityBits < 2 ^ 64 := by decide
  rw [ofRatio, UInt64.toNat_ofNat']
  exact Nat.mod_eq_of_lt (Nat.lt_of_le_of_lt bound small)

theorem magnitude_ofRatio (num den : Nat) : (ofRatio num den).magnitude = ofRatio num den := by
  have bound := ratioBits_le_infinityBits num den
  have small : infinityBits < 0x8000000000000000 := by decide
  rw [magnitude, isNegative, if_neg]
  rw [decide_eq_true_eq, UInt64.le_iff_toNat_le, toNat_bits_ofRatio]
  exact Nat.not_le_of_lt (Nat.lt_of_le_of_lt bound small)

theorem isFinite_ofRatio (positiveDen : 0 < den) (bound : num ≤ den * 2 ^ k) (small : k ≤ 1022) :
    (ofRatio num den).isFinite = true := by
  have most : (1022 + 1024) * 2 ^ 52 < infinityBits := by decide
  have bits : ratioBits num den ≤ (1022 + 1024) * 2 ^ 52 :=
    (ratioBits_le positiveDen bound).trans (Nat.mul_le_mul_right _ (Nat.add_le_add_right small _))
  rw [isFinite, magnitude_ofRatio, toNat_bits_ofRatio, decide_eq_true_eq]
  exact Nat.lt_of_le_of_lt bits most

theorem ratio_den_pos (x : Binary64) : 0 < x.ratio.2 :=
  Nat.pow_pos Nat.two_pos

theorem scaled_le_of_places {significand : Nat} (places : Nat) {exponent : Int} (bound : significand ≤ 2 ^ places)
    (enough : (places : Int) + exponent ≤ k) :
    significand * Nat.pow 2 exponent.toNat ≤ Nat.pow 2 (-exponent).toNat * 2 ^ k := by
  have scaled := scaled_le_iff significand (2 ^ k) (-exponent)
  rw [neg_neg] at scaled
  rw [Nat.mul_comm (Nat.pow 2 (-exponent).toNat), scaled]
  calc (significand : ℚ) ≤ 2 ^ (places : Int) := by exact_mod_cast bound
    _ ≤ 2 ^ ((k : Int) + -exponent) := zpow_le_zpow_right₀ one_le_two (by omega)
    _ = ((2 ^ k : Nat) : ℚ) * 2 ^ (-exponent) := by
      rw [zpow_add₀ two_ne_zero]
      norm_num

/-- A quotient that is at most `2 ^ k` is at most `2 ^ (k + 1)` when it is rounded. -/
theorem ratio_ofRatio_le (positiveDen : 0 < den) (bound : num ≤ den * 2 ^ k) :
    (ofRatio num den).ratio.1 ≤ (ofRatio num den).ratio.2 * 2 ^ (k + 1) := by
  have bits := ratioBits_le positiveDen bound
  have whole := Nat.div_add_mod (ratioBits num den) (Nat.pow 2 52)
  have fraction := Nat.mod_lt (ratioBits num den) (y := Nat.pow 2 52) (Nat.pow_pos Nat.two_pos)
  rw [ratio, parts, magnitude_ofRatio, toNat_bits_ofRatio]
  dsimp only
  generalize ratioBits num den / Nat.pow 2 52 = field at *
  generalize ratioBits num den % Nat.pow 2 52 = low at *
  rw [← whole, Nat.mul_comm] at bits
  have power : Nat.pow 2 52 = 2 ^ 52 := rfl
  have next : (2 : Nat) ^ 53 = 2 ^ 52 + 2 ^ 52 := by decide
  rw [power] at bits fraction ⊢
  split
  · apply scaled_le_of_places 52 fraction.le
    dsimp only
    omega
  · -- The greatest field is reached by the power of two alone.
    have most : field ≤ k + 1024 := Nat.le_of_mul_le_mul_right (Nat.le_trans (Nat.le_add_right _ _) bits)
      (Nat.pow_pos Nat.two_pos)
    rcases Nat.lt_or_eq_of_le most with less | greatest
    · apply scaled_le_of_places 53
      · dsimp only
        omega
      · dsimp only
        omega
    · have none : low = 0 := by
        rw [greatest] at bits
        omega
      apply scaled_le_of_places 52
      · dsimp only
        omega
      · dsimp only
        omega

end

theorem isFinite_times {x y : Binary64} {a b : Nat} (boundX : x.ratio.1 ≤ x.ratio.2 * 2 ^ a)
    (boundY : y.ratio.1 ≤ y.ratio.2 * 2 ^ b) (enough : a + b ≤ 1022) : (x.times y).isFinite = true := by
  have bound := Nat.mul_le_mul boundX boundY
  rw [Nat.mul_mul_mul_comm, ← Nat.pow_add] at bound
  exact isFinite_ofRatio (Nat.mul_pos (ratio_den_pos x) (ratio_den_pos y)) bound enough

theorem isFinite_zero_times (x : Binary64) : ((ofNat 0).times x).isFinite = true := by
  have zero : (ofNat 0).ratio.1 = 0 := by decide
  apply isFinite_ofRatio (Nat.mul_pos (ratio_den_pos _) (ratio_den_pos x)) _ (Nat.zero_le _)
  rw [zero, Nat.zero_mul]
  exact Nat.zero_le _

/-! ## Naturals and powers of ten -/

theorem isZero_ofNat_iff (n : Nat) : (ofNat n).isZero = true ↔ n = 0 := by
  rw [isZero, ofNat, magnitude_ofRatio, beq_iff_eq, ← UInt64.toNat_inj, toNat_bits_ofRatio]
  constructor
  · intro none
    apply Classical.byContradiction
    intro nonzero
    have positive : (1 : ℚ) ≤ n := by exact_mod_cast Nat.pos_of_ne_zero nonzero
    have above : (2 : ℚ) ^ (0 : Int) < 2 ^ (binaryExponent n 1 + 1) := by
      have most := (binaryExponent_spec (Nat.pos_of_ne_zero nonzero) Nat.one_pos).2
      rw [Nat.cast_one, one_mul] at most
      exact (zpow_zero (2 : ℚ)).trans_lt (positive.trans_lt most)
    have nonneg := (zpow_lt_zpow_iff_right₀ one_lt_two).mp above
    have field : 0 < (max (binaryExponent n 1 - 52) (-1074) + 1074).toNat * Nat.pow 2 52 :=
      Nat.mul_pos (by omega) (Nat.pow_pos Nat.two_pos)
    have least : 0 < infinityBits := by decide
    rw [ratioBits, if_neg (not_or.mpr ⟨nonzero, Nat.one_ne_zero⟩)] at none
    exact absurd none (Nat.ne_of_gt (Nat.lt_min.mpr ⟨least, Nat.add_pos_left field _⟩))
  · rintro rfl
    rfl

theorem isFinite_times_tenTo {n power : Nat} (bound : n < 2 ^ 64) (small : power ≤ 287) :
    ((ofNat n).times (tenTo power)).isFinite = true := by
  have one : n ≤ 1 * 2 ^ 64 := by
    rw [Nat.one_mul]
    exact bound.le
  have ten : Nat.pow 10 power ≤ 1 * 2 ^ 954 := by
    rw [Nat.one_mul]
    exact (Nat.pow_le_pow_right (by decide) small).trans (by decide +kernel)
  exact isFinite_times (ratio_ofRatio_le Nat.one_pos one) (ratio_ofRatio_le Nat.one_pos ten) (by decide)

end NodeConsole.Binary64
