import Mathlib.Algebra.Order.Field.Power
import Mathlib.Data.Int.Log
import Mathlib.Data.Rat.Floor
import Mathlib.Tactic.Linarith

namespace Binary64

/-- The nearest integer, the even one of two. -/
def roundEven (q : ℚ) : ℤ :=
  if 2 * (q - ⌊q⌋) < 1 ∨ 2 * (q - ⌊q⌋) = 1 ∧ ⌊q⌋ % 2 = 0 then ⌊q⌋ else ⌊q⌋ + 1

/-- The distance of the doubles around a number. -/
def unit (q : ℚ) : ℚ := 2 ^ (Int.log 2 |q| - 52)

/-- A number rounded to 53 significant bits, the even one of two neighbours. The exponent has no bounds. -/
def round (q : ℚ) : ℚ := roundEven (q / unit q) * unit q

/-- The numbers with at most 53 significant bits. -/
def Representable (q : ℚ) : Prop := ∃ (k e : ℤ), |k| < 2 ^ 53 ∧ q = k * 2 ^ e

theorem floor_le_roundEven (q : ℚ) : ⌊q⌋ ≤ roundEven q := by
  unfold roundEven
  split_ifs <;> omega

theorem roundEven_le_floor_add_one (q : ℚ) : roundEven q ≤ ⌊q⌋ + 1 := by
  unfold roundEven
  split_ifs <;> omega

@[simp]
theorem roundEven_intCast (k : ℤ) : roundEven k = k := by
  simp [roundEven]

theorem roundEven_mono {a b : ℚ} (le : a ≤ b) : roundEven a ≤ roundEven b := by
  rcases (Int.floor_mono le).lt_or_eq with less | same
  · have upper := roundEven_le_floor_add_one a
    have lower := floor_le_roundEven b
    omega
  · unfold roundEven
    rw [same]
    split_ifs with first second
    · exact le_rfl
    · omega
    · -- `b` stays at the floor, so `a` is the half that `b` is
      rename_i down
      exfalso
      apply first
      rcases down with less | ⟨half, even⟩
      · exact .inl (by linarith)
      · rcases le.lt_or_eq with below | rfl
        · exact .inl (by linarith)
        · exact .inr ⟨half, even⟩
    · exact le_rfl

theorem unit_pos (q : ℚ) : 0 < unit q := zpow_pos (by norm_num) _

theorem roundEven_le {q : ℚ} {k : ℤ} (le : q ≤ k) : roundEven q ≤ k := by
  simpa using roundEven_mono le

theorem le_roundEven {q : ℚ} {k : ℤ} (le : (k : ℚ) ≤ q) : k ≤ roundEven q := by
  simpa using roundEven_mono le

/-- A power of two in units. -/
theorem zpow_log_eq (q : ℚ) : (2 : ℚ) ^ Int.log 2 |q| = 2 ^ 52 * unit q := by
  rw [unit, ← zpow_natCast (2 : ℚ) 52, ← zpow_add₀ (by norm_num : (2 : ℚ) ≠ 0)]
  congr 1
  norm_num

theorem zpow_succ_log_eq (q : ℚ) : (2 : ℚ) ^ (Int.log 2 |q| + 1) = 2 ^ 53 * unit q := by
  rw [zpow_add_one₀ (by norm_num : (2 : ℚ) ≠ 0), zpow_log_eq]
  ring

theorem mantissa_ge {q : ℚ} (nonzero : q ≠ 0) : 2 ^ 52 * unit q ≤ |q| := by
  rw [← zpow_log_eq]
  exact_mod_cast Int.zpow_log_le_self (b := 2) (by norm_num) (abs_pos.mpr nonzero)

theorem mantissa_lt (q : ℚ) : |q| < 2 ^ 53 * unit q := by
  rw [← zpow_succ_log_eq]
  exact_mod_cast Int.lt_zpow_succ_log_self (b := 2) (by norm_num) |q|

theorem round_le_of_abs {q : ℚ} : round q ≤ 2 ^ 53 * unit q ∧ -(2 ^ 53 * unit q) ≤ round q := by
  have bound := abs_lt.mp (mantissa_lt q)
  have positive := unit_pos q
  have upper : q / unit q ≤ ((2 ^ 53 : ℤ) : ℚ) := by
    rw [div_le_iff₀ positive]
    push_cast
    exact bound.2.le
  have lower : ((-2 ^ 53 : ℤ) : ℚ) ≤ q / unit q := by
    rw [le_div_iff₀ positive]
    push_cast
    linarith [bound.1]
  have top : (roundEven (q / unit q) : ℚ) ≤ 2 ^ 53 := by exact_mod_cast roundEven_le upper
  have bottom : (-2 ^ 53 : ℚ) ≤ roundEven (q / unit q) := by exact_mod_cast le_roundEven lower
  refine ⟨mul_le_mul_of_nonneg_right top positive.le, ?_⟩
  calc -(2 ^ 53 * unit q) = -2 ^ 53 * unit q := by ring
    _ ≤ round q := mul_le_mul_of_nonneg_right bottom positive.le

theorem le_round_of_pos {q : ℚ} (positive : 0 < q) : 2 ^ 52 * unit q ≤ round q := by
  have large := mantissa_ge positive.ne'
  rw [abs_of_pos positive] at large
  have lower : ((2 ^ 52 : ℤ) : ℚ) ≤ q / unit q := by
    rw [le_div_iff₀ (unit_pos q)]
    push_cast
    exact large
  have bottom : (2 ^ 52 : ℚ) ≤ roundEven (q / unit q) := by exact_mod_cast le_roundEven lower
  exact mul_le_mul_of_nonneg_right bottom (unit_pos q).le

theorem round_le_of_neg {q : ℚ} (negative : q < 0) : round q ≤ -(2 ^ 52 * unit q) := by
  have large := mantissa_ge negative.ne
  rw [abs_of_neg negative] at large
  have upper : q / unit q ≤ ((-2 ^ 52 : ℤ) : ℚ) := by
    rw [div_le_iff₀ (unit_pos q)]
    push_cast
    linarith
  have top : (roundEven (q / unit q) : ℚ) ≤ -2 ^ 52 := by exact_mod_cast roundEven_le upper
  calc round q ≤ -2 ^ 52 * unit q := mul_le_mul_of_nonneg_right top (unit_pos q).le
    _ = -(2 ^ 52 * unit q) := by ring

theorem round_of_same_unit {a b : ℚ} (same : unit a = unit b) (le : a ≤ b) : round a ≤ round b := by
  unfold round
  rw [same]
  refine mul_le_mul_of_nonneg_right ?_ (unit_pos b).le
  exact_mod_cast roundEven_mono (div_le_div_of_nonneg_right le (unit_pos b).le)

/-- A number with a smaller exponent has a unit of at most half the size. -/
theorem unit_le_of_log_lt {a b : ℚ} (less : Int.log 2 |a| < Int.log 2 |b|) : 2 * unit a ≤ unit b := by
  unfold unit
  calc (2 : ℚ) * 2 ^ (Int.log 2 |a| - 52) = 2 ^ (Int.log 2 |a| - 52 + 1) := by
        rw [zpow_add_one₀ (by norm_num : (2 : ℚ) ≠ 0)]
        ring
    _ ≤ 2 ^ (Int.log 2 |b| - 52) := zpow_le_zpow_right₀ (by norm_num) (by omega)

theorem round_mono {a b : ℚ} (le : a ≤ b) : round a ≤ round b := by
  rcases lt_trichotomy b 0 with negative | rfl | positive
  · have below : a < 0 := lt_of_le_of_lt le negative
    have order : Int.log 2 |b| ≤ Int.log 2 |a| := by
      refine Int.log_mono_right (abs_pos.mpr negative.ne) ?_
      rw [abs_of_neg negative, abs_of_neg below]
      linarith
    rcases order.lt_or_eq with less | same
    · have half := unit_le_of_log_lt less
      have upper := round_le_of_neg below
      have lower := (round_le_of_abs (q := b)).2
      linarith
    · exact round_of_same_unit (by rw [unit, unit, same]) le
  · rcases le.lt_or_eq with negative | rfl
    · have upper := round_le_of_neg negative
      have size := unit_pos a
      have zero : round 0 = 0 := by simp [round, roundEven]
      linarith
    · exact le_rfl
  · have above := le_round_of_pos positive
    have size := unit_pos b
    rcases lt_trichotomy a 0 with negative | rfl | first
    · have upper := round_le_of_neg negative
      have size' := unit_pos a
      linarith
    · have zero : round 0 = 0 := by simp [round, roundEven]
      linarith
    · have order : Int.log 2 |a| ≤ Int.log 2 |b| := by
        refine Int.log_mono_right (abs_pos.mpr first.ne') ?_
        rw [abs_of_pos positive, abs_of_pos first]
        exact le
      rcases order.lt_or_eq with less | same
      · have half := unit_le_of_log_lt less
        have upper := (round_le_of_abs (q := a)).1
        linarith
      · exact round_of_same_unit (by rw [unit, unit, same]) le

/-- What has 53 bits is its own rounding. -/
theorem round_eq_self {q : ℚ} (exact : Representable q) : round q = q := by
  obtain ⟨k, e, small, rfl⟩ := exact
  by_cases zero : k = 0
  · simp [zero, round, roundEven]
  · have two : (2 : ℚ) ≠ 0 := by norm_num
    have power : (0 : ℚ) < 2 ^ e := zpow_pos (by norm_num) e
    have nonzero : (k : ℚ) * 2 ^ e ≠ 0 := mul_ne_zero (by exact_mod_cast zero) power.ne'
    have size : |(k : ℚ) * 2 ^ e| < 2 ^ (53 + e) := by
      rw [abs_mul, abs_of_pos power, zpow_add₀ two]
      refine mul_lt_mul_of_pos_right ?_ power
      exact_mod_cast small
    have exponent : Int.log 2 |(k : ℚ) * 2 ^ e| < 53 + e :=
      (Int.lt_zpow_iff_log_lt (b := 2) (by norm_num) (abs_pos.mpr nonzero)).mp (by exact_mod_cast size)
    obtain ⟨extra, shape⟩ : ∃ extra : ℕ, e = Int.log 2 |(k : ℚ) * 2 ^ e| - 52 + extra :=
      ⟨(e - (Int.log 2 |(k : ℚ) * 2 ^ e| - 52)).toNat, by omega⟩
    have whole : (k : ℚ) * 2 ^ e / unit (k * 2 ^ e) = ((k * 2 ^ extra : ℤ) : ℚ) := by
      rw [div_eq_iff (unit_pos _).ne']
      push_cast
      rw [mul_assoc]
      congr 1
      rw [unit, ← zpow_natCast (2 : ℚ) extra, ← zpow_add₀ two, add_comm]
      exact congrArg _ shape
    have back := (div_eq_iff (unit_pos ((k : ℚ) * 2 ^ e)).ne').mp whole
    rw [round, whole, roundEven_intCast]
    exact back.symm

theorem round_le {q r : ℚ} (exact : Representable r) (le : q ≤ r) : round q ≤ r :=
  round_eq_self exact ▸ round_mono le

theorem le_round {q r : ℚ} (exact : Representable r) (le : r ≤ q) : r ≤ round q :=
  round_eq_self exact ▸ round_mono le

theorem representable_intCast {k : ℤ} (small : |k| < 2 ^ 53) : Representable k := ⟨k, 0, small, by simp⟩

theorem roundEven_neg (q : ℚ) : roundEven (-q) = -roundEven q := by
  have floor := Int.floor_neg (a := q)
  by_cases whole : (⌊q⌋ : ℚ) = q
  · rw [← whole, ← Int.cast_neg, roundEven_intCast, roundEven_intCast]
  · have ceil : ⌈q⌉ = ⌊q⌋ + 1 := by
      refine Int.ceil_eq_iff.mpr ⟨?_, ?_⟩
      · push_cast
        rw [add_sub_cancel_right]
        exact lt_of_le_of_ne (Int.floor_le q) whole
      · push_cast
        exact (Int.lt_floor_add_one q).le
    have fraction : 2 * (-q - ((-(⌊q⌋ + 1) : ℤ) : ℚ)) = 2 - 2 * (q - ⌊q⌋) := by
      push_cast
      ring
    unfold roundEven
    rw [floor, ceil, fraction]
    rcases lt_trichotomy (2 * (q - ⌊q⌋)) 1 with below | half | above
    · rw [if_neg (by rintro (less | ⟨half, -⟩) <;> linarith), if_pos (.inl below)]
      omega
    · by_cases even : ⌊q⌋ % 2 = 0
      · rw [if_neg (by rintro (less | ⟨-, even'⟩) <;> [linarith; omega]), if_pos (.inr ⟨half, even⟩)]
        omega
      · rw [if_pos (.inr ⟨by linarith, by omega⟩),
          if_neg (by rintro (less | ⟨-, even'⟩) <;> [linarith; exact even even'])]
    · rw [if_pos (.inl (by linarith)), if_neg (by rintro (less | ⟨half, -⟩) <;> linarith)]

theorem round_neg (q : ℚ) : round (-q) = -round q := by
  have same : unit (-q) = unit q := by rw [unit, unit, abs_neg]
  rw [round, round, same, neg_div, roundEven_neg, Int.cast_neg, neg_mul]

end Binary64
