import Mathlib.Algebra.Order.Field.Power
import Mathlib.Algebra.Order.Field.Rat
import Mathlib.Data.Nat.Cast.Order.Field
import Mathlib.Tactic.FieldSimp
import Mathlib.Tactic.Linarith
import Mathlib.Tactic.NormNum
import Mathlib.Tactic.Positivity
import Mathlib.Tactic.Ring
import QueryLinker.Number.Real

/-!
This module contains that the shortest decimal of a floating point number is read back as it. What
is compared and divided in whole numbers are rationals: a number is found from every rational that
is near to it, and among the decimals of seventeen digits there is one that is.
-/

namespace QueryLinker.Number

def Binary64.value (x : Binary64) : ℚ :=
  x.mantissa * 2 ^ x.exponent

def Decimal.value (d : Decimal) : ℚ :=
  d.digits * 10 ^ d.exponent

variable {b c m n : Nat} {e f : Int}

theorem scale_pos (hb : 0 < b) (hn : 0 < n) (e : Int) : 0 < scale b n e :=
  Nat.mul_pos hn (Nat.pow_pos hb)

theorem scale_div (hb : 0 < b) (hm : 0 < m) (n : Nat) (e : Int) :
    (scale b n e : ℚ) / scale b m (-e) = n / m * b ^ e := by
  have hb' : (b : ℚ) ≠ 0 := by positivity
  have hm' : (m : ℚ) ≠ 0 := by positivity
  unfold scale
  rcases Int.eq_nat_or_neg e with ⟨k, rfl | rfl⟩
  . have hneg : (-(k : Int)).toNat = 0 := by omega
    rw [hneg, Int.toNat_natCast]
    simp only [Nat.pow_eq, pow_zero, mul_one, Nat.cast_mul, Nat.cast_pow, zpow_natCast]
    ring
  . have hneg : (-(k : Int)).toNat = 0 := by omega
    rw [neg_neg, hneg, Int.toNat_natCast]
    simp only [Nat.pow_eq, pow_zero, mul_one, Nat.cast_mul, Nat.cast_pow, zpow_neg, zpow_natCast]
    field_simp

theorem scale_scale (hb : 0 < b) (n : Nat) (e f : Int) :
    (scale c (scale b n e) f : ℚ) = n * b ^ e * (scale b 1 (-e) * scale c 1 f) := by
  have hpos : (0 : ℚ) < scale b 1 (-e) := by exact_mod_cast scale_pos hb one_pos (-e)
  have hdiv := scale_div hb one_pos n e
  rw [div_eq_iff hpos.ne', Nat.cast_one, div_one] at hdiv
  have hsplit : (scale c (scale b n e) f : ℚ) = scale b n e * scale c 1 f := by
    unfold scale
    push_cast
    ring
  rw [hsplit, hdiv]
  ring

theorem compareScaled_eq (m : Nat) (e : Int) (n : Nat) (f : Int) :
    compareScaled m e n f = compare ((m : ℚ) * 10 ^ e) (n * 2 ^ f) := by
  have hpos : (0 : ℚ) < scale 10 1 (-e) * scale 2 1 (-f) := by
    have := Nat.mul_pos (scale_pos (b := 10) (by omega) one_pos (-e))
      (scale_pos (b := 2) (by omega) one_pos (-f))
    exact_mod_cast this
  have hleft := scale_scale (b := 10) (c := 2) (by omega) m e (-f)
  have hright := scale_scale (b := 2) (c := 10) (by omega) n f (-e)
  rw [mul_comm (scale 2 1 (-f) : ℚ)] at hright
  push_cast at hleft hright
  unfold compareScaled
  rcases lt_trichotomy ((m : ℚ) * 10 ^ e) (n * 2 ^ f) with h | h | h
  . rw [compare_lt_iff_lt.mpr h, compare_lt_iff_lt, ← Nat.cast_lt (α := ℚ), hleft, hright]
    exact mul_lt_mul_of_pos_right h hpos
  . rw [compare_eq_iff_eq.mpr h, compare_eq_iff_eq, ← Nat.cast_inj (R := ℚ), hleft, hright, h]
  . rw [compare_gt_iff_gt.mpr h, compare_gt_iff_gt, ← Nat.cast_lt (α := ℚ), hleft, hright]
    exact mul_lt_mul_of_pos_right h hpos

theorem lt_digitCount (n : Nat) : n < 10 ^ digitCount n :=
  (Nat.length_toDigits_le_iff (by omega) Nat.length_toDigits_pos).mp le_rfl

theorem digitCount_pos (n : Nat) : 0 < digitCount n :=
  Nat.length_toDigits_pos

theorem digitCount_le (hn : 0 < n) : 10 ^ (digitCount n - 1) ≤ n := by
  by_contra hlt
  rcases Nat.eq_zero_or_pos (digitCount n - 1) with hzero | hpos
  . rw [hzero] at hlt
    omega
  . have := (Nat.length_toDigits_le_iff (by omega) hpos).mpr (Nat.lt_of_not_le hlt)
    have := digitCount_pos n
    unfold digitCount at *
    omega

theorem roundHalfEven_eq {num den : Nat} (hden : 0 < den)
    (hlow : 2 * n * den ≤ 2 * num + den) (hhigh : 2 * num ≤ 2 * n * den + den)
    (hodd : n % 2 = 1 → 2 * n * den < 2 * num + den ∧ 2 * num < 2 * n * den + den) :
    roundHalfEven num den = n := by
  have hsplit := Nat.div_add_mod num den
  have hrest := Nat.mod_lt num hden
  have hq : num / den < n + 1 := (Nat.div_lt_iff_lt_mul hden).mpr (by linarith)
  unfold roundHalfEven
  dsimp only
  generalize num / den = q at *
  generalize num % den = r at *
  have hn : n ≤ q + 1 := by
    by_contra hlt
    have : den * (q + 2) ≤ den * n := Nat.mul_le_mul_left _ (by omega)
    nlinarith
  -- The quotient is the number itself or the one before it, and halves decide by parity.
  rcases Nat.eq_or_lt_of_le (Nat.le_of_lt_succ hq) with rfl | hlt
  . have hr : 2 * r ≤ den := by nlinarith
    have htie : q % 2 = 1 → 2 * r < den := fun h => by
      have := (hodd h).2
      nlinarith
    split
    . rfl
    . split
      . omega
      . omega
  . obtain rfl : n = q + 1 := by omega
    have hr : den ≤ 2 * r := by nlinarith
    have htie : (q + 1) % 2 = 1 → den < 2 * r := fun h => by
      have := (hodd h).1
      nlinarith
    split
    . omega
    . split
      . rfl
      . omega

theorem roundHalfEven_le {num den : Nat} (hden : 0 < den) (h : num ≤ n * den) :
    roundHalfEven num den ≤ n := by
  have hsplit := Nat.div_add_mod num den
  have hrest := Nat.mod_lt num hden
  have hq : num / den < n + 1 := (Nat.div_lt_iff_lt_mul hden).mpr (by linarith)
  unfold roundHalfEven
  dsimp only
  generalize num / den = q at *
  generalize num % den = r at *
  have hr : q = n → r = 0 := fun heq => by
    subst heq
    nlinarith
  repeat' split
  all_goals omega

theorem le_roundHalfEven {num den : Nat} (hden : 0 < den) (h : n * den ≤ num) :
    n ≤ roundHalfEven num den := by
  have hq : n ≤ num / den := (Nat.le_div_iff_mul_le hden).mpr h
  unfold roundHalfEven
  dsimp only
  repeat' split
  all_goals omega

namespace Binary64

def topExponent (num den : Nat) : Int :=
  let guess : Int := (num.log2 : Int) - (den.log2 : Int) - 52
  if scale 2 num (-guess) < scale 2 (leastMantissa * den) guess then guess - 1 else guess

theorem leastMantissa_eq : leastMantissa = 2 ^ 52 := rfl

theorem below_iff {num den : Nat} (hden : 0 < den) (e : Int) :
    scale 2 num (-e) < scale 2 (leastMantissa * den) e ↔ (num / den : ℚ) < 2 ^ 52 * 2 ^ e := by
  have hpos : (0 : ℚ) < scale 2 (leastMantissa * den) e := by
    exact_mod_cast scale_pos two_pos (Nat.mul_pos (by decide) hden) e
  have hdiv := scale_div two_pos (Nat.mul_pos (by decide) hden : 0 < leastMantissa * den) num (-e)
  have hden' : (0 : ℚ) < den := by positivity
  have hpower : (0 : ℚ) < 2 ^ e := by positivity
  rw [neg_neg] at hdiv
  rw [← Nat.cast_lt (α := ℚ), ← div_lt_one hpos, hdiv, leastMantissa_eq, zpow_neg]
  push_cast
  rw [← div_eq_mul_inv, div_lt_one hpower, div_lt_iff₀ (by positivity), div_lt_iff₀ hden']
  constructor
  . intro h
    linarith
  . intro h
    linarith

theorem topExponent_spec {num den : Nat} (hnum : 0 < num) (hden : 0 < den) :
    (2 : ℚ) ^ 52 * 2 ^ topExponent num den ≤ num / den ∧
      (num / den : ℚ) < 2 ^ 53 * 2 ^ topExponent num den := by
  have hden' : (0 : ℚ) < den := by positivity
  have hnumlow : (2 : ℚ) ^ num.log2 ≤ num := by exact_mod_cast Nat.log2_self_le hnum.ne'
  have hnumhigh : (num : ℚ) < 2 ^ (num.log2 + 1) := by exact_mod_cast Nat.lt_log2_self
  have hdenlow : (2 : ℚ) ^ den.log2 ≤ den := by exact_mod_cast Nat.log2_self_le hden.ne'
  have hdenhigh : (den : ℚ) < 2 ^ (den.log2 + 1) := by exact_mod_cast Nat.lt_log2_self
  unfold topExponent
  dsimp only
  generalize hguess : (num.log2 : Int) - (den.log2 : Int) - 52 = guess
  have hpower : (2 : ℚ) ^ num.log2 = 2 ^ 52 * 2 ^ guess * 2 ^ den.log2 := by
    rw [← zpow_natCast, ← zpow_natCast, ← zpow_natCast, ← zpow_add₀ two_ne_zero,
      ← zpow_add₀ two_ne_zero]
    congr 1
    omega
  have hguess : (0 : ℚ) < 2 ^ guess := by positivity
  rw [pow_succ] at hnumhigh hdenhigh
  split
  next hbelow =>
    rw [below_iff hden] at hbelow
    rw [zpow_sub_one₀ two_ne_zero]
    refine ⟨?_, by linarith⟩
    rw [le_div_iff₀ hden']
    have := mul_lt_mul_of_pos_left hdenhigh hguess
    linarith
  next hbelow =>
    rw [below_iff hden] at hbelow
    refine ⟨le_of_not_gt hbelow, ?_⟩
    rw [div_lt_iff₀ hden']
    have := mul_le_mul_of_nonneg_left hdenlow hguess.le
    linarith

def rounded (num den : Nat) (e : Int) : Binary64 :=
  let mantissa := roundHalfEven (scale 2 num (-e)) (scale 2 den e)
  if mantissa = 2 * leastMantissa then ⟨leastMantissa, e + 1⟩ else ⟨mantissa, e⟩

theorem nearest_eq (num den : Nat) : nearest num den =
    let x := rounded num den (max minExponent (topExponent num den))
    if x.exponent > maxExponent then none else some x := rfl

structure Canonical (x : Binary64) : Prop where
  pos : 0 < x.mantissa
  lt : x.mantissa < 2 * leastMantissa
  exponent_ge : minExponent ≤ x.exponent
  exponent_le : x.exponent ≤ maxExponent
  full : minExponent < x.exponent → leastMantissa ≤ x.mantissa

def gapBelow (x : Binary64) : ℚ :=
  if x.mantissa = leastMantissa && x.exponent > minExponent then 1 / 4 else 1 / 2

structure Near (x : Binary64) (v : ℚ) : Prop where
  low : (x.mantissa - x.gapBelow) * 2 ^ x.exponent ≤ v
  high : v ≤ (x.mantissa + 1 / 2) * 2 ^ x.exponent
  odd : x.mantissa % 2 = 1 →
    (x.mantissa - x.gapBelow) * 2 ^ x.exponent < v ∧ v < (x.mantissa + 1 / 2) * 2 ^ x.exponent

theorem scale_two_div {num den : Nat} (hden : 0 < den) (e : Int) :
    (scale 2 num (-e) : ℚ) = num / den / 2 ^ e * scale 2 den e := by
  have hpos : (0 : ℚ) < scale 2 den e := by exact_mod_cast scale_pos two_pos hden e
  have hdiv := scale_div two_pos hden num (-e)
  rw [neg_neg, zpow_neg, ← div_eq_mul_inv, div_eq_iff hpos.ne'] at hdiv
  exact_mod_cast hdiv

theorem roundHalfEven_scale {num den : Nat} {e : Int} (hden : 0 < den)
    (hlow : ((n : ℚ) - 1 / 2) * 2 ^ e ≤ num / den) (hhigh : (num / den : ℚ) ≤ (n + 1 / 2) * 2 ^ e)
    (hodd : n % 2 = 1 → ((n : ℚ) - 1 / 2) * 2 ^ e < num / den ∧
      (num / den : ℚ) < (n + 1 / 2) * 2 ^ e) :
    roundHalfEven (scale 2 num (-e)) (scale 2 den e) = n := by
  have hpower : (0 : ℚ) < 2 ^ e := by positivity
  have hpos : (0 : ℚ) < scale 2 den e := by exact_mod_cast scale_pos two_pos hden e
  have hdiv : (scale 2 num (-e) : ℚ) = _ := scale_two_div hden e
  have hvalue : (num / den : ℚ) = num / den / 2 ^ e * 2 ^ e := by field_simp
  rw [hvalue] at hlow hhigh hodd
  rw [mul_le_mul_iff_left₀ hpower] at hlow hhigh
  simp only [mul_lt_mul_iff_left₀ hpower] at hodd
  generalize (num / den / 2 ^ e : ℚ) = v at *
  apply roundHalfEven_eq (scale_pos two_pos hden e)
  . have : (2 * n * scale 2 den e : ℚ) ≤ 2 * scale 2 num (-e) + scale 2 den e := by
      rw [hdiv]
      nlinarith
    exact_mod_cast this
  . have : (2 * scale 2 num (-e) : ℚ) ≤ 2 * n * scale 2 den e + scale 2 den e := by
      rw [hdiv]
      nlinarith
    exact_mod_cast this
  . intro h
    rcases hodd h with ⟨hlow, hhigh⟩
    have hleft : (2 * n * scale 2 den e : ℚ) < 2 * scale 2 num (-e) + scale 2 den e := by
      rw [hdiv]
      nlinarith
    have hright : (2 * scale 2 num (-e) : ℚ) < 2 * n * scale 2 den e + scale 2 den e := by
      rw [hdiv]
      nlinarith
    exact ⟨by exact_mod_cast hleft, by exact_mod_cast hright⟩

theorem roundHalfEven_scale_le {num den : Nat} {e : Int} (hden : 0 < den)
    (h : (num / den : ℚ) ≤ n * 2 ^ e) : roundHalfEven (scale 2 num (-e)) (scale 2 den e) ≤ n := by
  have hpower : (0 : ℚ) < 2 ^ e := by positivity
  have hpos : (0 : ℚ) < scale 2 den e := by exact_mod_cast scale_pos two_pos hden e
  apply roundHalfEven_le (scale_pos two_pos hden e)
  rw [← Nat.cast_le (α := ℚ), scale_two_div hden, Nat.cast_mul, mul_le_mul_iff_left₀ hpos,
    div_le_iff₀ hpower]
  exact h

theorem le_roundHalfEven_scale {num den : Nat} {e : Int} (hden : 0 < den)
    (h : n * 2 ^ e ≤ (num / den : ℚ)) : n ≤ roundHalfEven (scale 2 num (-e)) (scale 2 den e) := by
  have hpower : (0 : ℚ) < 2 ^ e := by positivity
  have hpos : (0 : ℚ) < scale 2 den e := by exact_mod_cast scale_pos two_pos hden e
  apply le_roundHalfEven (scale_pos two_pos hden e)
  rw [← Nat.cast_le (α := ℚ), scale_two_div hden, Nat.cast_mul, mul_le_mul_iff_left₀ hpos,
    le_div_iff₀ hpower]
  exact h

theorem zpow_le_of_lt {v : ℚ} (hlow : (2 : ℚ) ^ 52 * 2 ^ e ≤ v) (hhigh : v < 2 ^ 53 * 2 ^ f) :
    e ≤ f := by
  by_contra hlt
  have hpower : (2 : ℚ) ^ (f + 1) ≤ 2 ^ e := zpow_le_zpow_right₀ one_le_two (by omega)
  rw [zpow_add_one₀ two_ne_zero] at hpower
  linarith

variable {x : Binary64} {num den : Nat}

theorem gapBelow_le (x : Binary64) : x.gapBelow ≤ 1 / 2 := by
  unfold gapBelow
  split
  . norm_num
  . rfl

theorem rounded_of_near (hden : 0 < den) (hlt : x.mantissa < 2 * leastMantissa)
    (h : x.Near (num / den)) : rounded num den x.exponent = x := by
  have hpower : (0 : ℚ) < 2 ^ x.exponent := by positivity
  have hgap := mul_le_mul_of_nonneg_right (gapBelow_le x) hpower.le
  have hmantissa := roundHalfEven_scale (n := x.mantissa) (e := x.exponent) hden
    (by linarith [h.low]) h.high fun hodd => ⟨by linarith [(h.odd hodd).1], (h.odd hodd).2⟩
  unfold rounded
  dsimp only
  rw [hmantissa, if_neg (by omega)]

theorem rounded_below (hden : 0 < den)
    (hlow : ((leastMantissa : ℚ) - 1 / 4) * 2 ^ e ≤ num / den)
    (hhigh : (num / den : ℚ) < leastMantissa * 2 ^ e) :
    rounded num den (e - 1) = ⟨leastMantissa, e⟩ := by
  have hpower : (2 : ℚ) ^ e = 2 ^ (e - 1) * 2 := by
    rw [← zpow_add_one₀ two_ne_zero, Int.sub_add_cancel]
  have hpos : (0 : ℚ) < 2 ^ (e - 1) := by positivity
  rw [hpower] at hlow hhigh
  have hmantissa : roundHalfEven (scale 2 num (-(e - 1))) (scale 2 den (e - 1)) =
      2 * leastMantissa := by
    apply roundHalfEven_scale hden
    . push_cast
      linarith
    . push_cast
      linarith
    . omega
  unfold rounded
  dsimp only
  rw [hmantissa, if_pos rfl, Int.sub_add_cancel]

theorem num_pos_of_near (hx : x.Canonical) (h : x.Near (num / den)) : 0 < num := by
  have hpower : (0 : ℚ) < 2 ^ x.exponent := by positivity
  have hm : (1 : ℚ) ≤ x.mantissa := by exact_mod_cast hx.pos
  have hlow := h.low
  by_contra hzero
  obtain rfl : num = 0 := by omega
  have : (0 : ℚ) < (x.mantissa - x.gapBelow) * 2 ^ x.exponent :=
    mul_pos (by linarith [gapBelow_le x]) hpower
  rw [Nat.cast_zero, zero_div] at hlow
  linarith

theorem mantissa_of_below (hx : x.Canonical) (hmin : minExponent < x.exponent) {v : ℚ}
    (h : x.Near v) (hbelow : v < 2 ^ 52 * 2 ^ x.exponent) : x.mantissa = leastMantissa := by
  have hpower : (0 : ℚ) < 2 ^ x.exponent := by positivity
  have hfull := hx.full hmin
  by_contra hne
  have hmore : (2 : ℚ) ^ 52 + 1 ≤ x.mantissa := by
    have : 2 ^ 52 + 1 ≤ x.mantissa := by
      rw [leastMantissa_eq] at hfull hne
      omega
    exact_mod_cast this
  nlinarith [h.low, gapBelow_le x]

theorem topExponent_le_of_near (hx : x.Canonical) (hden : 0 < den) (h : x.Near (num / den)) :
    topExponent num den ≤ x.exponent := by
  have hpower : (0 : ℚ) < 2 ^ x.exponent := by positivity
  have hlt : (x.mantissa : ℚ) + 1 ≤ 2 ^ 53 := by exact_mod_cast hx.lt
  apply zpow_le_of_lt (topExponent_spec (num_pos_of_near hx h) hden).1
  nlinarith [h.high]

theorem nearest_of_near (hx : x.Canonical) (hden : 0 < den) (h : x.Near (num / den)) :
    nearest num den = some x := by
  have htop := topExponent_le_of_near hx hden h
  have hleast := hx.exponent_ge
  have hfound : rounded num den (max minExponent (topExponent num den)) = x := by
    by_cases hexponent : max minExponent (topExponent num den) = x.exponent
    . rw [hexponent, rounded_of_near hden hx.lt h]
    . -- The rational lies below the power of two that the number is.
      have hmin : minExponent < x.exponent := by omega
      rcases topExponent_spec (num_pos_of_near hx h) hden with ⟨_, htophigh⟩
      have hbelow : (num / den : ℚ) < 2 ^ 52 * 2 ^ x.exponent := by
        have : (2 : ℚ) ^ topExponent num den ≤ 2 ^ (x.exponent - 1) :=
          zpow_le_zpow_right₀ one_le_two (by omega)
        rw [zpow_sub_one₀ two_ne_zero] at this
        linarith
      have hmantissa := mantissa_of_below hx hmin h hbelow
      have hquarter : x.gapBelow = 1 / 4 := by
        unfold gapBelow
        rw [if_pos (by simp [hmantissa, hmin])]
      have hlow := h.low
      rw [hmantissa, hquarter] at hlow
      have hsecond : x.exponent - 1 ≤ topExponent num den := by
        apply zpow_le_of_lt _ htophigh
        rw [leastMantissa_eq] at hlow
        rw [zpow_sub_one₀ two_ne_zero]
        push_cast at hlow
        linarith [show (0 : ℚ) < 2 ^ x.exponent by positivity]
      have hmax : max minExponent (topExponent num den) = x.exponent - 1 := by omega
      rw [hmax, rounded_below hden hlow (by rw [leastMantissa_eq]; exact_mod_cast hbelow)]
      exact congrArg (fun m => Binary64.mk m x.exponent) hmantissa.symm
  rw [nearest_eq, hfound]
  dsimp only
  rw [if_neg (Int.not_lt.mpr hx.exponent_le)]

theorem canonical_of_nearest (hnum : 0 < num) (hden : 0 < den) (h : nearest num den = some x)
    (hx : x.mantissa ≠ 0) : x.Canonical := by
  rcases topExponent_spec hnum hden with ⟨htoplow, htophigh⟩
  rw [nearest_eq] at h
  generalize hexponent : max minExponent (topExponent num den) = e at h
  have hge : minExponent ≤ e := by omega
  have hhigh : roundHalfEven (scale 2 num (-e)) (scale 2 den e) ≤ 2 ^ 53 := by
    apply roundHalfEven_scale_le hden
    have : (2 : ℚ) ^ topExponent num den ≤ 2 ^ e := zpow_le_zpow_right₀ one_le_two (by omega)
    push_cast
    linarith
  have hlow (hfull : minExponent < e) :
      2 ^ 52 ≤ roundHalfEven (scale 2 num (-e)) (scale 2 den e) := by
    apply le_roundHalfEven_scale hden
    have : topExponent num den = e := by omega
    rw [← this]
    push_cast
    exact htoplow
  dsimp only at h
  split at h
  . cases h
  next hle =>
    cases h
    unfold rounded at hle hx ⊢
    dsimp only at hle hx ⊢
    have hleast := leastMantissa_eq
    split
    next heq =>
      rw [if_pos heq] at hle
      refine ⟨Nat.pow_pos two_pos, ?_, ?_, by simpa using hle, fun _ => le_rfl⟩
      . dsimp only
        omega
      . dsimp only
        omega
    next hne =>
      rw [if_neg hne] at hle hx
      refine ⟨Nat.pos_of_ne_zero hx, ?_, hge, by simpa using hle, hlow⟩
      dsimp only
      omega

theorem isLE_compare_iff {u v : ℚ} : (compare u v).isLE ↔ u ≤ v :=
  Ordering.ne_gt_iff_isLE.symm.trans compare_le_iff_le

theorem isGE_compare_iff {u v : ℚ} : (compare u v).isGE ↔ v ≤ u :=
  Ordering.ne_lt_iff_isGE.symm.trans compare_ge_iff_ge

theorem isLT_compare_iff {u v : ℚ} : (compare u v).isLT ↔ u < v := by
  rw [← compare_lt_iff_lt, Ordering.isLT_iff_eq_lt]

theorem isGT_compare_iff {u v : ℚ} : (compare u v).isGT ↔ v < u := by
  rw [← compare_gt_iff_gt, Ordering.isGT_iff_eq_gt]

theorem covers_iff (hx : x.mantissa ≠ 0) (d : Decimal) : x.covers d ↔ x.Near d.value := by
  have hlow : compareScaled d.digits d.exponent
      (4 * x.mantissa - if x.mantissa = leastMantissa && x.exponent > minExponent then 1 else 2)
      (x.exponent - 2) = compare d.value ((x.mantissa - x.gapBelow) * 2 ^ x.exponent) := by
    rw [compareScaled_eq]
    congr 1
    rw [zpow_sub₀ two_ne_zero]
    unfold gapBelow
    split
    . rw [Nat.cast_sub (by omega)]
      push_cast
      ring
    . rw [Nat.cast_sub (by omega)]
      push_cast
      ring
  have hhigh : compareScaled d.digits d.exponent (4 * x.mantissa + 2) (x.exponent - 2) =
      compare d.value ((x.mantissa + 1 / 2) * 2 ^ x.exponent) := by
    rw [compareScaled_eq]
    congr 1
    rw [zpow_sub₀ two_ne_zero]
    push_cast
    ring
  unfold covers
  dsimp only
  rw [hlow, hhigh]
  by_cases heven : x.mantissa % 2 = 0
  . rw [if_pos heven, Bool.and_eq_true, isGE_compare_iff, isLE_compare_iff]
    exact ⟨fun h => ⟨h.1, h.2, fun hodd => by omega⟩, fun h => ⟨h.low, h.high⟩⟩
  . rw [if_neg heven, Bool.and_eq_true, isGT_compare_iff, isLT_compare_iff]
    exact ⟨fun h => ⟨h.1.le, h.2.le, fun _ => h⟩, fun h => h.odd (by omega)⟩

theorem leadingPower_le (hx : x.mantissa ≠ 0) : (10 : ℚ) ^ x.leadingPower ≤ x.value := by
  have hm : 0 < x.mantissa := Nat.pos_of_ne_zero hx
  have hvalue := scale_div two_pos one_pos x.mantissa x.exponent
  have hden := scale_pos two_pos one_pos (-x.exponent)
  have hnum := scale_pos two_pos hm x.exponent
  rw [Nat.cast_one, div_one] at hvalue
  push_cast at hvalue
  unfold leadingPower value
  dsimp only
  split
  next h =>
    rw [compareScaled_eq, isLE_compare_iff, Nat.cast_one, one_mul] at h
    exact h
  next h =>
    rw [← hvalue]
    generalize scale 2 x.mantissa x.exponent = num at *
    generalize scale 2 1 (-x.exponent) = den at *
    have hlow : (10 : ℚ) ^ (digitCount num - 1) ≤ num := by exact_mod_cast digitCount_le hnum
    have hhigh : (den : ℚ) ≤ 10 ^ digitCount den := by exact_mod_cast (lt_digitCount den).le
    have hsplit : (digitCount num : Int) - digitCount den - 1 =
        (digitCount num - 1 : Nat) - (digitCount den : Int) := by
      have := digitCount_pos num
      omega
    rw [hsplit, zpow_sub₀ (by norm_num), zpow_natCast, zpow_natCast]
    exact div_le_div₀ (by positivity) hlow (by positivity) hhigh

end Binary64

theorem Decimal.value_stripZeros (d : Decimal) : d.stripZeros.value = d.value := by
  have hgo (fuel : Nat) (d : Decimal) : (stripZeros.go fuel d).value = d.value := by
    induction fuel generalizing d with
    | zero => rfl
    | succ fuel ih =>
      unfold stripZeros.go
      split
      next hzero => simp [value, hzero]
      next hne =>
        split
        next hten =>
          rw [ih]
          have hdigits : (d.digits : ℚ) = (d.digits / 10 : Nat) * 10 := by
            exact_mod_cast (Nat.div_mul_cancel (Nat.dvd_of_mod_eq_zero hten)).symm
          unfold value
          rw [hdigits, zpow_add_one₀ (by norm_num)]
          ring
        next => rfl
  exact hgo _ d

namespace Binary64

variable {x : Binary64}

theorem covers_of_withDigits {count : Nat} {d : Decimal} (h : x.withDigits count = some d) :
    x.covers d := by
  unfold withDigits at h
  dsimp only at h
  split at h
  . cases h
  next hlower _ =>
    cases h
    exact hlower
  next _ hupper =>
    cases h
    exact hupper
  next hlower hupper =>
    split at h
    . cases h
      exact hlower
    . cases h
      exact hupper
    . cases h
      split
      . exact hlower
      . exact hupper

theorem floor_spec (x : Binary64) (power : Int) :
    let floor := scale 10 (scale 2 x.mantissa x.exponent) (-power) /
      scale 10 (scale 2 1 (-x.exponent)) power
    (Decimal.mk floor power).value ≤ x.value ∧ x.value < (Decimal.mk (floor + 1) power).value := by
  have hten : (0 : ℚ) < 10 ^ power := by positivity
  have hden := scale_pos two_pos one_pos (-x.exponent)
  have hvalue := scale_div two_pos one_pos x.mantissa x.exponent
  have hratio := scale_div (b := 10) (by omega) hden (scale 2 x.mantissa x.exponent) (-power)
  have hpos := scale_pos (b := 10) (by omega) hden power
  rw [hvalue, neg_neg, zpow_neg, ← div_eq_mul_inv, Nat.cast_one, div_one] at hratio
  push_cast at hratio
  generalize scale 10 (scale 2 x.mantissa x.exponent) (-power) = num at *
  generalize scale 10 (scale 2 1 (-x.exponent)) power = den at *
  intro floor
  have hpos' : (0 : ℚ) < den := by positivity
  have hlow : (floor : ℚ) * den ≤ num := by exact_mod_cast Nat.div_mul_le_self num den
  have hhigh : (num : ℚ) < (floor + 1) * den := by
    exact_mod_cast Nat.lt_mul_of_div_lt (Nat.lt_succ_self _) hpos
  rw [← le_div_iff₀ hpos', hratio, le_div_iff₀ hten] at hlow
  rw [← div_lt_iff₀ hpos', hratio, div_lt_iff₀ hten] at hhigh
  unfold Decimal.value value
  push_cast
  exact ⟨hlow, hhigh⟩

theorem covers_of_close (hx : x.Canonical) {lower upper : Decimal} (hlow : lower.value ≤ x.value)
    (hhigh : x.value < upper.value) (hclose : upper.value - lower.value ≤ x.value / 10 ^ 16) :
    x.covers lower ∨ x.covers upper := by
  rw [covers_iff hx.pos.ne', covers_iff hx.pos.ne']
  have hpower : (0 : ℚ) < 2 ^ x.exponent := by positivity
  have hgap : 0 < x.gapBelow := by
    unfold gapBelow
    split
    . norm_num
    . norm_num
  have hwide : x.mantissa / 10 ^ 16 < x.gapBelow + 1 / 2 := by
    unfold gapBelow
    split
    next hleast =>
      rw [Bool.and_eq_true, decide_eq_true_eq, decide_eq_true_eq] at hleast
      rw [hleast.1, leastMantissa_eq]
      norm_num
    next =>
      have hlt : (x.mantissa : ℚ) < 2 ^ 53 := by exact_mod_cast hx.lt
      have hten : (2 : ℚ) ^ 53 < 10 ^ 16 := by norm_num
      have : (x.mantissa / 10 ^ 16 : ℚ) < 1 := by
        rw [div_lt_one (by positivity)]
        exact hlt.trans hten
      linarith
  unfold value at hlow hhigh hclose
  rw [mul_div_right_comm] at hclose
  have hwide' := mul_lt_mul_of_pos_right hwide hpower
  have hgap' := mul_pos hgap hpower
  -- If neither were near, there would be all that is rounded to the number between them.
  by_cases h : (x.mantissa - x.gapBelow) * 2 ^ x.exponent < lower.value
  . exact .inl ⟨h.le, by linarith, fun _ => ⟨h, by linarith⟩⟩
  . have h' : upper.value < (x.mantissa + 1 / 2) * 2 ^ x.exponent := by linarith
    exact .inr ⟨by linarith, h'.le, fun _ => ⟨by linarith, h'⟩⟩

theorem Canonical.bounds (hx : x.Canonical) {v : ℚ} (h : x.Near v) :
    2 ^ (-1075 : Int) ≤ v ∧ v ≤ 2 ^ (1024 : Int) := by
  have hm : (1 : ℚ) ≤ x.mantissa := by exact_mod_cast hx.pos
  have hm' : (x.mantissa : ℚ) + 1 ≤ 2 ^ 53 := by exact_mod_cast hx.lt
  have hgap := gapBelow_le x
  have hleast : (2 : ℚ) ^ (-1074 : Int) ≤ 2 ^ x.exponent :=
    zpow_le_zpow_right₀ one_le_two hx.exponent_ge
  have hgreatest : (2 : ℚ) ^ x.exponent ≤ 2 ^ (971 : Int) :=
    zpow_le_zpow_right₀ one_le_two hx.exponent_le
  constructor
  . calc (2 : ℚ) ^ (-1075 : Int)
      _ = 1 / 2 * 2 ^ (-1074 : Int) := by
        rw [show (-1075 : Int) = -1 + -1074 from rfl, zpow_add₀ two_ne_zero, zpow_neg_one, one_div]
      _ ≤ (x.mantissa - x.gapBelow) * 2 ^ x.exponent :=
        mul_le_mul (by linarith) hleast (by positivity) (by linarith)
      _ ≤ v := h.low
  . calc v
      _ ≤ (x.mantissa + 1 / 2) * 2 ^ x.exponent := h.high
      _ ≤ 2 ^ 53 * 2 ^ (971 : Int) :=
        mul_le_mul (by linarith) hgreatest (by positivity) (by positivity)
      _ = 2 ^ (1024 : Int) := by
        rw [← zpow_natCast, ← zpow_add₀ two_ne_zero]
        rfl

theorem exists_withDigits (hx : x.Canonical) : ∃ d, x.withDigits maxDigits = some d := by
  have hspec := floor_spec x (x.leadingPower - maxDigits + 1)
  unfold withDigits
  dsimp only at hspec ⊢
  generalize scale 10 (scale 2 x.mantissa x.exponent) _ / scale 10 _ _ = floor at *
  have hclose : (Decimal.mk (floor + 1) (x.leadingPower - maxDigits + 1)).value -
      (Decimal.mk floor (x.leadingPower - maxDigits + 1)).value ≤ x.value / 10 ^ 16 := by
    have hpower : x.leadingPower - maxDigits + 1 = x.leadingPower - 16 := by
      unfold maxDigits
      omega
    have hle := leadingPower_le hx.pos.ne'
    rw [hpower]
    unfold Decimal.value
    rw [zpow_sub₀ (by norm_num)]
    push_cast
    rw [← sub_mul, add_sub_cancel_left, one_mul]
    exact div_le_div_of_nonneg_right hle (by norm_num)
  rcases covers_of_close hx hspec.1 hspec.2 hclose with hcovers | hcovers
  . rw [hcovers]
    split
    next heq _ => cases heq
    next => exact ⟨_, rfl⟩
    next => exact ⟨_, rfl⟩
    next => split <;> exact ⟨_, rfl⟩
  . rw [hcovers]
    split
    next heq => cases heq
    next heq => cases heq
    next => exact ⟨_, rfl⟩
    next => split <;> exact ⟨_, rfl⟩

theorem near_shortest (hx : x.Canonical) : x.Near x.shortest.value := by
  rw [← covers_iff hx.pos.ne']
  rcases exists_withDigits hx with ⟨d, hd⟩
  unfold shortest
  cases hfound : (List.range maxDigits).findSome? fun i => x.withDigits (i + 1) with
  | some d =>
    rcases List.exists_of_findSome?_eq_some hfound with ⟨i, _, hi⟩
    exact covers_of_withDigits hi
  | none =>
    rw [List.findSome?_eq_none_iff] at hfound
    have hnone := hfound 16 (by decide)
    rw [show 16 + 1 = maxDigits from rfl, hd] at hnone
    cases hnone

end Binary64

namespace Real

variable {x : Binary64}

theorem point_bounds {digits : Nat} (hdigits : digits ≠ 0) (exponent : Int) :
    (10 : ℚ) ^ ((digitCount digits : Int) + exponent - 1) ≤ digits * 10 ^ exponent ∧
      (digits * 10 ^ exponent : ℚ) < 10 ^ ((digitCount digits : Int) + exponent) := by
  have hten : (0 : ℚ) < 10 ^ exponent := by positivity
  have hpos := digitCount_pos digits
  have hlow : (10 : ℚ) ^ (digitCount digits - 1) ≤ digits := by
    exact_mod_cast digitCount_le (Nat.pos_of_ne_zero hdigits)
  have hhigh : (digits : ℚ) < 10 ^ digitCount digits := by exact_mod_cast lt_digitCount digits
  have hsplit : (digitCount digits : Int) + exponent - 1 =
      (digitCount digits - 1 : Nat) + exponent := by
    omega
  rw [hsplit, zpow_add₀ (by norm_num), zpow_add₀ (by norm_num), zpow_natCast, zpow_natCast]
  exact ⟨mul_le_mul_of_nonneg_right hlow hten.le, mul_lt_mul_of_pos_right hhigh hten⟩

theorem lt_huge : (2 : ℚ) ^ (1024 : Int) < 10 ^ (400 : Int) :=
  calc (2 : ℚ) ^ (1024 : Int)
    _ ≤ 2 ^ (1075 : Int) := zpow_le_zpow_right₀ one_le_two (by omega)
    _ = (2 ^ 43) ^ 25 := by
      rw [← pow_mul]
      rfl
    _ < (10 ^ 16) ^ 25 := pow_lt_pow_left₀ (by norm_num) (by norm_num) (by omega)
    _ = 10 ^ (400 : Int) := by
      rw [← pow_mul]
      rfl

theorem tiny_lt : (10 : ℚ) ^ (-400 : Int) < 2 ^ (-1075 : Int) :=
  calc (10 : ℚ) ^ (-400 : Int)
    _ = (((10 : ℚ) ^ 16) ^ 25)⁻¹ := by
      rw [← pow_mul]
      rfl
    _ < (((2 : ℚ) ^ 43) ^ 25)⁻¹ :=
      inv_strictAnti₀ (by positivity) (pow_lt_pow_left₀ (by norm_num) (by norm_num) (by omega))
    _ = 2 ^ (-1075 : Int) := by
      rw [← pow_mul]
      rfl

theorem ofDecimal_shortest (hx : x.Canonical) (negative : Bool) {digits : Nat} {exponent : Int}
    (hvalue : (Decimal.mk digits exponent).value = x.shortest.value) :
    ofDecimal negative digits exponent = .finite negative x.shortest.stripZeros := by
  have hnear := Binary64.near_shortest hx
  rw [← hvalue] at hnear
  unfold Decimal.value at hnear
  dsimp only at hnear
  rcases hx.bounds hnear with ⟨hlow, hhigh⟩
  have hdigits : digits ≠ 0 := by
    rintro rfl
    rw [Nat.cast_zero, zero_mul] at hlow
    exact absurd hlow (not_le.mpr (by positivity))
  rcases point_bounds hdigits exponent with ⟨hpoint, hpoint'⟩
  have hleast : -400 ≤ (digitCount digits : Int) + exponent := by
    by_contra hlt
    have hpower : (10 : ℚ) ^ ((digitCount digits : Int) + exponent) ≤ 10 ^ (-400 : Int) :=
      zpow_le_zpow_right₀ (by norm_num) (by omega)
    exact absurd (hlow.trans (hpoint'.le.trans hpower)) (not_le.mpr tiny_lt)
  have hgreatest : (digitCount digits : Int) + exponent ≤ 400 := by
    by_contra hlt
    have hpower : (10 : ℚ) ^ (400 : Int) ≤ 10 ^ ((digitCount digits : Int) + exponent - 1) :=
      zpow_le_zpow_right₀ (by norm_num) (by omega)
    exact absurd (hpower.trans (hpoint.trans hhigh)) (not_le.mpr lt_huge)
  have hden : 0 < scale 10 1 (-exponent) := scale_pos (by omega) one_pos _
  have hquotient := scale_div (b := 10) (by omega) one_pos digits exponent
  rw [Nat.cast_one, div_one] at hquotient
  have hfound : Binary64.nearest (scale 10 digits exponent) (scale 10 1 (-exponent)) = some x := by
    apply Binary64.nearest_of_near hx hden
    rw [hquotient]
    exact_mod_cast hnear
  unfold ofDecimal
  dsimp only
  rw [if_neg (by simp; omega), if_neg (by omega), hfound]
  dsimp only
  rw [if_neg hx.pos.ne']

inductive Read : Real → Prop where
  | nan : Read .nan
  | infinite (negative : Bool) : Read (.infinite negative)
  | zero (negative : Bool) : Read (.finite negative ⟨0, 0⟩)
  | finite (negative : Bool) {y : Binary64} (hy : y.Canonical) :
    Read (.finite negative y.shortest.stripZeros)

theorem read_ofDecimal (negative : Bool) (digits : Nat) (exponent : Int) :
    Read (ofDecimal negative digits exponent) := by
  unfold ofDecimal
  dsimp only
  split
  . exact .zero negative
  next hdigits =>
    split
    . exact .infinite negative
    . split
      . exact .infinite negative
      next x hfound =>
        split
        . exact .zero negative
        next hx =>
          have hpos : 0 < digits := by
            by_contra hzero
            simp [Nat.eq_zero_of_not_pos hzero] at hdigits
          exact .finite negative (Binary64.canonical_of_nearest (scale_pos (by omega) hpos _)
            (scale_pos (by omega) one_pos _) hfound hx)

end Real

end QueryLinker.Number
