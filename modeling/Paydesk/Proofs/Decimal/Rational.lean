import Paydesk.Proofs.Amount.Cents
import Mathlib.Algebra.Order.Field.Rat
import Mathlib.Algebra.Order.Field.Basic
import Mathlib.Tactic.FieldSimp

/-!
# Decimal numbers as rational numbers

Every decimal number is a rational number (`Decimal.toRat`), and the checks on an amount are
conditions on that number alone (`Amount.isOk_ofDecimal_iff`).

Results of arithmetic are rounded when they do not fit. A result that is a decimal number at some
scale loses zeros only (`Decimal.exists_rounded?_toRat`). Any other result becomes a number next to
it, half a unit of the last place away at most (`Decimal.rounded?_near`), and there is no room for one
more place then (`Decimal.rounded?_full`).
-/

namespace Paydesk

/-- A rounded quotient is half a unit away at most. -/
theorem divHalfEven_near (n : Nat) {d : Nat} (hd : 0 < d) :
    2 * (divHalfEven n d * d) ≤ 2 * n + d ∧ 2 * n ≤ 2 * (divHalfEven n d * d) + d := by
  have hn : n / d * d + n % d = n := Nat.div_add_mod' n d
  have hr := Nat.mod_lt n hd
  have hnext : (n / d + 1) * d = n / d * d + d := Nat.succ_mul _ _
  unfold divHalfEven
  dsimp only
  split
  · omega
  · split
    · rw [hnext]
      omega
    · split
      · omega
      · rw [hnext]
        omega

namespace Decimal

def toRat (d : Decimal) : ℚ :=
  d.coefficient / tenTo d.scale

theorem tenTo_pos_rat (n : Nat) : (0 : ℚ) < tenTo n := by
  exact_mod_cast tenTo_pos n

theorem tenTo_add_rat (m n : Nat) : (tenTo (m + n) : ℚ) = tenTo m * tenTo n := by
  rw [tenTo_add, Nat.cast_mul]

theorem div_tenTo_eq_iff {m n : ℤ} {s t : Nat} :
    (m / tenTo s : ℚ) = n / tenTo t ↔ m * tenTo t = n * tenTo s := by
  rw [div_eq_div_iff (tenTo_pos_rat s).ne' (tenTo_pos_rat t).ne']
  exact_mod_cast Iff.rfl

/-! ## Rounded results -/

/-- A rounded result is half a unit of its last place away at most. -/
theorem rounded?_near {value : Int} {scale : Nat} {d : Decimal} (h : rounded? value scale = some d) :
    |d.toRat - value / tenTo scale| ≤ 1 / (2 * tenTo d.scale) := by
  obtain ⟨dropped, hle, hscale, hcoefficient, -⟩ := rounded?_eq_some h
  have hten : (tenTo scale : ℚ) = tenTo d.scale * tenTo dropped := by
    rw [← tenTo_add_rat, hscale, Nat.sub_add_cancel hle]
  have hnear : |d.coefficient * tenTo dropped - value| * 2 ≤ (tenTo dropped : ℤ) := by
    have hsize := divHalfEven_near value.natAbs (tenTo_pos dropped)
    rw [hcoefficient]
    generalize divHalfEven value.natAbs (tenTo dropped) = size at hsize
    obtain ⟨hover, hunder⟩ := hsize
    zify at hover hunder
    by_cases hneg : value < 0
    · rw [abs_of_neg hneg] at hover hunder
      rw [if_pos (decide_eq_true hneg), neg_mul]
      rcases abs_cases (-((size : ℤ) * tenTo dropped) - value) with hcase | hcase <;> omega
    · rw [abs_of_nonneg (not_lt.1 hneg)] at hover hunder
      rw [if_neg (by simpa using hneg)]
      rcases abs_cases ((size : ℤ) * tenTo dropped - value) with hcase | hcase <;> omega
  have hdiff : d.toRat - value / tenTo scale =
      (d.coefficient * tenTo dropped - value) / (tenTo d.scale * tenTo dropped) := by
    have hne := (tenTo_pos_rat d.scale).ne'
    have hne' := (tenTo_pos_rat dropped).ne'
    rw [toRat, hten]
    field_simp
  have hnear' : |(d.coefficient * tenTo dropped - value : ℚ)| * 2 ≤ tenTo dropped := by
    exact_mod_cast hnear
  have hpos := mul_pos (tenTo_pos_rat d.scale) (tenTo_pos_rat dropped)
  rw [hdiff, abs_div, abs_of_pos hpos, div_le_div_iff₀ hpos (by linarith [tenTo_pos_rat d.scale])]
  have := mul_le_mul_of_nonneg_left hnear' (tenTo_pos_rat d.scale).le
  linarith

/-- A rounded result is exact, or there is no room for one more place. -/
theorem rounded?_full {value : Int} {scale : Nat} {d : Decimal} (h : rounded? value scale = some d) :
    d.toRat = value / tenTo scale ∨ d.scale = maxScale ∨ limit ≤ 10 * d.coefficient.natAbs + 5 := by
  obtain ⟨dropped, hle, hscale, hcoefficient, hfewer⟩ := rounded?_eq_some h
  have hsize : d.coefficient.natAbs = divHalfEven value.natAbs (tenTo dropped) := by
    rw [hcoefficient]
    exact natAbs_signed _ _
  cases dropped with
  | zero =>
    left
    rw [tenTo_zero, divHalfEven_of_dvd Nat.one_pos (one_dvd _), Nat.div_one] at hcoefficient
    have hvalue : d.coefficient = value := by
      rw [hcoefficient]
      split
      · next hneg => rw [Int.ofNat_natAbs_of_nonpos (of_decide_eq_true hneg).le, neg_neg]
      · next hneg => exact Int.natAbs_of_nonneg (by simpa using hneg)
    rw [toRat, hscale, hvalue, Nat.sub_zero]
  | succ fewer =>
    right
    by_cases hroom : scale - fewer ≤ maxScale
    · right
      have hlimit := hfewer fewer (Nat.lt_succ_self fewer) hroom
      have hmore := (divHalfEven_near value.natAbs (tenTo_pos fewer)).1
      have hless := (divHalfEven_near value.natAbs (tenTo_pos (fewer + 1))).2
      rw [← hsize, tenTo_succ] at hless
      have hmul := Nat.mul_le_mul_right (tenTo fewer) hlimit
      have hunits : 2 * limit * tenTo fewer ≤ (20 * d.coefficient.natAbs + 11) * tenTo fewer := by
        linarith
      have := Nat.le_of_mul_le_mul_right hunits (tenTo_pos fewer)
      omega
    · left
      have := d.scale_le
      omega

theorem exists_rounded?_toRat {value : Int} {scale : Nat} {d : Decimal}
    (h : d.toRat = value / tenTo scale) : ∃ r, rounded? value scale = some r ∧ r.toRat = d.toRat := by
  have hcross : d.coefficient * tenTo scale = value * tenTo d.scale := div_tenTo_eq_iff.1 h
  obtain ⟨hdvd, hsize⟩ : (tenTo (scale - d.scale) : Int) ∣ value ∧
      value.natAbs / tenTo (scale - d.scale) < limit := by
    rcases Nat.le_total d.scale scale with hle | hle
    · obtain ⟨zeros, rfl⟩ := Nat.exists_eq_add_of_le hle
      have hvalue : value = d.coefficient * tenTo zeros := by
        refine mul_right_cancel₀ (tenTo_ne_zero_int d.scale) ?_
        rw [← hcross, tenTo_add, Nat.cast_mul]
        ring
      rw [Nat.add_sub_cancel_left]
      refine ⟨hvalue ▸ Dvd.intro_left _ rfl, ?_⟩
      rw [hvalue, Int.natAbs_mul, Int.natAbs_natCast, Nat.mul_div_cancel _ (tenTo_pos zeros)]
      exact d.coefficient_lt
    · obtain ⟨zeros, hzeros⟩ := Nat.exists_eq_add_of_le hle
      have hcoefficient : d.coefficient = value * tenTo zeros := by
        refine mul_right_cancel₀ (tenTo_ne_zero_int scale) ?_
        rw [hcross, hzeros, tenTo_add, Nat.cast_mul]
        ring
      rw [Nat.sub_eq_zero_of_le hle]
      refine ⟨by simp, ?_⟩
      have hlt := d.coefficient_lt
      rw [hcoefficient, Int.natAbs_mul, Int.natAbs_natCast] at hlt
      rw [tenTo_zero, Nat.div_one]
      exact (Nat.le_mul_of_pos_right _ (tenTo_pos zeros)).trans_lt hlt
  have hroom : scale - (scale - d.scale) ≤ maxScale := by
    have := d.scale_le
    omega
  obtain ⟨r, dropped, hr, hdropped, hvalue, hscale⟩ :=
    rounded?_exact (Nat.sub_le scale d.scale) hdvd hsize hroom
  refine ⟨r, hr, h ▸ ?_⟩
  rw [toRat, div_tenTo_eq_iff, ← hvalue, hscale, mul_assoc, ← Nat.cast_mul, ← tenTo_add,
    Nat.add_sub_cancel' hdropped]

theorem toRat_mul (a b : Decimal) :
    a.toRat * b.toRat = (a.coefficient * b.coefficient : ℤ) / tenTo (a.scale + b.scale) := by
  rw [toRat, toRat, div_mul_div_comm, tenTo_add_rat, Int.cast_mul]

end Decimal

namespace Amount

/-! ## The checks on an amount -/

/-- The rational number is above zero, no more than a million, and a whole number of cents. -/
def IsValid (q : ℚ) : Prop :=
  0 < q ∧ q ≤ 1000000 ∧ ∃ cents : ℤ, 100 * q = cents

theorem value_of_ofDecimal {d : Decimal} {a : Amount} (h : ofDecimal d = .ok a) : a.value = d := by
  unfold ofDecimal at h
  split at h
  · split at h
    · split at h
      · rw [← Except.ok.inj h]
      · cases h
    · cases h
  · cases h

/-- Exactly the valid numbers are accepted, at whatever scale. -/
theorem isOk_ofDecimal_iff {d : Decimal} : (∃ a, ofDecimal d = .ok a) ↔ IsValid d.toRat := by
  have hten := Decimal.tenTo_pos_rat d.scale
  have hpositive : 0 < d.toRat ↔ 0 < d.coefficient := by
    rw [Decimal.toRat, div_pos_iff_of_pos_right hten, Int.cast_pos]
  have hbounded : d.toRat ≤ 1000000 ↔ d.coefficient ≤ 1000000 * tenTo d.scale := by
    rw [Decimal.toRat, div_le_iff₀ hten]
    exact_mod_cast Iff.rfl
  have hwhole : (∃ cents : ℤ, 100 * d.toRat = cents) ↔
      (tenTo d.scale : Int) ∣ 100 * d.coefficient := by
    refine exists_congr fun cents => ?_
    rw [Decimal.toRat, mul_div_assoc', div_eq_iff hten.ne', mul_comm (cents : ℚ)]
    exact_mod_cast Iff.rfl
  unfold IsValid
  rw [hpositive, hbounded, hwhole]
  constructor
  · rintro ⟨a, ha⟩
    obtain rfl := value_of_ofDecimal ha
    exact ⟨a.positive, a.bounded, a.wholeCents⟩
  · rintro ⟨hp, hb, hc⟩
    exact ⟨⟨d, hp, hb, hc⟩, by rw [ofDecimal, dif_pos hp, dif_pos hb, dif_pos hc]⟩

theorem IsValid.exists_toRat {q : ℚ} (h : IsValid q) : ∃ d : Decimal, d.toRat = q := by
  obtain ⟨hpos, hle, cents, hcents⟩ := h
  have hfits : cents.natAbs < Decimal.limit := by
    have hnonneg : (0 : ℚ) ≤ cents := by linarith
    have hbound : (cents : ℚ) ≤ 100000000 := by linarith
    have hnonneg' : 0 ≤ cents := by exact_mod_cast hnonneg
    have hbound' : cents ≤ 100000000 := by exact_mod_cast hbound
    unfold Decimal.limit
    omega
  refine ⟨⟨cents, 2, hfits, by decide⟩, ?_⟩
  have hten : (tenTo 2 : ℚ) = 100 := by norm_num [tenTo]
  rw [Decimal.toRat, hten, ← hcents]
  exact mul_div_cancel_left₀ q (by norm_num)

end Amount

end Paydesk
