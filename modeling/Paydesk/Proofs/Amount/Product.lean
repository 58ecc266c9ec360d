import Paydesk.Proofs.Decimal.Rational

/-!
# Products of amounts

`Amount.product_exact_if_fits`: a product that is a decimal number, with a coefficient of 96 bits and
no more than 28 digits after the point, is accepted exactly if it is valid, and then as it is.

The product of a hundredth and a factor may have 30 digits after the point, and that of a million and
a factor 31 significant ones. Such a product is not valid, but it is rounded before it is checked, and
what it is rounded to may be (`product_rounded_to_valid`). At least 22 places are kept then, so no
amount that is accepted is off by more than half a unit of the 22nd place (`multiply_near`).
-/

namespace Paydesk.Amount

open Decimal

variable (a : Amount) (factor : Decimal)

theorem multiply_eq_ofDecimal {d : Decimal} (h : d.toRat = a.value.toRat * factor.toRat) :
    ∃ r, a.multiply factor = ofDecimal r ∧ r.toRat = a.value.toRat * factor.toRat := by
  rw [toRat_mul] at h
  obtain ⟨r, hr, hvalue⟩ := exists_rounded?_toRat h
  refine ⟨r, ?_, by rw [hvalue, h, toRat_mul]⟩
  rw [multiply, mul?, hr]
  rfl

/-- An amount has seven digits before the point, and at least 29 digits in all if it was rounded. -/
theorem exact_or_places {b : Amount} {coefficient : ℤ} {scale : ℕ}
    (h : rounded? coefficient scale = some b.value) :
    b.value.toRat = coefficient / tenTo scale ∨ 22 ≤ b.value.scale := by
  refine (rounded?_full h).imp_right fun hfull => ?_
  by_contra hfew
  have hsmall : tenTo b.value.scale ≤ tenTo 21 :=
    Nat.le_of_dvd (tenTo_pos 21) (tenTo_dvd (by omega))
  have hten : tenTo 21 = 1000000000000000000000 := rfl
  have hbounded := b.bounded
  have hpositive := b.positive
  rcases hfull with hscale | hlimit
  · rw [hscale] at hfew
    exact hfew (by decide)
  · unfold limit at hlimit
    omega

/-- What is accepted is the product, or next to it in the 22nd place. -/
theorem multiply_near {b : Amount} (h : a.multiply factor = .ok b) :
    |b.value.toRat - a.value.toRat * factor.toRat| ≤ 1 / (2 * 10 ^ 22) := by
  rw [multiply, mul?] at h
  cases hr : rounded? (a.value.coefficient * factor.coefficient) (a.value.scale + factor.scale) with
  | none =>
    rw [hr] at h
    cases h
  | some r =>
    rw [hr] at h
    obtain rfl := value_of_ofDecimal h
    rw [toRat_mul]
    rcases exact_or_places hr with hexact | hscale
    · rw [hexact, sub_self, abs_zero]
      positivity
    · refine (rounded?_near hr).trans ?_
      have hten : (tenTo 22 : ℚ) = 10 ^ 22 := Nat.cast_pow 10 22
      have hle : (tenTo 22 : ℚ) ≤ tenTo b.value.scale := by
        exact_mod_cast Nat.le_of_dvd (tenTo_pos _) (tenTo_dvd hscale)
      rw [← hten]
      refine one_div_le_one_div_of_le ?_ ?_
      · linarith [tenTo_pos_rat 22]
      · linarith

/-- **A product is exact if it fits.** The product of an amount and a decimal number is valid exactly
if it is accepted and is a decimal number itself. What is accepted is the product if that is a decimal
number; if it is none, what is accepted is off by half a unit of the 22nd place at most. -/
theorem product_exact_if_fits (a : Amount) (factor : Decimal) :
    let product := a.value.toRat * factor.toRat
    (IsValid product ↔ (∃ b, a.multiply factor = .ok b) ∧ ∃ d : Decimal, d.toRat = product) ∧
    ∀ b, a.multiply factor = .ok b →
      ((∃ d : Decimal, d.toRat = product) → b.value.toRat = product) ∧
      |b.value.toRat - product| ≤ 1 / (2 * 10 ^ 22) := by
  intro product
  have hfits : ∀ d : Decimal, d.toRat = product → ((∃ b, a.multiply factor = .ok b) ↔
      IsValid product) ∧ ∀ b, a.multiply factor = .ok b → b.value.toRat = product := by
    intro d hd
    obtain ⟨r, hr, hvalue⟩ := a.multiply_eq_ofDecimal factor hd
    rw [hr]
    constructor
    · rw [isOk_ofDecimal_iff, hvalue]
    · intro b hb
      rw [value_of_ofDecimal hb]
      exact hvalue
  refine ⟨⟨fun hvalid => ?_, fun ⟨haccepted, d, hd⟩ => ?_⟩, fun b hb => ⟨?_, ?_⟩⟩
  · obtain ⟨d, hd⟩ := hvalid.exists_toRat
    exact ⟨(hfits d hd).1.2 hvalid, d, hd⟩
  · exact (hfits d hd).1.1 haccepted
  · rintro ⟨d, hd⟩
    exact (hfits d hd).2 b hb
  · exact a.multiply_near factor hb

def threeCents : Amount :=
  ⟨⟨3, 2, by decide, by decide⟩, by decide, by decide, by decide⟩

/-- The largest decimal number below one. -/
def belowOne : Decimal :=
  ⟨9999999999999999999999999999, 28, by decide, by decide⟩

/-- The product of three cents and a number below one is no whole number of cents, but is rounded to
three cents before it is checked. -/
theorem product_rounded_to_valid :
    (∃ b, threeCents.multiply belowOne = .ok b ∧ b.cents = 3) ∧
    ¬ IsValid (threeCents.value.toRat * belowOne.toRat) := by
  refine ⟨⟨⟨⟨300000000000000000000000000, 28, by decide, by decide⟩, by decide, by decide,
    by decide⟩, by decide, by decide⟩, ?_⟩
  rintro ⟨-, -, cents, hcents⟩
  have hunits : (29999999999999999999999999997 : ℚ) = cents * 10000000000000000000000000000 := by
    have hamount : threeCents.value.toRat = 3 / 100 := by norm_num [threeCents, toRat, tenTo]
    have hbelow : belowOne.toRat =
        9999999999999999999999999999 / 10000000000000000000000000000 := by
      norm_num [belowOne, toRat, tenTo]
    rw [hamount, hbelow] at hcents
    linarith
  have hunits' : (29999999999999999999999999997 : ℤ) = cents * 10000000000000000000000000000 := by
    exact_mod_cast hunits
  omega

end Paydesk.Amount
