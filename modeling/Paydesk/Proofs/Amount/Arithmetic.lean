import Paydesk.Proofs.Amount.Cents
import Paydesk.Proofs.Decimal.Text

/-!
# Arithmetic in cents

`Amount.exact_in_cents`: to calculate with amounts is to calculate with their cents. Sum and
difference are those of the cents, and are refused exactly if these leave the range; order and
equality are those of the cents; and the text with two digits after the point is that of the cents.

Scales play no part. A sum or difference of whole cents is exact whatever the scales of its sides
(`Decimal.add?_isCents`, `Decimal.sub?_isCents`), so the checks on it look at its cents only
(`map_cents_ofDecimal`). What is printed of an amount at its own scale is the text of its cents
(`formatted_eq`), so that of a number at scale two, and that number is read back from it.
-/

namespace Paydesk.Amount

open Decimal

variable (a b : Amount)

/-! ## Sum and difference -/

/-- The checks on a number of whole cents are checks on the cents. -/
theorem map_cents_ofDecimal {d : Decimal} {c : Int} (h : d.IsCents c) :
    (ofDecimal d).map cents =
      if 0 < c then if c ≤ 100000000 then .ok c.toNat else .error .amountTooLarge
      else .error .amountNotPositive := by
  have hten := tenTo_pos_int d.scale
  have hcoefficient : 100 * d.coefficient = c * tenTo d.scale := h
  by_cases hpos : 0 < c
  · have hpositive : 0 < d.coefficient := by
      have := mul_pos hpos hten
      omega
    rw [if_pos hpos]
    by_cases hle : c ≤ 100000000
    · rw [← Int.toNat_of_nonneg hpos.le] at h
      obtain ⟨a, ha, hcents⟩ := exists_ofDecimal h (by omega) (by omega)
      rw [if_pos hle, ha, ← hcents]
      rfl
    · have hlarge : ¬ d.coefficient ≤ 1000000 * tenTo d.scale := by
        have := mul_lt_mul_of_pos_right (not_le.1 hle) hten
        omega
      rw [if_neg hle, ofDecimal, dif_pos hpositive, dif_neg hlarge]
      rfl
  · have hnot : ¬ 0 < d.coefficient := by
      have := mul_nonpos_of_nonpos_of_nonneg (not_lt.1 hpos) hten.le
      omega
    rw [if_neg hpos, ofDecimal, dif_neg hnot]
    rfl

theorem map_cents_add : (a.add b).map cents =
    if a.cents + b.cents ≤ 100000000 then .ok (a.cents + b.cents) else .error .amountTooLarge := by
  have hpos := a.cents_pos
  have hle := a.cents_le
  have hle' := b.cents_le
  obtain ⟨d, hd, hcents⟩ := add?_isCents a.hundred_mul_coefficient b.hundred_mul_coefficient
    (by omega)
  rw [← Nat.cast_add] at hcents
  unfold add
  rw [hd, ofResult, map_cents_ofDecimal hcents, if_pos (by omega), Int.toNat_natCast]
  norm_cast

theorem exists_sub? : ∃ d, a.value.sub? b.value = some d ∧ d.IsCents (a.cents - b.cents) := by
  have hle := a.cents_le
  have hle' := b.cents_le
  exact sub?_isCents a.hundred_mul_coefficient b.hundred_mul_coefficient (by omega)

theorem map_cents_subtract : (a.subtract b).map cents =
    if b.cents < a.cents then .ok (a.cents - b.cents) else .error .amountNotPositive := by
  have hle := a.cents_le
  obtain ⟨d, hd, hcents⟩ := a.exists_sub? b
  unfold subtract
  rw [hd, ofResult, map_cents_ofDecimal hcents]
  by_cases hlt : b.cents < a.cents
  · rw [if_pos hlt, if_pos (by omega), if_pos (by omega), Int.toNat_sub]
  · rw [if_neg hlt, if_neg (by omega)]

/-! ## Equality -/

theorem sameValue_iff : a.sameValue b = true ↔ a.cents = b.cents := by
  have hcompare := a.compare_eq b
  unfold compare Decimal.compare at hcompare
  unfold sameValue Decimal.sameValue
  rw [beq_iff_eq, ← compare_eq_iff_eq, hcompare, compare_eq_iff_eq]

/-! ## The text -/

/-- The digits that are printed of the stored number are those of the cents. -/
theorem formatted_eq : a.formatted = String.ofList (sizeText a.cents 2) := by
  have hpositive := a.positive
  have hsize : a.value.coefficient.natAbs * 10 ^ 2 = a.cents * 10 ^ a.value.scale := by
    have hcents : 100 * a.value.coefficient = a.cents * tenTo a.value.scale :=
      a.hundred_mul_coefficient
    have hunits : a.value.coefficient.natAbs * 100 = a.cents * tenTo a.value.scale := by
      zify
      rw [abs_of_pos hpositive, mul_comm, hcents]
    exact hunits
  have hsign : ¬ a.value.coefficient < 0 := not_lt.2 hpositive.le
  simp only [formatted, fixedText, if_neg hsign, fixedSize_eq hsize]

theorem exists_formatted :
    ∃ d : Decimal, a.formatted = d.toText ∧ d.scale = 2 ∧ d.IsCents a.cents := by
  have hfits : (a.cents : Int).natAbs < limit := by
    rw [Int.natAbs_natCast]
    exact Nat.lt_of_le_of_lt a.cents_le (by decide)
  refine ⟨⟨a.cents, 2, hfits, by decide⟩, ?_, rfl, mul_comm _ _⟩
  have hsign : ¬ (a.cents : Int) < 0 := Int.not_lt.2 (Int.natCast_nonneg a.cents)
  simp only [formatted_eq, toText, if_neg hsign, Int.natAbs_natCast]

theorem exists_read?_formatted : ∃ d c, read? a.formatted = some d ∧ d.scale = 2 ∧
    ofDecimal d = .ok c ∧ c.cents = a.cents := by
  obtain ⟨d, htext, hscale, hcents⟩ := a.exists_formatted
  obtain ⟨c, hc, hsame⟩ := exists_ofDecimal hcents a.cents_pos a.cents_le
  exact ⟨d, c, htext ▸ read?_toText d, hscale, hc, hsame⟩

theorem formatted_eq_iff : a.formatted = b.formatted ↔ a.cents = b.cents := by
  constructor
  · intro h
    obtain ⟨d, c, hread, -, hc, hcents⟩ := a.exists_read?_formatted
    obtain ⟨d', c', hread', -, hc', hcents'⟩ := b.exists_read?_formatted
    rw [h, hread'] at hread
    obtain rfl := Option.some.inj hread
    rw [hc'] at hc
    obtain rfl := Except.ok.inj hc
    exact hcents.symm.trans hcents'
  · intro h
    rw [formatted_eq, formatted_eq, h]

/-- **Arithmetic in cents.** At whatever scale two amounts are written: each is a whole number of
cents between one cent and a million. Their sum is the amount of the sum of the cents if that is no
more than a million, and refused otherwise; their difference can always be calculated, and is the
amount of the difference of the cents if that is above zero, and refused otherwise. They compare as
their cents do. The text of an amount is that of its cents with two digits after the point; it is
read back as an amount of the same value, and two amounts of one value, and no others, share it. -/
theorem exact_in_cents :
    (100 * a.value.coefficient = a.cents * 10 ^ a.value.scale ∧
      1 ≤ a.cents ∧ a.cents ≤ 100000000) ∧
    (a.add b).map cents =
      (if a.cents + b.cents ≤ 100000000 then .ok (a.cents + b.cents)
        else .error .amountTooLarge) ∧
    ((a.value.sub? b.value).isSome ∧ (a.subtract b).map cents =
      if b.cents < a.cents then .ok (a.cents - b.cents) else .error .amountNotPositive) ∧
    (a.compare b = Ord.compare a.cents b.cents ∧ (a.sameValue b = true ↔ a.cents = b.cents)) ∧
    (a.formatted = String.ofList
        (Text.natDigits (a.cents / 100) ++ '.' :: Text.padded 2 (a.cents % 100)) ∧
      (∃ d c, read? a.formatted = some d ∧ d.scale = 2 ∧ ofDecimal d = .ok c ∧
        c.sameValue a = true) ∧
      (a.formatted = b.formatted ↔ a.sameValue b = true)) := by
  refine ⟨⟨?_, a.cents_pos, a.cents_le⟩, a.map_cents_add b, ⟨?_, a.map_cents_subtract b⟩,
    ⟨a.compare_eq b, a.sameValue_iff b⟩, ?_, ?_, ?_⟩
  · have hten : (tenTo a.value.scale : Int) = 10 ^ a.value.scale := Nat.cast_pow 10 a.value.scale
    rw [← hten]
    exact a.hundred_mul_coefficient
  · obtain ⟨d, hd, -⟩ := a.exists_sub? b
    rw [hd]
    rfl
  · rw [formatted_eq, sizeText_eq (by decide)]
    rfl
  · obtain ⟨d, c, hread, hscale, hc, hcents⟩ := a.exists_read?_formatted
    exact ⟨d, c, hread, hscale, hc, (c.sameValue_iff a).2 hcents⟩
  · rw [formatted_eq_iff, sameValue_iff]

end Paydesk.Amount
