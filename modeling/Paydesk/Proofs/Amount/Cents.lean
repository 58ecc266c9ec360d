import Paydesk.Amount
import Mathlib.Tactic.Linarith
import Mathlib.Tactic.Ring

/-!
# Amounts as whole cents

An amount is a whole number of cents, whatever scale it was written at: `hundred_mul_coefficient`.
Order, sum and difference of amounts are those of their cents: `exceeds_iff`, `exists_add`,
`cents_of_add`, `exists_subtract`, `lt_of_subtract`.

The arithmetic of decimals drops digits when a result does not fit. A sum of whole cents ends in
zeros wherever more than two digits stand after the point, so only zeros are dropped
(`rounded?_exact`), and the checks of `Amount.ofDecimal` then read off the cents (`ofDecimal_iff`).
-/

namespace Paydesk

/-! ## Decimal numbers in cents -/

namespace Decimal

/-- The number is `c` cents. -/
def IsCents (d : Decimal) (c : Int) : Prop :=
  100 * d.coefficient = c * tenTo d.scale

theorem tenTo_dvd {m n : Nat} (h : m ≤ n) : tenTo m ∣ tenTo n := by
  obtain ⟨k, rfl⟩ := Nat.exists_eq_add_of_le h
  rw [tenTo_add]
  exact Nat.dvd_mul_right _ _

theorem tenTo_pos_int (n : Nat) : (0 : Int) < tenTo n := by
  exact_mod_cast tenTo_pos n

theorem tenTo_ne_zero_int (n : Nat) : (tenTo n : Int) ≠ 0 :=
  (tenTo_pos_int n).ne'

theorem ofParts?_eq_some {negative : Bool} {size scale : Nat} {d : Decimal}
    (h : ofParts? negative size scale = some d) :
    d.coefficient = (if negative then -(size : Int) else (size : Int)) ∧ d.scale = scale := by
  unfold ofParts? at h
  split at h
  · obtain rfl := Option.some.inj h
    exact ⟨rfl, rfl⟩
  · simp at h

theorem ofParts?_isSome (negative : Bool) {size scale : Nat} (hsize : size < limit)
    (hscale : scale ≤ maxScale) : (ofParts? negative size scale).isSome := by
  unfold ofParts?
  rw [dif_pos ⟨hsize, hscale⟩]
  rfl

theorem signed_div_mul {value : Int} {k : Nat} (h : (tenTo k : Int) ∣ value) :
    (if decide (value < 0) then -((value.natAbs / tenTo k : Nat) : Int)
      else ((value.natAbs / tenTo k : Nat) : Int)) * tenTo k = value := by
  have hsize : value.natAbs / tenTo k * tenTo k = value.natAbs :=
    Nat.div_mul_cancel (Int.natCast_dvd.1 h)
  have hsize' : ((value.natAbs / tenTo k : Nat) : Int) * tenTo k = value.natAbs := by
    exact_mod_cast hsize
  by_cases hneg : value < 0
  · rw [if_pos (by simpa using hneg), neg_mul, hsize']
    omega
  · rw [if_neg (by simpa using hneg), hsize']
    omega

/-- A rounded result is the nearest whole number of units of the place up to which digits were
dropped, and fewer digits could not be dropped. -/
theorem rounded?_eq_some {value : Int} {scale : Nat} {d : Decimal}
    (h : rounded? value scale = some d) :
    ∃ dropped ≤ scale, d.scale = scale - dropped ∧
      d.coefficient = (if decide (value < 0) then
        -(divHalfEven value.natAbs (tenTo dropped) : Int)
        else divHalfEven value.natAbs (tenTo dropped)) ∧
      ∀ fewer < dropped, scale - fewer ≤ maxScale →
        limit ≤ divHalfEven value.natAbs (tenTo fewer) := by
  unfold rounded? at h
  obtain ⟨before, dropped, after, hrange, hd, hnone⟩ := List.findSome?_eq_some_iff.1 h
  have hmem : dropped ∈ List.range (scale + 1) := by simp [hrange]
  obtain ⟨hcoefficient, hscale⟩ := ofParts?_eq_some hd
  refine ⟨dropped, Nat.lt_succ_iff.1 (List.mem_range.1 hmem), hscale, hcoefficient, ?_⟩
  intro fewer hfewer hroom
  -- the numbers that are tried before `dropped` are the smaller ones
  have hbefore : fewer ∈ before := by
    have hsorted : (before ++ dropped :: after).Pairwise (· < ·) := hrange ▸ List.pairwise_lt_range
    have hall : fewer ∈ before ++ dropped :: after := by
      rw [← hrange, List.mem_range]
      exact hfewer.trans (List.mem_range.1 hmem)
    rcases List.mem_append.1 hall with hfront | hrest
    · exact hfront
    · rcases List.mem_cons.1 hrest with rfl | hafter
      · exact absurd hfewer (lt_irrefl fewer)
      · have hlater := (List.pairwise_cons.1 (List.pairwise_append.1 hsorted).2.1).1 fewer hafter
        exact absurd hfewer hlater.asymm
  by_contra hlimit
  have hsome := ofParts?_isSome (decide (value < 0)) (not_le.1 hlimit) hroom
  rw [hnone fewer hbefore] at hsome
  cases hsome

/-- A result that fits without its last `k` zeros is exact: at most these are dropped. -/
theorem rounded?_exact {value : Int} {scale k : Nat} (hk : k ≤ scale)
    (hdvd : (tenTo k : Int) ∣ value) (hsize : value.natAbs / tenTo k < limit)
    (hscale : scale - k ≤ maxScale) :
    ∃ d j, rounded? value scale = some d ∧ j ≤ scale ∧ d.coefficient * tenTo j = value ∧
      d.scale = scale - j := by
  have exact_at : ∀ j ≤ k, divHalfEven value.natAbs (tenTo j) = value.natAbs / tenTo j := by
    intro j hj
    refine divHalfEven_of_dvd (tenTo_pos j) ?_
    exact (tenTo_dvd hj).trans (Int.natCast_dvd.1 hdvd)
  have hsome : (rounded? value scale).isSome := by
    unfold rounded?
    rw [List.findSome?_isSome_iff]
    refine ⟨k, List.mem_range.2 (by omega), ?_⟩
    rw [exact_at k le_rfl]
    exact ofParts?_isSome _ hsize hscale
  obtain ⟨d, hd⟩ := Option.isSome_iff_exists.1 hsome
  obtain ⟨j, hj, hds, hcoefficient, hfewer⟩ := rounded?_eq_some hd
  -- no more than `k` digits are dropped, since it fits without them
  have hjk : j ≤ k := by
    by_contra hlt
    have hlimit := hfewer k (not_le.1 hlt) hscale
    rw [exact_at k le_rfl] at hlimit
    exact absurd hsize (not_lt.2 hlimit)
  rw [exact_at j hjk] at hcoefficient
  refine ⟨d, j, hd, hj, ?_, hds⟩
  rw [hcoefficient]
  exact signed_div_mul ((Int.natCast_dvd_natCast.2 (tenTo_dvd hjk)).trans hdvd)

theorem rounded?_isCents {value c : Int} {scale : Nat} (h : 100 * value = c * tenTo scale)
    (hscale : scale ≤ maxScale) (hc : c.natAbs ≤ 1000000000) :
    ∃ d, rounded? value scale = some d ∧ d.IsCents c := by
  obtain ⟨k, hk, hdvd, hsize⟩ : ∃ k, k ≤ scale ∧ (tenTo k : Int) ∣ value ∧
      value.natAbs / tenTo k < limit := by
    by_cases htwo : 2 ≤ scale
    · obtain ⟨k, rfl⟩ := Nat.exists_eq_add_of_le' htwo
      have hvalue : value = c * tenTo k := by
        have hten : (tenTo (k + 2) : Int) = tenTo k * 100 := by
          rw [tenTo_add]; push_cast; rfl
        rw [hten] at h
        linarith
      refine ⟨k, by omega, ⟨c, by rw [hvalue, mul_comm]⟩, ?_⟩
      rw [hvalue, Int.natAbs_mul, Int.natAbs_natCast, Nat.mul_div_cancel _ (tenTo_pos k)]
      unfold limit
      omega
    · refine ⟨0, Nat.zero_le _, by simp, ?_⟩
      have hten : tenTo scale ≤ 10 :=
        Nat.le_of_dvd (by decide) (tenTo_dvd (n := 1) (by omega))
      have habs : 100 * value.natAbs = c.natAbs * tenTo scale := by
        have := congrArg Int.natAbs h
        simpa [Int.natAbs_mul] using this
      have : c.natAbs * tenTo scale ≤ 1000000000 * 10 :=
        Nat.mul_le_mul hc hten
      simp only [tenTo_zero, Nat.div_one]
      unfold limit
      omega
  obtain ⟨d, j, hd, hj, hcoefficient, hds⟩ := rounded?_exact hk hdvd hsize (by omega)
  refine ⟨d, hd, ?_⟩
  unfold IsCents
  have hten : (tenTo scale : Int) = tenTo d.scale * tenTo j := by
    rw [hds, ← Nat.cast_mul, ← tenTo_add, Nat.sub_add_cancel hj]
  refine mul_right_cancel₀ (tenTo_ne_zero_int j) ?_
  calc 100 * d.coefficient * tenTo j = 100 * value := by rw [mul_assoc, hcoefficient]
    _ = c * tenTo d.scale * tenTo j := by rw [h, hten, mul_assoc]

theorem atScale_isCents {d : Decimal} {c : Int} {scale : Nat} (h : d.IsCents c)
    (hscale : d.scale ≤ scale) : 100 * d.atScale scale = c * tenTo scale := by
  unfold IsCents at h
  unfold atScale
  have hten : (tenTo scale : Int) = tenTo d.scale * tenTo (scale - d.scale) := by
    rw [← Nat.cast_mul, ← tenTo_add, Nat.add_sub_cancel' hscale]
  rw [hten, ← mul_assoc, h, mul_assoc]

theorem add?_isCents {a b : Decimal} {m n : Int} (ha : a.IsCents m) (hb : b.IsCents n)
    (hc : (m + n).natAbs ≤ 1000000000) : ∃ d, a.add? b = some d ∧ d.IsCents (m + n) := by
  have hscale : max a.scale b.scale ≤ maxScale := max_le a.scale_le b.scale_le
  refine rounded?_isCents ?_ hscale hc
  rw [mul_add, atScale_isCents ha (le_max_left _ _), atScale_isCents hb (le_max_right _ _),
    add_mul]

theorem sub?_isCents {a b : Decimal} {m n : Int} (ha : a.IsCents m) (hb : b.IsCents n)
    (hc : (m - n).natAbs ≤ 1000000000) : ∃ d, a.sub? b = some d ∧ d.IsCents (m - n) := by
  have hscale : max a.scale b.scale ≤ maxScale := max_le a.scale_le b.scale_le
  refine rounded?_isCents ?_ hscale hc
  rw [mul_sub, atScale_isCents ha (le_max_left _ _), atScale_isCents hb (le_max_right _ _),
    sub_mul]

end Decimal

/-! ## Amounts in cents -/

namespace Amount

open Decimal

/-- The number of cents is exact. -/
theorem hundred_mul_coefficient (a : Amount) : a.value.IsCents a.cents := by
  obtain ⟨c, hc⟩ := a.wholeCents
  have hpos := tenTo_pos_int a.value.scale
  have hcents : (a.cents : Int) = c := by
    have hnonneg : 0 ≤ c := by
      have := a.positive
      by_contra hneg
      have : (tenTo a.value.scale : Int) * c < 0 := mul_neg_of_pos_of_neg hpos (by omega)
      omega
    unfold cents
    rw [hc, Int.mul_ediv_cancel_left _ hpos.ne', Int.toNat_of_nonneg hnonneg]
  unfold IsCents
  rw [hcents, hc, mul_comm]

theorem isCents_iff (a : Amount) (c : Int) : a.value.IsCents c ↔ c = a.cents := by
  constructor
  · intro h
    unfold IsCents at h
    have := hundred_mul_coefficient a
    unfold IsCents at this
    exact mul_right_cancel₀ (tenTo_ne_zero_int a.value.scale) (h.symm.trans this)
  · rintro rfl
    exact hundred_mul_coefficient a

theorem cents_pos (a : Amount) : 0 < a.cents := by
  have h := hundred_mul_coefficient a
  unfold IsCents at h
  have := a.positive
  rcases Nat.eq_zero_or_pos a.cents with hzero | hpos
  · rw [hzero] at h
    simp at h
    omega
  · exact hpos

theorem cents_le (a : Amount) : a.cents ≤ 100000000 := by
  have h := hundred_mul_coefficient a
  unfold IsCents at h
  have hle : (a.cents : Int) * tenTo a.value.scale ≤ 100000000 * tenTo a.value.scale := by
    have := a.bounded
    linarith
  exact_mod_cast le_of_mul_le_mul_right hle (tenTo_pos_int a.value.scale)

/-- The checks on a number of whole cents look at the cents only. -/
theorem ofDecimal_iff {d : Decimal} {c : Int} (h : d.IsCents c) (a : Amount) :
    ofDecimal d = .ok a ↔ a.value = d ∧ 0 < c ∧ c ≤ 100000000 := by
  constructor
  · intro ha
    have hvalue : a.value = d := by
      unfold ofDecimal at ha
      split_ifs at ha
      obtain rfl := Except.ok.inj ha
      rfl
    have hc : c = a.cents := (isCents_iff a c).1 (hvalue ▸ h)
    have := a.cents_pos
    have := a.cents_le
    exact ⟨hvalue, by omega, by omega⟩
  · rintro ⟨rfl, -, -⟩
    unfold ofDecimal
    rw [dif_pos a.positive, dif_pos a.bounded, dif_pos a.wholeCents]

theorem exists_ofDecimal {d : Decimal} {c : Nat} (h : d.IsCents c) (hpos : 0 < c)
    (hle : c ≤ 100000000) : ∃ a, ofDecimal d = .ok a ∧ a.cents = c := by
  unfold IsCents at h
  have hten := tenTo_pos_int d.scale
  have hp : 0 < d.coefficient := by
    have : (0 : Int) < c * tenTo d.scale := mul_pos (by exact_mod_cast hpos) hten
    omega
  have hb : d.coefficient ≤ 1000000 * tenTo d.scale := by
    have : (c : Int) * tenTo d.scale ≤ 100000000 * tenTo d.scale :=
      mul_le_mul_of_nonneg_right (by exact_mod_cast hle) hten.le
    linarith
  have hw : (tenTo d.scale : Int) ∣ 100 * d.coefficient := ⟨c, by rw [h, mul_comm]⟩
  refine ⟨⟨d, hp, hb, hw⟩, ?_, ?_⟩
  · unfold ofDecimal
    rw [dif_pos hp, dif_pos hb, dif_pos hw]
  · have := (isCents_iff ⟨d, hp, hb, hw⟩ c).1 h
    exact_mod_cast this.symm

/-! ## Order -/

theorem compare_eq (a b : Amount) : a.compare b = Ord.compare a.cents b.cents := by
  have ha := hundred_mul_coefficient a
  have hb := hundred_mul_coefficient b
  unfold IsCents at ha hb
  have hs := mul_pos (tenTo_pos_int a.value.scale) (tenTo_pos_int b.value.scale)
  -- both sides are brought to the sum of the scales
  have hleft : 100 * (a.value.coefficient * tenTo b.value.scale) =
      a.cents * ((tenTo a.value.scale : Int) * tenTo b.value.scale) := by
    rw [← mul_assoc, ha, mul_assoc]
  have hright : 100 * (b.value.coefficient * tenTo a.value.scale) =
      b.cents * ((tenTo a.value.scale : Int) * tenTo b.value.scale) := by
    rw [← mul_assoc, hb, mul_assoc, mul_comm (tenTo b.value.scale : Int)]
  unfold compare Decimal.compare
  rcases lt_trichotomy a.cents b.cents with hlt | heq | hgt
  · rw [compare_lt_iff_lt.2 hlt, compare_lt_iff_lt]
    have : (a.cents : Int) * (tenTo a.value.scale * tenTo b.value.scale) <
        b.cents * (tenTo a.value.scale * tenTo b.value.scale) :=
      mul_lt_mul_of_pos_right (by exact_mod_cast hlt) hs
    omega
  · rw [compare_eq_iff_eq.2 heq, compare_eq_iff_eq]
    rw [heq] at hleft
    omega
  · rw [compare_gt_iff_gt.2 hgt, compare_gt_iff_gt]
    have : (b.cents : Int) * (tenTo a.value.scale * tenTo b.value.scale) <
        a.cents * (tenTo a.value.scale * tenTo b.value.scale) :=
      mul_lt_mul_of_pos_right (by exact_mod_cast hgt) hs
    omega

theorem exceeds_iff (a b : Amount) : a.exceeds b = true ↔ b.cents < a.cents := by
  unfold exceeds
  rw [compare_eq, beq_iff_eq, compare_gt_iff_gt]

theorem exceeds_eq_decide (a b : Amount) : a.exceeds b = decide (b.cents < a.cents) := by
  rw [Bool.eq_iff_iff, exceeds_iff, decide_eq_true_iff]

theorem exceeds_eq_false_iff (a b : Amount) : a.exceeds b = false ↔ a.cents ≤ b.cents := by
  rw [← Bool.not_eq_true, exceeds_iff, not_lt]

/-! ## Sum and difference -/

theorem exists_add {a b : Amount} (h : a.cents + b.cents ≤ 100000000) :
    ∃ c, a.add b = .ok c ∧ c.cents = a.cents + b.cents := by
  obtain ⟨d, hd, hc⟩ := add?_isCents a.hundred_mul_coefficient b.hundred_mul_coefficient
    (by omega)
  rw [← Nat.cast_add] at hc
  obtain ⟨c, hok, hcents⟩ := exists_ofDecimal hc (Nat.add_pos_left a.cents_pos _) h
  refine ⟨c, ?_, hcents⟩
  unfold add
  rw [hd]
  exact hok

theorem cents_of_add {a b c : Amount} (h : a.add b = .ok c) : c.cents = a.cents + b.cents := by
  have hle := a.cents_le
  have hle' := b.cents_le
  obtain ⟨d, hd, hc⟩ := add?_isCents a.hundred_mul_coefficient b.hundred_mul_coefficient
    (by omega)
  unfold add at h
  rw [hd] at h
  obtain ⟨hvalue, -, -⟩ := (ofDecimal_iff hc c).1 h
  have := (isCents_iff c _).1 (hvalue ▸ hc)
  omega

theorem exists_subtract {a b : Amount} (h : b.cents < a.cents) :
    ∃ c, a.subtract b = .ok c ∧ c.cents = a.cents - b.cents := by
  have hle := a.cents_le
  obtain ⟨d, hd, hc⟩ := sub?_isCents a.hundred_mul_coefficient b.hundred_mul_coefficient
    (by omega)
  rw [← Nat.cast_sub h.le] at hc
  obtain ⟨c, hok, hcents⟩ := exists_ofDecimal hc (Nat.sub_pos_of_lt h) (by omega)
  refine ⟨c, ?_, hcents⟩
  unfold subtract
  rw [hd]
  exact hok

/-- No more than the whole can be taken away: a difference that exists is above zero. -/
theorem lt_of_subtract {a b c : Amount} (h : a.subtract b = .ok c) : b.cents < a.cents := by
  have hle := a.cents_le
  have hle' := b.cents_le
  obtain ⟨d, hd, hc⟩ := sub?_isCents a.hundred_mul_coefficient b.hundred_mul_coefficient
    (by omega)
  unfold subtract at h
  rw [hd] at h
  have := ((ofDecimal_iff hc c).1 h).2.1
  omega

end Amount

end Paydesk
