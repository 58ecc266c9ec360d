import Paydesk.Proofs.Amount.Cents
import Paydesk.Proofs.Binary64.Near

/-!
# Amounts as doubles

The double of an amount is above zero (`Amount.toBinary64_pos`). What is rounded to a whole number on
the way is near the digits of the amount, and these are not zero (`Binary64.Near.round`).
-/

namespace Paydesk

namespace Binary64

-- the number of units in one has hundreds of digits and is not to be written out
section

attribute [local irreducible] one

theorem near_whole (m : Nat) : (Binary64.finite false (m * one)).Near 0 m :=
  ⟨m * one, rfl, by push_cast; linarith, by push_cast; linarith⟩

/-- A double near a size of one or more is rounded to a whole number that is not zero, and hardly
larger. -/
theorem Near.round {k size : Nat} {x : Binary64} (h : x.Near k size) (hk : k ≤ maxRoundings)
    (hsize : 0 < size) :
    ∃ m, x.round = .finite false (m * one) ∧ 0 < m ∧ m ≤ 2 * size + 1 := by
  obtain ⟨units, rfl, hlow, hhigh⟩ := h
  have hslack := slack_pow_le hk
  have hsome : (1 : ℚ) ≤ size := by exact_mod_cast hsize
  have hpos := one_pos_rat
  have hbelow : one ≤ units * 2 := by
    have hcast : (one : ℚ) ≤ units * 2 :=
      calc (one : ℚ) = 1 * one := (one_mul _).symm
        _ ≤ size * one := by gcongr
        _ ≤ units * slack ^ k := hlow
        _ ≤ units * 2 := by gcongr
    exact_mod_cast hcast
  have habove : units ≤ size * one * 2 := by
    have hcast : (units : ℚ) ≤ size * one * 2 := hhigh.trans (by gcongr)
    exact_mod_cast hcast
  have hone := one_pos
  refine ⟨divHalfUp units one, rfl, Nat.div_pos (by omega) (by omega), ?_⟩
  have hlt : 2 * units + one < (2 * size + 1 + 1) * (2 * one) :=
    calc 2 * units + one ≤ 2 * (size * one * 2) + one := by omega
      _ < 2 * (size * one * 2) + 4 * one := by omega
      _ = (2 * size + 1 + 1) * (2 * one) := by ring
  exact Nat.lt_succ_iff.1 ((Nat.div_lt_iff_lt_mul (by omega)).2 hlt)

end

end Binary64

open Binary64

theorem isModerate_div_tenTo {n scale : Nat} (hn : n ≤ 10 ^ 60) (hscale : scale ≤ 28) :
    IsModerate (n / tenTo scale : ℚ) := by
  rcases Nat.eq_zero_or_pos n with rfl | hpos
  · exact .inl (by simp)
  · have hten : (tenTo scale : ℚ) ≤ 10 ^ 28 := by
      exact_mod_cast (Nat.pow_le_pow_right (by decide) hscale : tenTo scale ≤ 10 ^ 28)
    have hone : (1 : ℚ) ≤ tenTo scale := by exact_mod_cast tenTo_pos scale
    have hn_low : (1 : ℚ) ≤ n := by exact_mod_cast hpos
    have hn_high : (n : ℚ) ≤ 10 ^ 60 := by exact_mod_cast hn
    refine .inr ⟨?_, (div_le_self (by linarith) hone).trans hn_high⟩
    calc (1 / 10 ^ 60 : ℚ) ≤ 1 / 10 ^ 28 := by norm_num
      _ ≤ n / tenTo scale := by gcongr

namespace Decimal

theorem near_fraction (size : Nat) {scale : Nat} (hscale : scale ≤ 28) :
    ((ofNat (size % tenTo scale)).div (ofNat (tenTo scale))).Near 3
      ((size % tenTo scale : Nat) / tenTo scale) := by
  have hten : tenTo scale ≤ 10 ^ 60 := Nat.pow_le_pow_right (by decide) (by omega)
  have hrest : size % tenTo scale ≤ 10 ^ 60 := (Nat.mod_lt size (tenTo_pos scale)).le.trans hten
  have hquotient := (near_ofNat hrest).div (near_ofNat hten) (tenTo_pos_rat scale) (by decide)
    (isModerate_div_tenTo hrest hscale)
  exact hquotient

theorem whole_add_fraction (size scale : Nat) :
    ((size / tenTo scale : Nat) : ℚ) + (size % tenTo scale : Nat) / tenTo scale =
      size / tenTo scale := by
  have hten := (tenTo_pos_rat scale).ne'
  rw [eq_div_iff hten, add_mul, div_mul_cancel₀ _ hten]
  exact_mod_cast Nat.div_add_mod' size (tenTo scale)

theorem sizeToBinary64_pos {size scale : Nat} (hscale : scale ≤ 28) (hlow : 0 < size)
    (hhigh : size ≤ 1000000 * tenTo scale) :
    ∃ units, sizeToBinary64 size scale = .finite false units ∧ 0 < units := by
  have hten : tenTo scale ≤ 10 ^ 28 := Nat.pow_le_pow_right (by decide) hscale
  have hten_pos := tenTo_pos_rat scale
  have hsize : size ≤ 10 ^ 34 := hhigh.trans (by omega)
  have hlow' : (0 : ℚ) < size := by exact_mod_cast hlow
  have hlarge : ∀ {n : Nat}, n ≤ 10 ^ 35 → n ≤ 10 ^ 60 := fun h => h.trans (by norm_num)
  have hwhole : (ofNat (size / tenTo scale)).Near 1 (size / tenTo scale : Nat) :=
    near_ofNat (hlarge ((Nat.div_le_self _ _).trans (by omega)))
  have hfraction := near_fraction size hscale
  have hsplit := whole_add_fraction size scale
  unfold sizeToBinary64
  split
  · exact (near_ofNat (hlarge (by omega))).pos hlow'
  · dsimp only
    split
    · next hzero =>
      -- nothing stands behind the point
      refine hwhole.pos ?_
      rw [hfraction.isZero_iff.1 hzero, add_zero] at hsplit
      rw [hsplit]
      exact div_pos hlow' hten_pos
    · have hpower := near_pow_ten (hscale.trans (by decide : 28 ≤ 30))
      have hsum := (hwhole.mono (by decide)).add hfraction (by decide)
        (hsplit ▸ isModerate_div_tenTo (hlarge (by omega)) hscale)
      rw [hsplit] at hsum
      have hcancel : (size / tenTo scale : ℚ) * tenTo scale = size :=
        div_mul_cancel₀ _ hten_pos.ne'
      have hmoderate : IsModerate ((size / tenTo scale : ℚ) * tenTo scale) := by
        rw [hcancel]
        exact isModerate_natCast (hlarge (by omega))
      have hdigits := hsum.mul hpower (by unfold maxRoundings; omega) hmoderate
      rw [hcancel] at hdigits
      obtain ⟨m, hm, hm_pos, hm_le⟩ := hdigits.round (by unfold maxRoundings; omega) hlow
      have hm_large : m ≤ 10 ^ 60 := hlarge (by omega)
      rw [hm]
      refine ((near_whole m).div hpower hten_pos (by unfold maxRoundings; omega)
        (isModerate_div_tenTo hm_large hscale)).pos ?_
      exact div_pos (by exact_mod_cast hm_pos) hten_pos

end Decimal

theorem Amount.toBinary64_pos (a : Amount) :
    ∃ units, a.toBinary64 = .finite false units ∧ 0 < units := by
  have hpos := a.positive
  have hsize : (a.value.coefficient.natAbs : Int) = a.value.coefficient :=
    Int.natAbs_of_nonneg hpos.le
  have hbounded := a.bounded
  obtain ⟨units, hunits, hunits_pos⟩ := Decimal.sizeToBinary64_pos a.value.scale_le
    (Int.natAbs_pos.2 hpos.ne') (by omega)
  refine ⟨units, ?_, hunits_pos⟩
  unfold toBinary64 Decimal.toBinary64
  dsimp only
  rw [if_neg (not_lt.2 hpos.le), hunits]

end Paydesk
