import Paydesk.Binary64.Shortest
import Paydesk.Proofs.Text.Numeral
import Mathlib.Tactic.Ring

/-!
# How many digits a double has

The shortest digits of a double are at most 17 (`shortest_digits_le`). The value is less than the power
of ten that its magnitude names (`mul_tenTo_lt`), so on the grid of so many digits its neighbours have
no more digits than that, or are the next power of ten (`onGrid?_digits_le`); and the grids beyond 17
digits are not tried.
-/

namespace Paydesk.Binary64

open Text

theorem one_pos : 0 < one :=
  twoTo_pos 1074

theorem mul_tenTo_lt (units : Nat) :
    units * tenTo 330 < tenTo (natDigits (units * tenTo 330 / one)).length * one := by
  rw [← Nat.div_lt_iff_lt_mul one_pos]
  have hsome := List.length_pos_iff.2 (natDigits_ne_nil (units * tenTo 330 / one))
  exact (Nat.length_toDigits_le_iff (by decide) hsome).1 le_rfl

/-- The lower neighbour on the grid of so many digits has no more digits. -/
theorem div_grid_lt (units count : Nat) :
    units * (tenPower (magnitude units - count)).2 /
      (one * (tenPower (magnitude units - count)).1) < tenTo count := by
  have hsize := mul_tenTo_lt units
  unfold magnitude tenPower
  dsimp only
  generalize (natDigits (units * tenTo 330 / one)).length = length at hsize ⊢
  obtain ⟨up, down, hup, hdown, hsum⟩ : ∃ up down, ((length : Int) - 330 - count).toNat = up ∧
      (-((length : Int) - 330 - count)).toNat = down ∧ down + length = up + 330 + count :=
    ⟨_, _, rfl, rfl, by omega⟩
  rw [hup, hdown, Nat.div_lt_iff_lt_mul (Nat.mul_pos one_pos (tenTo_pos up))]
  refine Nat.lt_of_mul_lt_mul_right (a := tenTo 330) ?_
  calc units * tenTo down * tenTo 330 = units * tenTo 330 * tenTo down := by ring
    _ < tenTo length * one * tenTo down := Nat.mul_lt_mul_of_pos_right hsize (tenTo_pos down)
    _ = tenTo (down + length) * one := by rw [tenTo_add]; ring
    _ = tenTo count * (one * tenTo up) * tenTo 330 := by rw [hsum, tenTo_add, tenTo_add]; ring

/-- What is found on a grid is a neighbour of the value. -/
theorem onGrid?_digits_le {units : Nat} {exponent : Int} {found : Digits}
    (h : onGrid? units exponent = some found) :
    found.digits ≤ units * (tenPower exponent).2 / (one * (tenPower exponent).1) + 1 := by
  unfold onGrid? at h
  dsimp only at h
  generalize one * (tenPower exponent).1 = width at h ⊢
  generalize units * (tenPower exponent).2 / width = low at h ⊢
  split_ifs at h <;> cases h <;> dsimp only <;> omega

theorem firstGrid_digits_le {units : Nat} {top : Int} {bound : Nat}
    (hgrid : ∀ count : Nat, count ≤ 17 → ∀ found, onGrid? units (top - count) = some found →
      found.digits ≤ bound) {fuel count : Nat} (hcount : count + fuel ≤ 18) :
    (firstGrid units top fuel count).digits ≤ bound := by
  induction fuel generalizing count with
  | zero =>
    rw [firstGrid_zero]
    exact Nat.zero_le bound
  | succ fuel ih =>
    rw [firstGrid_succ]
    cases hfound : onGrid? units (top - count) with
    | some found => exact hgrid count (by omega) found hfound
    | none => exact ih (by omega)

theorem Digits.trimZeros_digits_le (fuel : Nat) (d : Digits) :
    (d.trimZeros fuel).digits ≤ d.digits := by
  induction fuel generalizing d with
  | zero => exact le_rfl
  | succ fuel ih =>
    unfold trimZeros
    split
    · exact (ih _).trans (Nat.div_le_self d.digits 10)
    · exact le_rfl

/-- There are 17 digits at most, or a one and zeros. -/
theorem shortest_digits_le (units : Nat) : (shortest units).digits ≤ tenTo 17 := by
  unfold shortest
  split
  · exact Nat.zero_le _
  · refine (Digits.trimZeros_digits_le 17 _).trans (firstGrid_digits_le ?_ le_rfl)
    intro count hcount found hfound
    have hlow := div_grid_lt units count
    calc found.digits ≤ _ := onGrid?_digits_le hfound
      _ ≤ tenTo count := hlow
      _ ≤ tenTo 17 := Nat.pow_le_pow_right (by decide) hcount

end Paydesk.Binary64
