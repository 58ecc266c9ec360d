import Paydesk.Proofs.Binary64.Digits
import Paydesk.Proofs.Decimal.Rational
import Mathlib.Tactic.NormNum
import Mathlib.Tactic.Positivity
import Mathlib.Tactic.GCongr

/-!
# How far rounded arithmetic drifts

A double is near a number if it differs from it by so many roundings at most (`Binary64.Near`). The
operations keep near to the exact results (`Near.add`, `Near.mul`, `Near.div`), with the roundings of
both sides and one more, as long as these are not extreme (`IsModerate`) and the roundings not too
many (`maxRoundings`); so do powers (`Near.powLoop`). This is much wider than what a rounding really
loses, and enough to tell a result from zero.
-/

namespace Paydesk.Binary64

/-! ## One rounding -/

/-- What a rounding moves a number by at most, as a factor. -/
def slack : ℚ := 1025 / 1024

theorem slack_pos : 0 < slack := by
  norm_num [slack]

theorem one_le_slack : 1 ≤ slack := by
  norm_num [slack]

/-- Up to here, roundings add up to less than a factor of two. -/
def maxRoundings : Nat := 70

theorem slack_pow_le {k : Nat} (hk : k ≤ maxRoundings) : slack ^ k ≤ 2 := by
  refine (pow_le_pow_right₀ one_le_slack hk).trans ?_
  norm_num [slack, maxRoundings]

theorem twoTo_add (m n : Nat) : twoTo (m + n) = twoTo m * twoTo n :=
  Nat.pow_add 2 m n

theorem twoTo_lt_twoTo {m n : Nat} (h : m < n) : twoTo m < twoTo n :=
  Nat.pow_lt_pow_right (by decide) h

theorem twoTo_lt_limit : twoTo 2001 < limit :=
  twoTo_lt_twoTo (by decide)

theorem one_large : (2048 * 10 ^ 60 : ℚ) ≤ one := by
  have h : 2048 * 10 ^ 60 ≤ one := by decide +kernel
  exact_mod_cast h

theorem one_small : (one * 2048 * 10 ^ 60 : ℚ) ≤ twoTo 2000 := by
  have h : one * 2048 * 10 ^ 60 ≤ twoTo 2000 := by decide +kernel
  exact_mod_cast h

theorem one_pos_rat : (0 : ℚ) < one :=
  lt_of_lt_of_le (by norm_num) one_large

theorem spacing_le {units : Nat} (h : 1024 ≤ units) : 1024 * spacing units ≤ units := by
  have hlog : 10 ≤ units.log2 := (Nat.le_log2 (by omega)).2 h
  calc 1024 * spacing units = twoTo (10 + (units.log2 - 52)) := (twoTo_add 10 _).symm
    _ ≤ twoTo units.log2 := Nat.pow_le_pow_right (by decide) (by omega)
    _ ≤ units := Nat.log2_self_le (by omega)

-- the constants have hundreds of digits and are not to be written out
section

attribute [local irreducible] twoTo one limit

/-- A quotient of units that is zero or not very small is rounded by a factor that is near one. -/
theorem exists_ofUnits (negative : Bool) {n d : Nat} (hd : 0 < d) (hn : n = 0 ∨ 1024 * d ≤ n)
    (hlimit : n ≤ twoTo 2000 * d) :
    ∃ units : Nat, ofUnits negative n d = .finite negative units ∧
      (n : ℚ) ≤ units * d * slack ∧ (units * d : ℚ) ≤ n * slack := by
  have hstep : 0 < spacing (n / d) := twoTo_pos _
  obtain ⟨hhigh, hlow⟩ := divHalfEven_near n (Nat.mul_pos hd hstep)
  -- the error is small beside the quotient
  have herror : 1024 * (2 * (divHalfEven n (d * spacing (n / d)) * spacing (n / d) * d)) ≤
      1025 * (2 * n) ∧ 1024 * (2 * n) ≤
      1025 * (2 * (divHalfEven n (d * spacing (n / d)) * spacing (n / d) * d)) := by
    have hassoc : ∀ m, m * spacing (n / d) * d = m * (d * spacing (n / d)) := fun m => by ring
    rw [hassoc]
    rcases hn with rfl | hlarge
    · have hzero : divHalfEven 0 (d * spacing (0 / d)) = 0 := by
        rw [divHalfEven_of_dvd (Nat.mul_pos hd hstep) (dvd_zero _), Nat.zero_div]
      rw [hzero]
      omega
    · have hspacing := spacing_le ((Nat.le_div_iff_mul_le hd).2 hlarge)
      have hwidth : 1024 * (d * spacing (n / d)) ≤ n :=
        calc 1024 * (d * spacing (n / d)) = d * (1024 * spacing (n / d)) := by ring
          _ ≤ d * (n / d) := Nat.mul_le_mul_left d hspacing
          _ ≤ n := Nat.mul_div_le n d
      omega
  generalize hunits : divHalfEven n (d * spacing (n / d)) * spacing (n / d) = units at herror
  have hfinite : units < limit := by
    have hle : units * d ≤ twoTo 2001 * d := by
      rw [twoTo_succ]
      have : units * d ≤ 2 * n := by omega
      calc units * d ≤ 2 * n := this
        _ ≤ 2 * (twoTo 2000 * d) := Nat.mul_le_mul_left 2 hlimit
        _ = twoTo 2000 * 2 * d := by ring
    exact (Nat.le_of_mul_le_mul_right hle hd).trans_lt twoTo_lt_limit
  refine ⟨units, ?_, ?_, ?_⟩
  · simp only [ofUnits, hunits, if_pos hfinite]
  · have hcast : (1024 * (2 * n) : ℚ) ≤ 1025 * (2 * (units * d)) := by exact_mod_cast herror.2
    unfold slack
    linarith
  · have hcast : (1024 * (2 * (units * d)) : ℚ) ≤ 1025 * (2 * n) := by exact_mod_cast herror.1
    unfold slack
    linarith

/-! ## Numbers and doubles near them -/

/-- A number that is zero, or neither very small nor very large. -/
def IsModerate (q : ℚ) : Prop :=
  q = 0 ∨ 1 / 10 ^ 60 ≤ q ∧ q ≤ 10 ^ 60

/-- The double is this number, but for so many roundings. -/
def Near (k : Nat) (x : Binary64) (q : ℚ) : Prop :=
  ∃ units : Nat, x = .finite false units ∧
    q * one ≤ units * slack ^ k ∧ units ≤ q * one * slack ^ k

theorem near_ofUnits {k n d : Nat} {q : ℚ} (hd : 0 < d) (hk : k ≤ maxRoundings)
    (hq : IsModerate q) (hlow : q * one * d ≤ n * slack ^ k)
    (hhigh : (n : ℚ) ≤ q * one * d * slack ^ k) : (ofUnits false n d).Near (k + 1) q := by
  have hd' : (0 : ℚ) < d := by exact_mod_cast hd
  have hslack := slack_pow_le hk
  have hslack_pos : 0 < slack ^ k := pow_pos slack_pos k
  have hrange : (n = 0 ∨ 1024 * d ≤ n) ∧ n ≤ twoTo 2000 * d := by
    rcases hq with rfl | ⟨hsmall, hlarge⟩
    · have hzero : n = 0 := by
        rw [zero_mul, zero_mul, zero_mul] at hhigh
        exact_mod_cast hhigh.antisymm (Nat.cast_nonneg n)
      rw [hzero]
      exact ⟨.inl rfl, Nat.zero_le _⟩
    · have hone := one_large
      have hqone : 2048 ≤ q * one :=
        calc (2048 : ℚ) = 1 / 10 ^ 60 * (2048 * 10 ^ 60) := by norm_num
          _ ≤ q * one := by gcongr
      have hleft : q * one * d ≤ n * 2 := hlow.trans (by gcongr)
      have hright : (n : ℚ) ≤ q * one * d * 2 := hhigh.trans (by gcongr)
      refine ⟨.inr ?_, ?_⟩
      · have hmul : 2048 * (d : ℚ) ≤ q * one * d := by gcongr
        have : (1024 * d : ℚ) ≤ n := by linarith
        exact_mod_cast this
      · have hbound : q * one * d * 2 ≤ twoTo 2000 * d := by
          have hmax := one_small
          have hmul : q * one * 2 ≤ twoTo 2000 :=
            calc q * one * 2 ≤ 10 ^ 60 * one * 2 := by gcongr
              _ ≤ one * 2048 * 10 ^ 60 := by linarith [one_pos_rat]
              _ ≤ twoTo 2000 := hmax
          calc q * one * d * 2 = q * one * 2 * d := by ring
            _ ≤ twoTo 2000 * d := by gcongr
        exact_mod_cast hright.trans hbound
  obtain ⟨units, hunits, hbelow, habove⟩ := exists_ofUnits false hd hrange.1 hrange.2
  refine ⟨units, hunits, ?_, ?_⟩
  · refine le_of_mul_le_mul_right ?_ hd'
    calc q * one * d ≤ n * slack ^ k := hlow
      _ ≤ units * d * slack * slack ^ k := by gcongr
      _ = units * slack ^ (k + 1) * d := by ring
  · refine le_of_mul_le_mul_right ?_ hd'
    calc (units * d : ℚ) ≤ n * slack := habove
      _ ≤ q * one * d * slack ^ k * slack := by
        have := slack_pos
        gcongr
      _ = q * one * slack ^ (k + 1) * d := by ring

theorem isModerate_natCast {n : Nat} (h : n ≤ 10 ^ 60) : IsModerate n := by
  rcases Nat.eq_zero_or_pos n with rfl | hpos
  · exact .inl Nat.cast_zero
  · have hone : (1 : ℚ) ≤ n := by exact_mod_cast hpos
    refine .inr ⟨le_trans (by norm_num) hone, by exact_mod_cast h⟩

theorem near_ofNat {n : Nat} (h : n ≤ 10 ^ 60) : (ofNat n).Near 1 n :=
  near_ofUnits (k := 0) Nat.one_pos (Nat.zero_le _) (isModerate_natCast h)
    (by push_cast; linarith) (by push_cast; linarith)

namespace Near

variable {j k : Nat} {x y : Binary64} {q r : ℚ}

theorem nonneg (h : x.Near k q) : 0 ≤ q := by
  obtain ⟨units, -, -, hhigh⟩ := h
  have hunits : (0 : ℚ) ≤ units := Nat.cast_nonneg units
  by_contra hneg
  have : q * one * slack ^ k < 0 :=
    mul_neg_of_neg_of_pos (mul_neg_of_neg_of_pos (not_le.1 hneg) one_pos_rat)
      (pow_pos slack_pos k)
  linarith

theorem pos (h : x.Near k q) (hq : 0 < q) : ∃ units, x = .finite false units ∧ 0 < units := by
  obtain ⟨units, hx, hlow, -⟩ := h
  refine ⟨units, hx, Nat.pos_of_ne_zero ?_⟩
  rintro rfl
  rw [Nat.cast_zero, zero_mul] at hlow
  exact absurd (mul_pos hq one_pos_rat) (not_lt.2 hlow)

theorem isZero_iff (h : x.Near k q) : x.isZero = true ↔ q = 0 := by
  constructor
  · intro hzero
    by_contra hq
    obtain ⟨units, rfl, hpos⟩ := h.pos (lt_of_le_of_ne h.nonneg (Ne.symm hq))
    exact absurd (beq_iff_eq.1 hzero) hpos.ne'
  · rintro rfl
    obtain ⟨units, rfl, -, hhigh⟩ := h
    rw [zero_mul, zero_mul] at hhigh
    have hunits : units = 0 := by exact_mod_cast hhigh.antisymm (Nat.cast_nonneg units)
    rw [hunits]
    rfl

theorem mono (h : x.Near j q) (hjk : j ≤ k) : x.Near k q := by
  have hq := h.nonneg
  obtain ⟨units, hx, hlow, hhigh⟩ := h
  have hslack : slack ^ j ≤ slack ^ k := pow_le_pow_right₀ one_le_slack hjk
  have hone := one_pos_rat
  refine ⟨units, hx, hlow.trans ?_, hhigh.trans ?_⟩
  · gcongr
  · gcongr

theorem add (hx : x.Near k q) (hy : y.Near k r) (hk : k ≤ maxRoundings)
    (hsum : IsModerate (q + r)) : (x.add y).Near (k + 1) (q + r) := by
  obtain ⟨a, rfl, halow, hahigh⟩ := hx
  obtain ⟨b, rfl, hblow, hbhigh⟩ := hy
  refine near_ofUnits Nat.one_pos hk hsum ?_ ?_
  · push_cast
    linarith
  · push_cast
    linarith

theorem mul (hx : x.Near j q) (hy : y.Near k r) (hk : j + k ≤ maxRoundings)
    (hproduct : IsModerate (q * r)) : (x.mul y).Near (j + k + 1) (q * r) := by
  have hq := hx.nonneg
  have hr := hy.nonneg
  have hone := one_pos_rat
  have hslack := slack_pos
  obtain ⟨a, rfl, halow, hahigh⟩ := hx
  obtain ⟨b, rfl, hblow, hbhigh⟩ := hy
  refine near_ofUnits one_pos hk hproduct ?_ ?_
  · calc q * r * one * one = (q * one) * (r * one) := by ring
      _ ≤ (a * slack ^ j) * (b * slack ^ k) := by gcongr
      _ = (a * b : Nat) * slack ^ (j + k) := by push_cast; ring
  · calc ((a * b : Nat) : ℚ) = a * b := by push_cast; ring
      _ ≤ (q * one * slack ^ j) * (r * one * slack ^ k) := by gcongr
      _ = q * r * one * one * slack ^ (j + k) := by ring

theorem div (hx : x.Near j q) (hy : y.Near k r) (hr : 0 < r) (hk : j + k ≤ maxRoundings)
    (hquotient : IsModerate (q / r)) : (x.div y).Near (j + k + 1) (q / r) := by
  have hq := hx.nonneg
  have hone := one_pos_rat
  have hslack := slack_pos
  obtain ⟨b, hb, hbpos⟩ := hy.pos hr
  obtain ⟨a, rfl, halow, hahigh⟩ := hx
  obtain ⟨b', rfl, hblow, hbhigh⟩ := hy
  obtain rfl : b = b' := (Binary64.finite.inj hb).2.symm
  have hdiv : (finite false a).div (finite false b) = ofUnits false (a * one) b := by
    show (if b = 0 then _ else _) = _
    exact if_neg hbpos.ne'
  rw [hdiv]
  refine near_ofUnits hbpos hk hquotient ?_ ?_
  · calc q / r * one * b ≤ q / r * one * (r * one * slack ^ k) := by gcongr
      _ = q * one * (one * slack ^ k) := by field_simp
      _ ≤ a * slack ^ j * (one * slack ^ k) := by gcongr
      _ = (a * one : Nat) * slack ^ (j + k) := by push_cast; ring
  · calc ((a * one : Nat) : ℚ) = a * one := by push_cast; ring
      _ ≤ q * one * slack ^ j * one := by gcongr
      _ = q / r * one * slack ^ j * (r * one) := by field_simp
      _ ≤ q / r * one * slack ^ j * (b * slack ^ k) := by gcongr
      _ = q / r * one * b * slack ^ (j + k) := by ring

end Near

/-! ## Powers -/

theorem isModerate_of_one_le {q : ℚ} (hone : 1 ≤ q) (hq : q ≤ 10 ^ 60) : IsModerate q :=
  .inr ⟨le_trans (by norm_num) hone, hq⟩

/-- The last bit of an exponent tells whether one more factor belongs to the result. -/
theorem Near.factor {i j bit : Nat} {result base : Binary64} {q r : ℚ} (hbit : bit < 2)
    (hresult : result.Near j q) (hbase : base.Near i r) (hproduct : IsModerate (q * r ^ bit))
    (hk : j + bit * (i + 1) ≤ maxRoundings) :
    (if bit = 1 then result.mul base else result).Near (j + bit * (i + 1)) (q * r ^ bit) := by
  obtain rfl | rfl : bit = 0 ∨ bit = 1 := by omega
  · simpa using hresult
  · rw [if_pos rfl, pow_one, one_mul, ← add_assoc]
    rw [pow_one] at hproduct
    exact hresult.mul hbase (by omega) hproduct

/-- Squaring and multiplying collect the roundings of so many factors. -/
theorem Near.powLoop {i j fuel exponent : Nat} {result base : Binary64} {q r : ℚ}
    (hfuel : exponent < fuel) (hresult : result.Near j q) (hbase : base.Near i r) (hq : 1 ≤ q)
    (hr : 1 ≤ r) (hproduct : q * r ^ exponent ≤ 10 ^ 60)
    (hk : j + exponent * (i + 1) ≤ maxRoundings) :
    (Binary64.powLoop fuel result base exponent).Near (j + exponent * (i + 1))
      (q * r ^ exponent) := by
  induction fuel generalizing i j result base exponent q r with
  | zero => exact absurd hfuel (Nat.not_lt_zero _)
  | succ fuel ih =>
    -- the exponent is its half twice and its last bit
    obtain ⟨half, bit, hbit, rfl⟩ : ∃ half bit, bit < 2 ∧ exponent = 2 * half + bit :=
      ⟨exponent / 2, exponent % 2, Nat.mod_lt _ (by decide), (Nat.div_add_mod _ _).symm⟩
    have hhalf : (2 * half + bit) / 2 = half := by omega
    have hmod : (2 * half + bit) % 2 = bit := by omega
    have hcount : j + (2 * half + bit) * (i + 1) =
        j + bit * (i + 1) + half * (i + i + 1 + 1) := by ring
    have hpower : q * r ^ (2 * half + bit) = q * r ^ bit * (r * r) ^ half := by
      rw [pow_add, pow_mul, pow_two]
      ring
    rw [hcount] at hk ⊢
    rw [hpower] at hproduct ⊢
    have hfirst : 1 ≤ q * r ^ bit := one_le_mul_of_one_le_of_one_le hq (one_le_pow₀ hr)
    have hrest : 1 ≤ (r * r) ^ half := one_le_pow₀ (one_le_mul_of_one_le_of_one_le hr hr)
    have hfactor := hresult.factor hbit hbase
      (isModerate_of_one_le hfirst ((le_mul_of_one_le_right (by linarith) hrest).trans hproduct))
      (by omega)
    unfold Binary64.powLoop
    simp only [hhalf, hmod]
    split
    · next hzero =>
      rw [hzero]
      simpa using hfactor
    · next hsome =>
      have hsquare : 1 ≤ r * r := one_le_mul_of_one_le_of_one_le hr hr
      have hle : r * r ≤ 10 ^ 60 :=
        calc r * r ≤ (r * r) ^ half := le_self_pow₀ hsquare hsome
          _ ≤ q * r ^ bit * (r * r) ^ half := le_mul_of_one_le_left (by linarith) hfirst
          _ ≤ 10 ^ 60 := hproduct
      have hroundings : i + i + 1 + 1 ≤ half * (i + i + 1 + 1) :=
        Nat.le_mul_of_pos_left _ (Nat.pos_of_ne_zero hsome)
      have hbase' := hbase.mul hbase (by omega) (isModerate_of_one_le hsquare hle)
      exact ih (by omega) hfactor hbase' hfirst hsquare hproduct hk

theorem near_pow_ten {exponent : Nat} (h : exponent ≤ 30) :
    ((ofNat 10).pow exponent).Near (1 + exponent * 2) (tenTo exponent) := by
  have hone : (ofNat 1).Near 1 1 := by simpa using near_ofNat (n := 1) (by decide)
  have hten : (ofNat 10).Near 1 10 := by simpa using near_ofNat (n := 10) (by decide)
  have hpower : ((tenTo exponent : Nat) : ℚ) = 1 * 10 ^ exponent := by
    rw [one_mul]
    exact_mod_cast Nat.cast_pow 10 exponent
  rw [hpower]
  refine hone.powLoop (Nat.lt_succ_self exponent) hten le_rfl (by norm_num) ?_ (by
    unfold maxRoundings
    omega)
  rw [one_mul]
  exact pow_le_pow_right₀ (by norm_num) (by omega)

end

end Paydesk.Binary64
