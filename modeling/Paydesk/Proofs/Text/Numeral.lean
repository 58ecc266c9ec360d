import Paydesk.Text.Numeral
import Mathlib.Algebra.Ring.Nat
import Mathlib.Data.Nat.Basic

/-!
# Digits and what they denote

The digits of a number denote it (`digitsValue_natDigits`), also with zeros in front
(`digitsValue_padded`), and only zero begins with a zero (`natDigits_eq_zero_cons`). The last digits
are those of a remainder (`padded_eq_append`), or zeros if the number was multiplied by ten
(`padded_mul_pow`). Where digits end, a scan for digits ends (`takeWhile_isDigit_append`).
-/

namespace Paydesk.Text

/-! ## The value of digits -/

theorem digitsValue_nil (start : Nat) : digitsValue start [] = start := rfl

theorem digitsValue_cons (start : Nat) (c : Char) (cs : List Char) :
    digitsValue start (c :: cs) = digitsValue (10 * start + digitValue c) cs :=
  List.foldl_cons ..

theorem digitsValue_append (start : Nat) (cs ds : List Char) :
    digitsValue start (cs ++ ds) = digitsValue (digitsValue start cs) ds :=
  List.foldl_append

theorem le_digitsValue (start : Nat) (cs : List Char) : start ≤ digitsValue start cs := by
  induction cs generalizing start with
  | nil => exact le_rfl
  | cons c rest ih =>
    have hstep := ih (10 * start + digitValue c)
    rw [digitsValue_cons]
    omega

/-! ## The digits of a number -/

@[simp] theorem digitsValue_natDigits (n : Nat) : digitsValue 0 (natDigits n) = n :=
  Nat.ofDigitChars_ten_toDigits

theorem isDigit_of_mem_natDigits {n : Nat} {c : Char} (h : c ∈ natDigits n) : c.isDigit = true :=
  Nat.isDigit_of_mem_toDigits (by decide) (by decide) h

theorem natDigits_ne_nil (n : Nat) : natDigits n ≠ [] :=
  Nat.toDigits_ne_nil

theorem natDigits_of_lt {n : Nat} (h : n < 10) : natDigits n = [n.digitChar] :=
  Nat.toDigits_of_lt_base h

theorem natDigits_of_le {n : Nat} (h : 10 ≤ n) :
    natDigits n = natDigits (n / 10) ++ [(n % 10).digitChar] :=
  Nat.toDigits_of_base_le (by decide) h

theorem natDigits_eq_zero_cons {n : Nat} {rest : List Char} (h : natDigits n = '0' :: rest) :
    n = 0 ∧ rest = [] := by
  induction n using Nat.strongRecOn generalizing rest with
  | _ n ih =>
    by_cases hn : n < 10
    · rw [natDigits_of_lt hn] at h
      obtain ⟨hzero, hrest⟩ := List.cons.inj h
      exact ⟨Nat.digitChar_eq_zero.1 hzero, hrest.symm⟩
    · rw [natDigits_of_le (Nat.le_of_not_lt hn)] at h
      obtain ⟨c, cs, hcs⟩ := List.exists_cons_of_ne_nil (natDigits_ne_nil (n / 10))
      rw [hcs, List.cons_append] at h
      obtain ⟨rfl, -⟩ := List.cons.inj h
      have hzero := (ih (n / 10) (by omega) hcs).1
      omega

/-! ## Zeros in front -/

theorem isDigit_of_mem_padded {width n : Nat} {c : Char} (h : c ∈ padded width n) :
    c.isDigit = true := by
  rcases List.mem_append.1 h with hzero | hdigit
  · rw [List.eq_of_mem_replicate hzero]
    rfl
  · exact isDigit_of_mem_natDigits hdigit

theorem digitsValue_replicate_zero (k : Nat) : digitsValue 0 (List.replicate k '0') = 0 := by
  induction k with
  | zero => rfl
  | succ k ih => exact ih

@[simp] theorem digitsValue_padded (width n : Nat) : digitsValue 0 (padded width n) = n := by
  rw [padded, digitsValue_append, digitsValue_replicate_zero, digitsValue_natDigits]

theorem length_padded (width n : Nat) :
    (padded width n).length = max width (natDigits n).length := by
  rw [padded, List.length_append, List.length_replicate]
  omega

theorem le_length_padded (width n : Nat) : width ≤ (padded width n).length := by
  rw [length_padded]
  exact le_max_left _ _

theorem length_padded_of_lt {width n : Nat} (hwidth : 0 < width) (h : n < 10 ^ width) :
    (padded width n).length = width := by
  rw [length_padded]
  exact max_eq_left ((Nat.length_toDigits_le_iff (by decide) hwidth).2 h)

theorem padded_one (n : Nat) : padded 1 n = natDigits n := by
  have hsome : 1 ≤ (natDigits n).length := List.length_pos_iff.2 (natDigits_ne_nil n)
  rw [padded, Nat.sub_eq_zero_of_le hsome]
  rfl

theorem padded_succ {width : Nat} (hwidth : 0 < width) (n : Nat) :
    padded (width + 1) n = padded width (n / 10) ++ [(n % 10).digitChar] := by
  unfold padded
  rcases Nat.lt_or_ge n 10 with hn | hn
  · obtain ⟨zeros, rfl⟩ := Nat.exists_eq_add_of_lt hwidth
    rw [natDigits_of_lt hn, Nat.div_eq_of_lt hn, Nat.mod_eq_of_lt hn, natDigits_of_lt (by decide)]
    simp [List.replicate_succ']
  · rw [natDigits_of_le hn]
    dsimp only
    rw [List.length_append, List.length_singleton, Nat.add_sub_add_right, List.append_assoc]

/-- The digits in front of the last ones are those of the quotient. -/
theorem padded_eq_append {places : Nat} (hplaces : 0 < places) (n : Nat) :
    padded (places + 1) n = natDigits (n / 10 ^ places) ++ padded places (n % 10 ^ places) := by
  induction places, hplaces using Nat.le_induction generalizing n with
  | base =>
    rw [padded_succ Nat.one_pos, padded_one, padded_one, Nat.pow_one,
      natDigits_of_lt (Nat.mod_lt n (by decide))]
  | succ places hplaces ih =>
    have hfront : n % 10 ^ (places + 1) / 10 = n / 10 % 10 ^ places := by
      rw [Nat.pow_succ', Nat.mod_mul_right_div_self]
    have hlast : n % 10 ^ (places + 1) % 10 = n % 10 :=
      Nat.mod_mod_of_dvd n (Nat.pow_succ' ▸ Nat.dvd_mul_right 10 _)
    rw [padded_succ (Nat.succ_pos places), ih, padded_succ hplaces, hfront, hlast,
      Nat.div_div_eq_div_mul, ← Nat.pow_succ', List.append_assoc]

/-- Zeros behind a number stand behind its digits. -/
theorem padded_mul_pow {width : Nat} (hwidth : 0 < width) (n zeros : Nat) :
    padded (width + zeros) (n * 10 ^ zeros) = padded width n ++ List.replicate zeros '0' := by
  induction zeros with
  | zero => simp
  | succ zeros ih =>
    have hten : n * 10 ^ (zeros + 1) = n * 10 ^ zeros * 10 := by rw [Nat.pow_succ, Nat.mul_assoc]
    have hdigit : (n * 10 ^ zeros * 10 % 10).digitChar = '0' := by rw [Nat.mul_mod_left]; rfl
    rw [hten, ← Nat.add_assoc, padded_succ (by omega), Nat.mul_div_cancel _ (by decide), ih, hdigit,
      List.append_assoc, List.replicate_succ']

/-! ## Where digits end -/

/-- No digit comes next. -/
def EndsDigits (rest : List Char) : Prop :=
  ∀ c ∈ rest.head?, c.isDigit = false

theorem takeWhile_isDigit_of_ends {rest : List Char} (h : EndsDigits rest) :
    rest.takeWhile Char.isDigit = [] := by
  cases rest with
  | nil => rfl
  | cons c cs => rw [List.takeWhile_cons_of_neg (by simpa using h c rfl)]

theorem takeWhile_isDigit_append {digits rest : List Char} (hdigits : ∀ c ∈ digits, c.isDigit = true)
    (hrest : EndsDigits rest) : (digits ++ rest).takeWhile Char.isDigit = digits := by
  rw [List.takeWhile_append_of_pos hdigits, takeWhile_isDigit_of_ends hrest, List.append_nil]

theorem takeWhile_isDigit_append_of_ends (cs : List Char) {rest : List Char}
    (h : EndsDigits rest) : (cs ++ rest).takeWhile Char.isDigit = cs.takeWhile Char.isDigit := by
  rw [List.takeWhile_append, takeWhile_isDigit_of_ends h, List.append_nil]
  split
  · next hall =>
    exact ((List.takeWhile_prefix Char.isDigit).eq_of_length hall).symm
  · rfl

end Paydesk.Text
