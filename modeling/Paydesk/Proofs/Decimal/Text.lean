import Paydesk.Amount
import Paydesk.Proofs.Text.Numeral
import Mathlib.Data.List.TakeWhile

/-!
# Decimal numbers are read back

A decimal number is read from its text with its scale (`read?_toText`). The reader goes through the
digits one by one and stops where they no longer fit (`Reading.run?_digit`); the digits of a number
all fit, since those in front denote less than all of them (`Text.le_digitsValue`). What stands
before the point only makes the number larger (`Reading.run?_whole`), what stands behind it moves the
point as well (`Reading.run?_behind`).
-/

namespace Paydesk

namespace Decimal

open Text

/-! ## Digit by digit -/

theorem Reading.run?_digit {r : Reading} {c : Char} {rest : List Char} (hdigit : c.isDigit = true)
    (hroom : r.scale ≠ maxScale) (hsize : 10 * r.size + digitValue c < limit) :
    r.run? (c :: rest) =
      Reading.run?
        { r with
          size := 10 * r.size + digitValue c
          scale := if r.afterPoint then r.scale + 1 else r.scale
          anyDigit := true } rest := by
  rw [Reading.run?, if_neg hroom, if_pos hdigit]
  exact if_pos hsize

theorem Reading.run?_whole {r : Reading} {digits rest : List Char}
    (hdigits : ∀ c ∈ digits, c.isDigit = true) (hbefore : r.afterPoint = false)
    (hroom : r.scale ≠ maxScale) (hsize : digitsValue r.size digits < limit) :
    r.run? (digits ++ rest) =
      Reading.run?
        { r with
          size := digitsValue r.size digits
          anyDigit := r.anyDigit || !digits.isEmpty } rest := by
  induction digits generalizing r with
  | nil => simp [digitsValue_nil]
  | cons c digits ih =>
    rw [digitsValue_cons] at hsize
    have hfirst := Nat.lt_of_le_of_lt (le_digitsValue _ digits) hsize
    have hrest := ih (r := { r with size := 10 * r.size + digitValue c, anyDigit := true })
      (fun d hd => hdigits d (List.mem_cons_of_mem c hd)) hbefore hroom hsize
    rw [List.cons_append, run?_digit (hdigits c List.mem_cons_self) hroom hfirst]
    simpa [hbefore, digitsValue_cons] using hrest

theorem run?_front {whole : List Char} (hwhole : whole ≠ [])
    (hdigits : ∀ c ∈ whole, c.isDigit = true) (hsize : digitsValue 0 whole < limit)
    (rest : List Char) : Reading.run? {} (whole ++ rest) =
      Reading.run? { size := digitsValue 0 whole, anyDigit := true } rest := by
  rw [Reading.run?_whole hdigits rfl (by decide) hsize, List.isEmpty_eq_false_iff.2 hwhole]
  rfl

theorem Reading.run?_point {r : Reading} (hbefore : r.afterPoint = false)
    (hroom : r.scale ≠ maxScale) (rest : List Char) :
    r.run? ('.' :: rest) = Reading.run? { r with afterPoint := true } rest := by
  rw [Reading.run?, if_neg hroom, if_neg (by decide), if_pos ⟨rfl, hbefore⟩]

theorem Reading.run?_behind {r : Reading} {digits : List Char} (rest : List Char)
    (hdigits : ∀ c ∈ digits, c.isDigit = true) (hbehind : r.afterPoint = true)
    (hroom : r.scale + digits.length ≤ maxScale) (hsize : digitsValue r.size digits < limit) :
    r.run? (digits ++ rest) =
      Reading.run?
        { r with
          size := digitsValue r.size digits
          scale := r.scale + digits.length
          anyDigit := r.anyDigit || !digits.isEmpty } rest := by
  induction digits generalizing r with
  | nil => simp [digitsValue_nil]
  | cons c digits ih =>
    rw [digitsValue_cons] at hsize
    rw [List.length_cons] at hroom
    have hfirst := Nat.lt_of_le_of_lt (le_digitsValue _ digits) hsize
    rw [List.cons_append, run?_digit (hdigits c List.mem_cons_self) (by omega) hfirst, hbehind,
      if_pos rfl, ih (fun d hd => hdigits d (List.mem_cons_of_mem c hd)) rfl
        (by dsimp only; omega) hsize]
    simp [digitsValue_cons, Nat.add_assoc, Nat.add_comm 1]

/-- Digits with a point in front of the last ones, if these are any. -/
def pointed (whole fraction : List Char) : List Char :=
  if fraction = [] then whole else whole ++ '.' :: fraction

/-- Digits that fit are read as what they denote. -/
theorem run?_pointed {whole fraction : List Char} (hwhole : whole ≠ [])
    (hdigits : ∀ c ∈ whole ++ fraction, c.isDigit = true)
    (hsize : digitsValue 0 (whole ++ fraction) < limit) (hscale : fraction.length ≤ maxScale) :
    Reading.run? {} (pointed whole fraction) =
      some (digitsValue 0 (whole ++ fraction), fraction.length) := by
  rw [digitsValue_append] at hsize ⊢
  have hread := run?_front hwhole (fun c hc => hdigits c (List.mem_append_left fraction hc))
    (Nat.lt_of_le_of_lt (le_digitsValue _ fraction) hsize)
  unfold pointed
  split
  · next hnone =>
    rw [hnone, ← List.append_nil whole, hread, Reading.run?, if_pos rfl, List.append_nil]
    rfl
  · have hbehind := Reading.run?_behind []
      (r := { size := digitsValue 0 whole, afterPoint := true, anyDigit := true })
      (fun c hc => hdigits c (List.mem_append_right whole hc)) rfl (by simpa using hscale) hsize
    rw [List.append_nil] at hbehind
    rw [hread, Reading.run?_point rfl (show (0 : Nat) ≠ maxScale by decide), hbehind, Reading.run?]
    refine (if_pos rfl).trans ?_
    simp only [Nat.zero_add]

/-! ## The text of a size -/

theorem exists_digits (size scale : Nat) :
    ∃ whole fraction, padded (scale + 1) size = whole ++ fraction ∧ whole ≠ [] ∧
      fraction.length = scale ∧ sizeText size scale = pointed whole fraction := by
  have hlength := le_length_padded (scale + 1) size
  have hfraction : ((padded (scale + 1) size).drop ((padded (scale + 1) size).length - scale)).length =
      scale := by
    rw [List.length_drop]
    omega
  refine ⟨(padded (scale + 1) size).take ((padded (scale + 1) size).length - scale),
    (padded (scale + 1) size).drop ((padded (scale + 1) size).length - scale),
    (List.take_append_drop _ _).symm, ?_, hfraction, ?_⟩
  · intro hnil
    have htake := congrArg List.length hnil
    rw [List.length_take, List.length_nil] at htake
    omega
  · have hnone : (padded (scale + 1) size).drop ((padded (scale + 1) size).length - scale) = [] ↔
        scale = 0 := by
      rw [← List.length_eq_zero_iff, hfraction]
    unfold sizeText pointed
    by_cases hzero : scale = 0
    · rw [if_pos hzero, if_pos (hnone.2 hzero)]
      subst hzero
      exact (List.take_length).symm
    · rw [if_neg hzero, if_neg fun h => hzero (hnone.1 h)]

theorem run?_sizeText {size scale : Nat} (hsize : size < limit) (hscale : scale ≤ maxScale) :
    Reading.run? {} (sizeText size scale) = some (size, scale) := by
  obtain ⟨whole, fraction, hdigits, hwhole, rfl, htext⟩ := exists_digits size scale
  have hvalue : digitsValue 0 (whole ++ fraction) = size := by
    rw [← hdigits, digitsValue_padded]
  rw [htext, run?_pointed hwhole (fun c hc => isDigit_of_mem_padded (hdigits ▸ hc))
    (hvalue ▸ hsize) hscale, hvalue]

theorem isDigit_of_mem_pointed {whole fraction : List Char}
    (hdigits : ∀ c ∈ whole ++ fraction, c.isDigit = true) {c : Char}
    (h : c ∈ pointed whole fraction) : c.isDigit = true ∨ c = '.' := by
  unfold pointed at h
  split at h
  · exact .inl (hdigits c (List.mem_append_left fraction h))
  · rcases List.mem_append.1 h with hwhole | hrest
    · exact .inl (hdigits c (List.mem_append_left fraction hwhole))
    · rcases List.mem_cons.1 hrest with rfl | hfraction
      · exact .inr rfl
      · exact .inl (hdigits c (List.mem_append_right whole hfraction))

theorem exists_pointed_cons {whole : List Char} (hwhole : whole ≠ []) (fraction : List Char) :
    ∃ c ∈ whole, ∃ rest, pointed whole fraction = c :: rest := by
  obtain ⟨c, rest, rfl⟩ := List.exists_cons_of_ne_nil hwhole
  unfold pointed
  split
  · exact ⟨c, List.mem_cons_self, rest, rfl⟩
  · exact ⟨c, List.mem_cons_self, rest ++ '.' :: fraction, rfl⟩

theorem exists_sizeText_cons (size scale : Nat) :
    ∃ c rest, sizeText size scale = c :: rest ∧ c.isDigit = true := by
  obtain ⟨whole, fraction, hdigits, hwhole, -, htext⟩ := exists_digits size scale
  obtain ⟨c, hc, rest, hcons⟩ := exists_pointed_cons hwhole fraction
  have hmem : c ∈ padded (scale + 1) size := hdigits ▸ List.mem_append_left fraction hc
  exact ⟨c, rest, htext.trans hcons, isDigit_of_mem_padded hmem⟩

theorem isDigit_of_mem_sizeText {size scale : Nat} {c : Char} (h : c ∈ sizeText size scale) :
    c.isDigit = true ∨ c = '.' := by
  obtain ⟨whole, fraction, hdigits, -, -, htext⟩ := exists_digits size scale
  exact isDigit_of_mem_pointed (fun d hd => isDigit_of_mem_padded (hdigits ▸ hd)) (htext ▸ h)

/-- The point divides the digits of the quotient from those of the remainder. -/
theorem sizeText_eq {scale : Nat} (hscale : 0 < scale) (size : Nat) :
    sizeText size scale =
      natDigits (size / 10 ^ scale) ++ '.' :: padded scale (size % 10 ^ scale) := by
  have hlength : (padded scale (size % 10 ^ scale)).length = scale :=
    length_padded_of_lt hscale (Nat.mod_lt size (Nat.pow_pos (by decide)))
  simp only [sizeText, if_neg (Nat.ne_of_gt hscale), padded_eq_append hscale, List.length_append,
    hlength, Nat.add_sub_cancel]
  rw [List.take_left' rfl, List.drop_left' rfl]

/-- A size that is so many units of the last of `places` digits is written as these units. -/
theorem fixedSize_eq {places size scale units : Nat}
    (h : size * 10 ^ places = units * 10 ^ scale) :
    fixedSize places size scale = sizeText units places := by
  rcases Nat.le_total places scale with hcut | hfill
  · -- only zeros are cut off
    obtain ⟨zeros, rfl⟩ := Nat.exists_eq_add_of_le hcut
    obtain rfl : size = units * 10 ^ zeros := by
      refine Nat.eq_of_mul_eq_mul_right (Nat.pow_pos (show 0 < 10 by decide) : 0 < 10 ^ places) ?_
      rw [h, Nat.pow_add, Nat.mul_assoc, Nat.mul_comm (10 ^ zeros)]
    have hdigits : padded (places + zeros + 1) (units * 10 ^ zeros) =
        padded (places + 1) units ++ List.replicate zeros '0' := by
      rw [Nat.add_right_comm, padded_mul_pow (Nat.succ_pos places)]
    have hlength := le_length_padded (places + 1) units
    unfold fixedSize sizeText
    rw [hdigits]
    generalize padded (places + 1) units = digits at hlength
    have hpoint : (digits ++ List.replicate zeros '0').length - (places + zeros) =
        digits.length - places := by
      rw [List.length_append, List.length_replicate]
      omega
    have hfraction : (digits.drop (digits.length - places)).length = places := by
      rw [List.length_drop]
      omega
    simp only [hpoint, List.take_append_of_le_length (Nat.sub_le digits.length places),
      List.drop_append_of_le_length (Nat.sub_le digits.length places), List.take_left' hfraction,
      hfraction, Nat.sub_self, List.replicate_zero, List.append_nil]
    split
    · next hnone => rw [hnone, Nat.sub_zero, List.take_length]
    · rfl
  · -- zeros are put behind the digits
    obtain ⟨zeros, rfl⟩ := Nat.exists_eq_add_of_le hfill
    obtain rfl : units = size * 10 ^ zeros := by
      refine Nat.eq_of_mul_eq_mul_right (Nat.pow_pos (show 0 < 10 by decide) : 0 < 10 ^ scale) ?_
      rw [← h, Nat.pow_add, Nat.mul_assoc, Nat.mul_comm (10 ^ zeros)]
    have hdigits : padded (scale + zeros + 1) (size * 10 ^ zeros) =
        padded (scale + 1) size ++ List.replicate zeros '0' := by
      rw [Nat.add_right_comm, padded_mul_pow (Nat.succ_pos scale)]
    have hlength := le_length_padded (scale + 1) size
    unfold fixedSize sizeText
    rw [hdigits]
    generalize padded (scale + 1) size = digits at hlength
    have hpoint : (digits ++ List.replicate zeros '0').length - (scale + zeros) =
        digits.length - scale := by
      rw [List.length_append, List.length_replicate]
      omega
    have hfraction : (digits.drop (digits.length - scale)).length = scale := by
      rw [List.length_drop]
      omega
    simp only [hpoint, List.take_append_of_le_length (Nat.sub_le digits.length scale),
      List.drop_append_of_le_length (Nat.sub_le digits.length scale),
      List.take_of_length_le (hfraction.le.trans (Nat.le_add_right scale zeros)), hfraction,
      Nat.add_sub_cancel_left]
    split
    · next hnone =>
      obtain ⟨rfl, rfl⟩ := Nat.add_eq_zero_iff.1 hnone
      rw [Nat.sub_zero, List.take_length, List.replicate_zero, List.append_nil]
    · rfl

/-! ## Numbers -/

/-- The parts of a number make it up again. -/
theorem ofParts?_parts (d : Decimal) :
    ofParts? (decide (d.coefficient < 0)) d.coefficient.natAbs d.scale = some d := by
  rw [ofParts?, dif_pos ⟨d.coefficient_lt, d.scale_le⟩]
  congr 1
  obtain ⟨coefficient, scale, hlt, hle⟩ := d
  simp only [decide_eq_true_eq, mk.injEq, and_true]
  split <;> omega

theorem readPlain?_signed (negative : Bool) {c : Char} {rest : List Char} (h : c.isDigit = true) :
    readPlain? (if negative then '-' :: c :: rest else c :: rest) =
      (Reading.run? {} (c :: rest)).bind fun (size, scale) => ofParts? negative size scale := by
  cases negative with
  | true => rfl
  | false =>
    rw [if_neg Bool.false_ne_true]
    unfold readPlain?
    split
    next negative digits hsign =>
      split at hsign
      · next heq => cases heq; cases h
      · next heq => cases heq; cases h
      · cases hsign; rfl

theorem isExponentMark_of_isDigit {c : Char} (h : c.isDigit = true) : isExponentMark c = false := by
  simp only [isExponentMark, Bool.or_eq_false_iff, decide_eq_false_iff_not]
  constructor <;> rintro rfl <;> cases h

/-- Digits and a point, perhaps with a minus sign, are read without an exponent. -/
theorem read?_signed (negative : Bool) {text : List Char}
    (h : ∀ c ∈ text, c.isDigit = true ∨ c = '.') :
    read? (String.ofList (if negative then '-' :: text else text)) =
      readPlain? (if negative then '-' :: text else text) := by
  have hplain : ∀ c ∈ (if negative then '-' :: text else text), (!isExponentMark c) = true := by
    have htext : ∀ c ∈ text, (!isExponentMark c) = true := by
      intro c hc
      rcases h c hc with hdigit | rfl
      · rw [isExponentMark_of_isDigit hdigit]
        rfl
      · rfl
    intro c hc
    split at hc
    · rcases List.mem_cons.1 hc with rfl | hrest
      · rfl
      · exact htext c hrest
    · exact htext c hc
  simp only [read?, String.toList_ofList, List.takeWhile_eq_self_iff.2 hplain,
    List.dropWhile_eq_nil_iff.2 hplain]

/-- **Decimal numbers are read back** from their texts, at the scale at which they were written. -/
theorem read?_toText (d : Decimal) : read? d.toText = some d := by
  obtain ⟨c, rest, htext, hdigit⟩ := exists_sizeText_cons d.coefficient.natAbs d.scale
  have hrun := run?_sizeText d.coefficient_lt d.scale_le
  have hsign : d.toText = String.ofList (if decide (d.coefficient < 0) = true then
      '-' :: sizeText d.coefficient.natAbs d.scale else sizeText d.coefficient.natAbs d.scale) := by
    simp only [toText, decide_eq_true_eq]
  rw [hsign, read?_signed _ fun _ => isDigit_of_mem_sizeText]
  rw [htext] at hrun ⊢
  rw [readPlain?_signed _ hdigit, hrun, Option.bind_some]
  exact ofParts?_parts d

end Decimal

theorem Amount.ofDecimal_value (a : Amount) : ofDecimal a.value = .ok a := by
  rw [ofDecimal, dif_pos a.positive, dif_pos a.bounded, dif_pos a.wholeCents]

end Paydesk
