import Paydesk.Proofs.Decimal.Rational
import Paydesk.Proofs.Decimal.Text
import Paydesk.Proofs.Text.Integer
import Paydesk.Proofs.Text.Split

/-!
# What numerals are read as

A positional numeral denotes a rational number (`Numeral.toRat`). It is read as that number as long as
a decimal number holds its digits. A whole number that is too large is refused, and digits behind the
28th place are rounded off; but the number that a numeral of 17 digits denotes, and the one that it is
read as, are both out of the range of amounts then (`Numeral.read?_text_cases`).
-/

namespace Paydesk

/-- Digits, perhaps with a point and more digits behind it, and perhaps with a minus sign. -/
structure Numeral where
  negative : Bool
  whole : List Char
  fraction : List Char
  isNumeral_whole : Text.IsNumeral whole
  isDigit_of_mem_fraction : ∀ c ∈ fraction, c.isDigit = true

theorem Amount.not_isValid_of_lt {q : ℚ} (h : q < 1 / 100) : ¬ IsValid q := by
  rintro ⟨hpos, -, cents, hcents⟩
  have hsome : (0 : ℚ) < cents := by linarith
  have hless : (cents : ℚ) < 1 := by linarith
  have hsome' : 0 < cents := by exact_mod_cast hsome
  have hless' : cents < 1 := by exact_mod_cast hless
  omega

namespace Decimal

open Text

theorem toRat_of_ofParts? {negative : Bool} {size scale : Nat} {d : Decimal}
    (h : ofParts? negative size scale = some d) :
    d.toRat = (if negative then -(size : ℤ) else size : ℤ) / tenTo scale := by
  obtain ⟨hcoefficient, hscale⟩ := ofParts?_eq_some h
  rw [toRat, hcoefficient, hscale]

theorem signed_div_le (negative : Bool) (size scale : Nat) :
    ((if negative then -(size : ℤ) else size : ℤ) : ℚ) / tenTo scale ≤ size / tenTo scale := by
  refine div_le_div_of_nonneg_right ?_ (tenTo_pos_rat scale).le
  split
  · push_cast
    have : (0 : ℚ) ≤ size := Nat.cast_nonneg size
    linarith
  · exact le_rfl

/-- Digits before the point that do not fit are refused. -/
theorem Reading.run?_tooLarge {r : Reading} {digits : List Char} (rest : List Char)
    (hdigits : ∀ c ∈ digits, c.isDigit = true) (hbefore : r.afterPoint = false)
    (hroom : r.scale ≠ maxScale) (hfits : r.size < limit) (hsize : limit ≤ digitsValue r.size digits) :
    r.run? (digits ++ rest) = none := by
  induction digits generalizing r with
  | nil => exact absurd hsize (not_le.2 hfits)
  | cons c digits ih =>
    rw [digitsValue_cons] at hsize
    have hdigit := hdigits c List.mem_cons_self
    by_cases hnext : 10 * r.size + digitValue c < limit
    · rw [List.cons_append, run?_digit hdigit hroom hnext]
      refine ih (fun d hd => hdigits d (List.mem_cons_of_mem c hd)) hbefore ?_ hnext hsize
      dsimp only
      rwa [if_neg (by simp [hbefore])]
    · rw [List.cons_append, Reading.run?, if_neg hroom, if_pos hdigit]
      dsimp only
      rw [if_neg hnext, if_neg (by simp [hbefore])]

/-- Of the digits behind the last place, the first decides whether what is read is one larger. -/
theorem Reading.finish?_digits {r : Reading} {excess : List Char}
    (hdigits : ∀ c ∈ excess, c.isDigit = true) (hsize : r.size + 1 < limit) :
    ∃ size ≤ r.size + 1, r.finish? excess = some (size, r.scale) := by
  have hall : (excess.all fun c => c.isDigit || c = '_') = true :=
    List.all_eq_true.2 fun c hc => by rw [hdigits c hc]; rfl
  unfold finish?
  rw [if_pos hall]
  dsimp only
  generalize (if largeSize ≤ r.size / 10 then _ else excess : List Char).head?.any roundsUp = isUp
  cases isUp with
  | true => exact ⟨r.size + 1, le_rfl, if_pos hsize⟩
  | false => exact ⟨r.size, Nat.le_succ _, if_pos (Nat.lt_of_succ_lt hsize)⟩

/-- With more places than a decimal number has, a small number is cut off behind the 28th. -/
theorem run?_pointed_cut {whole fraction : List Char} (hwhole : whole ≠ [])
    (hdigits : ∀ c ∈ whole ++ fraction, c.isDigit = true)
    (hsize : digitsValue 0 (whole ++ fraction) + 1 < limit) (hlong : maxScale < fraction.length) :
    ∃ size ≤ digitsValue 0 (whole ++ fraction) + 1,
      Reading.run? {} (pointed whole fraction) = some (size, maxScale) := by
  obtain ⟨front, back, rfl, hfront⟩ : ∃ front back, fraction = front ++ back ∧
      front.length = maxScale :=
    ⟨_, _, (List.take_append_drop maxScale fraction).symm, List.length_take_of_le hlong.le⟩
  rw [← List.append_assoc, digitsValue_append] at hsize ⊢
  have hless := le_digitsValue (digitsValue 0 (whole ++ front)) back
  rw [digitsValue_append] at hless hsize ⊢
  have hwhole' := le_digitsValue (digitsValue 0 whole) front
  have hfraction : ∀ c ∈ front ++ back, c.isDigit = true := fun c hc =>
    hdigits c (List.mem_append_right whole hc)
  have hback : back ≠ [] := by
    rintro rfl
    rw [List.append_nil, hfront] at hlong
    exact lt_irrefl _ hlong
  obtain ⟨c, rest, rfl⟩ := List.exists_cons_of_ne_nil hback
  obtain ⟨size, hle, hfinish⟩ := Reading.finish?_digits
    (r := ⟨digitsValue (digitsValue 0 whole) front, maxScale, true, true⟩)
    (fun d hd => hfraction d (List.mem_append_right front hd)) (by dsimp only; omega)
  refine ⟨size, by dsimp only at hle; omega, ?_⟩
  have hbehind := Reading.run?_behind (c :: rest)
    (r := { size := digitsValue 0 whole, afterPoint := true, anyDigit := true })
    (fun d hd => hfraction d (List.mem_append_left _ hd)) rfl (by simp [hfront]) (by dsimp only; omega)
  rw [pointed, if_neg (by simp), run?_front hwhole
    (fun d hd => hdigits d (List.mem_append_left _ hd)) (by omega),
    Reading.run?_point rfl (show (0 : Nat) ≠ maxScale by decide), hbehind, Reading.run?]
  refine (if_pos (by simp [hfront])).trans ?_
  simpa [hfront] using hfinish

end Decimal

namespace Numeral

open Text Decimal

variable (n : Numeral)

/-- The whole number that the digits denote without the point. -/
def size : Nat :=
  digitsValue 0 (n.whole ++ n.fraction)

def text : List Char :=
  if n.negative then '-' :: pointed n.whole n.fraction else pointed n.whole n.fraction

def toRat : ℚ :=
  (if n.negative then -(n.size : ℤ) else n.size : ℤ) / tenTo n.fraction.length

theorem isDigit_of_mem {c : Char} (h : c ∈ n.whole ++ n.fraction) : c.isDigit = true :=
  (List.mem_append.1 h).elim (n.isNumeral_whole.2 c) (n.isDigit_of_mem_fraction c)

theorem toRat_le : n.toRat ≤ n.size / tenTo n.fraction.length :=
  signed_div_le n.negative n.size n.fraction.length

/-! ## A text is the text of one numeral -/

theorem exists_pointed : ∃ c rest, pointed n.whole n.fraction = c :: rest ∧ c.isDigit = true := by
  obtain ⟨c, hc, rest, hcons⟩ := exists_pointed_cons n.isNumeral_whole.1 n.fraction
  exact ⟨c, rest, hcons, n.isNumeral_whole.2 c hc⟩

theorem pointed_injective {n m : Numeral}
    (h : pointed n.whole n.fraction = pointed m.whole m.fraction) :
    n.whole = m.whole ∧ n.fraction = m.fraction := by
  have hpoint : ∀ n : Numeral, '.' ∉ n.whole := by
    intro n hmem
    have hdigit := n.isNumeral_whole.2 '.' hmem
    cases hdigit
  unfold pointed at h
  split at h
  · next hn =>
    split at h
    · next hm => exact ⟨h, hn.trans hm.symm⟩
    · exact absurd (h ▸ List.mem_append_right _ List.mem_cons_self) (hpoint n)
  · split at h
    · exact absurd (h ▸ List.mem_append_right _ List.mem_cons_self) (hpoint m)
    · exact eq_of_append_cons_eq (hpoint n) (hpoint m) h

theorem text_injective : Function.Injective text := by
  intro n m h
  obtain ⟨c, rest, hn, hc⟩ := n.exists_pointed
  obtain ⟨c', rest', hm, hc'⟩ := m.exists_pointed
  have hsame : n.negative = m.negative ∧
      pointed n.whole n.fraction = pointed m.whole m.fraction := by
    unfold text at h
    split at h
    · next hneg =>
      split at h
      · next hneg' => exact ⟨hneg.trans hneg'.symm, (List.cons.inj h).2⟩
      · rw [hm] at h
        obtain ⟨rfl, -⟩ := List.cons.inj h
        cases hc'
    · next hneg =>
      split at h
      · rw [hn] at h
        obtain ⟨rfl, -⟩ := List.cons.inj h
        cases hc
      · next hneg' => exact ⟨by simp_all, h⟩
  obtain ⟨hwhole, hfraction⟩ := pointed_injective hsame.2
  cases n
  cases m
  simp_all

/-! ## What it is read as -/

theorem read?_text : read? (String.ofList n.text) =
    (Reading.run? {} (pointed n.whole n.fraction)).bind fun (size, scale) =>
      ofParts? n.negative size scale := by
  obtain ⟨c, rest, htext, hdigit⟩ := n.exists_pointed
  rw [text, read?_signed _ fun _ => isDigit_of_mem_pointed fun _ => n.isDigit_of_mem, htext,
    readPlain?_signed _ hdigit]

theorem exists_read?_text (hsize : n.size < limit) (hscale : n.fraction.length ≤ maxScale) :
    ∃ d, read? (String.ofList n.text) = some d ∧ d.toRat = n.toRat := by
  have hsome := ofParts?_isSome n.negative hsize hscale
  obtain ⟨d, hd⟩ := Option.isSome_iff_exists.1 hsome
  refine ⟨d, ?_, toRat_of_ofParts? hd⟩
  rw [read?_text, run?_pointed n.isNumeral_whole.1 (fun _ => n.isDigit_of_mem) hsize hscale]
  exact hd

/-- A whole number that is too large to be read is too large for an amount. -/
theorem read?_text_of_large (hwhole : n.fraction = []) (h : limit ≤ n.size) :
    read? (String.ofList n.text) = none ∧ ¬ Amount.IsValid n.toRat := by
  have hsize : n.size = digitsValue 0 n.whole := by rw [size, hwhole, List.append_nil]
  have hnone : Reading.run? {} (pointed n.whole n.fraction) = none := by
    rw [pointed, if_pos hwhole, ← List.append_nil n.whole]
    exact Reading.run?_tooLarge [] n.isNumeral_whole.2 rfl (by decide) (by decide) (hsize ▸ h)
  refine ⟨by rw [read?_text, hnone]; rfl, fun ⟨hpos, hle, _⟩ => ?_⟩
  have hlarge : (1000000 : ℚ) < n.size := by
    have hlimit : 1000000 < limit := by decide
    exact_mod_cast hlimit.trans_le h
  rw [toRat, hwhole, List.length_nil, tenTo_zero, Nat.cast_one, div_one] at hpos hle
  split at hpos
  · push_cast at hpos
    linarith
  · next hneg =>
    rw [if_neg hneg] at hle
    push_cast at hle
    linarith

/-- A small number with more places than can be read is less than a cent, as is what it is read as. -/
theorem read?_text_of_long (hsize : n.size ≤ tenTo 17) (hlong : maxScale < n.fraction.length) :
    ¬ Amount.IsValid n.toRat ∧
      ∀ d, read? (String.ofList n.text) = some d → ¬ Amount.IsValid d.toRat := by
  have hsmall : ∀ {q : ℚ} {size scale : Nat}, q ≤ size / tenTo scale → size ≤ tenTo 17 + 1 →
      maxScale ≤ scale → ¬ Amount.IsValid q := by
    intro q size scale hq hle hscale
    refine Amount.not_isValid_of_lt (hq.trans_lt ?_)
    rw [div_lt_iff₀ (tenTo_pos_rat scale)]
    have hten : tenTo maxScale ≤ tenTo scale :=
      Nat.le_of_dvd (tenTo_pos scale) (tenTo_dvd hscale)
    have hunits : 100 * (tenTo 17 + 1) < tenTo maxScale := by decide
    have hless : 100 * size < tenTo scale := by omega
    have hless' : (100 * size : ℚ) < tenTo scale := by exact_mod_cast hless
    linarith
  refine ⟨hsmall n.toRat_le (hsize.trans (Nat.le_succ _)) hlong.le, fun d hd => ?_⟩
  obtain ⟨size, hle, hrun⟩ := run?_pointed_cut n.isNumeral_whole.1 (fun _ => n.isDigit_of_mem)
    (Nat.lt_of_le_of_lt (Nat.succ_le_succ hsize) (by decide)) hlong
  rw [read?_text, hrun] at hd
  have hvalue := toRat_of_ofParts? hd
  exact hsmall (hvalue ▸ signed_div_le n.negative size maxScale)
    (hle.trans (Nat.succ_le_succ hsize)) le_rfl

/-- A numeral of 17 digits is read as the number that it denotes, or neither this nor what it is read
as is in the range of amounts. -/
theorem read?_text_cases (hshort : n.fraction = [] ∨ n.size ≤ tenTo 17) :
    (∃ d, read? (String.ofList n.text) = some d ∧ d.toRat = n.toRat) ∨
    (¬ Amount.IsValid n.toRat ∧
      ∀ d, read? (String.ofList n.text) = some d → ¬ Amount.IsValid d.toRat) := by
  by_cases hlong : maxScale < n.fraction.length
  · right
    refine n.read?_text_of_long (hshort.resolve_left ?_) hlong
    intro hnone
    rw [hnone] at hlong
    exact absurd hlong (Nat.not_lt_zero maxScale)
  · rcases Nat.lt_or_ge n.size limit with hfits | hlarge
    · exact .inl (n.exists_read?_text hfits (not_lt.1 hlong))
    · have hwhole : n.fraction = [] := hshort.resolve_right fun hsize =>
        absurd (hlarge.trans hsize) (by decide)
      obtain ⟨hnone, hinvalid⟩ := n.read?_text_of_large hwhole hlarge
      refine .inr ⟨hinvalid, fun d hd => ?_⟩
      rw [hnone] at hd
      cases hd

end Numeral

end Paydesk
