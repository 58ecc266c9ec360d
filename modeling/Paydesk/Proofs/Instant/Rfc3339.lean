import Paydesk.Instant.Rfc3339
import Paydesk.Proofs.Instant.Calendar
import Paydesk.Proofs.Text.Numeral

/-!
# Instants are read back

An instant of the supported years is read from its text (`read?_toText`), to the nanosecond and with
its leap second if it is one. The reader takes the text apart field by field; each field is read from
the digits that were written for it (`readNumber_append`), and the day that its date counts is the
day that the date was made from (`Date.toDays_ofDays`).
-/

namespace Paydesk.Instant

open Text

/-- An instant of the supported years; only the last second of a minute may be a leap second. -/
structure IsProper (t : Instant) : Prop where
  year_ge : -262143 ≤ (Date.ofDays (t.seconds / 86400)).year
  year_le : (Date.ofDays (t.seconds / 86400)).year ≤ 262142
  nanos_lt : t.nanos < 2 * nanosPerSecond
  leap : nanosPerSecond ≤ t.nanos → t.seconds % 60 = 59

/-- Every day has a date of the calendar, so the years are all that a supported date is about. -/
theorem IsProper.supported {t : Instant} (h : t.IsProper) :
    isSupported (Date.ofDays (t.seconds / 86400)) = true := by
  unfold isSupported
  simp [h.year_ge, h.year_le, Date.isValid_ofDays]

/-! ## Fields -/

theorem isBlank_of_isDigit {c : Char} (h : c.isDigit = true) : isBlank c = false := by
  have hbounds := Char.isDigit_iff_toNat.1 h
  simp only [isBlank, Bool.or_eq_false_iff, Bool.and_eq_false_iff, decide_eq_false_iff_not,
    beq_eq_false_iff_ne]
  simp only [show '0'.toNat = 48 from rfl, show '9'.toNat = 57 from rfl] at hbounds
  omega

theorem skipBlanks_cons {c : Char} {rest : List Char} (h : isBlank c = false) :
    skipBlanks (c :: rest) = c :: rest :=
  List.dropWhile_cons_of_neg (by simp [h])

theorem skipBlanks_digits {digits rest : List Char} (hsome : digits ≠ [])
    (hdigits : ∀ c ∈ digits, c.isDigit = true) : skipBlanks (digits ++ rest) = digits ++ rest := by
  obtain ⟨c, cs, rfl⟩ := List.exists_cons_of_ne_nil hsome
  exact skipBlanks_cons (isBlank_of_isDigit (hdigits c List.mem_cons_self))

theorem readMark_cons {mark : Char} {rest : List Char} (h : isBlank mark = false) :
    readMark mark (mark :: rest) = some rest := by
  rw [readMark, skipBlanks_cons h]
  exact if_pos rfl

/-- Digits that fill their width, or end before it is full, are read as what they denote. -/
theorem readNumber_append {width : Nat} {digits rest : List Char} (hsome : digits ≠ [])
    (hdigits : ∀ c ∈ digits, c.isDigit = true)
    (hend : digits.length = width ∨ digits.length ≤ width ∧ EndsDigits rest) :
    readNumber width (digits ++ rest) = some (digitsValue 0 digits, rest) := by
  have hrest : EndsDigits (rest.take (width - digits.length)) := by
    intro c hc
    rcases hend with hfull | ⟨-, hends⟩
    · rw [hfull, Nat.sub_self, List.take_zero] at hc
      cases hc
    · rw [List.head?_take] at hc
      split at hc
      · cases hc
      · exact hends c hc
  have htake : ((digits ++ rest).take width).takeWhile Char.isDigit = digits := by
    rw [List.take_append, List.take_of_length_le (by omega), takeWhile_isDigit_append hdigits hrest]
  rw [readNumber, htake, if_neg (by simpa using hsome), List.drop_left]

theorem readField_padded {low high n : Nat} {rest : List Char} (hlow : low ≤ n) (hhigh : n ≤ high)
    (hwidth : n < 100) : readField low high (padded 2 n ++ rest) = some (n, rest) := by
  have hlength : (padded 2 n).length = 2 := length_padded_of_lt (by decide) hwidth
  have hsome : padded 2 n ≠ [] := by
    intro hnil
    rw [hnil] at hlength
    cases hlength
  have hdigits : ∀ c ∈ padded 2 n, c.isDigit = true := fun c => isDigit_of_mem_padded
  rw [readField, skipBlanks_digits hsome hdigits, readNumber_append hsome hdigits (.inl hlength),
    digitsValue_padded, Option.filter_some, if_pos (by simp [hlow, hhigh])]

/-! ## Date and time of day -/

theorem endsDigits_cons {c : Char} {rest : List Char} (h : c.isDigit = false) :
    EndsDigits (c :: rest) := by
  rintro d hd
  cases hd
  exact h

/-- Without a sign, four digits are read. -/
theorem readYear_of_isDigit {c : Char} {rest : List Char} (h : c.isDigit = true) :
    readYear (c :: rest) = (readNumber 4 (c :: rest)).map fun r => ((r.1 : Int), r.2) := by
  rw [readYear, skipBlanks_cons (isBlank_of_isDigit h)]
  split
  · next heq => cases heq; cases h
  · next heq => cases heq; cases h
  · rfl

theorem readYear_yearText (year : Int) (rest : List Char) :
    readYear (yearText year ++ '-' :: rest) = some (year, '-' :: rest) := by
  have hdigits : ∀ c ∈ padded 4 year.natAbs, c.isDigit = true := fun c => isDigit_of_mem_padded
  have hsome : padded 4 year.natAbs ≠ [] := by
    intro hnil
    have hlong := le_length_padded 4 year.natAbs
    rw [hnil] at hlong
    cases hlong
  have hends : EndsDigits ('-' :: rest) := endsDigits_cons rfl
  unfold yearText
  split
  · next hrange =>
    have hlength : (padded 4 year.natAbs).length = 4 := length_padded_of_lt (by decide) (by omega)
    have hread : readNumber 4 (padded 4 year.natAbs ++ '-' :: rest) =
        some (year.natAbs, '-' :: rest) := by
      rw [readNumber_append hsome hdigits (.inl hlength), digitsValue_padded]
    obtain ⟨c, cs, hcons⟩ := List.exists_cons_of_ne_nil hsome
    rw [hcons] at hread hdigits ⊢
    rw [List.cons_append, readYear_of_isDigit (hdigits c List.mem_cons_self), ← List.cons_append,
      hread]
    exact congrArg (fun y => some (y, '-' :: rest)) (Int.natAbs_of_nonneg hrange.1)
  · have hread : readNumber (padded 4 year.natAbs ++ '-' :: rest).length
        (padded 4 year.natAbs ++ '-' :: rest) = some (year.natAbs, '-' :: rest) := by
      rw [readNumber_append hsome hdigits (.inr ⟨by simp, hends⟩), digitsValue_padded]
    by_cases hnegative : year < 0
    · rw [if_pos hnegative, List.cons_append, readYear, skipBlanks_cons rfl]
      simp only [hread, Option.map_some]
      exact congrArg (fun y => some (y, '-' :: rest)) (by omega)
    · rw [if_neg hnegative, List.cons_append, readYear, skipBlanks_cons rfl]
      simp only [hread, Option.map_some]
      exact congrArg (fun y => some (y, '-' :: rest)) (by omega)

theorem readDate_append {date : Date} {rest : List Char} (h : isSupported date = true) :
    readDate (yearText date.year ++ '-' :: (padded 2 date.month ++ '-' ::
      (padded 2 date.day ++ rest))) = some (date, rest) := by
  have hvalid := h
  simp only [isSupported, Date.isValid, Bool.and_eq_true, decide_eq_true_eq] at hvalid
  obtain ⟨-, ⟨⟨hmonth, hmonth'⟩, hday⟩, hday'⟩ := hvalid
  have hlength : Date.monthLength date.year date.month ≤ 31 := by
    unfold Date.monthLength
    split_ifs <;> omega
  have hmark : ∀ cs, readMark '-' ('-' :: cs) = some cs := fun cs => readMark_cons rfl
  have hdayField : readField 1 31 (padded 2 date.day ++ rest) = some (date.day, rest) :=
    readField_padded hday (by omega) (by omega)
  simp only [readDate, readYear_yearText, hmark, readField_padded hmonth hmonth' (by omega),
    hdayField, Option.bind_eq_bind, Option.bind_some, h, if_true]

/-- Digits behind the point count by their place. -/
theorem readFraction_padded {width n : Nat} {rest : List Char} (hwidth : 0 < width)
    (hplaces : width ≤ 9) (h : n < 10 ^ width) (hends : EndsDigits rest) :
    readFraction ('.' :: (padded width n ++ rest)) = some (n * tenTo (9 - width), rest) := by
  have hlength := length_padded_of_lt hwidth h
  have hsome : (padded width n).isEmpty = false := by
    rw [List.isEmpty_eq_false_iff]
    intro hnil
    rw [hnil] at hlength
    exact Nat.ne_of_gt hwidth hlength.symm
  have hall : ∀ c ∈ padded width n, c.isDigit = true := fun c => isDigit_of_mem_padded
  have hdigits := takeWhile_isDigit_append hall hends
  have hkept : (padded width n).take 9 = padded width n := List.take_of_length_le (by omega)
  simp only [readFraction, hdigits, hkept, hsome, Bool.false_eq_true, if_false, digitsValue_padded,
    hlength, List.drop_left']

theorem readFraction_append {nanos : Nat} {rest : List Char} (h : nanos < nanosPerSecond)
    (hpoint : rest.head? ≠ some '.') (hends : EndsDigits rest) :
    readFraction (fractionText nanos ++ rest) = some (nanos, rest) := by
  unfold nanosPerSecond at h
  unfold fractionText
  split_ifs with hzero hmillis hmicros
  · subst hzero
    rw [List.nil_append]
    unfold readFraction
    split
    · exact absurd rfl hpoint
    · rfl
  · have hpower : tenTo (9 - 3) = 1000000 := rfl
    rw [List.cons_append, readFraction_padded (by decide) (by decide) (by omega) hends, hpower,
      Nat.div_mul_cancel (Nat.dvd_of_mod_eq_zero hmillis)]
  · have hpower : tenTo (9 - 6) = 1000 := rfl
    rw [List.cons_append, readFraction_padded (by decide) (by decide) (by omega) hends, hpower,
      Nat.div_mul_cancel (Nat.dvd_of_mod_eq_zero hmicros)]
  · rw [List.cons_append, readFraction_padded (by decide) (by decide) (by omega) hends, Nat.sub_self,
      tenTo_zero, Nat.mul_one]

theorem readTime_append {hour minute second nanos : Nat} {rest : List Char} (hhour : hour ≤ 23)
    (hminute : minute ≤ 59) (hsecond : second ≤ 60) (hnanos : nanos < nanosPerSecond)
    (hpoint : rest.head? ≠ some '.') (hends : EndsDigits rest) :
    readTime (padded 2 hour ++ ':' :: (padded 2 minute ++ ':' :: (padded 2 second ++
      (fractionText nanos ++ rest)))) =
      some (if second = 60 then (hour * 3600 + minute * 60 + 59, nanos + nanosPerSecond)
        else (hour * 3600 + minute * 60 + second, nanos), rest) := by
  have hmark : ∀ cs, readMark ':' (':' :: cs) = some cs := fun cs => readMark_cons rfl
  simp only [readTime, hmark, readField_padded (Nat.zero_le _) hhour (by omega),
    readField_padded (Nat.zero_le _) hminute (by omega),
    readField_padded (Nat.zero_le _) hsecond (by omega), readFraction_append hnanos hpoint hends,
    Option.bind_eq_bind, Option.bind_some]
  split <;> rfl

/-! ## The whole text -/

/-- The time of day of an instant, as it is read: a leap second is written as the 60th second. -/
theorem readTime_localText {t : Instant} (h : t.IsProper) :
    let second := (t.seconds % 86400).toNat
    let leap := if nanosPerSecond ≤ t.nanos then 1 else 0
    readTime (padded 2 (second / 3600) ++ ':' :: (padded 2 (second / 60 % 60) ++ ':' ::
      (padded 2 (second % 60 + leap) ++ (fractionText (t.nanos % nanosPerSecond) ++ ['Z'])))) =
      some ((second, t.nanos), ['Z']) := by
  intro second leap
  have hsecond : second < 86400 := by
    have hlt := Int.emod_lt_of_pos t.seconds (show (0 : Int) < 86400 by decide)
    omega
  have hnanos := Nat.mod_lt t.nanos (show 0 < nanosPerSecond by decide)
  have hlast : second % 60 + leap ≤ 60 := by
    simp only [leap]
    split <;> omega
  rw [readTime_append (by omega) (by omega) hlast hnanos (by decide) (endsDigits_cons rfl)]
  by_cases hleap : nanosPerSecond ≤ t.nanos
  · have hminute : second % 60 = 59 := by
      have hend := h.leap hleap
      omega
    have hone : leap = 1 := if_pos hleap
    have hbound := h.nanos_lt
    have hbase : second / 3600 * 3600 + second / 60 % 60 * 60 + 59 = second := by omega
    have hrest : t.nanos % nanosPerSecond + nanosPerSecond = t.nanos := by
      rw [Nat.mod_eq_sub_mod hleap, Nat.mod_eq_of_lt (by omega), Nat.sub_add_cancel hleap]
    rw [hone, hminute, if_pos rfl, hbase, hrest]
  · have hzero : leap = 0 := if_neg hleap
    have hbase : second / 3600 * 3600 + second / 60 % 60 * 60 + (second % 60 + 0) = second := by
      omega
    rw [hzero, if_neg (by omega), hbase, Nat.mod_eq_of_lt (Nat.lt_of_not_le hleap)]

/-- **Instants are read back** from their texts. -/
theorem read?_toText {t : Instant} (h : t.IsProper) : read? t.toText = some t := by
  have htime := readTime_localText h
  have hseparator : ∀ cs, readSeparator ('T' :: cs) = some cs := fun cs => rfl
  have hoffset : readOffset (skipBlanks ['Z']) = some (0, []) := rfl
  have hseconds : t.seconds / 86400 * 86400 + ((t.seconds % 86400).toNat : Int) - 0 = t.seconds := by
    have hnonneg := Int.emod_nonneg t.seconds (show (86400 : Int) ≠ 0 by decide)
    omega
  simp only [toText, localText, read?, String.toList_ofList, List.append_assoc, List.cons_append,
    readDate_append h.supported, hseparator, htime, hoffset, Date.toDays_ofDays, hseconds,
    h.supported, Option.bind_eq_bind, Option.bind_some]
  rfl

end Paydesk.Instant
