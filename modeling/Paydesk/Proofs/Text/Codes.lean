import Paydesk.Currency
import Paydesk.PaymentId
import Paydesk.Provider
import Paydesk.Status
import Paydesk.Proofs.Text.Trim
import Mathlib.Algebra.Ring.Nat
import Mathlib.Data.Nat.Basic

/-!
# Codes and identifiers are read back

Every code and every identifier of the service is read from its text. The readers trim what they get
and accept other spellings as well; none of this touches the text that was written, because it holds
no blanks (`Text.trim_eq_self`) and is spelled in the one way that is written. The digits of an identifier
denote its number (`digitsNumber?_padded`), and the hyphens between them are taken away where they
were put (`unhyphenate?_hyphenate`).
-/

namespace Paydesk

namespace Text

theorem toNat_of_isUpper {c : Char} (h : c.isUpper = true) : 65 ≤ c.toNat ∧ c.toNat ≤ 90 := by
  obtain ⟨hlow, hhigh⟩ : 'A'.val ≤ c.val ∧ c.val ≤ 'Z'.val := of_decide_eq_true h
  exact ⟨UInt32.le_iff_toNat_le.1 hlow, UInt32.le_iff_toNat_le.1 hhigh⟩

theorem isBlank_of_isUpper {c : Char} (h : c.isUpper = true) : isBlank c = false := by
  have hbounds := toNat_of_isUpper h
  simp only [isBlank, Bool.or_eq_false_iff, Bool.and_eq_false_iff, decide_eq_false_iff_not,
    beq_eq_false_iff_ne]
  omega

theorem toUpper_of_isUpper {c : Char} (h : c.isUpper = true) : c.toUpper = c := by
  have hbounds := toNat_of_isUpper h
  refine dif_neg fun hlower => ?_
  have hle : 97 ≤ c.toNat := UInt32.le_iff_toNat_le.1 hlower.1
  omega

theorem toLower_of_not_isUpper {c : Char} (h : ¬ c.isUpper = true) : c.toLower = c :=
  dif_neg fun hupper => h (decide_eq_true hupper)

namespace Hex

theorem value?_digit {d : Nat} (h : d < 16) : value? (digit d) = some d := by
  revert d
  decide

theorem isBlank_digit {d : Nat} (h : d < 16) : isBlank (digit d) = false := by
  revert d
  decide

@[simp] theorem length_padded (width n : Nat) : (padded width n).length = width := by
  induction width generalizing n with
  | zero => rfl
  | succ width ih => rw [padded, List.length_append, ih]; rfl

theorem exists_of_mem_padded {width n : Nat} {c : Char} (h : c ∈ padded width n) :
    ∃ d, d < 16 ∧ c = digit d := by
  induction width generalizing n with
  | zero => cases h
  | succ width ih =>
    rcases List.mem_append.1 h with hfront | hlast
    · exact ih hfront
    · exact ⟨n % 16, Nat.mod_lt n (by decide), List.mem_singleton.1 hlast⟩

end Hex

end Text

/-! ## Identifiers -/

namespace Uuid

open Text

theorem digitsNumber?_append (n : Nat) (cs ds : List Char) :
    digitsNumber? n (cs ++ ds) = (digitsNumber? n cs).bind fun m => digitsNumber? m ds := by
  induction cs generalizing n with
  | nil => rfl
  | cons c rest ih =>
    rw [List.cons_append, digitsNumber?, digitsNumber?]
    cases Hex.value? c with
    | none => rfl
    | some d => exact ih (16 * n + d)

/-- The digits of a number denote what of it they are wide enough for. -/
theorem digitsNumber?_padded (width n : Nat) :
    digitsNumber? 0 (Hex.padded width n) = some (n % 16 ^ width) := by
  induction width generalizing n with
  | zero => rw [Nat.pow_zero, Nat.mod_one]; rfl
  | succ width ih =>
    have hdigit := Hex.value?_digit (Nat.mod_lt n (show 0 < 16 by decide))
    have hsplit : n % 16 ^ (width + 1) = 16 * (n / 16 % 16 ^ width) + n % 16 := by
      rw [Nat.pow_succ', Nat.mod_mul]
      omega
    rw [Hex.padded, digitsNumber?_append, ih, Option.bind_some, digitsNumber?, hdigit,
      Option.bind_some, digitsNumber?, hsplit]

theorem unhyphenate?_hyphenate {lengths : List Nat} {cs : List Char} (hsome : lengths ≠ [])
    (h : cs.length = lengths.sum) : unhyphenate? lengths (hyphenate lengths cs) = some cs := by
  induction lengths generalizing cs with
  | nil => exact absurd rfl hsome
  | cons n more ih =>
    cases more with
    | nil =>
      rw [hyphenate, unhyphenate?, if_pos (by simpa using h)]
    | cons m rest =>
      rw [List.sum_cons] at h
      have htake : (cs.take n).length = n := List.length_take_of_le (by omega)
      have hlength : (cs.drop n).length = (m :: rest).sum := by
        rw [List.length_drop]
        omega
      have hrest := ih (List.cons_ne_nil m rest) hlength
      have hdrop : (cs.take n ++ '-' :: hyphenate (m :: rest) (cs.drop n)).drop n =
          '-' :: hyphenate (m :: rest) (cs.drop n) := List.drop_left' htake
      simp only [hyphenate, unhyphenate?, hdrop, hrest, Option.map_some]
      rw [List.take_left' htake, List.take_append_drop]

theorem length_hyphenate (lengths : List Nat) (cs : List Char) (h : lengths.sum ≤ cs.length) :
    (hyphenate lengths cs).length = cs.length + (lengths.length - 1) := by
  induction lengths generalizing cs with
  | nil => rfl
  | cons n more ih =>
    cases more with
    | nil => rfl
    | cons m rest =>
      rw [List.sum_cons] at h
      have hrest := ih (cs.drop n) (by
        rw [List.length_drop]
        omega)
      simp only [hyphenate, List.length_append, List.length_cons, hrest, List.length_take,
        List.length_drop]
      omega

theorem mem_hyphenate {lengths : List Nat} {cs : List Char} {c : Char}
    (h : c ∈ hyphenate lengths cs) : c = '-' ∨ c ∈ cs := by
  induction lengths generalizing cs with
  | nil => exact .inr h
  | cons n more ih =>
    cases more with
    | nil => exact .inr h
    | cons m rest =>
      rcases List.mem_append.1 h with hfront | hback
      · exact .inr (List.mem_of_mem_take hfront)
      · rcases List.mem_cons.1 hback with rfl | hlater
        · exact .inl rfl
        · exact (ih hlater).imp_right List.mem_of_mem_drop

theorem length_digits (id : Uuid) : id.digits.length = groupLengths.sum :=
  Hex.length_padded 32 id.number

theorem length_toText (id : Uuid) : id.toText.toList.length = 36 := by
  rw [toText, String.toList_ofList, length_hyphenate _ _ (Nat.le_of_eq id.length_digits.symm),
    length_digits]
  rfl

theorem digitsNumber?_digits (id : Uuid) : digitsNumber? 0 id.digits = some id.number := by
  rw [digits, digitsNumber?_padded]
  exact congrArg some (Nat.mod_eq_of_lt id.number_lt)

theorem read?_toText (id : Uuid) : read? id.toText = some id := by
  have hdigits : ofDigits? id.digits = some id := by
    rw [ofDigits?, if_pos (show id.digits.length = 32 from id.length_digits),
      id.digitsNumber?_digits, Option.bind_some, dif_pos id.number_lt]
  simp only [read?, id.length_toText, ofGrouped?]
  rw [toText, String.toList_ofList, unhyphenate?_hyphenate (by decide) id.length_digits,
    Option.bind_some, hdigits]

theorem isBlank_of_mem_toText {id : Uuid} {c : Char} (h : c ∈ id.toText.toList) :
    isBlank c = false := by
  rw [toText, String.toList_ofList] at h
  rcases mem_hyphenate h with rfl | hdigit
  · rfl
  · obtain ⟨d, hd, rfl⟩ := Hex.exists_of_mem_padded hdigit
    exact Hex.isBlank_digit hd

theorem isEmpty_toText (id : Uuid) : id.toText.isEmpty = false := by
  have hne : id.toText ≠ "" := by
    intro h
    have hlength := id.length_toText
    rw [h] at hlength
    cases hlength
  simpa using hne

end Uuid

theorem PaymentId.read_toText (id : PaymentId) : read id.toText = .ok id := by
  have htrim : Text.trim id.uuid.toText = id.uuid.toText :=
    Text.trim_eq_self fun _ hc => Uuid.isBlank_of_mem_toText hc
  change read id.uuid.toText = .ok id
  rw [read, htrim, id.uuid.isEmpty_toText, id.uuid.read?_toText]
  simp only [ofUuid, dif_pos id.version_eq, dif_pos id.variant_eq]
  rfl

/-! ## Codes -/

theorem Provider.read_code (p : Provider) : read p.code = .ok p := by
  cases p <;> decide

theorem Status.read_code (s : Status) : read s.code = .ok s := by
  cases s <;> decide

/-- Nothing of a code is trimmed, and in upper case it is what it is. -/
theorem Currency.read_code (c : Currency) : read c.code = .ok c := by
  obtain ⟨code, hcode⟩ := c
  have hupper : ∀ ch ∈ code.toList, ch.isUpper = true :=
    List.all_eq_true.1 (Bool.and_eq_true_iff.1 hcode).2
  have htrim : Text.trim code = code :=
    Text.trim_eq_self fun ch hch => Text.isBlank_of_isUpper (hupper ch hch)
  have hsame : Text.upper code = code := by
    rw [Text.upper, List.map_congr_left fun ch hch => Text.toUpper_of_isUpper (hupper ch hch),
      List.map_id', String.ofList_toList]
  simp only [read, htrim, hsame, dif_pos hcode]

end Paydesk
