import Paydesk.Proofs.Binary64.Digits
import Paydesk.Proofs.Decimal.Numeral

/-!
# Amounts at face value

`Amount.taken_at_face_value`: a double is accepted as an amount exactly if the number that its text
denotes is valid, and then as that number.

1. The text of a double is a numeral: its digits are at most 17 (`Binary64.shortest_digits_le`), with
   zeros in front of them or behind them.
2. The reader of decimal numbers takes such a numeral at its value, unless that is out of the range of
   amounts; and whatever is read in its place is out of that range, too
   (`Numeral.read?_text_cases`).
-/

namespace Paydesk

namespace Binary64

open Text

/-- Digits around a point are a numeral, which is whole or denotes no more than the digits do. -/
theorem exists_positional (negative : Bool) {digits : List Char} (hdigits : IsNumeral digits)
    (point : Int) :
    ∃ n : Numeral, n.negative = negative ∧
      Decimal.pointed n.whole n.fraction = positional digits point ∧
      (n.fraction = [] ∨ n.size = digitsValue 0 digits) := by
  have hzeros : ∀ k, ∀ c ∈ List.replicate k '0', c.isDigit = true := by
    intro k c hc
    rw [List.eq_of_mem_replicate hc]
    rfl
  unfold positional
  split
  · -- zeros stand between the point and the digits
    have hfraction : List.replicate (-point).toNat '0' ++ digits ≠ [] :=
      List.append_ne_nil_of_right_ne_nil _ hdigits.1
    refine ⟨⟨negative, ['0'], List.replicate (-point).toNat '0' ++ digits, isNumeral_natDigits 0,
      fun c hc => (List.mem_append.1 hc).elim (hzeros _ c) (hdigits.2 c)⟩, rfl, ?_, .inr ?_⟩
    · rw [Decimal.pointed, if_neg hfraction]
      rfl
    · show digitsValue 0 (List.replicate (-point).toNat '0' ++ digits) = digitsValue 0 digits
      rw [digitsValue_append, digitsValue_replicate_zero]
  · next hpoint =>
    split
    · -- zeros stand behind the digits, and there is no point
      refine ⟨⟨negative, digits ++ List.replicate (point.toNat - digits.length) '0', [],
        ⟨List.append_ne_nil_of_left_ne_nil hdigits.1 _,
          fun c hc => (List.mem_append.1 hc).elim (hdigits.2 c) (hzeros _ c)⟩,
        List.forall_mem_nil _⟩, rfl, ?_, .inl rfl⟩
      rw [Decimal.pointed, if_pos rfl]
    · next hshort =>
      have hwhole : digits.take point.toNat ≠ [] := by
        rw [← List.length_pos_iff, List.length_take]
        omega
      have hfraction : digits.drop point.toNat ≠ [] := by
        rw [← List.length_pos_iff, List.length_drop]
        omega
      refine ⟨⟨negative, digits.take point.toNat, digits.drop point.toNat,
        ⟨hwhole, fun c hc => hdigits.2 c (List.mem_of_mem_take hc)⟩,
        fun c hc => hdigits.2 c (List.mem_of_mem_drop hc)⟩, rfl, ?_, .inr ?_⟩
      · rw [Decimal.pointed, if_neg hfraction]
      · rw [Numeral.size, List.take_append_drop]

/-- The text of a double is a numeral of 17 digits. -/
theorem exists_numeral (negative : Bool) (units : Nat) :
    ∃ n : Numeral, n.text = (finite negative units).plainText.toList ∧
      (n.fraction = [] ∨ n.size ≤ tenTo 17) := by
  obtain ⟨n, hsign, htext, hsize⟩ : ∃ n : Numeral, n.negative = negative ∧
      Decimal.pointed n.whole n.fraction = (if units = 0 then ['0'] else plainSize units) ∧
      (n.fraction = [] ∨ n.size ≤ tenTo 17) := by
    split
    · exact ⟨⟨negative, ['0'], [], isNumeral_natDigits 0, List.forall_mem_nil _⟩, rfl, rfl, .inl rfl⟩
    · obtain ⟨n, hsign, htext, hsize⟩ := exists_positional negative
        (isNumeral_natDigits (shortest units).digits)
        ((natDigits (shortest units).digits).length + (shortest units).exponent)
      refine ⟨n, hsign, htext, hsize.imp_right fun h => ?_⟩
      rw [h, digitsValue_natDigits]
      exact shortest_digits_le units
  refine ⟨n, ?_, hsize⟩
  rw [Numeral.text, hsign, htext, plainText, signed, String.toList_ofList]

end Binary64

namespace Amount

/-- A finite double is accepted if the decimal number that is read from its text is. -/
theorem ofBinary64_eq_ok {negative : Bool} {units : Nat} {a : Amount} :
    ofBinary64 (.finite negative units) = .ok a ↔
      ∃ d, Decimal.read? (Binary64.finite negative units).plainText = some d ∧
        ofDecimal d = .ok a := by
  unfold ofBinary64
  rw [if_pos (show (Binary64.finite negative units).isFinite = true from rfl)]
  cases Decimal.read? (Binary64.finite negative units).plainText with
  | none => exact ⟨nofun, fun ⟨d, hd, _⟩ => nomatch hd⟩
  | some d => simp

/-- **Doubles are taken at face value.** A finite double has one positional numeral as its text. It is
accepted as an amount exactly if the number that this numeral denotes is above zero, no more than a
million and a whole number of cents; and the amount is that very number. -/
theorem taken_at_face_value (negative : Bool) (units : Nat) :
    (∃ n : Numeral, n.text = (Binary64.finite negative units).plainText.toList) ∧
    ∀ n : Numeral, n.text = (Binary64.finite negative units).plainText.toList →
      ((∃ a, ofBinary64 (.finite negative units) = .ok a) ↔
        0 < n.toRat ∧ n.toRat ≤ 1000000 ∧ ∃ cents : ℤ, 100 * n.toRat = cents) ∧
      ∀ a, ofBinary64 (.finite negative units) = .ok a → a.value.toRat = n.toRat := by
  obtain ⟨n, htext, hshort⟩ := Binary64.exists_numeral negative units
  refine ⟨⟨n, htext⟩, fun m hm => ?_⟩
  obtain rfl := Numeral.text_injective (hm.trans htext.symm)
  have hplain : (Binary64.finite negative units).plainText = String.ofList m.text := by
    rw [hm, String.ofList_toList]
  show (_ ↔ IsValid m.toRat) ∧ _
  simp only [ofBinary64_eq_ok, hplain]
  rcases m.read?_text_cases hshort with ⟨d, hd, hvalue⟩ | ⟨hinvalid, hread⟩
  · rw [hd, ← hvalue, ← isOk_ofDecimal_iff]
    constructor
    · simp
    · rintro a ⟨r, hr, ha⟩
      obtain rfl := Option.some.inj hr
      rw [value_of_ofDecimal ha]
  · have hrefused : ∀ a d, Decimal.read? (String.ofList m.text) = some d → ofDecimal d ≠ .ok a :=
      fun a d hd ha => hread d hd (isOk_ofDecimal_iff.1 ⟨a, ha⟩)
    constructor
    · exact ⟨fun ⟨a, d, hd, ha⟩ => absurd ha (hrefused a d hd), fun h => absurd h hinvalid⟩
    · exact fun a ⟨d, hd, ha⟩ => absurd ha (hrefused a d hd)

end Amount

end Paydesk
