import Paydesk.Proofs.Text.Numeral
import Paydesk.Text.Utf8
import Mathlib.Algebra.Order.Ring.Int
import Mathlib.Data.List.Basic

/-!
# Whole numbers as text

A text denotes a whole number (`Denotes`) if it consists of digits, with a sign in front of them or
not. Exactly the texts that denote a number of 64 bits are read, as that number
(`readInt64?_eq_some`); so it is for natural numbers and any limit, without a minus sign
(`readNat_eq_ok`). What is written for a number denotes it, is written for no other number, and
holds nothing but digits and perhaps a minus sign.
-/

namespace Paydesk.Text

/-! ## Digits within a limit -/

/-- Digits are read if they denote no more than the limit. The digits in front denote less than all
of them, so none is refused on the way. -/
theorem readDigits_eq_ok {limit n m : Nat} {cs : List Char} (hn : n ≤ limit) :
    readDigits limit n cs = .ok m ↔
      (∀ c ∈ cs, c.isDigit = true) ∧ digitsValue n cs = m ∧ m ≤ limit := by
  induction cs generalizing n with
  | nil =>
    simp only [readDigits, digitsValue_nil, Except.ok.injEq, List.not_mem_nil, false_implies,
      implies_true, true_and]
    exact ⟨fun h => ⟨h, h ▸ hn⟩, fun h => h.1⟩
  | cons c rest ih =>
    rw [readDigits, digitsValue_cons, List.forall_mem_cons]
    by_cases hc : c.isDigit = true
    · rw [if_pos hc]
      dsimp only
      by_cases hnext : 10 * n + digitValue c ≤ limit
      · rw [if_pos hnext, ih hnext]
        simp only [hc, true_and]
      · rw [if_neg hnext]
        refine ⟨nofun, fun ⟨_, hvalue, hle⟩ => ?_⟩
        have hfront := le_digitsValue (10 * n + digitValue c) rest
        omega
    · rw [if_neg hc]
      exact ⟨nofun, fun h => absurd h.1.1 hc⟩

/-! ## Texts that denote a number -/

/-- There are digits, and nothing else. -/
def IsNumeral (cs : List Char) : Prop :=
  cs ≠ [] ∧ ∀ c ∈ cs, c.isDigit = true

/-- The text denotes the number. -/
inductive Denotes : List Char → Int → Prop
  | plain {digits : List Char} (numeral : IsNumeral digits) :
      Denotes digits (digitsValue 0 digits)
  | plus {digits : List Char} (numeral : IsNumeral digits) :
      Denotes ('+' :: digits) (digitsValue 0 digits)
  | minus {digits : List Char} (numeral : IsNumeral digits) :
      Denotes ('-' :: digits) (-digitsValue 0 digits)

theorem not_isNumeral_cons {c : Char} {cs : List Char} (h : c.isDigit = false) :
    ¬ IsNumeral (c :: cs) := by
  intro hnumeral
  have hdigit := hnumeral.2 c List.mem_cons_self
  rw [h] at hdigit
  cases hdigit

theorem denotes_minus {digits : List Char} {i : Int} :
    Denotes ('-' :: digits) i ↔ IsNumeral digits ∧ i = -digitsValue 0 digits := by
  constructor
  · rintro (h | h | h)
    · exact absurd h (not_isNumeral_cons rfl)
    · exact ⟨h, rfl⟩
  · rintro ⟨h, rfl⟩
    exact .minus h

theorem denotes_plus {digits : List Char} {i : Int} :
    Denotes ('+' :: digits) i ↔ IsNumeral digits ∧ i = digitsValue 0 digits := by
  constructor
  · rintro (h | h | h)
    · exact absurd h (not_isNumeral_cons rfl)
    · exact ⟨h, rfl⟩
  · rintro ⟨h, rfl⟩
    exact .plus h

theorem denotes_plain {cs : List Char} {i : Int} (hplus : ∀ digits, cs ≠ '+' :: digits)
    (hminus : ∀ digits, cs ≠ '-' :: digits) :
    Denotes cs i ↔ IsNumeral cs ∧ i = digitsValue 0 cs := by
  constructor
  · intro h
    cases h with
    | plain h => exact ⟨h, rfl⟩
    | plus h => exact absurd rfl (hplus _)
    | minus h => exact absurd rfl (hminus _)
  · rintro ⟨h, rfl⟩
    exact .plain h

theorem bind_readDigits_eq_some {limit : Nat} {digits : List Char} {f : Nat → Int} {i : Int}
    (hsome : digits ≠ []) :
    ((readDigits limit 0 digits).toOption.bind fun n => some (f n)) = some i ↔
      (IsNumeral digits ∧ i = f (digitsValue 0 digits)) ∧ digitsValue 0 digits ≤ limit := by
  constructor
  · intro h
    cases hread : readDigits limit 0 digits with
    | error fault =>
      rw [hread] at h
      cases h
    | ok n =>
      rw [hread] at h
      obtain ⟨hdigits, rfl, hle⟩ := (readDigits_eq_ok (Nat.zero_le limit)).1 hread
      exact ⟨⟨⟨hsome, hdigits⟩, (Option.some.inj h).symm⟩, hle⟩
  · rintro ⟨⟨hnumeral, rfl⟩, hle⟩
    rw [(readDigits_eq_ok (Nat.zero_le limit)).2 ⟨hnumeral.2, rfl, hle⟩]
    rfl

theorem readInt64?_eq_some {s : String} {i : Int} :
    readInt64? s = some i ↔ Denotes s.toList i ∧ -2 ^ 63 ≤ i ∧ i < 2 ^ 63 := by
  have hempty : ¬ IsNumeral [] := fun h => h.1 rfl
  have hpositive : ∀ {n : Nat} {i : Int}, i = n → (n ≤ maxInt ↔ -2 ^ 63 ≤ i ∧ i < 2 ^ 63) := by
    rintro n i rfl
    unfold maxInt
    omega
  have hread : ∀ x : Option Nat, x.map Int.ofNat = x.bind fun n => some (n : Int) := by
    rintro (- | n) <;> rfl
  unfold readInt64?
  generalize s.toList = cs
  split
  · refine ⟨nofun, fun ⟨h, _⟩ => ?_⟩
    cases h with
    | plain h => exact absurd h hempty
  · exact ⟨nofun, fun ⟨h, _⟩ => absurd (denotes_plus.1 h).1 hempty⟩
  · exact ⟨nofun, fun ⟨h, _⟩ => absurd (denotes_minus.1 h).1 hempty⟩
  · next digits hsome =>
    have hnegated : ∀ x : Option Nat, Option.map (fun n : Int => -n) (do let n ← x; pure (n : Int)) =
        x.bind fun n => some (-(n : Int)) := by
      rintro (- | n) <;> rfl
    rw [hnegated, bind_readDigits_eq_some fun h => hsome h, denotes_minus]
    refine and_congr_right fun h => ?_
    have hvalue := h.2
    unfold maxInt
    omega
  · next digits hsome =>
    rw [hread, bind_readDigits_eq_some fun h => hsome h, denotes_plus]
    exact and_congr_right fun h => hpositive h.2
  · next digits hsome _ _ hminus hplus =>
    rw [hread, bind_readDigits_eq_some fun h => hsome h,
      denotes_plain (fun cs h => hplus cs h) fun cs h => hminus cs h]
    exact and_congr_right fun h => hpositive h.2

/-! ## Numbers without a minus sign -/

/-- The text denotes the natural number; a plus sign may stand in front. -/
inductive DenotesNat : List Char → Nat → Prop
  | plain {digits : List Char} (numeral : IsNumeral digits) :
      DenotesNat digits (digitsValue 0 digits)
  | plus {digits : List Char} (numeral : IsNumeral digits) :
      DenotesNat ('+' :: digits) (digitsValue 0 digits)

theorem denotesNat_plus {digits : List Char} {n : Nat} :
    DenotesNat ('+' :: digits) n ↔ IsNumeral digits ∧ digitsValue 0 digits = n := by
  constructor
  · rintro (h | h)
    · exact absurd h (not_isNumeral_cons rfl)
    · exact ⟨h, rfl⟩
  · rintro ⟨h, rfl⟩
    exact .plus h

theorem denotesNat_plain {cs : List Char} {n : Nat} (hplus : ∀ digits, cs ≠ '+' :: digits) :
    DenotesNat cs n ↔ IsNumeral cs ∧ digitsValue 0 cs = n := by
  constructor
  · intro h
    cases h with
    | plain h => exact ⟨h, rfl⟩
    | plus h => exact absurd rfl (hplus _)
  · rintro ⟨h, rfl⟩
    exact .plain h

theorem readNat_eq_ok {limit n : Nat} {s : String} :
    readNat limit s = .ok n ↔ DenotesNat s.toList n ∧ n ≤ limit := by
  have hempty : ¬ IsNumeral [] := fun h => h.1 rfl
  have hread : ∀ {digits : List Char}, digits ≠ [] → (readDigits limit 0 digits = .ok n ↔
      (IsNumeral digits ∧ digitsValue 0 digits = n) ∧ n ≤ limit) := by
    intro digits hsome
    rw [readDigits_eq_ok (Nat.zero_le limit), IsNumeral, and_iff_right hsome, and_assoc]
  unfold readNat
  generalize s.toList = cs
  split
  · refine ⟨nofun, fun ⟨h, _⟩ => ?_⟩
    cases h with
    | plain h => exact absurd h hempty
  · exact ⟨nofun, fun ⟨h, _⟩ => absurd (denotesNat_plus.1 h).1 hempty⟩
  · next digits hsome => rw [hread fun h => hsome h, denotesNat_plus]
  · next digits hsome _ hplus =>
    rw [hread fun h => hsome h, denotesNat_plain fun digits h => hplus digits h]

/-! ## What is written -/

theorem isNumeral_natDigits (n : Nat) : IsNumeral (natDigits n) :=
  ⟨natDigits_ne_nil n, fun _ => isDigit_of_mem_natDigits⟩

theorem denotes_intText (i : Int) : Denotes (intText i).toList i := by
  unfold intText
  split
  · next hneg =>
    have hminus := Denotes.minus (isNumeral_natDigits i.natAbs)
    rw [digitsValue_natDigits, Int.ofNat_natAbs_of_nonpos hneg.le, neg_neg] at hminus
    rwa [String.toList_ofList]
  · next hnonneg =>
    have hplain := Denotes.plain (isNumeral_natDigits i.natAbs)
    rw [digitsValue_natDigits, Int.natAbs_of_nonneg (not_lt.1 hnonneg)] at hplain
    rwa [String.toList_ofList]

theorem Denotes.unique {cs : List Char} {i j : Int} (h : Denotes cs i) (h' : Denotes cs j) :
    i = j := by
  cases h with
  | minus hdigits => exact (denotes_minus.1 h').2.symm
  | plus hdigits => exact (denotes_plus.1 h').2.symm
  | plain hdigits =>
    cases h' with
    | plain _ => rfl
    | plus _ => exact absurd hdigits (not_isNumeral_cons rfl)
    | minus _ => exact absurd hdigits (not_isNumeral_cons rfl)

theorem intText_injective : Function.Injective intText := fun i j h =>
  (h ▸ denotes_intText i).unique (denotes_intText j)

theorem mem_intText {i : Int} {c : Char} (h : c ∈ (intText i).toList) :
    c = '-' ∨ c.isDigit = true := by
  unfold intText at h
  split at h
  · rw [String.toList_ofList] at h
    exact (List.mem_cons.1 h).imp_right isDigit_of_mem_natDigits
  · rw [String.toList_ofList] at h
    exact .inr (isDigit_of_mem_natDigits h)

end Paydesk.Text
