import Paydesk.Json.Printer
import Paydesk.Json.Scan
import Paydesk.Proofs.Text.Codes
import Paydesk.Proofs.Text.Numeral
import Mathlib.Data.List.TakeWhile

/-!
# Texts and numbers in documents are scanned as what was printed

The scan of a text goes through what was printed character by character: each is one escape, whatever
form it was given (`scanText_escaped`), so a text in quotes is scanned as that text, and the scan
stops at the closing quote (`scanText_quoted`). A number is scanned up to where its text ends if
nothing follows that could belong to it (`scanLeaf_append`). The integers that a document can hold
are scanned as what they are (`scanLeaf_intText`). That the text of a double is scanned as that
double is asked for where it is needed (`Number.ReadsBack`): the scanner rounds twice.
-/

namespace Paydesk.Json

open Text

namespace Doc

/-! ## Texts -/

theorem codeUnit?_padded {n : Nat} (h : n < 0x10000) (rest : List Char) :
    codeUnit? (Hex.padded 4 n ++ rest) = some (n, rest) := by
  have hdigit : ∀ m, Hex.value? (Hex.digit (m % 16)) = some (m % 16) := fun m =>
    Hex.value?_digit (Nat.mod_lt m (by decide))
  have hdigits : Hex.padded 4 n ++ rest = Hex.digit (n / 16 / 16 / 16 % 16) ::
      Hex.digit (n / 16 / 16 % 16) :: Hex.digit (n / 16 % 16) :: Hex.digit (n % 16) :: rest := rfl
  rw [hdigits, codeUnit?]
  simp only [hdigit, Option.bind_eq_bind, Option.bind_some, Option.some.injEq, Prod.mk.injEq,
    and_true]
  omega

theorem scanText_escaped (c : Char) (fuel : Nat) (rest done : List Char) :
    scanText (fuel + 1) (escaped c ++ rest) done true = scanText fuel rest (c :: done) true := by
  unfold escaped
  split_ifs with hquote hslash hback hfeed hline hreturn htab hcontrol
  · subst hquote; rfl
  · subst hslash; rfl
  · subst hback; rfl
  · subst hfeed; rfl
  · subst hline; rfl
  · subst hreturn; rfl
  · subst htab; rfl
  · have hunit := codeUnit?_padded (n := c.toNat) (by omega) rest
    have hhigh : isHighHalf c.toNat = false := by
      simp only [isHighHalf, Bool.and_eq_false_iff, decide_eq_false_iff_not]
      omega
    have hlow : isLowHalf c.toNat = false := by
      simp only [isLowHalf, Bool.and_eq_false_iff, decide_eq_false_iff_not]
      omega
    have hescape : unitEscape? (Hex.padded 4 c.toNat ++ rest) = some (some c, rest) := by
      simp [unitEscape?, hunit, hhigh, hlow]
    change scanText (fuel + 1) ('\\' :: 'u' :: (Hex.padded 4 c.toNat ++ rest)) done true = _
    rw [scanText]
    simp [hescape]
  · have hgap : c ≠ gap := by
      rintro rfl
      exact hcontrol (by decide)
    change scanText (fuel + 1) (c :: rest) done true = _
    rw [scanText.eq_def]
    simp [hquote, hslash, hgap, hcontrol]

theorem escaped_ne_nil (c : Char) : escaped c ≠ [] := by
  unfold escaped
  split_ifs <;> simp

theorem length_le_length_escaped (cs : List Char) : cs.length ≤ (cs.flatMap escaped).length := by
  induction cs with
  | nil => exact Nat.le_refl 0
  | cons c rest ih =>
    have hone := List.length_pos_iff.2 (escaped_ne_nil c)
    rw [List.flatMap_cons, List.length_append, List.length_cons]
    omega

/-- A text in quotes is scanned as that text, up to the closing quote. -/
theorem scanText_quoted {fuel : Nat} {cs : List Char} (h : cs.length < fuel)
    (rest done : List Char) :
    scanText fuel (cs.flatMap escaped ++ '\x22' :: rest) done true =
      some (some (String.ofList (done.reverse ++ cs)), rest) := by
  induction cs generalizing fuel done with
  | nil =>
    obtain ⟨fuel, rfl⟩ := Nat.exists_eq_add_of_le' h
    rw [List.append_nil]
    rfl
  | cons c cs ih =>
    obtain ⟨fuel, rfl⟩ := Nat.exists_eq_add_of_le' (Nat.le_trans (Nat.le_add_left 1 _) h)
    rw [List.flatMap_cons, List.append_assoc, scanText_escaped, ih (Nat.lt_of_succ_lt_succ h),
      List.reverse_cons, List.append_assoc, List.singleton_append]

theorem quotedChars_append (s : String) (rest : List Char) :
    quotedChars s ++ rest = '\x22' :: (s.toList.flatMap escaped ++ '\x22' :: rest) := by
  simp [quotedChars]

/-- What stands behind an opening quote is scanned as the text that was printed. -/
theorem scanText_quotedChars (s : String) (rest : List Char) :
    scanText ((s.toList.flatMap escaped ++ '\x22' :: rest).length + 1)
      (s.toList.flatMap escaped ++ '\x22' :: rest) [] true = some (some s, rest) := by
  have hlength := length_le_length_escaped s.toList
  rw [scanText_quoted (by rw [List.length_append]; omega), List.reverse_nil, List.nil_append,
    String.ofList_toList]

theorem scanLeaf_quotedChars (s : String) (rest : List Char) :
    scanLeaf (quotedChars s ++ rest) = (.string (some s), rest) := by
  rw [quotedChars_append]
  simp only [scanLeaf, scanText_quotedChars]

/-! ## The end of a number -/

/-- Nothing follows that could belong to a number. -/
def EndsNumber (rest : List Char) : Prop :=
  ∀ c ∈ rest.head?, c.isDigit = false ∧ c ≠ '.' ∧ c ≠ 'e' ∧ c ≠ 'E'

theorem EndsNumber.digits {rest : List Char} (h : EndsNumber rest) : EndsDigits rest :=
  fun c hc => (h c hc).1

theorem endsNumber_nil : EndsNumber [] :=
  fun _ h => absurd h (by simp)

variable {cs r rest : List Char}

theorem wholeDigits?_append (hrest : EndsNumber rest) {digits : List Char}
    (h : wholeDigits? cs = some (digits, r)) :
    wholeDigits? (cs ++ rest) = some (digits, r ++ rest) := by
  have hlength : (cs.takeWhile Char.isDigit).length ≤ cs.length :=
    (List.takeWhile_prefix Char.isDigit).length_le
  unfold wholeDigits? at h ⊢
  rw [takeWhile_isDigit_append_of_ends cs hrest.digits]
  simp only at h ⊢
  split at h <;> cases h
  rw [List.drop_append_of_le_length hlength]

theorem someDigits?_append (hrest : EndsNumber rest) {digits : List Char}
    (h : someDigits? cs = some (digits, r)) :
    someDigits? (cs ++ rest) = some (digits, r ++ rest) := by
  have hlength : (cs.takeWhile Char.isDigit).length ≤ cs.length :=
    (List.takeWhile_prefix Char.isDigit).length_le
  unfold someDigits? at h ⊢
  rw [takeWhile_isDigit_append_of_ends cs hrest.digits]
  simp only at h ⊢
  split at h
  · cases h
  · cases h
    rw [List.drop_append_of_le_length hlength]
    simp_all

theorem fraction?_append (hrest : EndsNumber rest) {fraction : Option (List Char)}
    (h : fraction? cs = some (fraction, r)) :
    fraction? (cs ++ rest) = some (fraction, r ++ rest) := by
  have hnone : ∀ ds : List Char, ds.head? ≠ some '.' → fraction? ds = some (none, ds) := by
    intro ds hds
    unfold fraction?
    split
    · exact absurd rfl hds
    · rfl
  cases cs with
  | nil =>
    cases h
    exact hnone rest fun hpoint => (hrest '.' hpoint).2.1 rfl
  | cons c cs =>
    by_cases hpoint : c = '.'
    · subst hpoint
      obtain ⟨⟨digits, r'⟩, hdigits, heq⟩ := Option.map_eq_some_iff.1 h
      cases heq
      rw [List.cons_append, fraction?, someDigits?_append hrest hdigits]
      rfl
    · rw [hnone (c :: cs) (by simpa using hpoint)] at h
      cases h
      exact hnone _ (by simpa using hpoint)

theorem exponent?_append (hrest : EndsNumber rest) {exponent : Option (Bool × List Char)}
    (h : exponent? cs = some (exponent, r)) :
    exponent? (cs ++ rest) = some (exponent, r ++ rest) := by
  cases cs with
  | nil =>
    cases h
    cases rest with
    | nil => rfl
    | cons c rest =>
      obtain ⟨-, -, hlower, hupper⟩ := hrest c rfl
      exact if_neg (not_or.2 ⟨hlower, hupper⟩)
  | cons c cs =>
    rw [List.cons_append]
    unfold exponent? at h ⊢
    by_cases hmark : c = 'e' ∨ c = 'E'
    · simp only [if_pos hmark] at h ⊢
      cases cs with
      | nil => cases h
      | cons d ds =>
        rw [List.cons_append]
        split at h
        · next heq =>
          cases heq
          obtain ⟨⟨digits, r'⟩, hdigits, heq⟩ := Option.map_eq_some_iff.1 h
          cases heq
          simp only [someDigits?_append hrest hdigits, Option.map_some]
        · next heq =>
          cases heq
          obtain ⟨⟨digits, r'⟩, hdigits, heq⟩ := Option.map_eq_some_iff.1 h
          cases heq
          simp only [someDigits?_append hrest hdigits, Option.map_some]
        · next hminus hplus =>
          obtain ⟨⟨digits, r'⟩, hdigits, heq⟩ := Option.map_eq_some_iff.1 h
          cases heq
          have hread := someDigits?_append hrest hdigits
          rw [List.cons_append] at hread
          split
          · next heq => cases heq; exact absurd rfl (hminus ds)
          · next heq => cases heq; exact absurd rfl (hplus ds)
          · rw [hread]; rfl
    · simp only [if_neg hmark] at h ⊢
      cases h
      rfl

theorem scanNumber?_append (hrest : EndsNumber rest) {negative : Bool} {n : Option Number}
    (h : scanNumber? negative cs = some (n, r)) :
    scanNumber? negative (cs ++ rest) = some (n, r ++ rest) := by
  obtain ⟨⟨whole, cs'⟩, hwhole, h⟩ := Option.bind_eq_some_iff.1 h
  obtain ⟨⟨fraction, cs''⟩, hfraction, h⟩ := Option.bind_eq_some_iff.1 h
  obtain ⟨⟨exponent, r'⟩, hexponent, h⟩ := Option.bind_eq_some_iff.1 h
  cases h
  simp only [scanNumber?, wholeDigits?_append hrest hwhole, fraction?_append hrest hfraction,
    exponent?_append hrest hexponent, Option.bind_eq_bind, Option.bind_some]

/-! ## Numbers as they stand -/

theorem scanLeaf_of_isDigit {c : Char} (h : c.isDigit = true) :
    scanLeaf (c :: cs) = scanNumber false (c :: cs) := by
  unfold scanLeaf
  split <;> first | (next heq => cases heq; cases h) | skip
  · next heq => cases heq; rw [if_pos h]
  · next heq => cases heq

theorem scanNumber_eq_number {negative : Bool} {m : Option Number}
    (h : scanNumber negative cs = (.number m, r)) : scanNumber? negative cs = some (m, r) := by
  unfold scanNumber at h
  split at h
  · cases h
  · next hscan => cases h; exact hscan

theorem scanLeaf_eq_number {m : Option Number} (h : scanLeaf cs = (.number m, r)) :
    (∃ ds, cs = '-' :: ds ∧ scanNumber? true ds = some (m, r)) ∨
      ∃ c ds, cs = c :: ds ∧ c.isDigit = true ∧ scanNumber? false cs = some (m, r) := by
  unfold scanLeaf at h
  split at h
  · cases h
  · cases h
  · cases h
  · next ds => exact .inl ⟨ds, rfl, scanNumber_eq_number h⟩
  · split at h <;> cases h
  · split at h
    · next hdigit => exact .inr ⟨_, _, rfl, hdigit, scanNumber_eq_number h⟩
    · cases h
  · cases h

/-- What cannot belong to a number stays behind it. -/
theorem scanLeaf_append (hrest : EndsNumber rest) {m : Option Number}
    (h : scanLeaf cs = (.number m, r)) : scanLeaf (cs ++ rest) = (.number m, r ++ rest) := by
  rcases scanLeaf_eq_number h with ⟨ds, rfl, hscan⟩ | ⟨c, ds, rfl, hdigit, hscan⟩
  · have happend := scanNumber?_append hrest hscan
    change scanNumber true (ds ++ rest) = _
    rw [scanNumber, happend]
  · have happend := scanNumber?_append hrest hscan
    rw [List.cons_append] at happend
    rw [List.cons_append, scanLeaf_of_isDigit hdigit, scanNumber, happend]

/-! ## Integers -/

theorem scanNumber?_natDigits (negative : Bool) (n : Nat) :
    scanNumber? negative (natDigits n) =
      some (Number.Parts.toNumber? ⟨negative, natDigits n, none, none⟩, []) := by
  have hdigits : ∀ c ∈ natDigits n, c.isDigit = true := fun c => isDigit_of_mem_natDigits
  have htake : (natDigits n).takeWhile Char.isDigit = natDigits n :=
    List.takeWhile_eq_self_iff.2 hdigits
  have hwhole : wholeDigits? (natDigits n) = some (natDigits n, []) := by
    unfold wholeDigits?
    rw [htake]
    simp only [List.drop_length]
    split
    · next hnil => exact absurd hnil (natDigits_ne_nil n)
    · next hzero => cases (natDigits_eq_zero_cons hzero).2
    · rfl
  simp only [scanNumber?, hwhole, fraction?, exponent?, Option.bind_eq_bind, Option.bind_some]

theorem scanLeaf_intText {i : Int} (hlow : -0x8000000000000000 ≤ i) (hhigh : i ≤ maxWord) :
    scanLeaf (intText i).toList = (.number (some (.int i)), []) := by
  unfold intText
  split
  · next hnegative =>
    have hint : Number.Parts.int? ⟨true, natDigits i.natAbs, none, none⟩ = some i := by
      have hbounds : 0 < i.natAbs ∧ i.natAbs ≤ 0x8000000000000000 := by omega
      have habs : -(i.natAbs : Int) = i := by omega
      simp only [Number.Parts.int?, digitsValue_natDigits, hbounds, habs, Option.isSome_none,
        Bool.or_self, Bool.false_eq_true, and_self, if_true, if_false]
    rw [String.toList_ofList]
    change scanNumber true (natDigits i.natAbs) = _
    rw [scanNumber, scanNumber?_natDigits]
    simp only [Number.Parts.toNumber?, hint]
  · next hnonneg =>
    have hint : Number.Parts.int? ⟨false, natDigits i.natAbs, none, none⟩ = some i := by
      have hbound : i.natAbs ≤ maxWord := by omega
      have habs : (i.natAbs : Int) = i := by omega
      simp only [Number.Parts.int?, digitsValue_natDigits, hbound, habs, Option.isSome_none,
        Bool.or_self, Bool.false_eq_true, if_true, if_false]
    obtain ⟨c, ds, hcons⟩ := List.exists_cons_of_ne_nil (natDigits_ne_nil i.natAbs)
    have hdigit : c.isDigit = true := isDigit_of_mem_natDigits (hcons ▸ List.mem_cons_self)
    rw [String.toList_ofList, hcons, scanLeaf_of_isDigit hdigit, ← hcons, scanNumber,
      scanNumber?_natDigits]
    simp only [Number.Parts.toNumber?, hint]

end Doc

/-- The number is read from its text: an integer that a document can hold, or a double whose text is
scanned as that double. -/
def Number.ReadsBack : Number → Prop
  | .int i => -0x8000000000000000 ≤ i ∧ i ≤ maxWord
  | .float x => Doc.scanLeaf x.interchangeText.toList = (.number (some (.float x)), [])

theorem Number.ReadsBack.scanLeaf_toText {n : Number} (h : n.ReadsBack) :
    Doc.scanLeaf n.toText.toList = (.number (some n), []) := by
  cases n with
  | int i => exact Doc.scanLeaf_intText h.1 h.2
  | float x => exact h

end Paydesk.Json
