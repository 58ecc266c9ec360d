import Paydesk.Proofs.Text.Codes
import Mathlib.Data.List.Basic
import Mathlib.Data.List.Induction

/-!
# Spellings of an identifier

`Uuid.Spelling` is a text of 32 hexadecimal digits in one of the four forms that are accepted. An
identifier is read from every spelling and from nothing else, and its digits are those of the
spelling in lower case (`Uuid.read?_eq_some`). For the identifiers of payments,
`PaymentId.read_by_digits` says which spellings are accepted and that nothing but the digits counts.

1. Digits denote a number, and this number is written with the same digits in lower case
   (`Uuid.ofDigits?_of_isDigit`).
2. A form is put around the digits, and the reader takes it away again (`Uuid.Spelling.read?_text`);
   whatever it takes away is such a form (`Uuid.exists_spelling`).
3. The 13th digit tells the version and the 17th the variant (`Uuid.version_eq_seven`,
   `Uuid.variant_eq_two`).
-/

namespace Paydesk

namespace Text.Hex

/-- A hexadecimal digit of either case. -/
def IsDigit (c : Char) : Prop :=
  '0' ≤ c ∧ c ≤ '9' ∨ 'a' ≤ c ∧ c ≤ 'f' ∨ 'A' ≤ c ∧ c ≤ 'F'

theorem IsDigit.bounds {c : Char} (h : IsDigit c) :
    48 ≤ c.toNat ∧ c.toNat ≤ 57 ∨ 97 ≤ c.toNat ∧ c.toNat ≤ 102 ∨ 65 ≤ c.toNat ∧ c.toNat ≤ 70 :=
  h.imp (.imp UInt32.le_iff_toNat_le.1 UInt32.le_iff_toNat_le.1)
    (.imp (.imp UInt32.le_iff_toNat_le.1 UInt32.le_iff_toNat_le.1)
      (.imp UInt32.le_iff_toNat_le.1 UInt32.le_iff_toNat_le.1))

theorem IsDigit.isBlank {c : Char} (h : IsDigit c) : isBlank c = false := by
  have hbounds := h.bounds
  simp only [Text.isBlank, Bool.or_eq_false_iff, Bool.and_eq_false_iff, decide_eq_false_iff_not,
    beq_eq_false_iff_ne]
  omega

theorem isDigit_iff {c : Char} : IsDigit c ↔ ∃ d, value? c = some d := by
  unfold IsDigit value?
  constructor
  · intro h
    split
    · exact ⟨_, rfl⟩
    · next hdigit =>
      split
      · exact ⟨_, rfl⟩
      · next hlower => exact ⟨_, if_pos ((h.resolve_left hdigit).resolve_left hlower)⟩
  · rintro ⟨d, h⟩
    split at h
    · next hdigit => exact .inl hdigit
    · split at h
      · next hlower => exact .inr (.inl hlower)
      · split at h
        · next hupper => exact .inr (.inr hupper)
        · cases h

theorem digit_of_value? {c : Char} {d : Nat} (h : value? c = some d) :
    d < 16 ∧ digit d = c.toLower := by
  have hascii : ∀ n < 128, ∀ e ∈ value? (Char.ofNat n),
      e < 16 ∧ digit e = (Char.ofNat n).toLower := by
    decide
  have hbounds := (isDigit_iff.2 ⟨d, h⟩).bounds
  have hc := hascii c.toNat (by omega)
  rw [Char.ofNat_toNat] at hc
  exact hc d h

theorem getElem?_padded {width i : Nat} (n : Nat) (h : i < width) :
    (padded width n)[i]? = some (digit (n / 16 ^ (width - 1 - i) % 16)) := by
  induction width generalizing n with
  | zero => omega
  | succ width ih =>
    rw [padded]
    rcases Nat.lt_succ_iff_lt_or_eq.1 h with hfront | rfl
    · have hplace : width + 1 - 1 - i = (width - 1 - i) + 1 := by omega
      rw [List.getElem?_append_left (by rwa [length_padded]), ih (n / 16) hfront, hplace,
        Nat.div_div_eq_div_mul, Nat.pow_succ']
    · have hlast : i + 1 - 1 - i = 0 := by omega
      rw [List.getElem?_append_right (by rw [length_padded]), length_padded, Nat.sub_self, hlast,
        Nat.pow_zero, Nat.div_one]
      rfl

end Text.Hex

namespace Uuid

open Text

/-! ## Digits -/

/-- Digits denote a number that they are wide enough for, and it is written with them. -/
theorem exists_digitsNumber? {cs : List Char} (h : ∀ c ∈ cs, Hex.IsDigit c) :
    ∃ n < 16 ^ cs.length, digitsNumber? 0 cs = some n ∧
      Hex.padded cs.length n = cs.map Char.toLower := by
  induction cs using List.reverseRecOn with
  | nil => exact ⟨0, Nat.one_pos, rfl, rfl⟩
  | append_singleton front c ih =>
    obtain ⟨n, hn, hnumber, hwritten⟩ := ih fun x hx => h x (List.mem_append_left _ hx)
    obtain ⟨d, hd⟩ := Hex.isDigit_iff.1 (h c (List.mem_append_right _ (List.mem_singleton_self c)))
    obtain ⟨hlt, hdigit⟩ := Hex.digit_of_value? hd
    refine ⟨16 * n + d, ?_, ?_, ?_⟩
    · rw [List.length_append, List.length_singleton, Nat.pow_succ]
      omega
    · rw [digitsNumber?_append, hnumber, Option.bind_some, digitsNumber?, hd, Option.bind_some,
        digitsNumber?]
    · have hfront : (16 * n + d) / 16 = n := by omega
      have hlast : (16 * n + d) % 16 = d := by omega
      rw [List.length_append, List.length_singleton, Hex.padded, hfront, hlast, hwritten, hdigit,
        List.map_append, List.map_singleton]

theorem isDigit_of_digitsNumber? {cs : List Char} {m n : Nat} (h : digitsNumber? m cs = some n) :
    ∀ c ∈ cs, Hex.IsDigit c := by
  induction cs generalizing m with
  | nil => exact nofun
  | cons c rest ih =>
    obtain ⟨d, hd, hrest⟩ := Option.bind_eq_some_iff.1 (show
      (Hex.value? c).bind (fun d => digitsNumber? (16 * m + d) rest) = some n from h)
    exact List.forall_mem_cons.2 ⟨Hex.isDigit_iff.2 ⟨d, hd⟩, ih hrest⟩

theorem ofDigits?_of_isDigit {cs : List Char} (hlength : cs.length = 32)
    (h : ∀ c ∈ cs, Hex.IsDigit c) :
    ∃ id, ofDigits? cs = some id ∧ id.digits = cs.map Char.toLower := by
  obtain ⟨n, hn, hnumber, hwritten⟩ := exists_digitsNumber? h
  rw [hlength] at hn hwritten
  have hlt : n < limit := hn
  refine ⟨⟨n, hlt⟩, ?_, hwritten⟩
  rw [ofDigits?, if_pos hlength, hnumber, Option.bind_some, dif_pos hlt]

theorem isDigit_of_ofDigits? {cs : List Char} {id : Uuid} (h : ofDigits? cs = some id) :
    cs.length = 32 ∧ ∀ c ∈ cs, Hex.IsDigit c := by
  unfold ofDigits? at h
  split at h
  · next hlength =>
    obtain ⟨n, hnumber, -⟩ := Option.bind_eq_some_iff.1 h
    exact ⟨hlength, isDigit_of_digitsNumber? hnumber⟩
  · cases h

theorem digits_injective {a b : Uuid} (h : a.digits = b.digits) : a = b := by
  have hnumber := a.digitsNumber?_digits
  rw [h, b.digitsNumber?_digits, Option.some_inj] at hnumber
  obtain ⟨m, hm⟩ := a
  obtain ⟨n, hn⟩ := b
  obtain rfl : n = m := hnumber
  rfl

/-- The version is the 13th digit. -/
theorem version_eq_seven (id : Uuid) : id.version = 7 ↔ id.digits[12]? = some '7' := by
  have hdigit : ∀ v < 16, v = 7 ↔ Hex.digit v = '7' := by decide
  rw [digits, Hex.getElem?_padded _ (by decide), Option.some_inj]
  exact hdigit _ (Nat.mod_lt _ (by decide))

/-- The variant is in the first two bits of the 17th digit. -/
theorem variant_eq_two (id : Uuid) :
    id.variant = 2 ↔ ∃ c ∈ ['8', '9', 'a', 'b'], id.digits[16]? = some c := by
  have hdigit : ∀ v < 16, v / 4 = 2 ↔ Hex.digit v ∈ ['8', '9', 'a', 'b'] := by decide
  have hbits : id.variant = id.number / 16 ^ 15 % 16 / 4 := by
    unfold variant
    omega
  rw [digits, Hex.getElem?_padded _ (by decide), hbits, hdigit _ (Nat.mod_lt _ (by decide))]
  simp only [Option.some_inj, exists_eq_right']

/-! ## Forms -/

/-- What stands around the digits. -/
inductive Form where
  | bare
  | grouped
  | braced
  /-- The grouped form after a word that is the scheme but for its case. -/
  | named (word : List Char) (same : word.map Char.toLower = scheme)

/-- 32 hexadecimal digits of either case, in one of the forms. -/
structure Spelling where
  form : Form
  digits : List Char
  length_digits : digits.length = 32
  isDigit : ∀ c ∈ digits, Hex.IsDigit c

namespace Spelling

def text (p : Spelling) : List Char :=
  match p.form with
  | .bare => p.digits
  | .grouped => hyphenate groupLengths p.digits
  | .braced => '\x7b' :: (hyphenate groupLengths p.digits ++ ['\x7d'])
  | .named word _ => word ++ hyphenate groupLengths p.digits

/-- The digits without regard to case. -/
def lowerDigits (p : Spelling) : List Char :=
  p.digits.map Char.toLower

/-- A text is this spelling, with blanks around. -/
def Within (p : Spelling) (s : String) : Prop :=
  ∃ front back, s.toList = front ++ p.text ++ back ∧ AllBlank front ∧ AllBlank back

theorem length_hyphenate_digits (p : Spelling) :
    (hyphenate groupLengths p.digits).length = 36 := by
  have hsum : groupLengths.sum = 32 := rfl
  rw [length_hyphenate _ _ (by rw [hsum, p.length_digits]), p.length_digits]
  rfl

theorem ofGrouped?_hyphenate (p : Spelling) :
    ofGrouped? (hyphenate groupLengths p.digits) = ofDigits? p.digits := by
  rw [ofGrouped?, unhyphenate?_hyphenate (by decide) p.length_digits, Option.bind_some]

theorem read?_text (p : Spelling) : read? (String.ofList p.text) = ofDigits? p.digits := by
  have hgrouped := p.length_hyphenate_digits
  rw [read?, String.toList_ofList, text]
  cases p.form with
  | bare => simp only [p.length_digits]
  | grouped => simp only [hgrouped, p.ofGrouped?_hyphenate]
  | braced =>
    have hlength : ('\x7b' :: (hyphenate groupLengths p.digits ++ ['\x7d'])).length = 38 := by
      rw [List.length_cons, List.length_append, hgrouped, List.length_singleton]
    have hlast : ('\x7b' :: (hyphenate groupLengths p.digits ++ ['\x7d'])).getLast? =
        some '\x7d' := by
      rw [← List.cons_append, List.getLast?_concat]
    simp only [hlength]
    rw [if_pos ⟨rfl, hlast⟩, List.drop_one, List.tail_cons, List.dropLast_concat,
      p.ofGrouped?_hyphenate]
  | named word same =>
    have hword : word.length = 9 := by
      rw [← List.length_map (f := Char.toLower), same]
      rfl
    have hlength : (word ++ hyphenate groupLengths p.digits).length = 45 := by
      rw [List.length_append, hword, hgrouped]
    simp only [hlength]
    rw [List.take_left' hword, if_pos same, List.drop_left' hword, p.ofGrouped?_hyphenate]

end Spelling

theorem hyphenate_of_unhyphenate? {lengths : List Nat} {cs ds : List Char}
    (h : unhyphenate? lengths cs = some ds) :
    cs = hyphenate lengths ds ∧ ds.length = lengths.sum := by
  induction lengths generalizing cs ds with
  | nil =>
    unfold unhyphenate? at h
    split at h
    · next hnil =>
      cases h
      exact ⟨List.isEmpty_iff.1 hnil, rfl⟩
    · cases h
  | cons n more ih =>
    cases more with
    | nil =>
      unfold unhyphenate? at h
      split at h
      · next hlength =>
        cases h
        exact ⟨rfl, by simpa using hlength⟩
      · cases h
    | cons m rest =>
      unfold unhyphenate? at h
      split at h
      · next behind hdrop =>
        obtain ⟨es, hes, rfl⟩ := Option.map_eq_some_iff.1 h
        obtain ⟨hbehind, hlength⟩ := ih hes
        have htake : (cs.take n).length = n := by
          have hdropped := congrArg List.length hdrop
          rw [List.length_drop, List.length_cons] at hdropped
          rw [List.length_take]
          omega
        constructor
        · rw [hyphenate, List.take_left' htake, List.drop_left' htake, ← hbehind, ← hdrop,
            List.take_append_drop]
          exact List.cons_ne_nil m rest
        · rw [List.length_append, htake, hlength, List.sum_cons (a := n)]
      · cases h

theorem between_ends {cs : List Char} {first last : Char} (h : 2 ≤ cs.length)
    (hfirst : cs.head? = some first) (hlast : cs.getLast? = some last) :
    first :: ((cs.drop 1).dropLast ++ [last]) = cs := by
  match cs with
  | c :: d :: rest =>
    obtain rfl : c = first := Option.some.inj hfirst
    rw [List.getLast?_cons_cons] at hlast
    rw [List.drop_one, List.tail_cons, List.dropLast_append_getLast? _ hlast]

theorem exists_grouped {cs : List Char} {id : Uuid} (h : ofGrouped? cs = some id) :
    ∃ ds, cs = hyphenate groupLengths ds ∧ ds.length = 32 ∧ ∀ c ∈ ds, Hex.IsDigit c := by
  obtain ⟨ds, hds, hid⟩ := Option.bind_eq_some_iff.1 h
  exact ⟨ds, (hyphenate_of_unhyphenate? hds).1, isDigit_of_ofDigits? hid⟩

/-- Nothing but spellings is read. -/
theorem exists_spelling {s : String} {id : Uuid} (h : read? s = some id) :
    ∃ p : Spelling, p.text = s.toList := by
  unfold read? at h
  dsimp only at h
  split at h
  · obtain ⟨hlength, hdigits⟩ := isDigit_of_ofDigits? h
    exact ⟨⟨.bare, s.toList, hlength, hdigits⟩, rfl⟩
  · obtain ⟨ds, hcs, hlength, hdigits⟩ := exists_grouped h
    exact ⟨⟨.grouped, ds, hlength, hdigits⟩, hcs.symm⟩
  · split at h
    · next hbraces =>
      obtain ⟨ds, hcs, hlength, hdigits⟩ := exists_grouped h
      refine ⟨⟨.braced, ds, hlength, hdigits⟩, ?_⟩
      show '\x7b' :: (hyphenate groupLengths ds ++ ['\x7d']) = s.toList
      rw [← hcs]
      exact between_ends (by omega) hbraces.1 hbraces.2
    · cases h
  · split at h
    · next hword =>
      obtain ⟨ds, hcs, hlength, hdigits⟩ := exists_grouped h
      refine ⟨⟨.named (s.toList.take 9) hword, ds, hlength, hdigits⟩, ?_⟩
      show s.toList.take 9 ++ hyphenate groupLengths ds = s.toList
      rw [← hcs, List.take_append_drop]
    · cases h
  · cases h

/-- **Identifiers are read from their spellings and from nothing else**, with the digits of the
spelling in lower case. -/
theorem read?_eq_some {s : String} {id : Uuid} :
    read? s = some id ↔ ∃ p : Spelling, p.text = s.toList ∧ id.digits = p.lowerDigits := by
  have hread : ∀ p : Spelling, p.text = s.toList → read? s = ofDigits? p.digits := fun p hp => by
    rw [← p.read?_text, hp, String.ofList_toList]
  constructor
  · intro h
    obtain ⟨p, hp⟩ := exists_spelling h
    obtain ⟨found, hfound, hdigits⟩ := ofDigits?_of_isDigit p.length_digits p.isDigit
    rw [hread p hp, hfound] at h
    cases h
    exact ⟨p, hp, hdigits⟩
  · rintro ⟨p, hp, hdigits⟩
    obtain ⟨found, hfound, hsame⟩ := ofDigits?_of_isDigit p.length_digits p.isDigit
    rw [hread p hp, hfound, digits_injective (hdigits.trans hsame.symm)]

namespace Spelling

theorem isBlank_of_mem_text {p : Spelling} {c : Char} (h : c ∈ p.text) : isBlank c = false := by
  have hdigits : c ∈ p.digits → isBlank c = false := fun h => (p.isDigit c h).isBlank
  have hgroups : c ∈ hyphenate groupLengths p.digits → isBlank c = false := fun h =>
    (mem_hyphenate h).elim (fun hyphen => hyphen ▸ rfl) hdigits
  unfold text at h
  split at h
  · exact hdigits h
  · exact hgroups h
  · rcases List.mem_cons.1 h with rfl | hmem
    · rfl
    · rcases List.mem_append.1 hmem with hmem | hlast
      · exact hgroups hmem
      · rw [List.mem_singleton.1 hlast]
        rfl
  · next word same _ =>
    rcases List.mem_append.1 h with hword | hmem
    · have hscheme : scheme.any isBlank = false := by decide
      have hlower : c.toLower ∈ scheme := same ▸ List.mem_map_of_mem hword
      by_cases hupper : c.isUpper = true
      · exact isBlank_of_isUpper hupper
      · rw [← toLower_of_not_isUpper hupper]
        exact eq_false_of_ne_true (List.any_eq_false.1 hscheme _ hlower)
    · exact hgroups hmem

/-- A spelling stands between the blanks of a text if it is what trimming leaves. -/
theorem within_iff {p : Spelling} {s : String} : p.Within s ↔ p.text = (trim s).toList := by
  have htrim := trim_eq_iff (s := s) (t := String.ofList p.text) fun c hc =>
    p.isBlank_of_mem_text (by rwa [String.toList_ofList] at hc)
  rw [String.toList_ofList] at htrim
  refine htrim.symm.trans ⟨fun h => ?_, fun h => ?_⟩
  · rw [h, String.toList_ofList]
  · rw [h, String.ofList_toList]

end Spelling

end Uuid

/-! ## Payments -/

namespace PaymentId

open Uuid

theorem ofUuid_eq_ok {found : Uuid} {id : PaymentId} :
    ofUuid found = .ok id ↔ found.version = 7 ∧ found.variant = 2 ∧ id.uuid = found := by
  unfold ofUuid
  constructor
  · intro h
    split at h
    · next hversion =>
      split at h
      · next hvariant =>
        cases h
        exact ⟨hversion, hvariant, rfl⟩
      · cases h
    · cases h
  · rintro ⟨hversion, hvariant, rfl⟩
    rw [dif_pos hversion, dif_pos hvariant]

theorem read_of_trim {s : String} {found : Uuid} (h : Uuid.read? (Text.trim s) = some found) :
    read s = ofUuid found := by
  have hne : (Text.trim s).isEmpty = false := by
    cases hempty : (Text.trim s).isEmpty with
    | false => rfl
    | true =>
      rw [String.isEmpty_iff.1 hempty] at h
      cases h
  rw [read]
  simp only [hne, h]
  rfl

theorem read_of_within {p : Spelling} {s : String} (h : p.Within s) :
    ∃ found, found.digits = p.lowerDigits ∧ read s = ofUuid found := by
  obtain ⟨found, hfound, hdigits⟩ := ofDigits?_of_isDigit p.length_digits p.isDigit
  exact ⟨found, hdigits, read_of_trim (read?_eq_some.2 ⟨p, Spelling.within_iff.1 h, hdigits⟩)⟩

/-- A text that is accepted is a spelling between blanks. -/
theorem exists_within {s : String} {id : PaymentId} (h : read s = .ok id) :
    ∃ p : Spelling, p.Within s := by
  unfold read at h
  dsimp only at h
  split at h
  · cases h
  · split at h
    · cases h
    · next found hfound =>
      obtain ⟨p, hp, -⟩ := read?_eq_some.1 hfound
      exact ⟨p, Spelling.within_iff.2 hp⟩

/-- A spelling is accepted as an identifier if the version and the variant fit, and then as the one of
its digits. -/
theorem read_eq_ok {p : Spelling} {s : String} {id : PaymentId} (h : p.Within s) :
    read s = .ok id ↔ id.uuid.digits = p.lowerDigits := by
  obtain ⟨found, hdigits, hread⟩ := read_of_within h
  rw [hread, ofUuid_eq_ok]
  constructor
  · rintro ⟨-, -, hfound⟩
    rw [hfound, hdigits]
  · intro hid
    obtain rfl : id.uuid = found := digits_injective (hid.trans hdigits.symm)
    exact ⟨id.version_eq, id.variant_eq, rfl⟩

/-- **Identifiers of payments are read by their digits.**

A text is accepted exactly if it is a spelling with blanks around it, of which the 13th digit is 7 and
the 17th is 8, 9, a or b, in either case; and the identifier is then written as the grouped form of its
digits in lower case. Texts of the same digits are answered alike, whatever else is different, so two
texts that are accepted name one payment exactly if their digits agree but for their case. What is
written for an identifier is read as that identifier. -/
theorem read_by_digits :
    (∀ s, (∃ id, read s = .ok id) ↔
      ∃ p : Spelling, p.Within s ∧ p.lowerDigits[12]? = some '7' ∧
        ∃ c ∈ ['8', '9', 'a', 'b'], p.lowerDigits[16]? = some c) ∧
    (∀ (p : Spelling) s id, p.Within s → read s = .ok id →
      id.toText = String.ofList (hyphenate groupLengths p.lowerDigits)) ∧
    (∀ (p q : Spelling) s t, p.Within s → q.Within t → p.lowerDigits = q.lowerDigits →
      read s = read t) ∧
    (∀ (p q : Spelling) s t a b, p.Within s → q.Within t → read s = .ok a → read t = .ok b →
      (a = b ↔ p.lowerDigits = q.lowerDigits)) ∧
    ∀ id : PaymentId, read id.toText = .ok id := by
  refine ⟨fun s => ⟨?accepted, ?fits⟩, ?written, ?alike, ?named, read_toText⟩
  case accepted =>
    rintro ⟨id, hid⟩
    obtain ⟨p, hp⟩ := exists_within hid
    have hdigits := (read_eq_ok hp).1 hid
    refine ⟨p, hp, ?_⟩
    rw [← hdigits]
    exact ⟨(version_eq_seven _).1 id.version_eq, (variant_eq_two _).1 id.variant_eq⟩
  case fits =>
    rintro ⟨p, hp, hversion, hvariant⟩
    obtain ⟨found, hdigits, -⟩ := read_of_within hp
    rw [← hdigits] at hversion hvariant
    exact ⟨⟨found, (version_eq_seven _).2 hversion, (variant_eq_two _).2 hvariant⟩,
      (read_eq_ok hp).2 hdigits⟩
  case written =>
    intro p s id hp hid
    rw [← (read_eq_ok hp).1 hid]
    rfl
  case alike =>
    intro p q s t hp hq hsame
    obtain ⟨found, hfound, hs⟩ := read_of_within hp
    obtain ⟨other, hother, ht⟩ := read_of_within hq
    rw [hs, ht, digits_injective (hfound.trans (hsame.trans hother.symm))]
  case named =>
    intro p q s t a b hp hq ha hb
    rw [← (read_eq_ok hp).1 ha, ← (read_eq_ok hq).1 hb]
    refine ⟨fun h => h ▸ rfl, fun h => eq_of_number_eq ?_⟩
    exact congrArg Uuid.number (digits_injective h)

end PaymentId

end Paydesk
