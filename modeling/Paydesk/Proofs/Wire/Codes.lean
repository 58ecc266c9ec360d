import Paydesk.Proofs.Json.Text
import Paydesk.Proofs.Text.Letters
import Paydesk.Proofs.Wire.Record

/-!
# Codes have one form

Currencies, providers and states are read from their codes in letters of either case, with blanks
around them, and from nothing else; what is written for one of them is its code, as a text and in a
document alike: `codes_canonical`.

1. What a reader of codes keeps to is `ReadsCodes`. All of it follows from two facts: which texts are
   read as a value, and what a refusal names (`ReadsCodes.of_read`).
2. Providers and states are looked up in the list of all of them (`ReadsCodes.of_find?`). The first one
   with a code that agrees is the only one, since no two codes agree (`find?_sameLetters`). A currency
   is made of the text itself (`Currency.read_eq_ok`).
3. The document of a provider or a state is made from the name of its alternative, and comes out as the
   code (`Provider.toJson_eq`, `Status.toJson_eq`). A document that is a text is read as the text is, so
   what is written is read back (`WritesCodes.of_reads`).
-/

namespace Paydesk

open Text (AllBlank Recased SameLetter sameLetters trim)
open Json (Doc)

/-- The characters of codes: capitals and underscores. -/
def isCodeChar (c : Char) : Bool :=
  c.isUpper || c == '_'

theorem isBlank_of_isCodeChar {c : Char} (h : isCodeChar c = true) : Text.isBlank c = false := by
  rcases Bool.or_eq_true_iff.1 h with hupper | hunderscore
  · exact Text.isBlank_of_isUpper hupper
  · rw [beq_iff_eq.1 hunderscore]
    rfl

theorem plain_of_sameLetter {c d : Char} (hc : isCodeChar c = true) (h : SameLetter c d) :
    d.isAlpha = true ∨ d = '_' := by
  rcases Bool.or_eq_true_iff.1 hc with hupper | hunderscore
  · exact .inl (h.isAlpha hupper)
  · obtain rfl := beq_iff_eq.1 hunderscore
    exact .inr (h.eq (by decide))

section

variable {α : Type} {read : String → Except Invalid α} {code : α → String}
  {refusal : String → Invalid} {words : String}

/-! ## Readers of codes -/

/-- The reader takes the codes of values, in letters of either case and with blanks around them. -/
structure ReadsCodes (read : String → Except Invalid α) (code : α → String)
    (refusal : String → Invalid) (words : String) : Prop where
  /-- A text is read as a value if trimming leaves its code, in letters of either case. -/
  read_eq_ok : ∀ s a, read s = .ok a ↔ Recased (code a) (trim s)
  /-- Trimming leaves nothing of such a text but ASCII letters and underscores. -/
  plain : ∀ s a, read s = .ok a → ∀ c ∈ (trim s).toList, c.isAlpha = true ∨ c = '_'
  /-- Other texts are refused for what trimming leaves of them. -/
  read_eq_error : ∀ s, (∀ a, ¬ Recased (code a) (trim s)) → read s = .error (refusal (trim s))
  /-- The words for a refusal, with what was refused in quotes. -/
  message : ∀ rest, (refusal rest).message = words ++ Text.quoted rest
  /-- Blanks around a text make no difference. -/
  around : ∀ s front back, AllBlank front → AllBlank back →
    read (String.ofList (front ++ s.toList ++ back)) = read s
  /-- The case of ASCII letters makes no difference, but for the text that a refusal quotes. -/
  recased : ∀ s t, Recased s t → (∃ a, read s = .ok a ∧ read t = .ok a) ∨
    (read s = .error (refusal (trim s)) ∧ read t = .error (refusal (trim t)))
  /-- The code of a value is read back. -/
  read_code : ∀ a, read (code a) = .ok a

/-- Texts of which trimming leaves the same but for case are read alike. -/
theorem read_alike (hok : ∀ s a, read s = .ok a ↔ Recased (code a) (trim s))
    (herror : ∀ s why, read s = .error why → why = refusal (trim s)) {s t : String}
    (h : Recased (trim s) (trim t)) : (∃ a, read s = .ok a ∧ read t = .ok a) ∨
      (read s = .error (refusal (trim s)) ∧ read t = .error (refusal (trim t))) := by
  cases hs : read s with
  | ok a => exact .inl ⟨a, rfl, (hok t a).2 (((hok s a).1 hs).trans h)⟩
  | error why =>
    cases ht : read t with
    | ok a =>
      have hread : read s = .ok a := (hok s a).2 (((hok t a).1 ht).trans h.symm)
      cases hs.symm.trans hread
    | error why' => exact .inr ⟨herror s why hs ▸ rfl, herror t why' ht ▸ rfl⟩

theorem ReadsCodes.of_read (hok : ∀ s a, read s = .ok a ↔ Recased (code a) (trim s))
    (herror : ∀ s why, read s = .error why → why = refusal (trim s))
    (hcode : ∀ a, (code a).toList.all isCodeChar = true)
    (hmessage : ∀ rest, (refusal rest).message = words ++ Text.quoted rest) :
    ReadsCodes read code refusal words where
  read_eq_ok := hok
  plain := by
    intro s a hread d hd
    obtain ⟨c, hc, hsame⟩ := ((hok s a).1 hread).exists_mem hd
    exact plain_of_sameLetter (List.all_eq_true.1 (hcode a) c hc) hsame
  read_eq_error := by
    intro s hnone
    cases hread : read s with
    | ok a => exact absurd ((hok s a).1 hread) (hnone a)
    | error why => rw [herror s why hread]
  message := hmessage
  around := by
    intro s front back hfront hback
    have htrim : trim (String.ofList (front ++ s.toList ++ back)) = trim s := by
      rw [trim, String.toList_ofList, Text.trimChars_around _ hfront hback, trim]
    have hsame : Recased (trim (String.ofList (front ++ s.toList ++ back))) (trim s) := by
      rw [htrim]
      exact .refl _
    rcases read_alike hok herror hsame with ⟨a, haround, hs⟩ | ⟨haround, hs⟩
    · rw [haround, hs]
    · rw [haround, hs, htrim]
  recased := fun s t hsame => read_alike hok herror hsame.trim
  read_code := by
    intro a
    have hblank : ∀ c ∈ (code a).toList, Text.isBlank c = false := fun c hc =>
      isBlank_of_isCodeChar (List.all_eq_true.1 (hcode a) c hc)
    rw [hok, Text.trim_eq_self hblank]
    exact .refl _

/-! ## Listed codes -/

/-- Where no two codes agree, the first value whose code agrees is the only one. -/
theorem find?_sameLetters {all : List α} (hall : ∀ a, a ∈ all)
    (hdistinct : ∀ a b, sameLetters (code a) (code b) = true → a = b) {t : String} {a : α} :
    (all.find? fun a => sameLetters (code a) t) = some a ↔ Recased (code a) t := by
  have hsound : ∀ b, (all.find? fun a => sameLetters (code a) t) = some b → Recased (code b) t := by
    intro b hfind
    have hsame := List.find?_some hfind
    exact Text.sameLetters_eq_true.1 hsame
  refine ⟨hsound a, fun hsame => ?_⟩
  cases hfind : all.find? fun a => sameLetters (code a) t with
  | none => exact absurd (Text.sameLetters_eq_true.2 hsame) (List.find?_eq_none.1 hfind a (hall a))
  | some b => rw [hdistinct b a (Text.sameLetters_eq_true.2 ((hsound b hfind).trans hsame.symm))]

/-- A reader keeps to the codes if it looks them up in a list of all values. -/
theorem ReadsCodes.of_find? {all : List α}
    (hsome : ∀ s a, (all.find? fun a => sameLetters (code a) (trim s)) = some a → read s = .ok a)
    (hnone : ∀ s, (all.find? fun a => sameLetters (code a) (trim s)) = none →
      read s = .error (refusal (trim s)))
    (hall : ∀ a, a ∈ all) (hdistinct : ∀ a b, sameLetters (code a) (code b) = true → a = b)
    (hcode : ∀ a, (code a).toList.all isCodeChar = true)
    (hmessage : ∀ rest, (refusal rest).message = words ++ Text.quoted rest) :
    ReadsCodes read code refusal words := by
  refine .of_read (fun s a => ?accepted) (fun s why hread => ?refused) hcode hmessage
  case accepted =>
    rw [← find?_sameLetters hall hdistinct]
    refine ⟨fun hread => ?_, hsome s a⟩
    cases hfind : all.find? fun a => sameLetters (code a) (trim s) with
    | none => cases (hnone s hfind).symm.trans hread
    | some b =>
      cases (hsome s b hfind).symm.trans hread
      rfl
  case refused =>
    cases hfind : all.find? fun a => sameLetters (code a) (trim s) with
    | none => exact (Except.error.inj ((hnone s hfind).symm.trans hread)).symm
    | some b => cases (hsome s b hfind).symm.trans hread

theorem ReadsCodes.exists_ok_iff (h : ReadsCodes read code refusal words) {all : List α}
    (hall : ∀ a, a ∈ all) (s : String) :
    (∃ a, read s = .ok a) ↔ ∃ listed ∈ all.map code, Recased listed (trim s) := by
  constructor
  · rintro ⟨a, hread⟩
    exact ⟨code a, List.mem_map_of_mem (hall a), (h.read_eq_ok s a).1 hread⟩
  · rintro ⟨listed, hmem, hsame⟩
    obtain ⟨a, -, rfl⟩ := List.mem_map.1 hmem
    exact ⟨a, (h.read_eq_ok s a).2 hsame⟩

end

/-! ## Providers and states -/

theorem Provider.mem_all (p : Provider) : p ∈ all := by
  cases p <;> decide

theorem Provider.readsCodes :
    ReadsCodes read code .provider "Unknown provider type: " := by
  refine .of_find? (fun s p hfind => ?found) (fun s hfind => ?unknown) mem_all ?distinct ?letters
    fun _ => rfl
  case found => simp only [read, hfind]
  case unknown => simp only [read, hfind]
  case distinct =>
    intro p q
    cases p <;> cases q <;> decide
  case letters =>
    intro p
    cases p <;> decide

theorem Status.mem_all (s : Status) : s ∈ all := by
  cases s <;> decide

theorem Status.readsCodes :
    ReadsCodes read code .status "Unknown payment status: " := by
  refine .of_find? (fun s p hfind => ?found) (fun s hfind => ?unknown) mem_all ?distinct ?letters
    fun _ => rfl
  case found => simp only [read, hfind]
  case unknown => simp only [read, hfind]
  case distinct =>
    intro s t
    cases s <;> cases t <;> decide
  case letters =>
    intro s
    cases s <;> decide

/-! ## Currencies -/

theorem isCurrencyCode_iff {code : String} : isCurrencyCode code = true ↔
    code.toList.length = 3 ∧ ∀ c ∈ code.toList, c.isUpper = true := by
  rw [isCurrencyCode, Bool.and_eq_true, beq_iff_eq, List.all_eq_true]

theorem isCurrencyCode_upper {text : String} : isCurrencyCode (Text.upper text) = true ↔
    text.toList.length = 3 ∧ ∀ c ∈ text.toList, c.isAlpha = true := by
  rw [isCurrencyCode_iff, Text.upper, String.toList_ofList, List.length_map, List.forall_mem_map]
  simp only [Text.isUpper_toUpper]

namespace Currency

theorem isUpper_of_mem_code {c : Currency} {ch : Char} (h : ch ∈ c.code.toList) :
    ch.isUpper = true :=
  (isCurrencyCode_iff.1 c.isCode).2 ch h

theorem isCodeChar_code (c : Currency) : c.code.toList.all isCodeChar = true :=
  List.all_eq_true.2 fun _ hch => Bool.or_eq_true_iff.2 (.inl (isUpper_of_mem_code hch))

theorem exists_ok_iff (s : String) : (∃ c, read s = .ok c) ↔
    (trim s).toList.length = 3 ∧ ∀ c ∈ (trim s).toList, c.isAlpha = true := by
  rw [← isCurrencyCode_upper]
  unfold read
  dsimp only
  split
  · next hcode => exact ⟨fun _ => hcode, fun _ => ⟨_, rfl⟩⟩
  · next hcode =>
    refine ⟨?_, fun h => absurd h hcode⟩
    rintro ⟨c, hread⟩
    cases hread

theorem read_eq_ok (s : String) (c : Currency) : read s = .ok c ↔ Recased c.code (trim s) := by
  rw [← Text.upper_eq_iff fun _ => isUpper_of_mem_code]
  unfold read
  dsimp only
  split
  · rw [Except.ok.injEq]
    obtain ⟨code, hcode⟩ := c
    rw [Currency.mk.injEq]
  · next hcode =>
    constructor
    · intro hread
      cases hread
    · intro hupper
      rw [hupper] at hcode
      exact absurd c.isCode hcode

theorem readsCodes : ReadsCodes read code .currency "Invalid currency code: " := by
  refine .of_read read_eq_ok (fun s why hread => ?refused) isCodeChar_code fun _ => rfl
  unfold read at hread
  dsimp only at hread
  split at hread
  · cases hread
  · exact (Except.error.inj hread).symm

end Currency

/-! ## Documents -/

theorem Wire.checkedText_eq {α : Type} (check : String → Except Invalid α) (s : String) :
    checkedText check (Doc.ofJson (.string s)) = (check s).mapError Fault.invalid := by
  simp only [checkedText, text_string, Except.bind]
  cases check s <;> rfl

/-- Values are written in documents by their codes and read from documents as from texts. -/
structure WritesCodes {α : Type} (toJson : α → Json) (code : α → String)
    (read : String → Except Invalid α) (reader : Wire.Reader α) : Prop where
  /-- The document is the code. -/
  toJson_eq : ∀ a, toJson a = .string (code a)
  /-- A document that is a text is read as the text is. -/
  read_string : ∀ s, reader (Doc.ofJson (.string s)) = (read s).mapError Wire.Fault.invalid
  /-- The value is read back. -/
  read_value : ∀ a, reader (Doc.ofJson (toJson a)) = .ok a
  /-- The text of the document holds what is read as the value, and nothing else. -/
  read_text : ∀ a, ∃ d, Doc.scan (toJson a).print = (d, true) ∧ reader d = .ok a

theorem WritesCodes.of_reads {α : Type} {toJson : α → Json} {code : α → String}
    {read : String → Except Invalid α} {refusal : String → Invalid} {words : String}
    (hreads : ReadsCodes read code refusal words) (hcode : ∀ a, toJson a = .string (code a)) :
    WritesCodes toJson code read (Wire.checkedText read) := by
  have hread : ∀ a, Wire.checkedText read (Doc.ofJson (toJson a)) = .ok a := by
    intro a
    rw [hcode a, Wire.checkedText_eq, hreads.read_code a]
    rfl
  refine ⟨hcode, Wire.checkedText_eq read, hread, fun a => ?_⟩
  refine ⟨Doc.ofJson (toJson a), Doc.scan_print ?_, hread a⟩
  rw [hcode a]
  exact nofun

/-- **Codes have one form.** Currencies, providers and states are each read from their codes alone, with
blanks around them and in letters of either case, and a text that differs from another in no more than
this has the same result, but for the text that a refusal quotes. What trims to three ASCII letters is
the code of a currency; providers and states have the codes that are listed. What is written for a
value is its code, as a text and in documents, and is read as this value again from both. -/
theorem codes_canonical :
    ReadsCodes Currency.read Currency.code .currency "Invalid currency code: " ∧
    ReadsCodes Provider.read Provider.code .provider "Unknown provider type: " ∧
    ReadsCodes Status.read Status.code .status "Unknown payment status: " ∧
    (∀ s, (∃ c, Currency.read s = .ok c) ↔
      (trim s).toList.length = 3 ∧ ∀ c ∈ (trim s).toList, c.isAlpha = true) ∧
    (∀ s, (∃ p, Provider.read s = .ok p) ↔
      ∃ code ∈ ["PAGADITO", "VISANET", "PAYPAL"], Recased code (trim s)) ∧
    (∀ s, (∃ status, Status.read s = .ok status) ↔
      ∃ code ∈ ["PENDING", "PROCESSING", "COMPLETED", "FAILED", "CANCELLED", "REFUNDED",
        "PARTIALLY_REFUNDED"], Recased code (trim s)) ∧
    WritesCodes Currency.toJson Currency.code Currency.read Wire.currency ∧
    WritesCodes Provider.toJson Provider.code Provider.read Wire.provider ∧
    WritesCodes Status.toJson Status.code Status.read Wire.status := by
  refine ⟨Currency.readsCodes, Provider.readsCodes, Status.readsCodes, Currency.exists_ok_iff,
    ?providers, ?states, ?currency, ?provider, ?status⟩
  case providers => exact Provider.readsCodes.exists_ok_iff Provider.mem_all
  case states => exact Status.readsCodes.exists_ok_iff Status.mem_all
  case currency => exact .of_reads Currency.readsCodes fun _ => rfl
  case provider => exact .of_reads Provider.readsCodes Provider.toJson_eq
  case status => exact .of_reads Status.readsCodes Status.toJson_eq

/-- A code in mixed case and between blanks is read as its provider; with a long s in it, it is not, and
neither is a currency's with a full-width letter. -/
theorem codes_canonical_lookalike :
    AllBlank ['\u2003', '\n'] ∧ AllBlank ['\u3000'] ∧ Recased "VisaNet" "vISANET" ∧
    Provider.read (String.ofList (['\u2003', '\n'] ++ "VisaNet".toList ++ ['\u3000'])) =
      .ok .visanet ∧
    Provider.read "vISANET" = .ok .visanet ∧
    (¬ ∃ p, Provider.read "vi\u017fanet" = .ok p) ∧
    ¬ ∃ c, Currency.read "\uff35SD" = .ok c := by
  obtain ⟨-, hprovider, -, hcurrency, -⟩ := codes_canonical
  have hfront : AllBlank ['\u2003', '\n'] := fun c hc => List.all_eq_true.1 (by decide) c hc
  have hback : AllBlank ['\u3000'] := fun c hc => List.all_eq_true.1 (by decide) c hc
  have hsame : Recased "VisaNet" "vISANET" := Text.recased_iff.2 (by decide)
  have hread : Provider.read "VisaNet" = .ok .visanet :=
    (hprovider.read_eq_ok _ _).2 (Text.recased_iff.2 (by decide))
  refine ⟨hfront, hback, hsame, ?around, ?recased, ?lookalike, ?fullwidth⟩
  case around => rw [hprovider.around _ _ _ hfront hback, hread]
  case recased =>
    rcases hprovider.recased _ _ hsame with ⟨p, hmixed, hother⟩ | ⟨hrefused, -⟩
    · rw [hother, ← hmixed, hread]
    · cases hread.symm.trans hrefused
  case lookalike =>
    rintro ⟨p, hlong⟩
    exact absurd (hprovider.plain _ p hlong '\u017f' (by decide)) (by decide)
  case fullwidth =>
    intro hfound
    exact absurd (((hcurrency _).1 hfound).2 '\uff35' (by decide)) (by decide)

end Paydesk
