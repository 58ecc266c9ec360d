import Paydesk.Proofs.Json.Scalars
import Paydesk.Proofs.Json.Values

/-!
# Printed values are scanned as they are

The scan of a printed value is the document of the value, and it ends where the value ends
(`Doc.scan_print`), as long as the numbers in it are read from their texts. The induction is on the
value; the scanner's fuel is spent by one for each container, item and field (`size`), of which a
text has no more than it has characters (`size_le`). No blank is printed, so that nothing is skipped
between the parts (`Starts`).
-/

namespace Paydesk.Json

/-! ## Fuel -/

mutual

/-- The fuel that the scan of a value takes. -/
def size : Json → Nat
  | .array items => sizeOfItems items + 1
  | .object fields => sizeOfFields fields + 1
  | _ => 1

def sizeOfItems : List Json → Nat
  | [] => 0
  | item :: items => size item + sizeOfItems items + 1

def sizeOfFields : List (String × Json) → Nat
  | [] => 0
  | (_, value) :: fields => size value + sizeOfFields fields + 1

end

theorem size_pos (j : Json) : 0 < size j := by
  cases j <;> simp [size]

theorem length_pos_of_readsBack {n : Number} (h : n.ReadsBack) : 0 < n.toText.toList.length := by
  rcases Doc.scanLeaf_eq_number h.scanLeaf_toText with ⟨ds, hcons, -⟩ | ⟨c, ds, hcons, -, -⟩ <;>
    rw [hcons] <;> exact Nat.succ_pos _

theorem printItems_cons_cons (item next : Json) (items : List Json) (rest : List Char) :
    printItems (item :: next :: items) rest =
      printOnto item (',' :: printItems (next :: items) rest) := rfl

theorem printFields_cons_cons (name : String) (value : Json) (next : String × Json)
    (fields : List (String × Json)) (rest : List Char) :
    printFields ((name, value) :: next :: fields) rest =
      quotedChars name ++ ':' :: printOnto value (',' :: printFields (next :: fields) rest) := rfl

mutual

theorem size_le : {j : Json} → (∀ n ∈ j.numbers, n.ReadsBack) → (rest : List Char) →
    size j + 2 * rest.length ≤ 2 * (printOnto j rest).length
  | .null, _, rest => by simp [size, printOnto]; omega
  | .bool true, _, rest => by simp [size, printOnto]; omega
  | .bool false, _, rest => by simp [size, printOnto]; omega
  | .number n, hnumbers, rest => by
    have hpos := length_pos_of_readsBack (hnumbers n List.mem_cons_self)
    simp only [size, printOnto, List.length_append]
    omega
  | .string s, _, rest => by
    simp only [size, printOnto, Doc.quotedChars_append, List.length_cons, List.length_append]
    omega
  | .array items, hnumbers, rest => by
    have hitems := sizeOfItems_le hnumbers (']' :: rest)
    simp only [size, printOnto, List.length_cons] at hitems ⊢
    omega
  | .object fields, hnumbers, rest => by
    have hfields := sizeOfFields_le hnumbers ('\x7d' :: rest)
    simp only [size, printOnto, List.length_cons] at hfields ⊢
    omega

theorem sizeOfItems_le : {items : List Json} → (∀ n ∈ numbersOfItems items, n.ReadsBack) →
    (rest : List Char) →
    sizeOfItems items + 2 * rest.length ≤ 2 * (printItems items rest).length + 1
  | [], _, rest => by simp [sizeOfItems, printItems]
  | [item], hnumbers, rest => by
    have hitem := size_le (fun n hn => hnumbers n (List.mem_append_left _ hn)) rest
    simp only [sizeOfItems, printItems]
    omega
  | item :: next :: items, hnumbers, rest => by
    have hitem := size_le (fun n hn => hnumbers n (List.mem_append_left _ hn))
      (',' :: printItems (next :: items) rest)
    have hitems := sizeOfItems_le (fun n hn => hnumbers n (List.mem_append_right _ hn)) rest
    rw [sizeOfItems, printItems_cons_cons]
    rw [List.length_cons] at hitem
    omega

theorem sizeOfFields_le : {fields : List (String × Json)} →
    (∀ n ∈ numbersOfFields fields, n.ReadsBack) → (rest : List Char) →
    sizeOfFields fields + 2 * rest.length ≤ 2 * (printFields fields rest).length + 1
  | [], _, rest => by simp [sizeOfFields, printFields]
  | [(name, value)], hnumbers, rest => by
    have hvalue := size_le (fun n hn => hnumbers n (List.mem_append_left _ hn)) rest
    simp only [sizeOfFields, printFields, List.length_append, List.length_cons]
    omega
  | (name, value) :: next :: fields, hnumbers, rest => by
    have hvalue := size_le (fun n hn => hnumbers n (List.mem_append_left _ hn))
      (',' :: printFields (next :: fields) rest)
    have hfields := sizeOfFields_le (fun n hn => hnumbers n (List.mem_append_right _ hn)) rest
    rw [sizeOfFields, printFields_cons_cons]
    simp only [List.length_append, List.length_cons] at hvalue ⊢
    omega

end

namespace Doc

/-! ## The first character -/

/-- The text goes on with something, which is neither a blank nor the end of an array. -/
def Starts (cs : List Char) : Prop :=
  ∃ c rest, cs = c :: rest ∧ isSpace c = false ∧ c ≠ ']' ∧ c ≠ '\x7d'

theorem skipSpace_cons {c : Char} {rest : List Char} (h : isSpace c = false) :
    skipSpace (c :: rest) = c :: rest :=
  List.dropWhile_cons_of_neg (by simp [h])

theorem Starts.skipSpace_eq {cs : List Char} (h : Starts cs) : skipSpace cs = cs := by
  obtain ⟨c, rest, rfl, hspace, -, -⟩ := h
  exact skipSpace_cons hspace

theorem isSpace_of_isDigit {c : Char} (h : c.isDigit = true) : isSpace c = false := by
  simp only [isSpace, Bool.or_eq_false_iff, decide_eq_false_iff_not]
  refine ⟨⟨⟨?_, ?_⟩, ?_⟩, ?_⟩ <;> (rintro rfl; cases h)

theorem starts_number {n : Number} (h : n.ReadsBack) (rest : List Char) :
    Starts (n.toText.toList ++ rest) := by
  rcases scanLeaf_eq_number h.scanLeaf_toText with ⟨ds, hcons, -⟩ | ⟨c, ds, hcons, hdigit, -⟩
  · rw [hcons]
    exact ⟨'-', ds ++ rest, rfl, rfl, by decide, by decide⟩
  · rw [hcons]
    refine ⟨c, ds ++ rest, rfl, isSpace_of_isDigit hdigit, ?_, ?_⟩ <;> (rintro rfl; cases hdigit)

theorem starts_printOnto {j : Json} (h : ∀ n ∈ j.numbers, n.ReadsBack) (rest : List Char) :
    Starts (printOnto j rest) := by
  cases j with
  | null => exact ⟨'n', _, rfl, rfl, by decide, by decide⟩
  | bool b => cases b <;> exact ⟨_, _, rfl, rfl, by decide, by decide⟩
  | number n => exact starts_number (h n List.mem_cons_self) rest
  | string s =>
    rw [printOnto, quotedChars_append]
    exact ⟨_, _, rfl, rfl, by decide, by decide⟩
  | array items => exact ⟨'[', _, rfl, rfl, by decide, by decide⟩
  | object fields => exact ⟨'\x7b', _, rfl, rfl, by decide, by decide⟩

theorem starts_printItems {item : Json} {items : List Json}
    (h : ∀ n ∈ numbersOfItems (item :: items), n.ReadsBack) (rest : List Char) :
    Starts (printItems (item :: items) rest) := by
  have hitem : ∀ n ∈ item.numbers, n.ReadsBack := fun n hn => h n (List.mem_append_left _ hn)
  cases items with
  | nil => exact starts_printOnto hitem rest
  | cons next items => exact starts_printOnto hitem _

theorem starts_printFields (field : String × Json) (fields : List (String × Json))
    (rest : List Char) : Starts (printFields (field :: fields) rest) := by
  cases fields with
  | nil =>
    rw [printFields, quotedChars_append]
    exact ⟨_, _, rfl, rfl, by decide, by decide⟩
  | cons next fields =>
    rw [printFields_cons_cons, quotedChars_append]
    exact ⟨_, _, rfl, rfl, by decide, by decide⟩

/-! ## Values -/

theorem scanValue_of_leaf {fuel : Nat} {c : Char} {cs : List Char} (harray : c ≠ '[')
    (hobject : c ≠ '\x7b') : scanValue (fuel + 1) (c :: cs) = scanLeaf (c :: cs) := by
  unfold scanValue
  split
  · next heq => cases heq
  · next heq => cases heq; exact absurd rfl harray
  · next heq => cases heq; exact absurd rfl hobject
  · rfl

theorem scanValue_number {n : Number} (h : n.ReadsBack) {rest : List Char}
    (hrest : EndsNumber rest) (fuel : Nat) :
    scanValue (fuel + 1) (n.toText.toList ++ rest) = (.number (some n), rest) := by
  have hleaf := scanLeaf_append hrest h.scanLeaf_toText
  rw [List.nil_append] at hleaf
  rcases scanLeaf_eq_number h.scanLeaf_toText with ⟨ds, hcons, -⟩ | ⟨c, ds, hcons, hdigit, -⟩
  · rw [hcons, List.cons_append] at hleaf ⊢
    rw [scanValue_of_leaf (by decide) (by decide), hleaf]
  · rw [hcons, List.cons_append] at hleaf ⊢
    rw [scanValue_of_leaf (by rintro rfl; cases hdigit) (by rintro rfl; cases hdigit), hleaf]

/-! ## Containers -/

variable {fuel : Nat} {cs more after : List Char}

theorem scanValue_array (h : Starts cs) {items : List Doc} {closed : Bool}
    (hitems : scanItems fuel cs = (items, closed, after)) :
    scanValue (fuel + 1) ('[' :: cs) = (.array items closed, after) := by
  obtain ⟨c, rest, rfl, hspace, hend, -⟩ := h
  rw [scanValue, skipSpace_cons hspace]
  split
  · next heq => cases heq; exact absurd rfl hend
  · rw [hitems]

theorem scanValue_object (h : Starts cs) {entries : List (Option String × Doc)} {closed : Bool}
    (hentries : scanEntries fuel cs = (entries, closed, after)) :
    scanValue (fuel + 1) ('\x7b' :: cs) = (.object entries closed, after) := by
  obtain ⟨c, rest, rfl, hspace, -, hend⟩ := h
  rw [scanValue, skipSpace_cons hspace]
  split
  · next heq => cases heq; exact absurd rfl hend
  · rw [hentries]

theorem scanItems_last {item : Doc} (hitem : scanValue fuel cs = (item, ']' :: after))
    (hclosed : item.isOpen = false) : scanItems (fuel + 1) cs = ([item], true, after) := by
  rw [scanItems, hitem]
  simp only [hclosed, skipSpace_cons (show isSpace ']' = false from rfl)]
  rfl

theorem scanItems_more {item : Doc} (hitem : scanValue fuel cs = (item, ',' :: more))
    (hclosed : item.isOpen = false) (hmore : Starts more) {items : List Doc} {closed : Bool}
    (hitems : scanItems fuel more = (items, closed, after)) :
    scanItems (fuel + 1) cs = (item :: items, closed, after) := by
  rw [scanItems, hitem]
  simp only [hclosed, skipSpace_cons (show isSpace ',' = false from rfl), hmore.skipSpace_eq]
  obtain ⟨c, rest, rfl, -, hend, -⟩ := hmore
  rw [if_neg (by decide)]
  split
  · next heq => cases heq; exact absurd rfl hend
  · rw [hitems]

theorem scanEntries_last {name : Option String} {value : Doc} {rest : List Char}
    (hname : scanText (cs.length + 1) cs [] true = some (name, ':' :: rest)) (hrest : Starts rest)
    (hvalue : scanValue fuel rest = (value, '\x7d' :: after)) (hclosed : value.isOpen = false) :
    scanEntries (fuel + 1) ('\x22' :: cs) = ([(name, value)], true, after) := by
  rw [scanEntries]
  simp only [hname, skipSpace_cons (show isSpace ':' = false from rfl), hrest.skipSpace_eq, hvalue,
    hclosed, skipSpace_cons (show isSpace '\x7d' = false from rfl)]
  rfl

theorem scanEntries_more {name : Option String} {value : Doc} {rest : List Char}
    (hname : scanText (cs.length + 1) cs [] true = some (name, ':' :: rest)) (hrest : Starts rest)
    (hvalue : scanValue fuel rest = (value, ',' :: more)) (hclosed : value.isOpen = false)
    (hmore : Starts more) {entries : List (Option String × Doc)} {closed : Bool}
    (hentries : scanEntries fuel more = (entries, closed, after)) :
    scanEntries (fuel + 1) ('\x22' :: cs) = ((name, value) :: entries, closed, after) := by
  rw [scanEntries]
  simp only [hname, skipSpace_cons (show isSpace ':' = false from rfl), hrest.skipSpace_eq, hvalue,
    hclosed, skipSpace_cons (show isSpace ',' = false from rfl), hmore.skipSpace_eq, hentries]
  rfl

theorem endsNumber_cons {c : Char} {rest : List Char}
    (h : c.isDigit = false ∧ c ≠ '.' ∧ c ≠ 'e' ∧ c ≠ 'E') : EndsNumber (c :: rest) := by
  rintro d hd
  cases hd
  exact h

mutual

/-- A printed value is scanned as its document, up to its end. -/
theorem scanValue_printOnto : {j : Json} → {fuel : Nat} → {rest : List Char} →
    (∀ n ∈ j.numbers, n.ReadsBack) → EndsNumber rest → size j ≤ fuel →
    scanValue fuel (printOnto j rest) = (ofJson j, rest)
  | j, 0, _, _, _, hfuel => absurd hfuel (Nat.not_le_of_lt (size_pos j))
  | .null, _ + 1, _, _, _, _ => scanValue_of_leaf (by decide) (by decide)
  | .bool true, _ + 1, _, _, _, _ => scanValue_of_leaf (by decide) (by decide)
  | .bool false, _ + 1, _, _, _, _ => scanValue_of_leaf (by decide) (by decide)
  | .number n, fuel + 1, _, hnumbers, hrest, _ =>
    scanValue_number (hnumbers n List.mem_cons_self) hrest fuel
  | .string s, fuel + 1, rest, _, _, _ => by
    rw [printOnto, quotedChars_append, scanValue_of_leaf (by decide) (by decide),
      ← quotedChars_append, scanLeaf_quotedChars]
    rfl
  | .array [], _ + 1, _, _, _, _ => rfl
  | .array (item :: items), _ + 1, _, hnumbers, _, hfuel =>
    scanValue_array (starts_printItems hnumbers _)
      (scanItems_printItems hnumbers (Nat.le_of_succ_le_succ hfuel))
  | .object [], _ + 1, _, _, _, _ => rfl
  | .object ((name, value) :: fields), _ + 1, _, hnumbers, _, hfuel =>
    scanValue_object (starts_printFields (name, value) fields _)
      (scanEntries_printFields hnumbers (Nat.le_of_succ_le_succ hfuel))

theorem scanItems_printItems : {item : Json} → {items : List Json} → {fuel : Nat} →
    {rest : List Char} → (∀ n ∈ numbersOfItems (item :: items), n.ReadsBack) →
    sizeOfItems (item :: items) ≤ fuel →
    scanItems fuel (printItems (item :: items) (']' :: rest)) =
      (ofItems (item :: items), true, rest)
  | _, _, 0, _, _, hfuel => absurd hfuel (Nat.not_succ_le_zero _)
  | item, [], fuel + 1, rest, hnumbers, hfuel => by
    rw [sizeOfItems] at hfuel
    have hown : ∀ n ∈ item.numbers, n.ReadsBack := fun n hn =>
      hnumbers n (List.mem_append_left _ hn)
    have hitem : scanValue fuel (printOnto item (']' :: rest)) = (ofJson item, ']' :: rest) :=
      scanValue_printOnto hown (endsNumber_cons (by decide)) (by omega)
    exact scanItems_last hitem (isOpen_ofJson item)
  | item, next :: items, fuel + 1, rest, hnumbers, hfuel => by
    rw [sizeOfItems] at hfuel
    have hmore : ∀ n ∈ numbersOfItems (next :: items), n.ReadsBack := fun n hn =>
      hnumbers n (List.mem_append_right _ hn)
    have hown : ∀ n ∈ item.numbers, n.ReadsBack := fun n hn =>
      hnumbers n (List.mem_append_left _ hn)
    have hitem : scanValue fuel (printOnto item (',' :: printItems (next :: items) (']' :: rest))) =
        (ofJson item, ',' :: printItems (next :: items) (']' :: rest)) :=
      scanValue_printOnto hown (endsNumber_cons (by decide)) (by omega)
    rw [printItems_cons_cons]
    exact scanItems_more hitem (isOpen_ofJson item) (starts_printItems hmore _)
      (scanItems_printItems hmore (by omega))

theorem scanEntries_printFields : {name : String} → {value : Json} →
    {fields : List (String × Json)} → {fuel : Nat} → {rest : List Char} →
    (∀ n ∈ numbersOfFields ((name, value) :: fields), n.ReadsBack) →
    sizeOfFields ((name, value) :: fields) ≤ fuel →
    scanEntries fuel (printFields ((name, value) :: fields) ('\x7d' :: rest)) =
      (ofFields ((name, value) :: fields), true, rest)
  | _, _, _, 0, _, _, hfuel => absurd hfuel (Nat.not_succ_le_zero _)
  | name, value, [], fuel + 1, rest, hnumbers, hfuel => by
    rw [sizeOfFields] at hfuel
    have hown : ∀ n ∈ value.numbers, n.ReadsBack := fun n hn =>
      hnumbers n (List.mem_append_left _ hn)
    have hvalue : scanValue fuel (printOnto value ('\x7d' :: rest)) =
        (ofJson value, '\x7d' :: rest) :=
      scanValue_printOnto hown (endsNumber_cons (by decide)) (by omega)
    rw [printFields, quotedChars_append]
    exact scanEntries_last (scanText_quotedChars name _) (starts_printOnto hown _) hvalue
      (isOpen_ofJson value)
  | name, value, (key, next) :: fields, fuel + 1, rest, hnumbers, hfuel => by
    rw [sizeOfFields] at hfuel
    have hown : ∀ n ∈ value.numbers, n.ReadsBack := fun n hn =>
      hnumbers n (List.mem_append_left _ hn)
    have hvalue : scanValue fuel
        (printOnto value (',' :: printFields ((key, next) :: fields) ('\x7d' :: rest))) =
        (ofJson value, ',' :: printFields ((key, next) :: fields) ('\x7d' :: rest)) :=
      scanValue_printOnto hown (endsNumber_cons (by decide)) (by omega)
    rw [printFields_cons_cons, quotedChars_append]
    exact scanEntries_more (scanText_quotedChars name _) (starts_printOnto hown _) hvalue
      (isOpen_ofJson value) (starts_printFields (key, next) fields _)
      (scanEntries_printFields (fun n hn => hnumbers n (List.mem_append_right _ hn)) (by omega))

end

/-! ## Characters that are scanned as they are -/

/-- Nothing stands for bytes that are no character. -/
def Gapless (cs : List Char) : Prop :=
  ∀ c ∈ cs, c ≠ gap

instance (cs : List Char) : Decidable (Gapless cs) :=
  List.decidableBAll (· ≠ gap) cs

theorem gapless_nil : Gapless [] :=
  fun _ h => absurd h List.not_mem_nil

theorem gapless_cons {c : Char} {cs : List Char} : Gapless (c :: cs) ↔ c ≠ gap ∧ Gapless cs :=
  List.forall_mem_cons

theorem gapless_append {cs ds : List Char} : Gapless (cs ++ ds) ↔ Gapless cs ∧ Gapless ds :=
  List.forall_mem_append

theorem Gapless.map_barred {cs : List Char} (h : Gapless cs) : cs.map barred = cs :=
  (List.map_congr_left fun c hc => if_neg (h c hc)).trans (List.map_id cs)

theorem gapless_digits {digits : List Char} (h : ∀ c ∈ digits, c.isDigit = true) :
    Gapless digits := by
  intro c hc hgap
  have hdigit := h c hc
  rw [hgap] at hdigit
  cases hdigit

theorem gapless_natDigits (n : Nat) : Gapless (Text.natDigits n) :=
  gapless_digits fun _ => Text.isDigit_of_mem_natDigits

theorem gapless_intText (i : Int) : Gapless (Text.intText i).toList := by
  unfold Text.intText
  split <;> rw [String.toList_ofList]
  · exact gapless_cons.2 ⟨by decide, gapless_natDigits _⟩
  · exact gapless_natDigits _

theorem gapless_zeros (n : Nat) : Gapless (List.replicate n '0') := by
  intro c hc
  rw [List.eq_of_mem_replicate hc]
  decide

theorem Gapless.positional {digits : List Char} (h : Gapless digits) (point : Int) :
    Gapless (Binary64.positional digits point) := by
  have htake : ∀ n, Gapless (digits.take n) := fun n c hc => h c (List.mem_of_mem_take hc)
  have hdrop : ∀ n, Gapless (digits.drop n) := fun n c hc => h c (List.mem_of_mem_drop hc)
  unfold Binary64.positional
  split_ifs
  · exact gapless_cons.2 ⟨by decide, gapless_cons.2
      ⟨by decide, gapless_append.2 ⟨gapless_zeros _, h⟩⟩⟩
  · exact gapless_append.2 ⟨h, gapless_zeros _⟩
  · exact gapless_append.2 ⟨htake _, gapless_cons.2 ⟨by decide, hdrop _⟩⟩

theorem gapless_interchangeSize (units : Nat) : Gapless (Binary64.interchangeSize units) := by
  have hdigits := gapless_natDigits (Binary64.shortest units).digits
  unfold Binary64.interchangeSize
  dsimp only
  generalize Text.natDigits (Binary64.shortest units).digits = digits at hdigits ⊢
  have htake : Gapless (digits.take 1) := fun c hc => hdigits c (List.mem_of_mem_take hc)
  have hdrop : Gapless (digits.drop 1) := fun c hc => hdigits c (List.mem_of_mem_drop hc)
  split_ifs
  · exact gapless_append.2 ⟨hdigits.positional _, by decide⟩
  · exact hdigits.positional _
  · exact gapless_append.2 ⟨gapless_append.2 ⟨htake, by decide⟩,
      gapless_cons.2 ⟨by decide, gapless_intText _⟩⟩
  · exact gapless_append.2 ⟨gapless_append.2 ⟨htake, gapless_cons.2 ⟨by decide, hdrop⟩⟩,
      gapless_cons.2 ⟨by decide, gapless_intText _⟩⟩

theorem gapless_number (n : Number) : Gapless n.toText.toList := by
  cases n with
  | int i => exact gapless_intText i
  | float x =>
    cases x with
    | finite negative units =>
      have hsize : Gapless (if units = 0 then ['0', '.', '0'] else Binary64.interchangeSize units) := by
        split
        · decide
        · exact gapless_interchangeSize units
      show Gapless (Binary64.signed negative _).toList
      rw [Binary64.signed, String.toList_ofList]
      split
      · exact gapless_cons.2 ⟨by decide, hsize⟩
      · exact hsize
    | _ => exact show Gapless "null".toList by decide

theorem gapless_escaped (c : Char) : Gapless (escaped c) := by
  unfold escaped
  split_ifs with hquote hslash hback hfeed hline hreturn htab hcontrol
  any_goals decide
  · refine gapless_append.2 ⟨show Gapless ['\\', 'u'] by decide, fun d hd => ?_⟩
    obtain ⟨n, hn, rfl⟩ := Text.Hex.exists_of_mem_padded hd
    have hdigit : ∀ n < 16, Text.Hex.digit n ≠ gap := by decide
    exact hdigit n hn
  · refine gapless_cons.2 ⟨?_, gapless_nil⟩
    rintro rfl
    exact hcontrol (by decide)

theorem gapless_quotedChars (s : String) : Gapless (quotedChars s) := by
  refine gapless_append.2 ⟨gapless_cons.2 ⟨by decide, fun c hc => ?_⟩, by decide⟩
  obtain ⟨d, -, hc⟩ := List.mem_flatMap.1 hc
  exact gapless_escaped d c hc

mutual

theorem gapless_printOnto : {j : Json} → {rest : List Char} → Gapless rest →
    Gapless (printOnto j rest)
  | .null, _, h => by simpa [printOnto, gapless_cons, gap] using h
  | .bool true, _, h => by simpa [printOnto, gapless_cons, gap] using h
  | .bool false, _, h => by simpa [printOnto, gapless_cons, gap] using h
  | .number n, _, h => gapless_append.2 ⟨gapless_number n, h⟩
  | .string s, _, h => gapless_append.2 ⟨gapless_quotedChars s, h⟩
  | .array _, _, h =>
    gapless_cons.2 ⟨by decide, gapless_printItems (gapless_cons.2 ⟨by decide, h⟩)⟩
  | .object _, _, h =>
    gapless_cons.2 ⟨by decide, gapless_printFields (gapless_cons.2 ⟨by decide, h⟩)⟩

theorem gapless_printItems : {items : List Json} → {rest : List Char} → Gapless rest →
    Gapless (printItems items rest)
  | [], _, h => h
  | [_], _, h => gapless_printOnto h
  | _ :: _ :: _, _, h => gapless_printOnto (gapless_cons.2 ⟨by decide, gapless_printItems h⟩)

theorem gapless_printFields : {fields : List (String × Json)} → {rest : List Char} →
    Gapless rest → Gapless (printFields fields rest)
  | [], _, h => h
  | [(name, _)], _, h => gapless_append.2
    ⟨gapless_quotedChars name, gapless_cons.2 ⟨by decide, gapless_printOnto h⟩⟩
  | (name, _) :: _ :: _, _, h => gapless_append.2
    ⟨gapless_quotedChars name, gapless_cons.2
      ⟨by decide, gapless_printOnto (gapless_cons.2 ⟨by decide, gapless_printFields h⟩)⟩⟩

end

/-- **The scan of a printed value is its document**, and nothing follows it. -/
theorem scan_print {j : Json} (h : ∀ n ∈ j.numbers, n.ReadsBack) :
    scan j.print = (ofJson j, true) := by
  have hstarts := starts_printOnto h []
  have hsize := size_le h []
  have hchars : (printOnto j []).map barred = printOnto j [] :=
    (gapless_printOnto gapless_nil).map_barred
  have hscan : scanValue (2 * (printOnto j []).length + 2) (printOnto j []) = (ofJson j, []) :=
    scanValue_printOnto h endsNumber_nil (by rw [List.length_nil] at hsize; omega)
  simp only [scan, scanChars, print, String.toList_ofList, hchars, hstarts.skipSpace_eq, hscan]
  rfl

end Doc

/-- A value of at most the allowed depth is read from its text. -/
theorem parse?_print {j : Json} (hordered : IsOrdered j) (hdepth : depth j ≤ maxDepth)
    (hnumbers : ∀ n ∈ j.numbers, n.ReadsBack) : parse? j.print = some j := by
  rw [parse?, Doc.scan_print hnumbers]
  exact Doc.toJson?_ofJson hordered hdepth

end Paydesk.Json
