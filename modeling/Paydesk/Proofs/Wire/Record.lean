import Paydesk.Proofs.Decimal.Text
import Paydesk.Proofs.Instant.Rfc3339
import Paydesk.Proofs.Json.Values
import Paydesk.Proofs.Text.Codes
import Paydesk.Proofs.Wire.Object
import Paydesk.Wire.Payments

/-!
# Records are read from the objects that hold them

Each value of the service is read from the document that is written for it. A record is read from an
object that holds its fields (`Record.Holds`), whatever else the object holds and in whatever order:
every field that the object names passes its check, is kept (`Record.exists_collect`), and the record
is built from what was kept (`Record.read_of_holds`). What a record of many fields holds is put
together field by field, as the record is.
-/

namespace Paydesk.Wire

open Json (Doc)

/-! ## Values -/

theorem text_string (s : String) : text (Doc.ofJson (.string s)) = .ok s := rfl

theorem truth_bool (b : Bool) : truth (Doc.ofJson (.bool b)) = .ok b := rfl

theorem checkedText_string {α : Type} {check : String → Except Invalid α} {s : String} {a : α}
    (h : check s = .ok a) : checkedText check (Doc.ofJson (.string s)) = .ok a := by
  simp only [checkedText, text_string, Except.bind, h]

theorem paymentId_toText (id : PaymentId) : paymentId (Doc.ofJson (.string id.toText)) = .ok id :=
  checkedText_string id.read_toText

theorem provider_toJson (p : Provider) : provider (Doc.ofJson p.toJson) = .ok p := by
  rw [p.toJson_eq]
  exact checkedText_string p.read_code

theorem currency_toJson (c : Currency) : currency (Doc.ofJson c.toJson) = .ok c :=
  checkedText_string c.read_code

theorem status_toJson (s : Status) : status (Doc.ofJson s.toJson) = .ok s := by
  rw [s.toJson_eq]
  exact checkedText_string s.read_code

theorem amount_toJson (a : Amount) : amount (Doc.ofJson a.toJson) = .ok a := by
  have hdecimal : decimal (Doc.ofJson a.toJson) = .ok a.value := by
    simp only [Amount.toJson, Doc.ofJson, decimal, Decimal.read?_toText, Option.map_some,
      Option.getD_some]
  simp only [amount, hdecimal, Except.bind, a.ofDecimal_value]

theorem instant_toJson {t : Instant} (h : t.IsProper) : instant (Doc.ofJson t.toJson) = .ok t := by
  simp only [instant, Instant.toJson, text_string, Except.bind, Instant.read?_toText h]

theorem word_int {n : Nat} (h : n ≤ Text.maxWord) : word (Doc.ofJson (.int n)) = .ok n := by
  have hword : (Json.Number.int n).toWord? = some n :=
    if_pos ⟨Int.natCast_nonneg n, Int.ofNat_le.2 h⟩
  simp only [Json.int, Doc.ofJson, word, hword]

theorem fieldsWithin_toJson {depth : Nat} {m : Metadata} (hdepth : m.toJson.depth ≤ depth) :
    fieldsWithin depth (Doc.ofJson m.toJson) = .ok m := by
  have hvalue := Doc.toJson?_ofJson m.isOrdered hdepth
  rw [Doc.ofJson] at hvalue
  rw [Metadata.toJson, Doc.ofJson, fieldsWithin]
  split
  · next fields heq =>
    rw [hvalue] at heq
    cases heq
    rfl
  · next hnone => exact absurd hvalue (hnone _)

theorem nullable_of_ok {α : Type} {read : Reader α} {j : Json} {a : α} (hnull : j ≠ .null)
    (h : read (Doc.ofJson j) = .ok a) : nullable read (Doc.ofJson j) = .ok (some a) := by
  unfold nullable
  split
  · next heq => cases j <;> simp_all [Doc.ofJson]
  · rw [h]
    rfl

/-! ## Records -/

namespace Record

variable {α β : Type} {fields : Fields Json} {name : String}

/-- The object holds what the record asks for, and the record that this makes. -/
structure Holds (record : Record α) (fields : Fields Json) (a : α) : Prop where
  checked : ∀ rule ∈ record.rules, ∀ j, Fields.get? rule.name fields = some j →
    rule.check (Doc.ofJson j) = .ok ()
  built : ∀ given : Given,
    (∀ rule ∈ record.rules,
      Fields.get? rule.name given = (Fields.get? rule.name fields).map Doc.ofJson) →
    record.build given = .ok a

theorem Holds.of_field {read : Reader α} {missing : Option α} {mayTrail : Bool} {j : Json} {a : α}
    (hfield : Fields.get? name fields = some j) (hread : read (Doc.ofJson j) = .ok a) :
    Holds (ofField name read missing mayTrail) fields a where
  checked := by
    intro rule hrule j' hj'
    obtain rfl := List.mem_singleton.1 hrule
    rw [hfield] at hj'
    cases hj'
    simp only [hread]
    rfl
  built := by
    intro given hgiven
    have hfound := hgiven _ List.mem_cons_self
    rw [hfield] at hfound
    simp only [ofField, hfound]
    exact hread

theorem Holds.required {read : Reader α} {j : Json} {a : α}
    (hfield : Fields.get? name fields = some j) (hread : read (Doc.ofJson j) = .ok a) :
    Holds (required name read) fields a :=
  .of_field hfield hread

theorem Holds.optional {read : Reader α} {write : α → Json} {value : Option α}
    (hfield : Fields.get? name fields = some (Json.optional write value))
    (hread : ∀ a, value = some a → write a ≠ .null ∧ read (Doc.ofJson (write a)) = .ok a) :
    Holds (Record.optional name read) fields value := by
  cases value with
  | none => exact .of_field hfield rfl
  | some a => exact .of_field hfield (nullable_of_ok (hread a rfl).1 (hread a rfl).2)

theorem Holds.optionalText {value : Option String}
    (hfield : Fields.get? name fields = some (Json.optional .string value)) :
    Holds (Record.optional name text) fields value :=
  .optional hfield fun s _ => ⟨Json.noConfusion, text_string s⟩

theorem Holds.optionalAmount {value : Option Amount}
    (hfield : Fields.get? name fields = some (Json.optional Amount.toJson value)) :
    Holds (Record.optional name amount) fields value :=
  .optional hfield fun a _ => ⟨Json.noConfusion, amount_toJson a⟩

theorem Holds.optionalInstant {value : Option Instant}
    (hfield : Fields.get? name fields = some (Json.optional Instant.toJson value))
    (hproper : ∀ t, value = some t → t.IsProper) :
    Holds (Record.optional name instant) fields value :=
  .optional hfield fun t ht => ⟨Json.noConfusion, instant_toJson (hproper t ht)⟩

theorem Holds.map {x : Record α} {a : α} (f : α → β) (h : Holds x fields a) :
    Holds (f <$> x) fields (f a) where
  checked := h.checked
  built := by
    intro given hgiven
    rw [build_map, h.built given hgiven]
    rfl

theorem Holds.seq {f : Record (α → β)} {x : Record α} {g : α → β} {a : α} (hf : Holds f fields g)
    (hx : Holds x fields a) : Holds (f <*> x) fields (g a) where
  checked := by
    intro rule hrule
    rcases List.mem_append.1 hrule with hleft | hright
    · exact hf.checked rule hleft
    · exact hx.checked rule hright
  built := by
    intro given hgiven
    rw [build_seq, hf.built given fun rule hrule => hgiven rule (List.mem_append_left _ hrule),
      hx.built given fun rule hrule => hgiven rule (List.mem_append_right _ hrule)]
    rfl

/-! ## Reading -/

/-- Going through the fields of an object, those of the record pass their checks and are kept. -/
theorem exists_collect {rules : List FieldRule} {fields : List (String × Json)}
    (distinct : (fields.map Prod.fst).Nodup)
    (hchecked : ∀ field ∈ fields, ∀ rule ∈ rules, rule.name = field.1 →
      rule.check (Doc.ofJson field.2) = .ok ())
    {given : Given} (hnew : ∀ field ∈ fields, Fields.get? field.1 given = none) :
    ∃ given', collect rules given (Doc.ofFields fields) = .ok given' ∧
      ∀ rule ∈ rules, Fields.get? rule.name given' =
        ((Fields.get? rule.name fields).map Doc.ofJson).or (Fields.get? rule.name given) := by
  induction fields generalizing given with
  | nil => exact ⟨given, rfl, fun _ _ => rfl⟩
  | cons field rest ih =>
    obtain ⟨name, value⟩ := field
    obtain ⟨hfirst, hrest⟩ := List.nodup_cons.1 distinct
    have hlater := fun field hfield => hchecked field (List.mem_cons_of_mem _ hfield)
    cases hrule : rules.find? fun rule => rule.name == name with
    | none =>
      obtain ⟨given', hcollect, hkept⟩ := ih hrest hlater fun field hfield =>
        hnew field (List.mem_cons_of_mem _ hfield)
      refine ⟨given', ?_, fun rule hmem => ?_⟩
      · simp only [Doc.ofFields, collect, hrule, Doc.isOpen_ofJson]
        exact hcollect
      · have hne : name ≠ rule.name := by
          rintro rfl
          simpa using List.find?_eq_none.1 hrule rule hmem
        rw [hkept rule hmem, Fields.get?, if_neg hne]
    | some rule =>
      have hmem := List.mem_of_find?_eq_some hrule
      have hname : rule.name = name := by simpa using List.find?_some hrule
      have hcheck := hchecked (name, value) List.mem_cons_self rule hmem hname
      have hnone : Fields.get? name given = none := hnew (name, value) List.mem_cons_self
      have hnew' : ∀ field ∈ rest,
          Fields.get? field.1 ((name, Doc.ofJson value) :: given) = none := by
        intro field hfield
        have hne : name ≠ field.1 := by
          rintro rfl
          exact hfirst (List.mem_map.2 ⟨field, hfield, rfl⟩)
        rw [Fields.get?, if_neg hne]
        exact hnew field (List.mem_cons_of_mem _ hfield)
      obtain ⟨given', hcollect, hkept⟩ := ih hrest hlater hnew'
      refine ⟨given', ?_, fun rule' hmem' => ?_⟩
      · simp only [Doc.ofFields, collect, hrule, hnone, Option.isSome_none, hcheck, Except.bind]
        exact hcollect
      · rw [hkept rule' hmem', Fields.get?, Fields.get?]
        by_cases hsame : name = rule'.name
        · rw [if_pos hsame, if_pos hsame, ← hsame, Fields.get?_eq_none hfirst]
          rfl
        · rw [if_neg hsame, if_neg hsame]

/-- **A record is read from an object that holds its fields**, under names that are all different. -/
theorem read_of_holds {record : Record α} {a : α} (distinct : (fields.map Prod.fst).Nodup)
    (h : Holds record fields a) : record.read (Doc.ofJson (.object fields)) = .ok a := by
  have hchecked : ∀ field ∈ fields, ∀ rule ∈ record.rules, rule.name = field.1 →
      rule.check (Doc.ofJson field.2) = .ok () := by
    intro field hfield rule hrule hname
    exact h.checked rule hrule field.2 (hname ▸ Fields.get?_of_mem distinct hfield)
  obtain ⟨given, hcollect, hkept⟩ := exists_collect distinct hchecked fun _ _ =>
    show Fields.get? _ [] = none from rfl
  have hbuild := h.built given fun rule hrule => by
    rw [hkept rule hrule, Fields.get?, Option.or_none]
  rw [Doc.ofJson, read, hcollect]
  exact hbuild

theorem read_record {record : Record α} {pairs : List (String × Json)} {a : α}
    (distinct : (pairs.map Prod.fst).Nodup)
    (h : (∀ (i : Nat) {name value}, pairs[i]? = some (name, value) →
      Fields.get? name (Fields.ofList pairs) = some value) →
      Holds record (Fields.ofList pairs) a) :
    record.read (Doc.ofJson (.record pairs)) = .ok a :=
  read_of_holds (Fields.isAscending_ofList pairs).nodup <|
    h fun _ _ _ hfield => Fields.get?_ofList distinct (List.mem_of_getElem? hfield)

/-! ## What a record can make -/

/-- Whatever the record is built from, what it makes has the property. -/
def Always (P : α → Prop) (record : Record α) : Prop :=
  ∀ given a, record.build given = .ok a → P a

theorem Always.map {P : β → Prop} {f : α → β} (x : Record α) (h : ∀ a, P (f a)) :
    Always P (f <$> x) := by
  intro given b hb
  rw [build_map] at hb
  cases hx : x.build given with
  | error why => rw [hx] at hb; cases hb
  | ok a =>
    rw [hx] at hb
    cases hb
    exact h a

theorem Always.seq {P : β → Prop} {f : Record (α → β)} (x : Record α)
    (h : Always (fun g => ∀ a, P (g a)) f) : Always P (f <*> x) := by
  intro given b hb
  rw [build_seq] at hb
  cases hf : f.build given with
  | error why => rw [hf] at hb; cases hb
  | ok g =>
    cases hx : x.build given with
    | error why => rw [hf, hx] at hb; cases hb
    | ok a =>
      rw [hf, hx] at hb
      cases hb
      exact h given g hf a

theorem exists_build {record : Record α} {d : Doc} {a : α} (h : record.read d = .ok a) :
    ∃ given, record.build given = .ok a := by
  cases d with
  | object entries closed =>
    rw [read] at h
    cases hgiven : collect record.rules [] entries with
    | error why => rw [hgiven] at h; cases h
    | ok given =>
      rw [hgiven] at h
      cases closed with
      | false => cases h
      | true => exact ⟨given, h⟩
  | array items closed =>
    rw [read] at h
    cases hgiven : position record.rules items closed with
    | error why => rw [hgiven] at h; cases h
    | ok given =>
      rw [hgiven] at h
      exact ⟨given, h⟩
  | null => cases h
  | bool b => cases h
  | number n => cases h
  | string s => cases h
  | broken => cases h

theorem Always.of_read {P : α → Prop} {record : Record α} (h : Always P record) {d : Doc} {a : α}
    (hread : record.read d = .ok a) : P a := by
  obtain ⟨given, hbuild⟩ := exists_build hread
  exact h given a hbuild

end Record

end Paydesk.Wire
