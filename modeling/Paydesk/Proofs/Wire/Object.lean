import Paydesk.Proofs.Text.Bytes
import Paydesk.Wire.Requests

/-!
# Records and the objects that they are read from

A record is read from a document entry by entry, and an object is the value of a whole document. A
record that was read from the text of an object has been given what the object says of each of its
fields (`Record.exists_given`): no entry is passed over that stands for a field, and none is
overwritten by a later one. Of bytes that are a text, the same is read as of the text
(`Record.parseBytes_of_decode?`).
-/

namespace Paydesk

namespace Wire

open Json (Doc)

namespace Record

variable {α : Type} {depth : Nat} {name : String}

/-- What was given for a field is what the object says of it. -/
def Tells (depth : Nat) (name : String) (given : Given) (fields : Fields Json) : Prop :=
  (Fields.get? name given).bind (Doc.toJson? depth) = Fields.get? name fields

theorem Tells.of_ne {given : Given} {fields : Fields Json} (h : Tells depth name given fields)
    {key : String} (hkey : key ≠ name) (value : Json) :
    Tells depth name given (Fields.insert key value fields) := by
  unfold Tells
  rw [Fields.get?_insert, if_neg hkey]
  exact h

theorem Tells.cons {given : Given} {fields : Fields Json} (h : Tells depth name given fields)
    {key : String} {doc : Doc} {value : Json} (hvalue : doc.toJson? depth = some value) :
    Tells depth name ((key, doc) :: given) (Fields.insert key value fields) := by
  unfold Tells
  rw [Fields.get?_insert, Fields.get?]
  by_cases hkey : key = name
  · rw [if_pos hkey, if_pos hkey]
    exact hvalue
  · rw [if_neg hkey, if_neg hkey]
    exact h

theorem toFields?_cons {key : Option String} {doc : Doc} {entries : List (Option String × Doc)}
    {fields fields' : Fields Json}
    (h : Doc.toFields? depth ((key, doc) :: entries) fields = some fields') :
    ∃ text value, key = some text ∧ doc.toJson? depth = some value ∧
      Doc.toFields? depth entries (Fields.insert text value fields) = some fields' := by
  rw [Doc.toFields?] at h
  obtain ⟨text, htext, h⟩ := Option.bind_eq_some_iff.1 h
  obtain ⟨value, hvalue, h⟩ := Option.bind_eq_some_iff.1 h
  exact ⟨text, value, htext, hvalue, h⟩

/-- Going through the entries, what is given for a field and what the object says of it stay the
same. -/
theorem tells_of_collect {rules : List FieldRule}
    (hknown : (rules.find? fun rule => rule.name == name).isSome = true)
    {entries : List (Option String × Doc)} {given given' : Given} {fields fields' : Fields Json}
    (h : Tells depth name given fields) (hgiven : collect rules given entries = .ok given')
    (hfields : Doc.toFields? depth entries fields = some fields') :
    Tells depth name given' fields' := by
  induction entries generalizing given fields with
  | nil =>
    cases hgiven
    rw [Doc.toFields?] at hfields
    cases hfields
    exact h
  | cons entry rest ih =>
    obtain ⟨key, doc⟩ := entry
    obtain ⟨text, value, rfl, hvalue, hrest⟩ := toFields?_cons hfields
    rw [collect] at hgiven
    cases hrule : rules.find? fun rule => rule.name == text with
    | none =>
      simp only [hrule] at hgiven
      have hne : text ≠ name := by
        rintro rfl
        rw [hrule] at hknown
        cases hknown
      split at hgiven
      · cases hgiven
      · exact ih (h.of_ne hne value) hgiven hrest
    | some rule =>
      simp only [hrule] at hgiven
      split at hgiven
      · cases hgiven
      · cases hcheck : rule.check doc with
        | error why =>
          rw [hcheck] at hgiven
          cases hgiven
        | ok _ =>
          rw [hcheck] at hgiven
          exact ih (h.cons hvalue) hgiven hrest

theorem build_map {β : Type} (f : α → β) (x : Record α) (given : Given) :
    (f <$> x).build given = (x.build given).bind fun a => .ok (f a) := rfl

theorem build_seq {β : Type} (f : Record (α → β)) (x : Record α) (given : Given) :
    (f <*> x).build given =
      (f.build given).bind fun g => (x.build given).bind fun a => .ok (g a) := rfl

/-- A record that was read from an object is built from what the object says of its fields. -/
theorem exists_given {record : Record α} {s : String} {a : α} {fields : Fields Json}
    (hparse : record.parse s = .ok a) (hobject : Json.parse? s = some (.object fields)) :
    ∃ given depth, record.build given = .ok a ∧
      ∀ name, (record.rules.find? fun rule => rule.name == name).isSome = true →
        Tells depth name given fields := by
  unfold Record.parse Record.readAll at hparse
  unfold Json.parse? at hobject
  generalize Doc.scan s = scanned at hparse hobject
  obtain ⟨d, atEnd⟩ := scanned
  cases atEnd with
  | false => cases hobject
  | true =>
    obtain ⟨entries, depth, rfl, -, hfields⟩ := Doc.exists_entries hobject
    simp only [Record.read, if_true] at hparse
    cases hgiven : collect record.rules [] entries with
    | error why =>
      rw [hgiven] at hparse
      cases hparse
    | ok given =>
      rw [hgiven] at hparse
      refine ⟨given, depth, ?_, fun name hknown =>
        tells_of_collect hknown (show Tells depth name [] [] from rfl) hgiven hfields⟩
      cases hbuild : record.build given with
      | error why =>
        simp only [hbuild, bind, Except.bind] at hparse
        cases hparse
      | ok b =>
        simp only [hbuild, bind, Except.bind] at hparse
        exact hparse

theorem parseBytes_of_decode? (record : Record α) {bytes : List UInt8} {s : String}
    (h : Text.Utf8.decode? bytes = some s) : record.parseBytes bytes = record.parse s := by
  rw [parseBytes, parse, Doc.scanBytes, Text.Utf8.pieces_of_decode? h, List.map_map]
  rfl

end Record

theorem eq_number_of_toJson? {depth : Nat} {d : Doc} {n : Json.Number}
    (h : d.toJson? depth = some (.number n)) : d = .number (some n) := by
  cases d with
  | number m =>
    cases m with
    | none => simp [Doc.toJson?] at h
    | some m =>
      simp only [Doc.toJson?, Option.map_some, Option.some.injEq, Json.number.injEq] at h
      rw [h]
  | object entries closed => cases depth <;> cases closed <;> simp [Doc.toJson?] at h
  | array items closed => cases depth <;> cases closed <;> simp [Doc.toJson?] at h
  | string s => cases s <;> simp [Doc.toJson?] at h
  | null => simp [Doc.toJson?] at h
  | bool b => simp [Doc.toJson?] at h
  | broken => cases depth <;> simp [Doc.toJson?] at h

end Wire

open Wire.Record in
/-- The number that an object names as the amount of a refund is the amount that is read. -/
theorem RefundBody.amount_of_parse {s : String} {body : RefundBody} {fields : Fields Json}
    {n : Json.Number} (hparse : wire.parse s = .ok body)
    (hobject : Json.parse? s = some (.object fields))
    (hamount : Fields.get? "amount" fields = some (.number n)) :
    body.amount = some n.toBinary64 := by
  obtain ⟨given, depth, hbuild, htells⟩ := exists_given hparse hobject
  have hgiven : (Fields.get? "amount" given).bind (Json.Doc.toJson? depth) = _ :=
    htells "amount" rfl
  rw [hamount] at hgiven
  obtain ⟨d, hd, hvalue⟩ := Option.bind_eq_some_iff.1 hgiven
  obtain rfl := Wire.eq_number_of_toJson? hvalue
  have hfield : (defaulted "amount" Wire.double).build given = .ok (some n.toBinary64) := by
    simp only [defaulted, ofField, hd]
    rfl
  rw [wire, build_seq, build_map, hfield] at hbuild
  cases hreason : (defaulted "reason" Wire.text).build given with
  | error why =>
    rw [hreason] at hbuild
    cases hbuild
  | ok reason =>
    rw [hreason] at hbuild
    cases hbuild
    rfl

end Paydesk
