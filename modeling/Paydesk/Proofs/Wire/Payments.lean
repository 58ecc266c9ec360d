import Paydesk.Proofs.Json.Text
import Paydesk.Proofs.Payment.Restored
import Paydesk.Proofs.Wire.Record

/-!
# Stored payments and events are read back

What is written of a payment or an event is read back as the same payment or event, from the value in
memory and from its text (`documents_read_back`).

1. The object that is written for a record holds the record's fields, each under its name, whatever
   the order in which they were written (`Snapshot.holds`, `Event.ofJson_record`).
2. The name of its kind is looked up before the other fields of an event. It is not one of them, and
   each record of fields makes events of the kind that it is looked up for (`Event.tag_of_wire?`).
3. All that a text adds is the scan of the printed value (`Json.Doc.scan_print`), and a bound on the
   depth of the metadata.
-/

namespace Paydesk

open Wire Wire.Record
open Json (Doc)

/-! ## Stored payments -/

namespace Snapshot

/-- A stored payment as memory holds it: a version of 64 bits and instants of the supported years. -/
structure IsProper (s : Snapshot) : Prop where
  version_le : s.version ≤ Text.maxWord
  createdAt : s.createdAt.IsProper
  updatedAt : s.updatedAt.IsProper
  completedAt : ∀ t, s.completedAt = some t → t.IsProper
  failedAt : ∀ t, s.failedAt = some t → t.IsProper
  refundedAt : ∀ t, s.refundedAt = some t → t.IsProper

theorem read_toJson {s : Snapshot} (h : s.IsProper) {depth : Nat}
    (hdepth : s.metadata.toJson.depth ≤ depth) :
    (wireWithin depth).read (Doc.ofJson s.toJson) = .ok s := by
  unfold toJson
  refine read_record (by simp) fun hfield => ?_
  exact Holds.map mk (.required (hfield 0 rfl) (paymentId_toText s.id))
    |>.seq (.required (hfield 1 rfl) (text_string s.tenant))
    |>.seq (.required (hfield 2 rfl) (provider_toJson s.provider))
    |>.seq (.required (hfield 3 rfl) (amount_toJson s.amount))
    |>.seq (.required (hfield 4 rfl) (currency_toJson s.currency))
    |>.seq (.required (hfield 5 rfl) (status_toJson s.status))
    |>.seq (.required (hfield 6 rfl) (text_string s.order))
    |>.seq (.optionalText (hfield 7 rfl))
    |>.seq (.optionalText (hfield 8 rfl))
    |>.seq (.required (hfield 9 rfl) (fieldsWithin_toJson hdepth))
    |>.seq (.optionalAmount (hfield 10 rfl))
    |>.seq (.optionalText (hfield 11 rfl))
    |>.seq (.required (hfield 12 rfl) (instant_toJson h.createdAt))
    |>.seq (.required (hfield 13 rfl) (instant_toJson h.updatedAt))
    |>.seq (.optionalInstant (hfield 14 rfl) h.completedAt)
    |>.seq (.optionalInstant (hfield 15 rfl) h.failedAt)
    |>.seq (.optionalInstant (hfield 16 rfl) h.refundedAt)
    |>.seq (.required (hfield 17 rfl) (word_int h.version_le))

end Snapshot

/-! ## Events -/

namespace Event

/-- An event is read from the object that was written for it: its kind is looked up, and the other
fields hold what is asked for of that kind. -/
theorem ofJson_record {tag : String} {record : Record Event} {rest : List (String × Json)} {e : Event}
    (hwire : wire? tag = some record) (distinct : ("type" :: rest.map Prod.fst).Nodup)
    (h : ∀ fields : Fields Json, (∀ (i : Nat) {name value}, rest[i]? = some (name, value) →
      Fields.get? name fields = some value) → Holds record fields e) :
    ofJson (.record (("type", .string tag) :: rest)) = .ok e := by
  have hfield : ∀ {name value}, (name, value) ∈ ("type", Json.string tag) :: rest →
      Fields.get? name (Fields.ofList (("type", .string tag) :: rest)) = some value := fun hmem =>
    Fields.get?_ofList distinct hmem
  have hascending := Fields.isAscending_ofList (("type", Json.string tag) :: rest)
  unfold Json.record ofJson
  simp only [hfield List.mem_cons_self, ofTagged, hwire]
  refine read_of_holds (hascending.filter _).nodup (h _ fun i name value hi => ?_)
  have hmem := List.mem_of_getElem? hi
  have hne : name ≠ "type" := by
    rintro rfl
    exact (List.nodup_cons.1 distinct).1 (List.mem_map.2 ⟨_, hmem, rfl⟩)
  rw [Fields.get?_filter_of_ne hne, hfield (List.mem_cons_of_mem _ hmem)]

/-- **Events are read back** from what is written for them. -/
theorem ofJson_toJson {e : Event} (h : e.occurredAt.IsProper) : ofJson e.toJson = .ok e := by
  obtain ⟨payment, tenant, provider, amount, currency, order, time, change⟩ := e
  cases change with
  | initiated =>
    refine ofJson_record rfl (by simp [changeFields]) fun fields hfield => ?_
    exact Holds.map _ (.required (hfield 0 rfl) (paymentId_toText payment))
      |>.seq (.required (hfield 1 rfl) (text_string tenant))
      |>.seq (.required (hfield 2 rfl) (provider_toJson provider))
      |>.seq (.required (hfield 5 rfl) (amount_toJson amount))
      |>.seq (.required (hfield 3 rfl) (currency_toJson currency))
      |>.seq (.required (hfield 4 rfl) (text_string order))
      |>.seq (.required (hfield 6 rfl) (instant_toJson h))
  | completed transaction =>
    refine ofJson_record rfl (by simp [changeFields]) fun fields hfield => ?_
    exact Holds.map _ (.required (hfield 0 rfl) (paymentId_toText payment))
      |>.seq (.required (hfield 1 rfl) (text_string tenant))
      |>.seq (.required (hfield 2 rfl) (provider_toJson provider))
      |>.seq (.required (hfield 5 rfl) (amount_toJson amount))
      |>.seq (.required (hfield 3 rfl) (currency_toJson currency))
      |>.seq (.required (hfield 4 rfl) (text_string order))
      |>.seq (.required (hfield 6 rfl) (text_string transaction))
      |>.seq (.required (hfield 7 rfl) (instant_toJson h))
  | failed reason =>
    refine ofJson_record rfl (by simp [changeFields]) fun fields hfield => ?_
    exact Holds.map _ (.required (hfield 0 rfl) (paymentId_toText payment))
      |>.seq (.required (hfield 1 rfl) (text_string tenant))
      |>.seq (.required (hfield 2 rfl) (provider_toJson provider))
      |>.seq (.required (hfield 5 rfl) (amount_toJson amount))
      |>.seq (.required (hfield 3 rfl) (currency_toJson currency))
      |>.seq (.required (hfield 4 rfl) (text_string order))
      |>.seq (.required (hfield 6 rfl) (text_string reason))
      |>.seq (.required (hfield 7 rfl) (instant_toJson h))
  | refunded refund transaction isPartial =>
    refine ofJson_record rfl (by simp [changeFields]) fun fields hfield => ?_
    exact Holds.map _ (.required (hfield 0 rfl) (paymentId_toText payment))
      |>.seq (.required (hfield 1 rfl) (text_string tenant))
      |>.seq (.required (hfield 2 rfl) (provider_toJson provider))
      |>.seq (.required (hfield 5 rfl) (amount_toJson amount))
      |>.seq (.required (hfield 6 rfl) (amount_toJson refund))
      |>.seq (.required (hfield 3 rfl) (currency_toJson currency))
      |>.seq (.required (hfield 4 rfl) (text_string order))
      |>.seq (.optionalText (hfield 7 rfl))
      |>.seq (.required (hfield 8 rfl) (truth_bool isPartial))
      |>.seq (.required (hfield 9 rfl) (instant_toJson h))

theorem tag_of_wire? {tag : String} {record : Record Event} (h : wire? tag = some record) :
    Always (fun e => e.change.tag = tag) record := by
  unfold wire? at h
  split_ifs at h with hinitiated hcompleted hfailed hrefunded
  · cases h
    subst hinitiated
    exact .seq _ <| .seq _ <| .seq _ <| .seq _ <| .seq _ <| .seq _ <| .map _ fun _ _ _ _ _ _ _ => rfl
  · cases h
    subst hcompleted
    exact .seq _ <| .seq _ <| .seq _ <| .seq _ <| .seq _ <| .seq _ <| .seq _ <|
      .map _ fun _ _ _ _ _ _ _ _ => rfl
  · cases h
    subst hfailed
    exact .seq _ <| .seq _ <| .seq _ <| .seq _ <| .seq _ <| .seq _ <| .seq _ <|
      .map _ fun _ _ _ _ _ _ _ _ => rfl
  · cases h
    subst hrefunded
    exact .seq _ <| .seq _ <| .seq _ <| .seq _ <| .seq _ <| .seq _ <| .seq _ <| .seq _ <| .seq _ <|
      .map _ fun _ _ _ _ _ _ _ _ _ _ => rfl

/-- The value names a kind of change: in its field `type`, or as its first item. -/
def NamesKind (j : Json) (tag : String) : Prop :=
  j.field? "type" = some (.string tag) ∨ ∃ items, j = .array (.string tag :: items)

/-- **The named kind decides** which change an event that was read tells of. -/
theorem namesKind_of_ofJson {j : Json} {e : Event} (h : ofJson j = .ok e) :
    NamesKind j e.change.tag := by
  have htagged : ∀ {tag rest}, ofTagged tag rest = .ok e → tag = .string e.change.tag := by
    intro tag rest hread
    unfold ofTagged at hread
    split at hread
    · next name =>
      cases hwire : wire? name with
      | none => rw [hwire] at hread; cases hread
      | some record =>
        rw [hwire] at hread
        rw [(tag_of_wire? hwire).of_read hread]
    · cases hread
  unfold ofJson at h
  split at h
  · next fields =>
    cases htag : Fields.get? "type" fields with
    | none => rw [htag] at h; cases h
    | some tag =>
      rw [htag] at h
      exact .inl (htag.trans (congrArg some (htagged h)))
  · next tag items => exact .inr ⟨items, by rw [htagged h]⟩
  · cases h

end Event

/-! ## Texts -/

/-- What is neither a number nor a container. -/
def Json.isPlain : Json → Bool
  | .null | .bool _ | .string _ => true
  | _ => false

@[simp] theorem Json.isPlain_string (s : String) : (Json.string s).isPlain = true := rfl

@[simp] theorem Json.isPlain_bool (b : Bool) : (Json.bool b).isPlain = true := rfl

@[simp] theorem Amount.isPlain_toJson (a : Amount) : a.toJson.isPlain = true := rfl

@[simp] theorem Provider.isPlain_toJson (p : Provider) : p.toJson.isPlain = true := rfl

@[simp] theorem Currency.isPlain_toJson (c : Currency) : c.toJson.isPlain = true := rfl

@[simp] theorem Status.isPlain_toJson (s : Status) : s.toJson.isPlain = true := rfl

@[simp] theorem Instant.isPlain_toJson (t : Instant) : t.toJson.isPlain = true := rfl

theorem Json.isPlain_optional {α : Type} {write : α → Json}
    (h : ∀ a, (write a).isPlain = true) (value : Option α) :
    (Json.optional write value).isPlain = true := by
  cases value with
  | none => rfl
  | some a => exact h a

theorem Json.numbers_of_isPlain {j : Json} (h : j.isPlain = true) : j.numbers = [] := by
  cases j <;> first | rfl | cases h

theorem Json.depth_of_isPlain {j : Json} (h : j.isPlain = true) : j.depth = 0 := by
  cases j <;> first | rfl | cases h

theorem Json.isOrdered_of_isPlain {j : Json} (h : j.isPlain = true) : j.IsOrdered := by
  cases j <;> trivial

theorem Event.isPlain_toJson (e : Event) :
    ∃ pairs, e.toJson = .record pairs ∧ ∀ field ∈ pairs, field.2.isPlain = true := by
  refine ⟨_, rfl, List.forall_mem_append.2 ⟨by simp, ?_⟩⟩
  unfold changeFields
  cases e.change <;> simp [Json.isPlain_optional Json.isPlain_string]

theorem Event.parse?_print (e : Event) : Json.parse? e.toJson.print = some e.toJson := by
  obtain ⟨pairs, htoJson, hplain⟩ := e.isPlain_toJson
  rw [htoJson]
  refine Json.parse?_print (Json.isOrdered_record fun field hfield =>
    Json.isOrdered_of_isPlain (hplain field hfield)) ?_ ?_
  · have hdepth : (Json.record pairs).depth ≤ 0 + 1 := Json.depth_record_le fun field hfield =>
      Nat.le_of_eq (Json.depth_of_isPlain (hplain field hfield))
    exact Nat.le_trans hdepth (by decide)
  · intro n hn
    obtain ⟨field, hfield, hn⟩ := Json.mem_numbers_record hn
    rw [Json.numbers_of_isPlain (hplain field hfield)] at hn
    cases hn

/-- Everything in a stored payment is plain, except the metadata and the version. -/
theorem Snapshot.isPlain_toJson (s : Snapshot) :
    ∃ pairs, s.toJson = .record pairs ∧ ∀ field ∈ pairs,
      field.2.isPlain = true ∨ field.2 = s.metadata.toJson ∨ field.2 = .int s.version :=
  ⟨_, rfl, by simp [Json.isPlain_optional Json.isPlain_string,
    Json.isPlain_optional Amount.isPlain_toJson, Json.isPlain_optional Instant.isPlain_toJson]⟩

theorem Snapshot.readsBack_of_mem_numbers {s : Snapshot} (hversion : s.version ≤ Text.maxWord)
    (hnumbers : ∀ n ∈ s.metadata.toJson.numbers, n.ReadsBack) {n : Json.Number}
    (hn : n ∈ s.toJson.numbers) : n.ReadsBack := by
  obtain ⟨pairs, htoJson, hpairs⟩ := s.isPlain_toJson
  rw [htoJson] at hn
  obtain ⟨field, hfield, hn⟩ := Json.mem_numbers_record hn
  rcases hpairs field hfield with hplain | hmetadata | hword
  · rw [Json.numbers_of_isPlain hplain] at hn
    cases hn
  · rw [hmetadata] at hn
    exact hnumbers n hn
  · rw [hword] at hn
    obtain rfl := List.mem_singleton.1 hn
    exact ⟨by omega, by omega⟩

theorem Snapshot.parse_print {s : Snapshot} (h : s.IsProper)
    (hnumbers : ∀ n ∈ s.metadata.toJson.numbers, n.ReadsBack)
    (hdepth : s.metadata.toJson.depth < Json.maxDepth) :
    wire.parse s.toJson.print = .ok s := by
  have hread : wire.read (Doc.ofJson s.toJson) = .ok s := read_toJson h (Nat.le_of_lt_succ hdepth)
  rw [Record.parse, Doc.scan_print fun _ => readsBack_of_mem_numbers h.version_le hnumbers,
    Record.readAll]
  simp only [hread]
  rfl

/-! ## All forms -/

/-- **Stored payments and events are read back.** A stored payment is read from the value that is
written for it whatever the depth of its metadata, and from its text unless they are nested too deep
for any text, given that the doubles in them are read from their texts. An event is read from both
forms, and whatever is read as an event tells of the change whose kind it names. A payment that was
stored, read and restored has no waiting events and the same stored part as before, and answers all
further calls as the payment it was stored from does, with the same stored part after them. -/
theorem documents_read_back :
    (∀ s : Snapshot, s.IsProper →
      (∀ depth, s.metadata.toJson.depth ≤ depth →
        (Snapshot.wireWithin depth).read (Doc.ofJson s.toJson) = .ok s) ∧
      ((∀ n ∈ s.metadata.toJson.numbers, n.ReadsBack) →
        s.metadata.toJson.depth < Json.maxDepth →
        Snapshot.wire.parse s.toJson.print = .ok s)) ∧
    (∀ e : Event, e.occurredAt.IsProper →
      Event.ofJson e.toJson = .ok e ∧ Json.parse? e.toJson.print = some e.toJson) ∧
    (∀ j e, Event.ofJson j = .ok e → Event.NamesKind j e.change.tag) ∧
    ∀ p : Payment, p.snapshot.IsProper →
      ∀ depth, p.snapshot.metadata.toJson.depth ≤ depth →
        ∃ s, (Snapshot.wireWithin depth).read (Doc.ofJson p.snapshot.toJson) = .ok s ∧
          (Payment.restore s).events = [] ∧ (Payment.restore s).snapshot = p.snapshot ∧
          ∀ calls, (Payment.restore s).answers calls = p.answers calls ∧
            ((Payment.restore s).afterAll calls).snapshot = (p.afterAll calls).snapshot := by
  refine ⟨fun s hproper => ⟨fun depth hdepth => s.read_toJson hproper hdepth, ?_⟩, ?_, ?_, ?_⟩
  · intro hnumbers hdepth
    exact Snapshot.parse_print hproper hnumbers hdepth
  · intro e hproper
    exact ⟨Event.ofJson_toJson hproper, e.parse?_print⟩
  · intro j e hread
    exact Event.namesKind_of_ofJson hread
  · intro p hproper depth hdepth
    exact ⟨p.snapshot, Snapshot.read_toJson hproper hdepth, rfl, Payment.snapshot_restore _,
      fun calls => ⟨p.answers_restore calls, p.snapshot_afterAll_restore calls⟩⟩

/-- A payment of 10.250, refunded in part, with nested metadata and a leap second. -/
def Payment.nested : Payment where
  id := PaymentId.make 1700000000000 1
  tenant := "tenant-a"
  provider := .visanet
  amount := ⟨⟨10250, 3, by decide, by decide⟩, by decide, by decide, by decide⟩
  currency := Currency.usd
  status := .partiallyRefunded
  order := "order \"1\""
  transaction := some "tx-1"
  reference := none
  metadata :=
    ⟨[("limits", .object [("max", .int (-5)), ("tags", .array [.null, .string "\n"])]),
      ("web", .bool true)],
      by decide, ⟨by decide, trivial, ⟨trivial, trivial, trivial⟩, trivial⟩, trivial, trivial⟩
  refunded := some ⟨⟨5, 0, by decide, by decide⟩, by decide, by decide, by decide⟩
  reason := none
  createdAt := ⟨1483228799, 1500000000⟩
  updatedAt := ⟨1700000000, 123000000⟩
  completedAt := some ⟨1699999999, 0⟩
  failedAt := none
  refundedAt := some ⟨1700000000, 123000000⟩
  version := 4
  events := []

theorem documents_read_back_nested :
    Payment.nested.snapshot.IsProper ∧
    (Snapshot.wireWithin 3).read (Doc.ofJson Payment.nested.snapshot.toJson) =
      .ok Payment.nested.snapshot ∧
    Snapshot.wire.parse Payment.nested.snapshot.toJson.print = .ok Payment.nested.snapshot ∧
    let event := Payment.nested.eventOf ⟨1700000000, 0⟩ (.completed "tx-1")
    Event.ofJson event.toJson = .ok event := by
  obtain ⟨hsnapshots, hevents, -, -⟩ := documents_read_back
  have hleap : Instant.IsProper ⟨1483228799, 1500000000⟩ :=
    ⟨by decide, by decide, by decide, by decide⟩
  have hrefunded : Instant.IsProper ⟨1700000000, 123000000⟩ :=
    ⟨by decide, by decide, by decide, by decide⟩
  have hproper : Payment.nested.snapshot.IsProper := {
    version_le := by decide
    createdAt := hleap
    updatedAt := hrefunded
    completedAt := by
      rintro t ⟨⟩
      exact ⟨by decide, by decide, by decide, by decide⟩
    failedAt := by rintro t ⟨⟩
    refundedAt := by
      rintro t ⟨⟩
      exact hrefunded }
  have hdepth : Payment.nested.metadata.toJson.depth = 3 := rfl
  obtain ⟨hvalue, htext⟩ := hsnapshots _ hproper
  refine ⟨hproper, hvalue 3 (Nat.le_of_eq hdepth), htext ?_ ?_, ?_⟩
  · intro n hn
    obtain rfl : n = .int (-5) := List.mem_singleton.1 hn
    exact ⟨by decide, by decide⟩
  · exact Nat.lt_of_le_of_lt (Nat.le_of_eq hdepth) (by decide)
  · exact (hevents _ ⟨by decide, by decide, by decide, by decide⟩).1

end Paydesk
