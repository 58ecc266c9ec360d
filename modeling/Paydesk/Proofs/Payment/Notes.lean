import Paydesk.Proofs.Payment.History

/-!
# What commands write into the metadata

The metadata of a payment hold what callers supplied and what the commands have noted under names of
their own. Callers may supply data under these names as well. What the commands have noted is never
lost to it (`Payment.Noted`): a command writes the data of its caller first and its own notes after
that, and no command that takes data succeeds in a state in which notes of others count. Where the
commands have not noted anything yet (`Payment.HasNoted`), what callers supply is what stands there,
under whatever name.
-/

namespace Paydesk

namespace Payment

/-- The names under which commands write notes of their own. -/
def reservedKeys : List String :=
  [completedAtKey, failedAtKey, refundedAtKey, refundAmountKey, refundReasonKey,
    cancellationReasonKey]

/-- The data that come with a call. -/
def Call.data : Call → Metadata
  | .complete _ _ data | .fail _ _ data => data.getD .empty
  | .updateMetadata _ data => data
  | _ => .empty

/-- The reason that is given for a refund. -/
def Call.refundReason : Call → Option String
  | .refund _ _ reason => reason
  | _ => none

/-- The names under which the commands of a payment's life have had something to note. For a refund
these are all three names, if a reason was given or not. -/
inductive HasNoted (p : Payment) : String → Prop
  | completed (h : p.completedAt.isSome = true) : HasNoted p completedAtKey
  | failed (h : p.failedAt.isSome = true) : HasNoted p failedAtKey
  | refundDate (h : p.refunded.isSome = true) : HasNoted p refundedAtKey
  | refundAmount (h : p.refunded.isSome = true) : HasNoted p refundAmountKey
  | refundReason (h : p.refunded.isSome = true) : HasNoted p refundReasonKey
  | cancelled (h : p.status = .cancelled) : HasNoted p cancellationReasonKey

/-- What the metadata of a payment say. `supplied` are the data that callers have supplied, the last
ones first, `paid` is what was paid back last, and `given` the reason that was given for it last. -/
structure Noted (p : Payment) (supplied : List Metadata) (paid : Option Amount)
    (given : Option String) : Prop where
  completed : ∀ time ∈ p.completedAt,
    p.metadata.get? completedAtKey = some (.string time.toOffsetText)
  failed : ∀ time ∈ p.failedAt,
    p.metadata.get? failedAtKey = some (.string time.toOffsetText)
  refunded : ∀ time ∈ p.refundedAt,
    p.metadata.get? refundedAtKey = some (.string time.toOffsetText)
  amount : ∀ a ∈ paid, p.metadata.get? refundAmountKey = some (.string a.formatted)
  reason : ∀ text ∈ given, p.metadata.get? refundReasonKey = some (.string text)
  cancelled : p.status = .cancelled →
    ∃ text, p.reason = some text ∧ p.metadata.get? cancellationReasonKey = some (.string text)
  unnoted : ∀ key, ¬ p.HasNoted key →
    p.metadata.get? key = supplied.findSome? fun data => data.get? key
  total : p.refunded.isSome = paid.isSome
  isSome : paid.isSome = p.status.isPaidBack
  unpaid : p.status.isPaidBack = false → given = none

theorem HasNoted.reserved {p : Payment} {key : String} (h : p.HasNoted key) :
    key ∈ reservedKeys := by
  cases h <;> decide

theorem HasNoted.fact {p : Payment} {key : String} (h : p.HasNoted key) :
    (key = completedAtKey → p.completedAt.isSome = true) ∧
    (key = failedAtKey → p.failedAt.isSome = true) ∧
    (key = refundedAtKey ∨ key = refundAmountKey ∨ key = refundReasonKey →
      p.refunded.isSome = true) ∧
    (key = cancellationReasonKey → p.status = .cancelled) := by
  -- either it is the fact itself, or the names differ
  refine ⟨fun hkey => ?_, fun hkey => ?_, fun hkey => ?_, fun hkey => ?_⟩ <;>
    cases h <;> first | assumption | exact absurd hkey (by decide)

variable {p q : Payment} {supplied : List Metadata} {paid : Option Amount} {given : Option String}

theorem noted_create (id : PaymentId) (now : Instant) (draft : Draft) :
    (create id now draft).Noted [draft.metadata.getD .empty] none none where
  completed := nofun
  failed := nofun
  refunded := nofun
  amount := nofun
  reason := nofun
  cancelled := nofun
  unnoted key _ := by
    show (draft.metadata.getD .empty).get? key = _
    cases h : (draft.metadata.getD .empty).get? key <;> simp [h]
  total := rfl
  isSome := rfl
  unpaid _ := rfl

theorem Noted.saved (h : p.Noted supplied paid given) (version : Nat) :
    (p.withVersion version).commitEvents.Noted supplied paid given :=
  ⟨h.completed, h.failed, h.refunded, h.amount, h.reason, h.cancelled, fun key hkey =>
    h.unnoted key fun hnoted => hkey (by cases hnoted <;> constructor <;> assumption), h.total,
    h.isSome, h.unpaid⟩

theorem Noted.others (h : p.Noted supplied paid given) : ∀ key ∉ reservedKeys,
    p.metadata.get? key = supplied.findSome? fun data => data.get? key := fun key hkey =>
  h.unnoted key fun hnoted => hkey hnoted.reserved

/-- As long as a payment is open, no note is there that counts. -/
theorem Noted.of_open (h : p.Noted supplied paid given) (hconsistent : p.IsConsistent)
    (hopen : p.status = .pending ∨ p.status = .processing) :
    p.completedAt = none ∧ p.failedAt = none ∧ p.refundedAt = none ∧ paid = none ∧ given = none := by
  obtain ⟨hcompleted, -, -, hfailed, hrefunded, -⟩ := hconsistent
  have hpaid := h.isSome
  have hunpaid := h.unpaid
  rcases hopen with hstatus | hstatus <;>
    rw [hstatus] at hcompleted hfailed hrefunded hpaid hunpaid <;>
    exact ⟨by simpa [Status.isCaptured] using hcompleted, by simpa using hfailed,
      by simpa [Status.isPaidBack] using hrefunded, by simpa [Status.isPaidBack] using hpaid,
      hunpaid rfl⟩

/-! ## Names under which nothing is noted -/

theorem get?_note_of_ne (p : Payment) {name key : String} (h : name ≠ key) (text : String) :
    (p.note name text).metadata.get? key = p.metadata.get? key :=
  (Metadata.get?_write ..).trans (if_neg h)

/-- A name under which something was noted is another than one under which nothing was. -/
theorem HasNoted.ne {name key : String} (h : p.HasNoted name) (hkey : ¬ p.HasNoted key) :
    name ≠ key := fun heq => hkey (heq ▸ h)

/-- A refund notes its amount, its date and its reason, and nothing else. -/
theorem get?_refundMetadata (key : String) (p : Payment) (now : Instant) (amount : Amount)
    (reason : Option String) :
    (p.refundMetadata now amount reason).get? key =
      if refundedAtKey = key then some (.string now.toOffsetText)
      else if refundReasonKey = key ∧ reason.isSome then reason.map .string
      else if refundAmountKey = key then some (.string amount.formatted)
      else p.metadata.get? key := by
  unfold refundMetadata
  rw [Metadata.get?_write]
  cases reason with
  | none => simp
  | some text => simp

/-- What was supplied last is found first. -/
theorem findSome?_cons_eq_or {α β : Type} (f : α → Option β) (a : α) (rest : List α) :
    (a :: rest).findSome? f = (f a).or (rest.findSome? f) := by
  rw [List.findSome?_cons]
  cases f a <;> rfl

theorem Noted.unnoted_nil (h : p.Noted supplied paid given) {key : String}
    (hkey : ¬ p.HasNoted key) :
    p.metadata.get? key = (.empty :: supplied).findSome? fun data => data.get? key := by
  rw [findSome?_cons_eq_or, h.unnoted key hkey]
  rfl

/-! ## Commands -/

theorem Call.Gives.status_ne_cancelled {c : Call} {plan : Option RefundPlan} (h : Gives p c q plan)
    (hcommand : c.IsCommand) : p.status ≠ .cancelled := by
  intro hcancelled
  cases h with
  | startProcessing hstatus => cases hstatus.symm.trans hcancelled
  | complete hstatus _ => cases hstatus.symm.trans hcancelled
  | fail hstatus => cases hstatus.symm.trans hcancelled
  | cancel hstatus =>
    rcases hstatus with hstatus | hstatus <;> cases hstatus.symm.trans hcancelled
  | refund hplan _ =>
    rcases planRefund_status hplan with ⟨hstatus, -⟩ | ⟨hstatus | hstatus, -⟩ <;>
      cases hstatus.symm.trans hcancelled
  | updateMetadata => exact hcommand
  | commitEvents => exact hcommand
  | reload => exact hcommand

/-- What was noted once stays noted. -/
theorem Call.Gives.hasNoted {c : Call} {plan : Option RefundPlan} (h : Gives p c q plan)
    (hcommand : c.IsCommand) {key : String} (hkey : p.HasNoted key) : q.HasNoted key := by
  have hcompleted : p.completedAt.isSome = true → q.completedAt.isSome = true := by
    cases h <;> first | exact id | exact fun _ => rfl
  have hfailed : p.failedAt.isSome = true → q.failedAt.isSome = true := by
    cases h <;> first | exact id | exact fun _ => rfl
  have hrefunded : p.refunded.isSome = true → q.refunded.isSome = true := by
    cases h <;> first | exact id | exact fun _ => rfl
  cases hkey with
  | completed hsome => exact .completed (hcompleted hsome)
  | failed hsome => exact .failed (hfailed hsome)
  | refundDate hsome => exact .refundDate (hrefunded hsome)
  | refundAmount hsome => exact .refundAmount (hrefunded hsome)
  | refundReason hsome => exact .refundReason (hrefunded hsome)
  | cancelled hstatus => exact absurd hstatus (h.status_ne_cancelled hcommand)

theorem Noted.unnoted_annotate (h : p.Noted supplied paid given) {data : Option Metadata}
    {name key : String} (hname : name ≠ key) (hkey : ¬ p.HasNoted key) (text : String) :
    ((p.annotate data).note name text).metadata.get? key =
      (data.getD .empty :: supplied).findSome? fun data => data.get? key := by
  rw [findSome?_cons_eq_or, ← h.unnoted key hkey]
  exact (get?_note_of_ne _ hname _).trans (Metadata.get?_merge _ _ key)

theorem get?_note (p : Payment) (name text : String) :
    (p.note name text).metadata.get? name = some (.string text) :=
  (Metadata.get?_write ..).trans (if_pos rfl)

theorem noted_of_eq_none {date : Option Instant} (h : date = none) (Says : Instant → Prop) :
    ∀ time ∈ date, Says time := by
  rw [h]
  nofun

/-- A refund notes over what earlier refunds have noted, except for a reason if it has none. -/
theorem Noted.refund (hp : p.Noted supplied paid given) {amount : Option Amount} {plan : RefundPlan}
    {now : Instant} {reason : Option String}
    (h : Call.Gives p (.refund now amount reason) q (some plan)) :
    q.Noted (.empty :: supplied) (some plan.amount) (reason.or given) := by
  have hold : ∀ key, p.HasNoted key → q.HasNoted key := fun key => h.hasNoted trivial
  cases h with
  | refund hplan _ =>
    have hkept : ∀ key, refundedAtKey ≠ key → refundReasonKey ≠ key → refundAmountKey ≠ key →
        (p.refundMetadata now plan.amount reason).get? key = p.metadata.get? key := by
      intro key hdate hreason hamount
      rw [get?_refundMetadata, if_neg hdate, if_neg fun h => hreason h.1, if_neg hamount]
    have hpaidBack : plan.target.isPaidBack = true := by
      rcases planRefund_status hplan with ⟨-, -, htarget⟩ | ⟨-, -, htarget⟩ <;> rw [htarget] <;> rfl
    refine ⟨fun time htime => ?_, fun time htime => ?_, fun time htime => ?_, fun a ha => ?_,
      fun text htext => ?_, fun hstatus => ?_, fun key hkey => ?_, rfl, hpaidBack.symm,
      fun hunpaid => ?_⟩
    · exact (hkept _ (by decide) (by decide) (by decide)).trans (hp.completed time htime)
    · exact (hkept _ (by decide) (by decide) (by decide)).trans (hp.failed time htime)
    · obtain rfl : now = time := Option.some.inj htime
      exact (get?_refundMetadata _ _ _ _ _).trans (if_pos rfl)
    · obtain rfl : plan.amount = a := Option.some.inj ha
      refine (get?_refundMetadata _ _ _ _ _).trans ?_
      rw [if_neg (by decide), if_neg (fun h => absurd h.1 (by decide)), if_pos rfl]
    · refine (get?_refundMetadata _ _ _ _ _).trans ?_
      rw [if_neg (by decide)]
      cases reason with
      | none => exact hp.reason text htext
      | some last =>
        obtain rfl : last = text := Option.some.inj htext
        exact if_pos ⟨rfl, rfl⟩
    · have hcancelled : plan.target = .cancelled := hstatus
      rw [hcancelled] at hpaidBack
      cases hpaidBack
    · exact (hkept key (HasNoted.ne (.refundDate rfl) hkey) (HasNoted.ne (.refundReason rfl) hkey)
        (HasNoted.ne (.refundAmount rfl) hkey)).trans (hp.unnoted_nil fun hnoted =>
          hkey (hold key hnoted))
    · have htarget : plan.target.isPaidBack = false := hunpaid
      rw [htarget] at hpaidBack
      cases hpaidBack

/-- What a command has noted is never lost to data of callers. -/
theorem Call.Gives.noted {c : Call} {plan : Option RefundPlan} (h : Gives p c q plan)
    (hcommand : c.IsCommand) (hconsistent : p.IsConsistent) (hp : p.Noted supplied paid given) :
    q.Noted (c.data :: supplied) ((plan.map RefundPlan.amount).or paid)
      (c.refundReason.or given) := by
  have hnoted : ∀ key, ¬ q.HasNoted key → ¬ p.HasNoted key := fun key hkey hold =>
    hkey (h.hasNoted hcommand hold)
  cases h with
  | @startProcessing now hstatus =>
    obtain ⟨-, -, -, hpaid, hgiven⟩ := hp.of_open hconsistent (.inl hstatus)
    exact ⟨hp.completed, hp.failed, hp.refunded, hp.amount, hp.reason, nofun,
      fun key hkey => hp.unnoted_nil (hnoted key hkey), hp.total, by rw [hpaid]; rfl,
      fun _ => hgiven⟩
  | @complete now transaction data hstatus _ =>
    obtain ⟨-, hfailed, hrefunded, hpaid, hgiven⟩ := hp.of_open hconsistent (.inr hstatus)
    subst hpaid hgiven
    refine ⟨fun time htime => ?_, noted_of_eq_none hfailed _, noted_of_eq_none hrefunded _, nofun,
      nofun, nofun, fun key hkey => ?_, hp.total, rfl, fun _ => rfl⟩
    · obtain rfl : now = time := Option.some.inj htime
      exact get?_note _ _ _
    · exact hp.unnoted_annotate (HasNoted.ne (.completed rfl) hkey) (hnoted key hkey) _
  | @fail now reason data hstatus =>
    obtain ⟨hcompleted, -, hrefunded, hpaid, hgiven⟩ := hp.of_open hconsistent (.inr hstatus)
    subst hpaid hgiven
    refine ⟨noted_of_eq_none hcompleted _, fun time htime => ?_, noted_of_eq_none hrefunded _,
      nofun, nofun, nofun, fun key hkey => ?_, hp.total, rfl, fun _ => rfl⟩
    · obtain rfl : now = time := Option.some.inj htime
      exact get?_note _ _ _
    · exact hp.unnoted_annotate (HasNoted.ne (.failed rfl) hkey) (hnoted key hkey) _
  | @cancel now reason hstatus =>
    obtain ⟨hcompleted, hfailed, hrefunded, hpaid, hgiven⟩ := hp.of_open hconsistent hstatus
    subst hpaid hgiven
    refine ⟨noted_of_eq_none hcompleted _, noted_of_eq_none hfailed _,
      noted_of_eq_none hrefunded _, nofun, nofun, fun _ => ⟨_, rfl, get?_note _ _ _⟩,
      fun key hkey => ?_, hp.total, rfl, fun _ => rfl⟩
    exact (get?_note_of_ne _ (HasNoted.ne (.cancelled rfl) hkey) _).trans
      (hp.unnoted_nil (hnoted key hkey))
  | refund hplan htotal => exact hp.refund (.refund hplan htotal)
  | updateMetadata => exact hcommand.elim
  | commitEvents => exact hcommand.elim
  | reload => exact hcommand.elim

end Payment

end Paydesk
