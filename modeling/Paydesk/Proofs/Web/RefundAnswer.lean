import Paydesk.Proofs.Amount.Double
import Paydesk.Proofs.Service.Decision
import Paydesk.Proofs.Web.RefundBody

/-!
# The answer to a refund over HTTP

Every request for a refund comes to an answer. If the name of the payment and the body can be read,
the answer has the code 200 and tells the outcome, which has one of two shapes
(`RefundOutcome.Made`, `RefundOutcome.NotMade`), whatever becomes of the refund. Otherwise it is one
of the refusals of `RefundRefusal`, in plain text with a code of its own, and nothing has been done.
The main result is `refund_answered`; `refund_of_broken` is a request that is refused.
-/

namespace Paydesk

variable {ι γ π : Type}

/-! ## The shapes of an outcome -/

/-- The outcome of a refund that was made. -/
structure RefundOutcome.Made (o : RefundOutcome) : Prop where
  status : o.status = .partiallyRefunded ∧ o.isPartial = true ∨
    o.status = .refunded ∧ o.isPartial = false
  amount : ∃ units, o.amount = .finite false units ∧ 0 < units
  error : o.error = none

/-- The outcome of a refund that was not made. -/
structure RefundOutcome.NotMade (o : RefundOutcome) : Prop where
  status : o.status = .failed
  amount : o.amount = .finite false 0
  isPartial : o.isPartial = false
  answer : o.answer = none
  error : ∃ text, o.error = some text

theorem RefundOutcome.made_success {p : PaymentId} {status : Status} {amount : Amount}
    {isPartial : Bool} {answer : Option Json}
    (h : status = if isPartial then .partiallyRefunded else .refunded) :
    (success p status amount isPartial answer).Made := by
  refine ⟨?_, amount.toBinary64_pos, rfl⟩
  subst h
  cases isPartial
  · exact .inr ⟨rfl, rfl⟩
  · exact .inl ⟨rfl, rfl⟩

theorem RefundOutcome.notMade_failure (payment text : String) : (failure payment text).NotMade :=
  ⟨rfl, rfl, rfl, rfl, text, rfl⟩

theorem Course.Ends.made_or_notMade {desk : Desk γ π} {r : RefundRequest} {acts : List (Act γ π)}
    {t : Course.Stage π} {outcome : RefundOutcome}
    (htrail : Trail (Course.Step desk) (.idle (.refund r)) acts t)
    (hend : Course.Ends desk t (.refund outcome)) : outcome.Made ∨ outcome.NotMade := by
  have hbacked := Course.backed_of_trail htrail
  rcases hend.outcome with ⟨q, receipt, rfl, rfl⟩ | ⟨-, payment, text, rfl⟩
  · obtain ⟨p, version, rfl, hmem⟩ := hbacked
    obtain ⟨newer, older, loaded, given, now, -, -, hgives, hnewer⟩ :=
      Course.granted_of_save htrail hmem
    -- what is told is what was granted before the save
    obtain ⟨agenda, htold⟩ := Course.telling_of_trail hnewer
    injection htold with _ hreceipt
    obtain rfl := Option.some.inj hreceipt
    exact .inl (RefundOutcome.made_success hgives.status_of_some)
  · exact .inr (RefundOutcome.notMade_failure payment text)

namespace Web

variable {r : Request} {tenant : String} {segment : List Char}

/-! ## Refusals -/

/-- The refusals of a request for a refund: the name of the payment is no text, the body is announced
as something else than a document, it is too large, or it cannot be read. -/
inductive RefundRefusal (r : Request) (segment : List Char) : Response → Prop
  | address (undecodable : percentDecode? segment = none) : RefundRefusal r segment invalidUrl
  | kind {type : String} (decodable : (percentDecode? segment).isSome)
      (sent : r.contentType = some type) (other : isJsonType type = false) :
      RefundRefusal r segment unsupportedBody
  | size {type : String} (decodable : (percentDecode? segment).isSome)
      (sent : r.contentType = some type) (json : isJsonType type = true)
      (large : maxBody < r.body.length) : RefundRefusal r segment largeBody
  | body {type : String} {fault : Wire.Fault} (decodable : (percentDecode? segment).isSome)
      (sent : r.contentType = some type) (json : isJsonType type = true)
      (fits : r.body.length ≤ maxBody)
      (unread : RefundBody.wire.parseBytes r.body = .error fault) :
      RefundRefusal r segment (badBody fault)

theorem RefundRefusal.status_ne {response : Response} (h : RefundRefusal r segment response) :
    response.status ≠ 200 := by
  cases h with
  | address => exact show 400 ≠ 200 by decide
  | kind => exact show 415 ≠ 200 by decide
  | size => exact show 413 ≠ 200 by decide
  | @body type fault =>
    cases fault with
    | malformed => exact show 400 ≠ 200 by decide
    | shape => exact show 422 ≠ 200 by decide
    | invalid why => exact show 422 ≠ 200 by decide

/-- An optional body is refused for its kind, else for its size, else for what it says. -/
theorem optionalBody_eq_error {α : Type} {record : Wire.Record α} {response : Response} :
    optionalBody record r = .error response ↔ ∃ type, r.contentType = some type ∧
      (isJsonType type = false ∧ response = unsupportedBody ∨
        isJsonType type = true ∧
          (maxBody < r.body.length ∧ response = largeBody ∨
            r.body.length ≤ maxBody ∧
              ∃ fault, record.parseBytes r.body = .error fault ∧ response = badBody fault)) := by
  unfold optionalBody Web.body
  cases r.contentType with
  | none => simp
  | some type =>
    cases hjson : isJsonType type with
    | false => simp [hjson, Except.map, @eq_comm _ response]
    | true =>
      by_cases hlarge : maxBody < r.body.length
      · simp [hjson, hlarge, Nat.not_le_of_lt hlarge, Except.map, @eq_comm _ response]
      · cases record.parseBytes r.body <;>
          simp [hjson, hlarge, Nat.le_of_not_lt hlarge, Except.map, Except.mapError,
            @eq_comm _ response]

/-- If the payment has a name, the refusals are those of the body. -/
theorem refusal_iff {id : String} {response : Response} (htext : percentDecode? segment = some id) :
    RefundRefusal r segment response ↔ optionalBody RefundBody.wire r = .error response := by
  have hdecodable : (percentDecode? segment).isSome = true := by rw [htext, Option.isSome_some]
  rw [optionalBody_eq_error]
  constructor
  · intro h
    cases h with
    | address hnone => simp [htext] at hnone
    | kind _ hsent hother => exact ⟨_, hsent, .inl ⟨hother, rfl⟩⟩
    | size _ hsent hjson hlarge => exact ⟨_, hsent, .inr ⟨hjson, .inl ⟨hlarge, rfl⟩⟩⟩
    | body _ hsent hjson hfits hunread =>
      exact ⟨_, hsent, .inr ⟨hjson, .inr ⟨hfits, _, hunread, rfl⟩⟩⟩
  · rintro ⟨type, hsent, ⟨hother, rfl⟩ | ⟨hjson, ⟨hlarge, rfl⟩ | ⟨hfits, fault, hunread, rfl⟩⟩⟩
    · exact .kind hdecodable hsent hother
    · exact .size hdecodable hsent hjson hlarge
    · exact .body hdecodable hsent hjson hfits hunread

/-- A request for a refund is refused at once, or asks for the refund. -/
theorem refused_or_asks (desk : Desk γ π) (htenant : r.NamesTenant tenant)
    (hmethod : r.method = "POST") (hroute : r.IsAt (.command segment .refund)) :
    (∃ response, RefundRefusal r segment response ∧ respond desk r = .done response) ∨
    (∀ response, ¬ RefundRefusal r segment response) ∧
      ∃ request, respond desk r = fulfil desk (.ok (.command (.refund request))) := by
  cases htext : percentDecode? segment with
  | none =>
    exact .inl ⟨invalidUrl, .address htext,
      invalidUrl_of_undecodable htenant htext (.inr ⟨hmethod, .refund, hroute⟩)⟩
  | some id =>
    cases hread : optionalBody RefundBody.wire r with
    | ok body =>
      refine .inr ⟨fun response hrefusal => ?_, _,
        respond_of_asks htenant (.refund hmethod hroute htext hread)⟩
      rw [refusal_iff htext, hread] at hrefusal
      cases hrefusal
    | error response =>
      exact .inl ⟨response, (refusal_iff htext).2 hread,
        respond_of_unread htenant hmethod hroute htext hread⟩

/-! ## Answers -/

section Runs

variable [DecidableEq ι]

-- neither the call nor its protocol is to be run to see that the two belong together
section

attribute [local irreducible] Workflow.Keeps

theorem outcome_of_asked {desk : Desk γ π} {request : RefundRequest}
    {start : ι → Workflow γ π Response} {i : ι}
    (hstart : start i = fulfil desk (.ok (.command (.refund request)))) {moves : List (Move ι)}
    {response : Response} (hdone : (Floor.play start moves).running i = .done response) :
    ∃ outcome : RefundOutcome, response = .ofJson 200 outcome.toJson ∧
      (outcome.Made ∨ outcome.NotMade) := by
  have hkeeps : (start i).Keeps (Course.Step desk) (fun s response => ∃ outcome : RefundOutcome,
      response = .ofJson 200 outcome.toJson ∧ Course.Ends desk s (.refund outcome))
      (.idle (.refund request)) := by
    rw [hstart, fulfil_refund]
    exact keeps_bind (Course.keeps_refund desk request)
      fun _ outcome hend => Workflow.keeps_done.2 ⟨outcome, rfl, hend⟩
  obtain ⟨t, htrail, hend⟩ := exists_trail_play start hkeeps moves
  obtain ⟨outcome, hresponse, hends⟩ := hend.of_done hdone
  exact ⟨outcome, hresponse, hends.made_or_notMade htrail⟩

end

/-- Who is answered at once keeps this answer. -/
theorem eq_of_start_done {start : ι → Workflow γ π Response} {i : ι} {first response : Response}
    (hstart : start i = .done first) {moves : List (Move ι)}
    (hdone : (Floor.play start moves).running i = .done response) : response = first := by
  have hkeeps : (start i).Keeps (fun (_ : Unit) _ _ => False) (fun _ b => b = first) () := by
    rw [hstart]
    exact Workflow.keeps_done.2 rfl
  obtain ⟨t, -, hend⟩ := exists_trail_play start hkeeps moves
  exact hend.of_done hdone

/-- **What a request for a refund is answered.** Whatever the others are and do, a request of a tenant
for a refund comes to an answer. The answer has the code 200 exactly if neither the name of the
payment nor the body is a reason to refuse it, and then it tells an outcome: of a refund that was
made, with an amount above zero, or of one that was not, with a text that says why. Any other answer
is a refusal, and nothing was done for it. -/
theorem refund_answered (desk : Desk γ π) (htenant : r.NamesTenant tenant)
    (hmethod : r.method = "POST") (hroute : r.IsAt (.command segment .refund))
    {start : ι → Workflow γ π Response} {i : ι} (hstart : start i = respond desk r)
    (moves : List (Move ι)) :
    (∀ x, ∃ n response, (Floor.play start (moves ++ List.replicate n (.step i x))).running i =
      .done response) ∧
    ∀ response, (Floor.play start moves).running i = .done response →
      (response.status = 200 ↔ ∀ refusal, ¬ RefundRefusal r segment refusal) ∧
      (response.status = 200 → ∃ outcome : RefundOutcome, response = .ofJson 200 outcome.toJson ∧
        (outcome.Made ∨ outcome.NotMade)) ∧
      (response.status ≠ 200 → RefundRefusal r segment response ∧
        stepsOf i (Floor.play start moves).log = []) := by
  refine ⟨Floor.exists_done start moves i, fun response hdone => ?_⟩
  rcases refused_or_asks desk htenant hmethod hroute with
    ⟨refusal, hrefusal, hrespond⟩ | ⟨hnone, request, hrespond⟩
  · obtain rfl := eq_of_start_done (hstart.trans hrespond) hdone
    have hstatus := hrefusal.status_ne
    exact ⟨⟨fun h => absurd h hstatus, fun h => absurd hrefusal (h response)⟩,
      fun h => absurd h hstatus,
      fun _ => ⟨hrefusal, stepsOf_of_atOnce ⟨response, hstart.trans hrespond⟩ moves⟩⟩
  · obtain ⟨outcome, rfl, hshape⟩ := outcome_of_asked (hstart.trans hrespond) hdone
    exact ⟨⟨fun _ => hnone, fun _ => rfl⟩, fun _ => ⟨outcome, rfl, hshape⟩, fun h => absurd rfl h⟩

end Runs

/-- The request that is paid back is answered with the outcome. -/
theorem refund_answered_paid :
    ∃ response, (Floor.play (asking (some "application/json")) askingMoves).running 3 =
        .done response ∧
      response.status = 200 ∧ ∃ outcome : RefundOutcome, response = .ofJson 200 outcome.toJson ∧
        (outcome.Made ∨ outcome.NotMade) := by
  have hends : ((Floor.play (asking (some "application/json")) askingMoves).running 3).endsIn
      (fun response => response.status == 200) = true := by
    decide +kernel
  have htenant : (refunding (some "application/json")).NamesTenant "shop" :=
    Request.tenantName?_eq_some.1 (by decide +kernel)
  have hroute : (refunding (some "application/json")).IsAt
      (.command PaymentId.first.toText.toList .refund) := by decide +kernel
  have hstart : asking (some "application/json") 3 =
      respond Desk.plain (refunding (some "application/json")) := by rw [asking]
  obtain ⟨response, hdone, hstatus⟩ := Workflow.eq_done_of_endsIn hends
  have hok : response.status = 200 := by simpa using hstatus
  obtain ⟨-, houtcome, -⟩ :=
    (refund_answered Desk.plain htenant rfl hroute hstart askingMoves).2 response hdone
  exact ⟨response, hdone, hok, houtcome hok⟩

/-- A request for a refund whose body breaks off after its first character. -/
def broken : Request :=
  { refunding (some "application/json") with body := Text.Utf8.encode "\x7b" }

/-- Its tenant is named and its path is that of refunds, and it is not answered with an outcome. -/
theorem refund_of_broken :
    broken.NamesTenant "shop" ∧ broken.method = "POST" ∧
      broken.IsAt (.command PaymentId.first.toText.toList .refund) ∧
      respond Desk.plain broken = .done (badBody .malformed) ∧
      ∀ outcome : RefundOutcome,
        (badBody .malformed).status ≠ (Response.ofJson 200 outcome.toJson).status := by
  have htenant : broken.NamesTenant "shop" := Request.tenantName?_eq_some.1 (by decide +kernel)
  have hroute : broken.IsAt (.command PaymentId.first.toText.toList .refund) := by
    decide +kernel
  have htext : percentDecode? PaymentId.first.toText.toList =
      some PaymentId.first.toText := by decide +kernel
  have hbytes : Text.Utf8.decode? broken.body = some "\x7b" := by decide +kernel
  have hread : optionalBody RefundBody.wire broken = .error (badBody .malformed) := by
    have hparse := RefundBody.wire.parseBytes_of_decode? hbytes
    rw [show RefundBody.wire.parse "\x7b" = .error .malformed from rfl] at hparse
    show Except.map some ((RefundBody.wire.parseBytes broken.body).mapError badBody) = _
    rw [hparse]
    rfl
  exact ⟨htenant, rfl, hroute, respond_of_unread htenant rfl hroute htext hread,
    fun _ => show 400 ≠ 200 by decide⟩

end Web

end Paydesk
