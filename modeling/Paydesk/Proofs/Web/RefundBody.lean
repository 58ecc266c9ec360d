import Paydesk.Proofs.Service.Decision
import Paydesk.Proofs.Web.Refinement
import Paydesk.Proofs.Wire.Object

/-!
# The amount of a refund over HTTP

What the body of a request for a refund asks for, and what is ordered of a gateway for it, among any
others that work on the same store (`refund_of_body`). With a content type, whichever it is, at most
the amount of the body is ordered. Without one the body is not looked at, and the whole balance is
(`refund_of_body_unannounced`).
-/

namespace Paydesk.Web

variable {ι γ π : Type} {r : Request} {tenant : String}

/-- The number that the body names as the amount, if it is the text of an object that does. -/
def Request.amount? (r : Request) : Option Json.Number :=
  match (Text.Utf8.decode? r.body).bind Json.parse? with
  | some (.object fields) =>
    match Fields.get? "amount" fields with
    | some (.number n) => some n
    | _ => none
  | _ => none

theorem Request.amount?_eq_some {n : Json.Number} :
    r.amount? = some n ↔ ∃ text fields, Text.Utf8.decode? r.body = some text ∧
      Json.parse? text = some (.object fields) ∧
      Fields.get? "amount" fields = some (.number n) := by
  unfold Request.amount?
  constructor
  · intro h
    split at h
    · rename_i fields hobject
      split at h
      · rename_i m hamount
        cases h
        obtain ⟨text, htext, hparse⟩ := Option.bind_eq_some_iff.1 hobject
        exact ⟨text, fields, htext, hparse, hamount⟩
      · cases h
    · cases h
  · rintro ⟨text, fields, htext, hparse, hamount⟩
    simp only [htext, Option.bind_some, hparse, hamount]

/-- What is read of the body asks for the amount that it names; no content type, no body. -/
theorem amount_of_optionalBody {body : Option RefundBody} {n : Json.Number}
    (hread : optionalBody RefundBody.wire r = .ok body) (hamount : r.amount? = some n) :
    body.bind RefundBody.amount = if r.contentType.isSome then some n.toBinary64 else none := by
  obtain ⟨text, fields, htext, hobject, hfield⟩ := Request.amount?_eq_some.1 hamount
  unfold optionalBody Web.body at hread
  rw [RefundBody.wire.parseBytes_of_decode? htext] at hread
  cases htype : r.contentType with
  | none =>
    rw [htype] at hread
    cases hread
    rfl
  | some type =>
    simp only [htype] at hread
    split_ifs at hread
    · cases hread
    · cases hread
    · cases hparse : RefundBody.wire.parse text with
      | error why =>
        rw [hparse] at hread
        cases hread
      | ok given =>
        rw [hparse] at hread
        cases hread
        exact RefundBody.amount_of_parse hparse hobject hfield

theorem refund_cases (desk : Desk γ π) {segment : List Char} (htenant : r.NamesTenant tenant)
    (hmethod : r.method = "POST") (hroute : r.IsAt (.command segment .refund)) :
    (∃ id body, optionalBody RefundBody.wire r = .ok body ∧
      respond desk r = fulfil desk (.ok (.command (.refund
        ⟨id, tenant, body.bind RefundBody.amount, body.bind RefundBody.reason⟩)))) ∨
    AtOnce (respond desk r) := by
  cases htext : percentDecode? segment with
  | none =>
    rw [invalidUrl_of_undecodable htenant htext (.inr ⟨hmethod, .refund, hroute⟩)]
    exact .inr (atOnce_done _)
  | some id =>
    cases hread : optionalBody RefundBody.wire r with
    | ok body =>
      exact .inl ⟨id, body, rfl, respond_of_asks htenant (.refund hmethod hroute htext hread)⟩
    | error response =>
      exact .inr ⟨response, respond_of_unread htenant hmethod hroute htext hread⟩

section Runs

variable [DecidableEq ι]

/-- **What is ordered for the body of a refund.** Whatever the others are and do: for a request whose
body is an object with a number as its amount, at most one order is made. It is of exactly that
amount, if the request has a content type, and of the whole balance of the payment, if it has none. -/
theorem refund_of_body (desk : Desk γ π) {segment : List Char} {n : Json.Number}
    (htenant : r.NamesTenant tenant) (hmethod : r.method = "POST")
    (hroute : r.IsAt (.command segment .refund))
    (hamount : r.amount? = some n)
    {start : ι → Workflow γ π Response} {i : ι} (hstart : start i = respond desk r)
    (moves : List (Move ι)) :
    let steps := stepsOf i (Floor.play start moves).log
    (steps.filterMap Act.ordered).length ≤ 1 ∧
    ∀ gateway order reply, Act.pay gateway order reply ∈ steps →
      match r.contentType with
      | some _ => Amount.ofBinary64 n.toBinary64 = .ok order.amount
      | none => ∃ p, Act.find p.id (some p) ∈ steps ∧ p.tenant = tenant ∧
          p.refundable = some order.amount := by
  intro steps
  rcases refund_cases desk htenant hmethod hroute with
    ⟨id, body, hread, hrespond⟩ | hnone
  · obtain ⟨t, htrail, -⟩ := Errand.exists_trail desk _ _ (hstart.trans hrespond) moves
    refine ⟨(Course.orders_le_one htrail).1, fun gateway order reply hmem => ?_⟩
    obtain ⟨p, plan, hloaded, hown, hprepares, rfl⟩ := Course.ordered_of_pay htrail hmem
    have hasks := hprepares.asks
    unfold RefundRequest.Asks at hasks
    rw [amount_of_optionalBody hread hamount] at hasks
    cases htype : r.contentType with
    | some type =>
      rw [htype] at hasks
      exact hasks
    | none =>
      rw [htype] at hasks
      exact ⟨p, hloaded.found, hown, hasks⟩
  · have hsteps : steps = [] := stepsOf_of_atOnce (hstart ▸ hnone) moves
    rw [hsteps]
    exact ⟨Nat.zero_le 1, nofun⟩

end Runs

/-- A request to pay ten dollars of the first payment back. -/
def refunding (contentType : Option String) : Request where
  method := "POST"
  address := "/api/payments/" ++ PaymentId.first.toText ++ "/refund"
  tenant := some "shop"
  contentType := contentType
  body := Text.Utf8.encode "\x7b\"amount\":10\x7d"

open scoped Trial

/-- A payment of one hundred dollars is made, started and completed, and a part of it is asked back
over HTTP. -/
def asking (contentType : Option String) : Fin 4 → Workflow Unit Empty Response
  | 0 => fulfil Desk.plain (.ok (.command (UseCase.racing 0)))
  | 1 => fulfil Desk.plain (.ok (.command (UseCase.racing 1)))
  | 2 => fulfil Desk.plain (.ok (.command (UseCase.racing 2)))
  | 3 => respond Desk.plain (refunding contentType)

/-- One after the other. -/
def askingMoves : List (Move (Fin 4)) :=
  [0, 0, 0, 1, 1, 1, 2, 2, 2, 3, 3, 3, 3].map fun i =>
    .step i ⟨default, .first, .ok (.approved none), .accepted⟩

def asked (contentType : Option String) :
    List (Unit × RefundOrder × Except GatewayError RefundReply) :=
  (stepsOf 3 (Floor.play (asking contentType) askingMoves).log).filterMap Act.ordered

/-- With a content type one order is made, of the ten dollars of the body. -/
theorem refund_of_body_announced :
    (asked (some "application/json")).length = 1 ∧
      ∀ ordered ∈ asked (some "application/json"),
        Amount.ofBinary64 (.ofInt 10) = .ok ordered.2.1.amount := by
  have hnamed : (refunding (some "application/json")).NamesTenant "shop" :=
    Request.tenantName?_eq_some.1 (by decide +kernel)
  have hroute : (refunding (some "application/json")).IsAt
      (.command PaymentId.first.toText.toList .refund) := by decide +kernel
  have hamount : (refunding (some "application/json")).amount? = some (.int 10) := by
    decide +kernel
  have hstart : asking (some "application/json") 3 =
      respond Desk.plain (refunding (some "application/json")) := by rw [asking]
  obtain ⟨-, horders⟩ :=
    refund_of_body Desk.plain hnamed rfl hroute hamount hstart askingMoves
  refine ⟨by decide +kernel, fun ordered hordered => ?_⟩
  obtain ⟨a, hmem, ha⟩ := List.mem_filterMap.1 hordered
  cases a with
  | pay gateway order reply =>
    cases ha
    exact horders gateway order reply hmem
  | _ => cases ha

/-- Without a content type, one hundred dollars are ordered for a body that asks for ten. -/
theorem refund_of_body_unannounced :
    (refunding none).NamesTenant "shop" ∧
      (refunding none).IsAt (.command PaymentId.first.toText.toList .refund) ∧
      (refunding none).amount? = some (.int 10) ∧
      (asked none).map (fun ordered => ordered.2.1.amount.cents) = [10000] := by
  refine ⟨Request.tenantName?_eq_some.1 ?_, ?_, ?_, ?_⟩
  all_goals decide +kernel

end Paydesk.Web
