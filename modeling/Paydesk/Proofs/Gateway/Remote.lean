import Paydesk.Gateway.Remote
import Paydesk.Service.Desk

/-!
# What a remote provider says

The end of a request to a provider is a status code with any text, or none at all. Whether it
confirms a refund (`Exchange.Confirms`) and what is told of one that it does not confirm, in whose
words (`Exchange.Complains`), is said here of the text as it came. The service gets a reply that
approves what is confirmed and nothing else (`approves_reply`), and tells of the rest what there is
to tell (`complains_reply`).
-/

namespace Paydesk

namespace Exchange

/-- The answer is an object that has this value under this name. -/
def HasMember (x : Exchange) (name : String) (value : Json) : Prop :=
  ∃ status body fields, x = .answered status body ∧ Json.parse? body = some (.object fields) ∧
    Fields.get? name fields = some value

/-- There is an answer with a code of success. -/
def Succeeds (x : Exchange) : Prop :=
  ∃ status body, x = .answered status body ∧ 200 ≤ status ∧ status < 300

/-- The provider says that the money was paid back. -/
structure Confirms (x : Exchange) : Prop where
  succeeds : x.Succeeds
  said : x.HasMember "success" (.bool true)

/-- The provider's own words: its error, or else its message, if these are texts. -/
inductive Words (x : Exchange) (fixed : String) : String → Prop
  | error {text : String} (said : x.HasMember "error" (.string text)) : Words x fixed text
  | message {text : String} (noError : ∀ other, ¬ x.HasMember "error" (.string other))
      (said : x.HasMember "message" (.string text)) : Words x fixed text
  | fixed (noError : ∀ other, ¬ x.HasMember "error" (.string other))
      (noMessage : ∀ other, ¬ x.HasMember "message" (.string other)) : Words x fixed fixed

/-- What there is to tell of a refund that was not confirmed. -/
inductive Complains : Exchange → String → Prop
  | refused {status : Nat} {body text : String} (code : status < 200 ∨ 300 ≤ status)
      (words : Words (.answered status body) ("HTTP " ++ Text.natText status) text) :
      Complains (.answered status body) text
  | declined {x : Exchange} {text : String} (succeeds : x.Succeeds)
      (said : x.HasMember "success" (.bool false))
      (words : Words x "Refund declined by provider" text) : Complains x text
  | unconfirmed {x : Exchange} (succeeds : x.Succeeds)
      (noFlag : ∀ b, ¬ x.HasMember "success" (.bool b)) :
      Complains x "Provider did not confirm the refund"
  | timedOut : Complains .timedOut "Provider error: Provider request timed out"
  | failed {text : String} :
      Complains (.failed text) ("Provider error: Provider transport error: " ++ text)

variable {status : Nat} {body name : String}

theorem hasMember_answered {value : Json} : (Exchange.answered status body).HasMember name value ↔
    (Json.parse? body).bind (Json.field? name) = some value := by
  constructor
  · rintro ⟨_, _, fields, ⟨⟩, hparse, hvalue⟩
    rw [hparse]
    exact hvalue
  · intro h
    obtain ⟨value', hparse, hfield⟩ := Option.bind_eq_some_iff.1 h
    cases value' with
    | object fields => exact ⟨status, body, fields, rfl, hparse, hfield⟩
    | _ => cases hfield

theorem succeeds_answered : (Exchange.answered status body).Succeeds ↔ isSuccess status = true := by
  unfold isSuccess
  constructor
  · rintro ⟨_, _, ⟨⟩, hlow, hhigh⟩
    simp [hlow, hhigh]
  · intro h
    simp only [Bool.and_eq_true, decide_eq_true_eq] at h
    exact ⟨status, body, rfl, h⟩

end Exchange

namespace Desk

/-- A provider has taken the order and approves it. -/
def Approves (reply : Except GatewayError RefundReply) : Prop :=
  ∃ answer, reply = .ok answer ∧ answer.isApproved = true

/-- What is told of a refund that is not approved. -/
def complaint : Except GatewayError RefundReply → String
  | .error e => (ServiceError.ofGateway e).message
  | .ok answer => answer.error.getD defaultDecline

end Desk

namespace RemoteProvider

open Exchange

variable {status : Nat} {body name : String}

theorem hasMember_bool {b : Bool} :
    (Exchange.answered status body).HasMember "success" (.bool b) ↔
      flag? (Json.parse? body) = some b := by
  rw [hasMember_answered, flag?]
  generalize (Json.parse? body).bind (Json.field? "success") = value
  rcases value with _ | (_ | _ | _ | _ | _ | _) <;> simp [Json.bool?]

theorem hasMember_string {text : String} :
    (Exchange.answered status body).HasMember name (.string text) ↔
      ((Json.parse? body).bind (Json.field? name)).bind Json.string? = some text := by
  rw [hasMember_answered]
  generalize (Json.parse? body).bind (Json.field? name) = value
  rcases value with _ | (_ | _ | _ | _ | _ | _) <;> simp [Json.string?]

theorem words_spec (status : Nat) (body fixed : String) :
    (Exchange.answered status body).Words fixed ((words? (Json.parse? body)).getD fixed) := by
  unfold words?
  split
  · rename_i text herror
    exact .error (hasMember_string.2 herror)
  · rename_i hnone
    have hsilent : ∀ other, ¬ (Exchange.answered status body).HasMember "error" (.string other) := by
      intro other h
      rw [hasMember_string, hnone] at h
      cases h
    cases hmessage : ((Json.parse? body).bind (Json.field? "message")).bind Json.string? with
    | some text => exact .message hsilent (hasMember_string.2 hmessage)
    | none =>
      refine .fixed hsilent fun other h => ?_
      rw [hasMember_string, hmessage] at h
      cases h

theorem isApproved_replyOf {body : Option Json} :
    (replyOf status body).isApproved = true ↔
      isSuccess status = true ∧ flag? body = some true := by
  unfold replyOf
  by_cases hsuccess : isSuccess status = true
  · rw [if_pos hsuccess]
    rcases hflag : flag? body with _ | (_ | _) <;>
      simp [RefundReply.approved, RefundReply.declined, hsuccess]
  · rw [if_neg hsuccess]
    simp [RefundReply.declined, hsuccess]

/-- What the provider confirms is approved, and nothing else. -/
theorem approves_reply {x : Exchange} : Desk.Approves (reply x) ↔ x.Confirms := by
  cases x with
  | answered status body =>
    have happroves : Desk.Approves (reply (.answered status body)) ↔
        (replyOf status (Json.parse? body)).isApproved = true :=
      ⟨fun ⟨_, heq, happroved⟩ => Except.ok.inj heq ▸ happroved, fun h => ⟨_, rfl, h⟩⟩
    rw [happroves, isApproved_replyOf, ← hasMember_bool, ← succeeds_answered]
    exact ⟨fun h => ⟨h.1, h.2⟩, fun h => ⟨h.1, h.2⟩⟩
  | timedOut => exact ⟨nofun, fun ⟨⟨_, _, heq, _⟩, _⟩ => nomatch heq⟩
  | failed text => exact ⟨nofun, fun ⟨⟨_, _, heq, _⟩, _⟩ => nomatch heq⟩

/-- What is told of a refund that the provider does not confirm is what there is to tell. -/
theorem complains_reply {x : Exchange} (h : ¬ x.Confirms) :
    x.Complains (Desk.complaint (reply x)) := by
  cases x with
  | timedOut => exact .timedOut
  | failed text => exact .failed
  | answered status body =>
    show Exchange.Complains _ ((replyOf status (Json.parse? body)).error.getD Desk.defaultDecline)
    unfold replyOf
    by_cases hsuccess : isSuccess status = true
    · have hsucceeds : (Exchange.answered status body).Succeeds := succeeds_answered.2 hsuccess
      rw [if_pos hsuccess]
      rcases hflag : flag? (Json.parse? body) with _ | (_ | _)
      · refine .unconfirmed hsucceeds fun b hb => ?_
        rw [hasMember_bool, hflag] at hb
        cases hb
      · exact .declined hsucceeds (hasMember_bool.2 hflag) (words_spec status body _)
      · exact absurd ⟨hsucceeds, hasMember_bool.2 hflag⟩ h
    · rw [if_neg hsuccess]
      refine .refused ?_ (words_spec status body _)
      simp only [isSuccess, Bool.and_eq_true, decide_eq_true_eq] at hsuccess
      omega

end RemoteProvider

end Paydesk
