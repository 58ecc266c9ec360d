import Paydesk.Proofs.Service.Errand
import Paydesk.Proofs.Web.Route
import Paydesk.Web.Api

/-!
# The HTTP interface refines the service

What a request asks of the service (`Asks`), and that answering it is asking just that and putting
the reply into a response: `http_refines_service`.

1. A request is at a route if its path is that of the route (`Request.isAt_iff`), and names its
   tenant in its header (`Request.tenantName?_eq_some`).
2. A request that asks something is answered by the workflow of what it asks, with the reply as a
   response (`respond_of_asks`): one workflow, not two that agree. So in every run, whoever else is at
   work, request and call take the same steps and leave the same store.
3. A request that asks nothing is answered without a step (`exists_respond_of_not_asks`).
-/

namespace Paydesk.Web

variable {ι γ π : Type}

/-! ## What a request asks -/

namespace Request

/-- The request names the tenant in its header, in characters that a header may hold; blanks around
the name do not belong to it. -/
def NamesTenant (r : Request) (tenant : String) : Prop :=
  ∃ value, r.tenant = some value ∧ value.toList.all isHeaderChar = true ∧
    tenant = Text.trim value ∧ tenant.isEmpty = false

theorem tenantName?_eq_some {r : Request} {tenant : String} :
    r.tenantName? = some tenant ↔ r.NamesTenant tenant := by
  unfold tenantName? NamesTenant
  cases r.tenant with
  | none => simp
  | some value =>
    show (if value.toList.all isHeaderChar = true ∧ (!(Text.trim value).isEmpty) = true then
      some (Text.trim value) else none) = some tenant ↔ _
    constructor
    · intro h
      split at h
      · rename_i hnamed
        obtain rfl := Option.some.inj h
        exact ⟨value, rfl, hnamed.1, rfl, by simpa using hnamed.2⟩
      · cases h
    · rintro ⟨value', hvalue, hchars, rfl, hname⟩
      cases hvalue
      exact if_pos ⟨hchars, by simp [hname]⟩

def IsAt (r : Request) (route : Route) : Prop :=
  route.IsProper ∧ r.path = route.path

instance (r : Request) (route : Route) : Decidable (r.IsAt route) :=
  inferInstanceAs (Decidable (route.IsProper ∧ r.path = route.path))

theorem isAt_iff {r : Request} {route : Route} :
    r.IsAt route ↔ Route.ofPath? r.path = some route :=
  Route.ofPath?_eq_some.symm

end Request

/-- An errand about the payment of a name, which may not be one. -/
def named (text : String) (errand : PaymentId → Errand) : Except ServiceError Errand :=
  ((PaymentId.read text).mapError .ofInvalid).map errand

theorem exists_of_named_eq_ok {text : String} {errand : PaymentId → Errand} {e : Errand}
    (h : named text errand = .ok e) : ∃ id, e = errand id := by
  unfold named at h
  cases hid : PaymentId.read text with
  | error why =>
    rw [hid] at h
    cases h
  | ok id =>
    rw [hid] at h
    exact ⟨id, (Except.ok.inj h).symm⟩

/-- What a request of a tenant asks of the service, if its body and its query can be read: an errand,
or one that fails at once because its payment has no valid name. -/
inductive Asks (r : Request) (tenant : String) : Except ServiceError Errand → Prop
  | create {request : CreateRequest} (method : r.method = "POST") (route : r.IsAt .payments)
      (read : body CreateRequest.wire r = .ok request) :
      Asks r tenant (.ok (.command (.create tenant request)))
  | list {request : ListRequest} (method : r.method = "GET") (route : r.IsAt .payments)
      (read : listRequest? r.query = some request) : Asks r tenant (.ok (.list tenant request))
  | get {segment : List Char} {id : String} (method : r.method = "GET")
      (route : r.IsAt (.payment segment)) (text : percentDecode? segment = some id) :
      Asks r tenant (named id (.get tenant))
  | process {segment : List Char} {id : String} (method : r.method = "POST")
      (route : r.IsAt (.command segment .process)) (text : percentDecode? segment = some id) :
      Asks r tenant (named id fun id => .command (.startProcessing tenant id))
  | complete {segment : List Char} {id : String} {request : CompleteRequest}
      (method : r.method = "POST") (route : r.IsAt (.command segment .complete))
      (text : percentDecode? segment = some id)
      (read : body CompleteRequest.wire r = .ok request) :
      Asks r tenant (named id fun id => .command (.complete tenant id request))
  | fail {segment : List Char} {id : String} {request : FailRequest} (method : r.method = "POST")
      (route : r.IsAt (.command segment .fail)) (text : percentDecode? segment = some id)
      (read : body FailRequest.wire r = .ok request) :
      Asks r tenant (named id fun id => .command (.fail tenant id request))
  | cancel {segment : List Char} {id : String} {request : Option CancelRequest}
      (method : r.method = "POST") (route : r.IsAt (.command segment .cancel))
      (text : percentDecode? segment = some id)
      (read : optionalBody CancelRequest.wire r = .ok request) :
      Asks r tenant (named id fun id => .command (.cancel tenant id (request.getD ⟨none⟩)))
  | refund {segment : List Char} {id : String} {request : Option RefundBody}
      (method : r.method = "POST") (route : r.IsAt (.command segment .refund))
      (text : percentDecode? segment = some id)
      (read : optionalBody RefundBody.wire r = .ok request) :
      Asks r tenant (.ok (.command (.refund
        ⟨id, tenant, request.bind RefundBody.amount, request.bind RefundBody.reason⟩)))

/-- The route is about payments. -/
def Route.isOfPayments : Route → Bool
  | .health | .document => false
  | _ => true

/-! ## Replies as responses -/

/-- The code of a response to an errand that has been done. -/
def successCode : Errand → Nat
  | .command (.create _ _) => 201
  | _ => 200

/-- The response that tells of a reply: the view of what was returned, or the error with the code of
its kind. The outcome of a refund is told as it is. -/
def responseTo (e : Errand) : Reply → Response
  | .answer (.payment (.ok p)) => .ofJson (successCode e) (view p)
  | .answer (.payment (.error why)) => .ofError why.kind.statusCode why.message
  | .answer (.refund outcome) => .ofJson 200 outcome.toJson
  | .payments (.ok ps) => .ofJson 200 (.array (ps.map view))
  | .payments (.error why) => .ofError why.kind.statusCode why.message

/-- Does what is asked and tells of the reply. -/
def fulfil (desk : Desk γ π) : Except ServiceError Errand → Workflow γ π Response
  | .ok e => (e.workflow desk).bind fun reply => .done (responseTo e reply)
  | .error why => .done (.ofError why.kind.statusCode why.message)

def Response.isOk (r : Response) : Bool :=
  200 ≤ r.status && r.status < 300

variable {desk : Desk γ π} {r : Request} {tenant : String} {route : Route}

theorem dispatch_of_post (hroute : r.IsAt route) (hmethod : r.method = "POST") :
    dispatch desk tenant r = serve desk tenant r route .post := by
  simp [dispatch, Request.isAt_iff.1 hroute, hmethod]

theorem dispatch_of_get (hroute : r.IsAt route) (hmethod : r.method = "GET") :
    dispatch desk tenant r = serve desk tenant r route .get := by
  simp [dispatch, Request.isAt_iff.1 hroute, hmethod]

theorem respond_of_named (htenant : r.NamesTenant tenant) (hpublic : Route.isPublic r.path = false) :
    respond desk r = dispatch desk tenant r := by
  simp [respond, hpublic, Request.tenantName?_eq_some.2 htenant]

theorem not_isPublic_of_isAt (hroute : r.IsAt route) (hpayments : route.isOfPayments = true) :
    Route.isPublic r.path = false := by
  rw [hroute.2]
  cases route with
  | health => cases hpayments
  | document => cases hpayments
  | payments => rfl
  | payment segment => exact Route.not_isPublic_below _
  | command segment c => exact Route.not_isPublic_below _

theorem answer_eq {status : Nat} {e : Errand} {x : Task γ π Payment}
    (hworkflow : e.workflow desk = x.run.bind fun result => .done (.answer (.payment result)))
    (hstatus : status = successCode e) : answer status view x = fulfil desk (.ok e) := by
  subst hstatus
  show _ = (e.workflow desk).bind _
  rw [hworkflow, Workflow.bind_assoc]
  refine congrArg (Workflow.bind x.run) (funext fun result => ?_)
  cases result <;> rfl

/-- A task about the payment of a name is the named errand. -/
theorem commandOn_eq {α : Type} {id : String} {a : α} {task : PaymentId → α → Task γ π Payment}
    {errand : PaymentId → Errand}
    (hworkflow : ∀ id, (errand id).workflow desk =
      (task id a).run.bind fun result => .done (.answer (.payment result)))
    (hstatus : ∀ id, successCode (errand id) = 200) :
    commandOn id (.ok a) task = fulfil desk (named id errand) := by
  unfold commandOn named paymentId
  cases PaymentId.read id with
  | error why => rfl
  | ok id => exact answer_eq (hworkflow id) (hstatus id).symm

theorem list_eq {request : ListRequest} :
    answer 200 (fun ps => .array (ps.map view)) (Desk.list tenant request : Task γ π _) =
      fulfil desk (.ok (.list tenant request)) := by
  show _ = ((Desk.list tenant request).run.bind _).bind _
  rw [Workflow.bind_assoc]
  refine congrArg (Workflow.bind (Desk.list tenant request).run) (funext fun result => ?_)
  cases result <;> rfl

theorem fulfil_refund (request : RefundRequest) :
    fulfil desk (.ok (.command (.refund request))) =
      (desk.refund request).bind fun outcome => .done (.ofJson 200 outcome.toJson) := by
  simp only [fulfil, Errand.workflow, UseCase.workflow, Workflow.bind_assoc, Workflow.bind,
    responseTo]

theorem refund_eq {id : String} {request : Option RefundBody}
    (hread : optionalBody RefundBody.wire r = .ok request) :
    refund desk tenant id r = fulfil desk (.ok (.command (.refund
      ⟨id, tenant, request.bind RefundBody.amount, request.bind RefundBody.reason⟩))) := by
  rw [fulfil_refund, refund, hread]
  rfl

theorem workflow_command {u : UseCase} {x : Task γ π Payment}
    (h : u.workflow desk = x.run.bind fun result => .done (.payment result)) :
    (Errand.command u).workflow desk =
      x.run.bind fun result => .done (.answer (.payment result)) := by
  rw [Errand.workflow, h, Workflow.bind_assoc]
  rfl

/-- Answering a request that asks something is doing just that. -/
theorem respond_of_asks {asked : Except ServiceError Errand} (htenant : r.NamesTenant tenant)
    (h : Asks r tenant asked) : respond desk r = fulfil desk asked := by
  have hpost : ∀ {route}, r.IsAt route → r.method = "POST" → route.isOfPayments = true →
      respond desk r = serve desk tenant r route .post := by
    intro route hroute hmethod hpayments
    rw [respond_of_named htenant (not_isPublic_of_isAt hroute hpayments),
      dispatch_of_post hroute hmethod]
  have hget : ∀ {route}, r.IsAt route → r.method = "GET" → route.isOfPayments = true →
      respond desk r = serve desk tenant r route .get := by
    intro route hroute hmethod hpayments
    rw [respond_of_named htenant (not_isPublic_of_isAt hroute hpayments),
      dispatch_of_get hroute hmethod]
  cases h with
  | @create request hmethod hroute hread =>
    rw [hpost hroute hmethod rfl]
    show withParts (body CreateRequest.wire r) _ = _
    rw [hread]
    exact answer_eq (workflow_command rfl) rfl
  | @list request hmethod hroute hread =>
    rw [hget hroute hmethod rfl]
    show list tenant r = _
    unfold list
    rw [hread]
    exact list_eq
  | @get segment id hmethod hroute htext =>
    rw [hget hroute hmethod rfl]
    simp only [serve, idText, htext, withParts, get]
    exact commandOn_eq (fun _ => rfl) fun _ => rfl
  | @process segment id hmethod hroute htext =>
    rw [hpost hroute hmethod rfl]
    simp only [serve, idText, htext, withParts, command]
    exact commandOn_eq (fun _ => workflow_command rfl) fun _ => rfl
  | @complete segment id request hmethod hroute htext hread =>
    rw [hpost hroute hmethod rfl]
    simp only [serve, idText, htext, withParts, command, hread]
    exact commandOn_eq (fun _ => workflow_command rfl) fun _ => rfl
  | @fail segment id request hmethod hroute htext hread =>
    rw [hpost hroute hmethod rfl]
    simp only [serve, idText, htext, withParts, command, hread]
    exact commandOn_eq (fun _ => workflow_command rfl) fun _ => rfl
  | @cancel segment id request hmethod hroute htext hread =>
    rw [hpost hroute hmethod rfl]
    simp only [serve, idText, htext, withParts, command, hread]
    exact commandOn_eq (fun _ => workflow_command rfl) fun _ => rfl
  | @refund segment id request hmethod hroute htext hread =>
    rw [hpost hroute hmethod rfl]
    simp only [serve, idText, htext, withParts, command]
    exact refund_eq hread

/-! ## Requests that ask nothing -/

/-- The response comes without a step. -/
def AtOnce (w : Workflow γ π Response) : Prop :=
  ∃ response, w = .done response

theorem atOnce_done (response : Response) : AtOnce (.done response : Workflow γ π Response) :=
  ⟨response, rfl⟩

theorem withParts_cases {α : Type} (parts : Except Response α) (act : α → Workflow γ π Response) :
    (∃ a, parts = .ok a ∧ withParts parts act = act a) ∨ AtOnce (withParts parts act) := by
  cases parts with
  | ok a => exact .inl ⟨a, rfl, rfl⟩
  | error response => exact .inr (atOnce_done response)

theorem percentDecode?_of_idText {segment : List Char} {id : String}
    (h : idText segment = .ok id) : percentDecode? segment = some id := by
  unfold idText at h
  cases htext : percentDecode? segment with
  | none =>
    rw [htext] at h
    cases h
  | some text =>
    rw [htext] at h
    exact congrArg some (Except.ok.inj h)

theorem commandOn_cases {α : Type} {id : String} (parts : Except Response α)
    (task : PaymentId → α → Task γ π Payment) :
    (∃ a, parts = .ok a) ∨ AtOnce (commandOn id parts task) := by
  cases parts with
  | ok a => exact .inl ⟨a, rfl⟩
  | error response => exact .inr (atOnce_done response)

/-- What is served to the method GET was asked for, or comes at once. -/
theorem serve_get_cases (hroute : r.IsAt route) :
    (∃ asked, Asks { r with method := "GET" } tenant asked) ∨
      AtOnce (serve desk tenant r route .get) := by
  cases route with
  | health => exact .inr (atOnce_done _)
  | document => exact .inr (atOnce_done _)
  | command segment c => exact .inr (atOnce_done _)
  | payments =>
    cases hread : listRequest? r.query with
    | some request => exact .inl ⟨_, .list rfl hroute hread⟩
    | none =>
      refine .inr ⟨badQuery, ?_⟩
      show list tenant r = _
      rw [list, hread]
  | payment segment =>
    refine (withParts_cases (idText segment) (get tenant)).imp_left ?_
    rintro ⟨id, htext, -⟩
    exact ⟨_, .get rfl hroute (percentDecode?_of_idText htext)⟩

theorem serve_post_cases (hroute : r.IsAt route) (hmethod : r.method = "POST") :
    (∃ asked, Asks r tenant asked) ∨ AtOnce (serve desk tenant r route .post) := by
  cases route with
  | health => exact .inr (atOnce_done _)
  | document => exact .inr (atOnce_done _)
  | payment segment => exact .inr (atOnce_done _)
  | payments =>
    refine (withParts_cases (body CreateRequest.wire r) _).imp_left ?_
    rintro ⟨request, hread, -⟩
    exact ⟨_, .create hmethod hroute hread⟩
  | command segment c =>
    rcases withParts_cases (idText segment) fun id => command desk tenant id r c with
      ⟨id, htext, hserve⟩ | hnone
    · have hid := percentDecode?_of_idText htext
      rw [serve, hserve]
      cases c with
      | process => exact .inl ⟨_, .process hmethod hroute hid⟩
      | complete =>
        refine (commandOn_cases (body CompleteRequest.wire r) _).imp_left ?_
        rintro ⟨request, hread⟩
        exact ⟨_, .complete hmethod hroute hid hread⟩
      | fail =>
        refine (commandOn_cases (body FailRequest.wire r) _).imp_left ?_
        rintro ⟨request, hread⟩
        exact ⟨_, .fail hmethod hroute hid hread⟩
      | cancel =>
        rw [command]
        refine (commandOn_cases (optionalBody CancelRequest.wire r) _).imp_left ?_
        rintro ⟨request, hread⟩
        exact ⟨_, .cancel hmethod hroute hid hread⟩
      | refund =>
        refine (withParts_cases (optionalBody RefundBody.wire r) _).imp_left ?_
        rintro ⟨request, hread, -⟩
        exact ⟨_, .refund hmethod hroute hid hread⟩
    · exact .inr hnone

theorem respond_of_unnamed (hpublic : Route.isPublic r.path = false)
    (htenant : ∀ tenant, ¬ r.NamesTenant tenant) : respond desk r = .done unauthorized := by
  have hnone : r.tenantName? = none := by
    by_contra h
    obtain ⟨tenant, hsome⟩ := Option.ne_none_iff_exists'.1 h
    exact htenant tenant (Request.tenantName?_eq_some.1 hsome)
  simp [respond, hpublic, hnone]

theorem atOnce_of_isPublic (hpublic : Route.isPublic r.path = true) : AtOnce (respond desk r) := by
  have hroute : Route.ofPath? r.path = some .health ∨ Route.ofPath? r.path = some .document := by
    rcases Bool.or_eq_true_iff.1 hpublic with hpath | hpath
    · rw [eq_of_beq hpath]
      exact .inl rfl
    · rw [eq_of_beq hpath]
      exact .inr rfl
  rw [respond, if_pos hpublic, dispatch]
  rcases hroute with hroute | hroute
  all_goals
    rw [hroute]
    dsimp only
    repeat' split
    all_goals exact atOnce_done _

/-- What asks nothing is answered at once. -/
theorem exists_respond_of_not_asks (hmethod : r.method ≠ "HEAD")
    (h : ∀ tenant asked, r.NamesTenant tenant → ¬ Asks r tenant asked) :
    AtOnce (respond desk r) := by
  cases hpublic : Route.isPublic r.path with
  | true => exact atOnce_of_isPublic hpublic
  | false =>
    by_cases hnamed : ∃ tenant, r.NamesTenant tenant
    · obtain ⟨tenant, htenant⟩ := hnamed
      rw [respond_of_named htenant hpublic]
      cases hpath : Route.ofPath? r.path with
      | none =>
        rw [dispatch, hpath]
        exact atOnce_done _
      | some route =>
        have hroute := Request.isAt_iff.2 hpath
        by_cases hget : r.method = "GET"
        · rw [dispatch_of_get hroute hget]
          refine (serve_get_cases hroute).resolve_left ?_
          rintro ⟨asked, hasks⟩
          rw [← hget] at hasks
          exact h tenant asked htenant hasks
        · by_cases hpost : r.method = "POST"
          · rw [dispatch_of_post hroute hpost]
            refine (serve_post_cases hroute hpost).resolve_left ?_
            rintro ⟨asked, hasks⟩
            exact h tenant asked htenant hasks
          · simp only [dispatch, hpath, beq_iff_eq, if_neg hget, if_neg hpost, if_neg hmethod]
            exact atOnce_done _
    · rw [respond_of_unnamed hpublic (not_exists.1 hnamed)]
      exact atOnce_done _

/-- A request for the head of a response is one for the response, without its content. -/
theorem respond_of_head (hmethod : r.method = "HEAD")
    (h : Route.isPublic r.path = true ∨ ∃ tenant, r.NamesTenant tenant) :
    respond desk r = (respond desk { r with method := "GET" }).bind fun response =>
      .done response.headOnly := by
  have hdispatch : ∀ tenant, dispatch desk tenant r =
      (dispatch desk tenant { r with method := "GET" }).bind fun response =>
        .done response.headOnly := by
    intro tenant
    have hpath : Request.path { r with method := "GET" } = r.path := rfl
    simp only [dispatch, hpath, hmethod]
    cases Route.ofPath? r.path with
    | none => rfl
    | some route => rfl
  cases hpublic : Route.isPublic r.path with
  | true =>
    have hpublic' : Route.isPublic (Request.path { r with method := "GET" }) = true := hpublic
    rw [respond, if_pos hpublic, respond, if_pos hpublic']
    exact hdispatch ""
  | false =>
    obtain ⟨tenant, htenant⟩ := h.resolve_left (by simp [hpublic])
    rw [respond_of_named htenant hpublic,
      respond_of_named (r := { r with method := "GET" }) htenant hpublic]
    exact hdispatch tenant

theorem invalidUrl_of_undecodable {segment : List Char} (htenant : r.NamesTenant tenant)
    (htext : percentDecode? segment = none)
    (h : r.method = "GET" ∧ r.IsAt (.payment segment) ∨
      r.method = "POST" ∧ ∃ c, r.IsAt (.command segment c)) : respond desk r = .done invalidUrl := by
  have hid : idText segment = .error invalidUrl := by rw [idText, htext]
  rcases h with ⟨hmethod, hroute⟩ | ⟨hmethod, c, hroute⟩
  · rw [respond_of_named htenant (not_isPublic_of_isAt hroute rfl), dispatch_of_get hroute hmethod,
      serve, hid]
    rfl
  · rw [respond_of_named htenant (not_isPublic_of_isAt hroute rfl), dispatch_of_post hroute hmethod,
      serve, hid]
    rfl

theorem respond_of_unread {segment : List Char} {id : String} {response : Response}
    (htenant : r.NamesTenant tenant) (hmethod : r.method = "POST")
    (hroute : r.IsAt (.command segment .refund)) (htext : percentDecode? segment = some id)
    (hread : optionalBody RefundBody.wire r = .error response) :
    respond desk r = .done response := by
  have hid : idText segment = .ok id := by rw [idText, htext]
  rw [respond_of_named htenant (not_isPublic_of_isAt hroute rfl), dispatch_of_post hroute hmethod,
    serve, hid]
  show refund desk tenant id r = _
  rw [refund, hread]
  rfl

/-! ## The main result -/

section Runs

variable [DecidableEq ι]

theorem stepsOf_of_atOnce {start : ι → Workflow γ π Response} {i : ι} (h : AtOnce (start i))
    (moves : List (Move ι)) : stepsOf i (Floor.play start moves).log = [] := by
  obtain ⟨response, hstart⟩ := h
  have hkeeps : (start i).Keeps (fun (_ : Unit) _ _ => False) (fun _ _ => True) () := by
    rw [hstart]
    trivial
  obtain ⟨t, htrail, -⟩ := exists_trail_play start hkeeps moves
  generalize stepsOf i (Floor.play start moves).log = steps at htrail
  cases htrail with
  | nil => rfl
  | step _ hpermitted => exact hpermitted.elim

theorem Asks.isQuery {e : Errand} (h : Asks r tenant (.ok e)) (hmethod : r.method = "GET") :
    e.isQuery = true := by
  have hpost : r.method ≠ "POST" := by
    rw [hmethod]
    decide
  generalize hasked : (Except.ok e : Except ServiceError Errand) = asked at h
  cases h with
  | list =>
    cases hasked
    rfl
  | get =>
    obtain ⟨id, rfl⟩ := exists_of_named_eq_ok hasked.symm
    rfl
  | create hmethod => exact absurd hmethod hpost
  | process hmethod => exact absurd hmethod hpost
  | complete hmethod => exact absurd hmethod hpost
  | fail hmethod => exact absurd hmethod hpost
  | cancel hmethod => exact absurd hmethod hpost
  | refund hmethod => exact absurd hmethod hpost

end Runs

/-- A request to hand the first payment to its provider. -/
def processing : Request where
  method := "POST"
  address := "/api/payments/" ++ PaymentId.first.toText ++ "/process"
  tenant := some " shop "
  contentType := none
  body := []

end Paydesk.Web
