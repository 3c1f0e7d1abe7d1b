import SyntaxServer.Proofs.Server.Dispatch
import SyntaxServer.Server.Backend

/-!
The server's own handlers. The router is read once, method by method (`get?_requests`,
`get?_notifications`), and then by its three handlers of requests (`request_cases`). Those leave the
documents as they are, and return a value, fail with one of four codes, or wait for an analysis
(`modest_of_get?`). All other handlers end (`finishes_server`).
-/

namespace SyntaxServer

namespace Router

variable {σ α : Type}

theorem get?_onRequest (r : Router σ) (m : Method) (read : Payload.Reader α)
    (h : Call → α → σ → RequestRun σ) (method : String) :
    (r.onRequest m read h).requests.get? method =
      if method = wireName m then some (requestHandler read h) else r.requests.get? method :=
  Table.get?_insert ..

theorem get?_onNotification (r : Router σ) (m : Method) (read : Payload.Reader α)
    (h : α → σ → Run σ Unit) (method : String) :
    (r.onNotification m read h).notifications.get? method =
      if method = wireName m then some (notificationHandler read h)
      else r.notifications.get? method :=
  Table.get?_insert ..

theorem requests_onNotification (r : Router σ) (m : Method) (read : Payload.Reader α)
    (h : α → σ → Run σ Unit) : (r.onNotification m read h).requests = r.requests := rfl

theorem notifications_onRequest (r : Router σ) (m : Method) (read : Payload.Reader α)
    (h : Call → α → σ → RequestRun σ) :
    (r.onRequest m read h).notifications = r.notifications := rfl

/-- A handler gets the payload of its parameters, or fails for them and does nothing. -/
theorem requestHandler_ok {read : Payload.Reader α} {params : Option Json} {a : α}
    (ha : readParams read params = .ok a) (h : Call → α → σ → RequestRun σ) (call : Call) (s : σ) :
    requestHandler read h call params s = h call a s := by
  unfold requestHandler
  rw [ha]

theorem requestHandler_error {read : Payload.Reader α} {params : Option Json} {e : ResponseError}
    (he : readParams read params = .error e) (h : Call → α → σ → RequestRun σ) (call : Call)
    (s : σ) : requestHandler read h call params s = .fails s (.response e) := by
  unfold requestHandler
  rw [he]

theorem notificationHandler_error {read : Payload.Reader α} {params : Option Json}
    {e : ResponseError} (he : readParams read params = .error e) (h : α → σ → Run σ Unit) (s : σ) :
    notificationHandler read h params s = ⟨s, .failed (.response e), []⟩ := by
  unfold notificationHandler
  rw [he]

end Router

theorem code_readParams {α : Type} {read : Payload.Reader α} {params : Option Json}
    {e : ResponseError} (he : readParams read params = .error e) :
    e.code = ErrorCode.invalidParams.code := by
  unfold readParams at he
  cases hr : read (Json.ofOption params) with
  | ok a =>
    rw [hr] at he
    cases he
  | error x =>
    rw [hr] at he
    cases he
    rfl

namespace Backend

variable {o : Outside} {limit : Option Nat} {method : String}

/-! ### The router -/

theorem ne_wireName_of_ofName? {α : Type} [Wire α] {name : String}
    (h : Wire.ofName? α name = none) {a : α} (ha : a ∈ (Wire.all : List α)) :
    name ≠ wireName a := by
  rintro rfl
  have hne := List.find?_eq_none.1 h a ha
  exact hne (decide_eq_true rfl)

/-- **The requests that have a handler.** -/
theorem get?_requests (o : Outside) (method : String) :
    (routerOf o).requests.get? method =
      match Wire.ofName? Method method with
      | some .start => some (Router.requestHandler (StartParams.read o.capabilities) start)
      | some .shutdown => some (Router.requestHandler Payload.unit shutdown)
      | some .hover => some (Router.requestHandler HoverParams.read (hover o))
      | _ => none := by
  have hchain : (routerOf o).requests.get? method =
      if method = wireName Method.hover then
        some (Router.requestHandler HoverParams.read (hover o))
      else if method = wireName Method.shutdown then
        some (Router.requestHandler Payload.unit shutdown)
      else if method = wireName Method.start then
        some (Router.requestHandler (StartParams.read o.capabilities) start)
      else none := by
    simp only [routerOf, Router.get?_onRequest, Router.requests_onNotification]
    rfl
  rw [hchain]
  cases hm : Wire.ofName? Method method with
  | none =>
    rw [if_neg (ne_wireName_of_ofName? hm (by decide)),
      if_neg (ne_wireName_of_ofName? hm (by decide)),
      if_neg (ne_wireName_of_ofName? hm (by decide))]
  | some m =>
    obtain rfl := wireName_of_ofName? hm
    cases m <;> rfl

/-- A handler of requests is one of three. -/
theorem request_cases {h : RequestHandler Documents}
    (hh : (routerOf o).requests.get? method = some h) :
    (method = wireName Method.start ∧
        h = Router.requestHandler (StartParams.read o.capabilities) start) ∨
      (method = wireName Method.shutdown ∧ h = Router.requestHandler Payload.unit shutdown) ∨
      method = wireName Method.hover ∧ h = Router.requestHandler HoverParams.read (hover o) := by
  rw [get?_requests] at hh
  cases hm : Wire.ofName? Method method with
  | none =>
    rw [hm] at hh
    cases hh
  | some m =>
    obtain rfl := wireName_of_ofName? hm
    rw [hm] at hh
    cases m with
    | start => exact Or.inl ⟨rfl, (Option.some.inj hh).symm⟩
    | shutdown => exact Or.inr (Or.inl ⟨rfl, (Option.some.inj hh).symm⟩)
    | hover => exact Or.inr (Or.inr ⟨rfl, (Option.some.inj hh).symm⟩)
    | _ => cases hh

/-- **The notifications that have a handler.** -/
theorem get?_notifications (o : Outside) (method : String) :
    (routerOf o).notifications.get? method =
      match Wire.ofName? Method method with
      | some .started => some (Router.notificationHandler readStarted started)
      | some .didOpen => some (Router.notificationHandler readOpening opened)
      | some .didChange => some (Router.notificationHandler ChangeParams.read changed)
      | some .didClose => some (Router.notificationHandler readClosing closed)
      | _ => none := by
  have hchain : (routerOf o).notifications.get? method =
      if method = wireName Method.didClose then
        some (Router.notificationHandler readClosing closed)
      else if method = wireName Method.didChange then
        some (Router.notificationHandler ChangeParams.read changed)
      else if method = wireName Method.didOpen then
        some (Router.notificationHandler readOpening opened)
      else if method = wireName Method.started then
        some (Router.notificationHandler readStarted started)
      else none := by
    simp only [routerOf, Router.get?_onNotification, Router.notifications_onRequest]
    rfl
  rw [hchain]
  cases hm : Wire.ofName? Method method with
  | none =>
    rw [if_neg (ne_wireName_of_ofName? hm (by decide)),
      if_neg (ne_wireName_of_ofName? hm (by decide)),
      if_neg (ne_wireName_of_ofName? hm (by decide)),
      if_neg (ne_wireName_of_ofName? hm (by decide))]
  | some m =>
    obtain rfl := wireName_of_ofName? hm
    cases m <;> rfl

/-! ### Requests -/

/-- The codes with which a handler of the server fails. -/
def failureCodes : List Int :=
  [ErrorCode.invalidParams.code, ErrorCode.requestCancelled.code, ErrorCode.requestFailed.code,
    ErrorCode.internalError.code]

/-- A call that leaves the documents, and returns, fails with one of the codes, or waits for an
analysis. -/
structure Modest (o : Outside) (s : Documents) (run : RequestRun Documents) : Prop where
  state : run.state = s
  ending : (∃ v, run.ending = .returned v) ∨
    (∃ e, run.ending = .failed e ∧ e.toResponseError.code ∈ failureCodes) ∨
      run.ending = .stuck ∧ ∃ p d, o.analysis p d = .pending

theorem modest_returns {s : Documents} {run : RequestRun Documents} {v : Json}
    (hs : run.state = s) (hv : run.ending = .returned v) : Modest o s run :=
  ⟨hs, Or.inl ⟨v, hv⟩⟩

theorem modest_fails {s : Documents} {run : RequestRun Documents} {e : HandlerError}
    (hs : run.state = s) (he : run.ending = .failed e)
    (hcode : e.toResponseError.code ∈ failureCodes) : Modest o s run :=
  ⟨hs, Or.inr (Or.inl ⟨e, he, hcode⟩)⟩

theorem code_ofAnalysis (e : AnalysisError) :
    (HandlerError.ofAnalysis e).toResponseError.code ∈ failureCodes := by
  cases e with
  | cancelled => decide
  | _ => exact .tail _ (.tail _ (.head _))

theorem modest_hover (o : Outside) (call : Call) (p : HoverParams) (s : Documents) :
    Modest o s (hover o call p s) := by
  unfold hover
  cases s.get? p.uri with
  | none => exact modest_returns rfl rfl
  | some d =>
    dsimp only
    cases hfate : o.analysis p d with
    | done =>
      dsimp only
      cases Hover.at? o.grammars d.languageId d.uri.text d.text p.position call.cancelled with
      | ok h => exact modest_returns rfl rfl
      | error e => exact modest_fails rfl rfl (code_ofAnalysis e)
    | lost cause =>
      refine modest_fails rfl rfl ?_
      show ErrorCode.internalError.code ∈ failureCodes
      decide
    | pending => exact ⟨rfl, Or.inr (Or.inr ⟨rfl, p, d, hfate⟩)⟩

theorem modest_requestHandler {α : Type} {read : Payload.Reader α}
    {h : Call → α → Documents → RequestRun Documents}
    (hh : ∀ call a s, Modest o s (h call a s)) (call : Call) (params : Option Json)
    (s : Documents) : Modest o s (Router.requestHandler read h call params s) := by
  cases hp : readParams read params with
  | ok a =>
    rw [Router.requestHandler_ok hp]
    exact hh call a s
  | error e =>
    rw [Router.requestHandler_error hp]
    refine modest_fails rfl rfl ?_
    show e.code ∈ failureCodes
    rw [code_readParams hp]
    decide

/-- **Every handler of requests is modest.** -/
theorem modest_of_get? {h : RequestHandler Documents}
    (hh : (routerOf o).requests.get? method = some h) (call : Call) (params : Option Json)
    (s : Documents) : Modest o s (h call params s) := by
  rcases request_cases hh with ⟨-, rfl⟩ | ⟨-, rfl⟩ | ⟨-, rfl⟩
  · exact modest_requestHandler (fun _ _ _ => modest_returns rfl rfl) call params s
  · exact modest_requestHandler (fun _ _ _ => modest_returns rfl rfl) call params s
  · exact modest_requestHandler (modest_hover o) call params s

/-! ### All handlers end -/

theorem changed_ends (p : ChangeParams) (s : Documents) : (changed p s).ending ≠ .stuck := by
  unfold changed
  cases p.texts.getLast? with
  | none => exact nofun
  | some text =>
    dsimp only
    cases s.replace? p.document.uri p.document.version text <;> exact nofun

theorem closed_ends (u : Url) (s : Documents) : (closed u s).ending ≠ .stuck := by
  unfold closed
  cases s.close? u <;> exact nofun

theorem hover_ends (h : limit = none → ∀ p d, o.analysis p d ≠ .pending) (call : Call)
    (p : HoverParams) (s : Documents) (hstuck : (hover o call p s).ending = .stuck) :
    limit ≠ none := by
  intro hlimit
  rcases (modest_hover o call p s).ending with ⟨v, hv⟩ | ⟨e, he, -⟩ | ⟨-, p, d, hpending⟩
  · rw [hv] at hstuck
    cases hstuck
  · rw [he] at hstuck
    cases hstuck
  · exact h hlimit p d hpending

open Dispatcher in
/-- **All handlers of the server end**, but for analyses of which nothing comes. -/
theorem finishes_server (h : limit = none → ∀ p d, o.analysis p d ≠ .pending) :
    (server o limit).Finishes := by
  refine finishes_onRequest (finishes_onNotification (finishes_onNotification
    (finishes_onNotification (finishes_onRequest (finishes_onNotification (finishes_onRequest
      (finishes_empty _) _ ?_) _ ?_) _ ?_) _ ?_) _ ?_) _ ?_) _ ?_
  · exact fun _ _ _ => nofun
  · exact fun _ _ => nofun
  · exact fun _ _ _ => nofun
  · exact fun _ _ => nofun
  · exact changed_ends
  · exact closed_ends
  · exact hover_ends h

theorem finishes (grammars : Grammars) (limit : Option Nat) :
    (dispatcher grammars limit).Finishes :=
  finishes_server fun _ _ _ => nofun

def noGrammar : Grammars := fun _ _ => .error .noTree

/-- A server without grammars and without a limit. -/
def bareServer : Dispatcher Documents := dispatcher noGrammar none

end Backend

end SyntaxServer
