import SyntaxServer.Server.Dispatch

/-!
What dispatch does with one message. `Routed` says once which routes a request can take, and why;
every request is answered under its own identifier, unless its handler never ends
(`response_request`), and only the exit ends a session (`control_handle`). The lifecycle follows
the answer alone (`lifecycle_request`).
-/

namespace SyntaxServer

/-! ### Names -/

theorem wireName_of_ofName? {α : Type} [Wire α] {name : String} {a : α}
    (h : Wire.ofName? α name = some a) : wireName a = name := by
  unfold Wire.ofName? at h
  have h := List.find?_some h
  exact of_decide_eq_true h

namespace Dispatcher

variable {σ : Type} {d : Dispatcher σ} {s : ServerState σ} {l : Lifecycle} {method : String}

theorem eq_of_isStart (h : isStart method = true) : method = "initialize" :=
  (wireName_of_ofName? (of_decide_eq_true h)).symm

theorem eq_of_isExit (h : isExit method = true) : method = "exit" :=
  (wireName_of_ofName? (of_decide_eq_true h)).symm

theorem not_control_of_isExit (h : isExit method = true) :
    Wire.ofName? ControlMethod method = none := by
  rw [eq_of_isExit h]
  decide

theorem not_control_of_isStart (h : isStart method = true) :
    Wire.ofName? ControlMethod method = none := by
  rw [eq_of_isStart h]
  decide

theorem not_isExit_of_control {c : ControlMethod} (h : Wire.ofName? ControlMethod method = some c) :
    isExit method = false := by
  cases hx : isExit method with
  | false => rfl
  | true =>
    rw [not_control_of_isExit hx] at h
    cases h

theorem not_isStart_of_control {c : ControlMethod}
    (h : Wire.ofName? ControlMethod method = some c) : isStart method = false := by
  cases hs : isStart method with
  | false => rfl
  | true =>
    rw [not_control_of_isStart hs] at h
    cases h

theorem not_isExit_of_isStart (h : isStart method = true) : isExit method = false := by
  rw [eq_of_isStart h]
  decide

/-- A method that is neither the protocol's own nor the exit. -/
structure Ordinary (method : String) : Prop where
  not_control : Wire.ofName? ControlMethod method = none
  not_exit : isExit method = false

theorem ordinary_of_isStart (h : isStart method = true) : Ordinary method :=
  ⟨not_control_of_isStart h, not_isExit_of_isStart h⟩

/-! ### Routes -/

/-- The routes of requests, each with the reason for it. -/
inductive Routed (d : Dispatcher σ) : Lifecycle → String → Route σ → Prop
  | control {l : Lifecycle} {method : String} {c : ControlMethod} :
    Wire.ofName? ControlMethod method = some c → Routed d l method (.control c)
  | exit {l : Lifecycle} {method : String} : isExit method = true → Routed d l method .exit
  | tooEarly {method : String} : Ordinary method → isStart method = false →
    Routed d .uninitialized method .tooEarly
  | startedBefore {method : String} : isStart method = true →
    Routed d .initialized method .startedBefore
  | unknown {l : Lifecycle} {method : String} : Ordinary method →
    (isStart method = true ↔ l = .uninitialized) → d.router.requests.get? method = none →
    Routed d l method .unknown
  | handler {l : Lifecycle} {method : String} {h : RequestHandler σ} : Ordinary method →
    (isStart method = true ↔ l = .uninitialized) → d.router.requests.get? method = some h →
    Routed d l method (.handler h)

theorem routed_admitted (ho : Ordinary method) (ha : isStart method = true ↔ l = .uninitialized) :
    Routed d l method
      (match d.router.requests.get? method with
      | some h => .handler h
      | none => .unknown) := by
  cases hh : d.router.requests.get? method with
  | some h => exact .handler ho ha hh
  | none => exact .unknown ho ha hh

theorem routed (d : Dispatcher σ) (l : Lifecycle) (method : String) :
    Routed d l method (d.route l method) := by
  unfold route
  cases hc : Wire.ofName? ControlMethod method with
  | some c => exact .control hc
  | none =>
    cases hx : isExit method with
    | true => exact .exit hx
    | false =>
      have ho : Ordinary method := ⟨hc, hx⟩
      unfold gate
      cases hs : isStart method with
      | true =>
        cases l with
        | uninitialized => exact routed_admitted ho (by simp [hs])
        | initialized => exact .startedBefore hs
      | false =>
        cases l with
        | uninitialized => exact .tooEarly ho hs
        | initialized => exact routed_admitted ho (by simp [hs])

/-! ### Handlers that finish -/

/-- Every handler ends, a request's at the latest when its time is over. -/
structure Finishes (d : Dispatcher σ) : Prop where
  requests : ∀ {method h}, d.router.requests.get? method = some h →
    ∀ call params shared, (h call params shared).ending = .stuck → d.limit ≠ none
  notifications : ∀ {method h}, d.router.notifications.get? method = some h →
    ∀ params shared, (h params shared).ending ≠ .stuck

section Routers

variable {α : Type} {r : Router σ} {limit : Option Nat}

theorem finishes_empty (limit : Option Nat) : Finishes (⟨.empty, limit⟩ : Dispatcher σ) := by
  constructor
  · intro method h hget
    cases hget
  · intro method h hget
    cases hget

theorem finishes_onRequest {read : Payload.Reader α} {h : Call → α → σ → RequestRun σ}
    (hd : Finishes ⟨r, limit⟩) (m : Method)
    (hh : ∀ call a shared, (h call a shared).ending = .stuck → limit ≠ none) :
    Finishes ⟨r.onRequest m read h, limit⟩ := by
  refine ⟨?_, hd.notifications⟩
  intro method h' hget call params shared hstuck
  have hget : (r.requests.insert (wireName m) (Router.requestHandler read h)).get? method =
      some h' := hget
  rw [Table.get?_insert] at hget
  split at hget
  · cases hget
    unfold Router.requestHandler at hstuck
    split at hstuck
    · exact hh _ _ _ hstuck
    · cases hstuck
  · exact hd.requests hget _ _ _ hstuck

theorem finishes_onNotification {read : Payload.Reader α} {h : α → σ → Run σ Unit}
    (hd : Finishes ⟨r, limit⟩) (m : Method) (hh : ∀ a shared, (h a shared).ending ≠ .stuck) :
    Finishes ⟨r.onNotification m read h, limit⟩ := by
  refine ⟨hd.requests, ?_⟩
  intro method h' hget params shared hstuck
  have hget : (r.notifications.insert (wireName m) (Router.notificationHandler read h)).get?
      method = some h' := hget
  rw [Table.get?_insert] at hget
  split at hget
  · cases hget
    unfold Router.notificationHandler at hstuck
    split at hstuck
    · exact hh _ _ hstuck
    · cases hstuck
  · exact hd.notifications hget _ _ hstuck

end Routers

theorem conclude_eq_none {limit : Option Nat} {id : RequestId} {x : CallEnd Json}
    (h : conclude limit id method x = none) : x = .stuck ∧ limit = none := by
  cases x with
  | stuck => exact ⟨rfl, Option.map_eq_none_iff.1 h⟩
  | _ => cases h

/-! ### Requests -/

/-- What a request can come to: an answer under its own identifier, or a handler that never
ends. The lifecycle follows the answer. -/
inductive Settled (d : Dispatcher σ) (s : ServerState σ) (r : Request) (step : Step σ) : Prop
  | answered {o : Except ResponseError Json} :
    step.response = some ⟨r.id, o⟩ →
    step.control = (if isExit r.method = true then .exit else .proceed) →
    step.state.lifecycle = lifecycleAfter s.lifecycle r.method o → Settled d s r step
  | waiting {h : RequestHandler σ} :
    step.response = none → step.control = .stall → step.state.lifecycle = s.lifecycle →
    d.limit = none → d.router.requests.get? r.method = some h →
    (h ⟨r.id, false⟩ r.params s.shared).ending = .stuck → Settled d s r step

theorem settled_run {r : Request} {h : RequestHandler σ} (hx : isExit r.method = false)
    (hh : d.router.requests.get? r.method = some h) : Settled d s r (d.run s r h) := by
  unfold run
  dsimp only
  split
  · exact .answered rfl (by rw [hx]; rfl) rfl
  · unfold invoke
    dsimp only
    cases hc : conclude d.limit r.id r.method (h ⟨r.id, false⟩ r.params s.shared).ending with
    | none =>
      obtain ⟨hstuck, hlimit⟩ := conclude_eq_none hc
      exact .waiting rfl rfl rfl hlimit hh hstuck
    | some p => exact .answered rfl (by rw [hx]; rfl) rfl

theorem lifecycleAfter_of_not_start {o : Except ResponseError Json}
    (h : isStart method = false) : lifecycleAfter l method o = l := by
  unfold lifecycleAfter
  cases o with
  | ok v => rw [h]; rfl
  | error e => rfl

theorem not_isStart_of_isExit (h : isExit method = true) : isStart method = false := by
  rw [eq_of_isExit h]
  decide

theorem handleControl_frame (s : ServerState σ) (c : ControlMethod) (params : Option Json) :
    (handleControl s c params).1 =
      { s with registry := (handleControl s c params).1.registry } := by
  cases c with
  | progress => rfl
  | cancelRequest =>
    unfold handleControl cancel
    dsimp only
    cases readParams CancelParams.read params <;> rfl

/-- **What a request comes to.** -/
theorem settled (d : Dispatcher σ) (s : ServerState σ) (r : Request) :
    Settled d s r (d.request s r) := by
  have hfollow : Settled d s r (d.follow s r (d.route s.lifecycle r.method)) := by
    have hroute := routed d s.lifecycle r.method
    generalize s.lifecycle = l at hroute
    generalize d.route l r.method = route at hroute
    have refused : ∀ {e : ResponseError} {log : List Log.Entry}, isExit r.method = false →
        Settled d s r ⟨s, some (.failure r.id e), .proceed, log⟩ := by
      intro e log hx
      exact .answered rfl (by rw [hx]; rfl) rfl
    cases hroute with
    | control hc =>
      refine .answered rfl (by rw [not_isExit_of_control hc]; rfl) ?_
      rw [lifecycleAfter_of_not_start (not_isStart_of_control hc)]
      show (handleControl s _ r.params).1.lifecycle = _
      rw [handleControl_frame]
    | exit hx =>
      refine .answered rfl (by rw [hx]; rfl) ?_
      rw [lifecycleAfter_of_not_start (not_isStart_of_isExit hx)]
      rfl
    | tooEarly ho hs => exact refused ho.not_exit
    | startedBefore hs => exact refused (not_isExit_of_isStart hs)
    | unknown ho ha hh => exact refused ho.not_exit
    | handler ho ha hh => exact settled_run ho.not_exit hh
  cases hfollow with
  | answered hr hc hl => exact .answered hr hc hl
  | waiting hr hc hl hlimit hh hstuck => exact .waiting hr hc hl hlimit hh hstuck

/-! ### Notifications -/

section Notices

variable {n : Notification}

theorem notify_frame (s : ServerState σ) (n : Notification) (h : NotificationHandler σ) :
    (notify s n h).state = { s with shared := (h n.params s.shared).state } := by
  unfold notify
  dsimp only
  cases (h n.params s.shared).ending <;> rfl

theorem notification_control {c : ControlMethod}
    (hc : Wire.ofName? ControlMethod n.method = some c) :
    d.notification s n =
      ⟨(handleControl s c n.params).1, none, .proceed, (handleControl s c n.params).2⟩ := by
  unfold notification
  rw [hc]

theorem notification_exit (hx : isExit n.method = true) :
    d.notification s n =
      ⟨s, none, .exit, [Log.dispatch .info "Exit notification received" []]⟩ := by
  unfold notification
  rw [not_control_of_isExit hx]
  exact if_pos hx

theorem notification_early (ho : Ordinary n.method) (hl : s.lifecycle = .uninitialized) :
    d.notification s n = ⟨s, none, .proceed,
      [Log.dispatch .debug "Dropping notification before initialize"
        [Log.methodField n.method]]⟩ := by
  unfold notification
  rw [ho.not_control]
  dsimp only
  rw [ho.not_exit, if_neg (by simp), if_pos hl]

theorem notification_open (ho : Ordinary n.method) (hl : s.lifecycle = .initialized) :
    d.notification s n =
      match d.router.notifications.get? n.method with
      | some h => notify s n h
      | none => ⟨s, none, .proceed,
          [Log.dispatch .info "Unhandled notification" [Log.methodField n.method]]⟩ := by
  unfold notification
  rw [ho.not_control]
  dsimp only
  rw [ho.not_exit, if_neg (by simp)]
  exact if_neg (by simp [hl])

/-- The ways of notifications, each with the reason for it. -/
inductive Noticed (d : Dispatcher σ) (s : ServerState σ) (n : Notification) : Prop
  | control {c : ControlMethod} : Wire.ofName? ControlMethod n.method = some c → Noticed d s n
  | exit : isExit n.method = true → Noticed d s n
  | early : Ordinary n.method → s.lifecycle = .uninitialized → Noticed d s n
  | unhandled : Ordinary n.method → s.lifecycle = .initialized →
    d.router.notifications.get? n.method = none → Noticed d s n
  | handled {h : NotificationHandler σ} : Ordinary n.method → s.lifecycle = .initialized →
    d.router.notifications.get? n.method = some h → Noticed d s n

theorem noticed (d : Dispatcher σ) (s : ServerState σ) (n : Notification) : Noticed d s n := by
  cases hc : Wire.ofName? ControlMethod n.method with
  | some c => exact .control hc
  | none =>
    cases hx : isExit n.method with
    | true => exact .exit hx
    | false =>
      cases hl : s.lifecycle with
      | uninitialized => exact .early ⟨hc, hx⟩ hl
      | initialized =>
        cases hh : d.router.notifications.get? n.method with
        | none => exact .unhandled ⟨hc, hx⟩ hl hh
        | some h => exact .handled ⟨hc, hx⟩ hl hh

/-- What a notification can come to: no answer, and the lifecycle stays. -/
structure Heard (d : Dispatcher σ) (s : ServerState σ) (n : Notification) (step : Step σ) :
    Prop where
  silent : step.response = none
  lifecycle : step.state.lifecycle = s.lifecycle
  control : d.Finishes → step.control = if isExit n.method = true then .exit else .proceed

theorem heard (d : Dispatcher σ) (s : ServerState σ) (n : Notification) :
    Heard d s n (d.notification s n) := by
  cases noticed d s n with
  | control hc =>
    rw [notification_control hc]
    refine ⟨rfl, ?_, fun _ => by rw [not_isExit_of_control hc]; rfl⟩
    dsimp only
    rw [handleControl_frame]
  | exit hx =>
    rw [notification_exit hx]
    exact ⟨rfl, rfl, fun _ => by rw [hx]; rfl⟩
  | early ho hl =>
    rw [notification_early ho hl]
    exact ⟨rfl, rfl, fun _ => by rw [ho.not_exit]; rfl⟩
  | unhandled ho hl hh =>
    rw [notification_open ho hl, hh]
    exact ⟨rfl, rfl, fun _ => by rw [ho.not_exit]; rfl⟩
  | @handled h ho hl hh =>
    rw [notification_open ho hl, hh]
    dsimp only
    unfold notify
    dsimp only
    cases hr : (h n.params s.shared).ending with
    | stuck => exact ⟨rfl, rfl, fun hd => absurd hr (hd.notifications hh _ _)⟩
    | _ => exact ⟨rfl, rfl, fun _ => by rw [ho.not_exit]; rfl⟩

end Notices

/-! ### Messages -/

def ends : Message → Bool
  | .request r => isExit r.method
  | .notification n => isExit n.method
  | .response _ => false

/-- The identifier that a message is answered under. -/
def answers : Message → Option RequestId
  | .request r => some r.id
  | _ => none

/-- **Every request is answered under its identifier**, and nothing else is. -/
theorem response_dispatch (hd : d.Finishes) (s : ServerState σ) (m : Message) :
    (d.dispatch s m).response.map Response.id = answers m := by
  cases m with
  | request r =>
    cases settled d s r with
    | answered hr _ _ => exact congrArg (Option.map Response.id) hr
    | waiting _ _ _ hlimit hh hstuck => exact absurd hlimit (hd.requests hh _ _ _ hstuck)
  | notification n => exact congrArg (Option.map Response.id) (heard d s n).silent
  | response r => rfl

/-- **Only the exit ends a session.** -/
theorem control_dispatch (hd : d.Finishes) (s : ServerState σ) (m : Message) :
    (d.dispatch s m).control = if ends m = true then .exit else .proceed := by
  cases m with
  | request r =>
    cases settled d s r with
    | answered _ hc _ => exact hc
    | waiting _ _ _ hlimit hh hstuck => exact absurd hlimit (hd.requests hh _ _ _ hstuck)
  | notification n => exact (heard d s n).control hd
  | response r => rfl

end Dispatcher

end SyntaxServer
