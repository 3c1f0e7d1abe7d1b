import SyntaxServer.Proofs.Server.Documents
import SyntaxServer.Proofs.Server.Turns

/-!
Messages that leave no trace. A message that is refused or ignored leaves the whole state of the
server as it is (`traceless_of_ignored`), so the rest of a session does not see it: the session
without it writes the same, but for its own answer (`messages_without`).
-/

namespace SyntaxServer

namespace Dispatcher

variable {σ : Type} {d : Dispatcher σ} {s : ServerState σ} {m : Message} {r : Request}
  {n : Notification}

/-! ### What leaves no trace -/

/-- A message leaves no trace: the state after it is that before it, and the session goes on. -/
structure Traceless (d : Dispatcher σ) (s : ServerState σ) (m : Message) : Prop where
  state : (d.handle s m).state = s
  control : (d.handle s m).control = .proceed

/-- It queues nothing either, if nothing waits. -/
theorem Traceless.dispatch (h : d.Traceless s m) (ho : s.outbox = []) :
    (d.dispatch s m).state = s ∧ (d.dispatch s m).notifications = [] ∧
      (d.dispatch s m).control = .proceed := by
  unfold Dispatcher.dispatch
  dsimp only
  rw [h.state, h.control]
  obtain ⟨lifecycle, registry, outbox, shared⟩ := s
  cases ho
  exact ⟨rfl, rfl, rfl⟩

/-- A method of the protocol itself does nothing: a progress, or a cancellation that is none. -/
def Idles (c : ControlMethod) (params : Option Json) : Prop :=
  match c with
  | .progress => True
  | .cancelRequest => ∃ e, readParams CancelParams.read params = .error e

theorem handleControl_of_idles {c : ControlMethod} {params : Option Json} (h : Idles c params)
    (s : ServerState σ) : (handleControl s c params).1 = s := by
  cases c with
  | progress => rfl
  | cancelRequest =>
    obtain ⟨e, he⟩ := h
    unfold handleControl cancel
    dsimp only
    rw [he]

theorem traceless_notice (hstate : (d.notification s n).state = s)
    (hcontrol : (d.notification s n).control = .proceed) : d.Traceless s (.notification n) :=
  ⟨hstate, hcontrol⟩

theorem traceless_control_notice {c : ControlMethod}
    (hc : Wire.ofName? ControlMethod n.method = some c) (h : Idles c n.params) :
    d.Traceless s (.notification n) := by
  refine traceless_notice ?_ ?_
  · rw [notification_control hc]
    exact handleControl_of_idles h s
  · rw [notification_control hc]

theorem traceless_control_request {c : ControlMethod}
    (hc : Wire.ofName? ControlMethod r.method = some c) (h : Idles c r.params) :
    d.Traceless s (.request r) := by
  have hroute : d.route s.lifecycle r.method = .control c := by
    unfold route
    rw [hc]
  constructor
  · show (d.follow s r (d.route s.lifecycle r.method)).state = s
    rw [hroute]
    exact handleControl_of_idles h s
  · show (d.follow s r (d.route s.lifecycle r.method)).control = .proceed
    rw [hroute]
    rfl

theorem traceless_early (ho : Ordinary n.method) (hl : s.lifecycle = .uninitialized) :
    d.Traceless s (.notification n) := by
  refine traceless_notice ?_ ?_
  · rw [notification_early ho hl]
  · rw [notification_early ho hl]

theorem traceless_unhandled (ho : Ordinary n.method)
    (hh : d.router.notifications.get? n.method = none) : d.Traceless s (.notification n) := by
  cases hl : s.lifecycle with
  | uninitialized => exact traceless_early ho hl
  | initialized =>
    refine traceless_notice ?_ ?_
    · rw [notification_open ho hl, hh]
    · rw [notification_open ho hl, hh]

theorem traceless_failed {h : NotificationHandler σ} {e : HandlerError} (ho : Ordinary n.method)
    (hh : d.router.notifications.get? n.method = some h)
    (hrun : h n.params s.shared = ⟨s.shared, .failed e, []⟩) : d.Traceless s (.notification n) := by
  cases hl : s.lifecycle with
  | uninitialized => exact traceless_early ho hl
  | initialized =>
    have hstep : (notify s n h).state = s ∧ (notify s n h).control = .proceed := by
      unfold notify
      dsimp only
      rw [hrun]
      exact ⟨rfl, rfl⟩
    refine traceless_notice ?_ ?_
    · rw [notification_open ho hl, hh]
      exact hstep.1
    · rw [notification_open ho hl, hh]
      exact hstep.2

theorem traceless_refused (hr : d.route s.lifecycle r.method = .tooEarly ∨
    d.route s.lifecycle r.method = .startedBefore ∨ d.route s.lifecycle r.method = .unknown) :
    d.Traceless s (.request r) := by
  have hfollow : (d.follow s r (d.route s.lifecycle r.method)).state = s ∧
      (d.follow s r (d.route s.lifecycle r.method)).control = .proceed := by
    rcases hr with hr | hr | hr
    · rw [hr]
      exact ⟨rfl, rfl⟩
    · rw [hr]
      exact ⟨rfl, rfl⟩
    · rw [hr]
      exact ⟨rfl, rfl⟩
  exact ⟨hfollow.1, hfollow.2⟩

end Dispatcher

namespace Backend

open Dispatcher

variable {grammars : Grammars} {limit : Option Nat} {s : ServerState Documents} {m : Message}
  {r : Request} {n : Notification}

/-! ### Messages that are refused or ignored -/

/-- The parameters of a notification are no payload of its method. -/
def Unreadable (n : Notification) : Prop :=
  match Wire.ofName? Method n.method with
  | some .started => ∃ e, readParams readStarted n.params = .error e
  | some .didOpen => ∃ e, readParams readOpening n.params = .error e
  | some .didChange => ∃ e, readParams ChangeParams.read n.params = .error e
  | some .didClose => ∃ e, readParams readClosing n.params = .error e
  | _ => False

/-- An answer refuses a request: the session has not started, or has already, or nobody handles
the method. -/
def Refuses (r : Request) (answer : Option Response) : Prop :=
  errorCode? answer = some ErrorCode.serverNotInitialized.code ∨
    errorCode? answer = some ErrorCode.methodNotFound.code ∨
      isStart r.method = true ∧ errorCode? answer = some ErrorCode.invalidRequest.code

/-- A message that is refused or ignored in a state: the answer of a client; a progress, or a
cancellation that is none, as a notification or as a request; a notification that nobody handles,
whose parameters cannot be read, or that comes before the start; a request that is refused. -/
inductive Ignored (d : Dispatcher Documents) (s : ServerState Documents) : Message → Prop
  | answer (a : Response) : Ignored d s (.response a)
  | controlNotice {n : Notification} {c : ControlMethod} :
    Wire.ofName? ControlMethod n.method = some c → Idles c n.params →
    Ignored d s (.notification n)
  | controlRequest {r : Request} {c : ControlMethod} :
    Wire.ofName? ControlMethod r.method = some c → Idles c r.params → Ignored d s (.request r)
  | unhandled {n : Notification} : Ordinary n.method →
    d.router.notifications.get? n.method = none → Ignored d s (.notification n)
  | unreadable {n : Notification} : Unreadable n → Ignored d s (.notification n)
  | early {n : Notification} : s.lifecycle = .uninitialized → isExit n.method = false →
    Wire.ofName? ControlMethod n.method ≠ some .cancelRequest → Ignored d s (.notification n)
  | refused {r : Request} : Refuses r (d.dispatch s (.request r)).response →
    Ignored d s (.request r)

/-- A notification whose parameters cannot be read has a handler, which fails and does nothing. -/
theorem run_of_unreadable (grammars : Grammars) (hn : Unreadable n) :
    Ordinary n.method ∧ ∃ h, (router grammars).notifications.get? n.method = some h ∧
      ∀ ds, ∃ e, h n.params ds = ⟨ds, .failed e, []⟩ := by
  have hfails : ∀ {α : Type} {read : Payload.Reader α} (g : α → Documents → Run Documents Unit),
      (∃ e, readParams read n.params = .error e) →
      ∀ ds, ∃ e, Router.notificationHandler read g n.params ds = ⟨ds, .failed e, []⟩ := by
    intro α read g he ds
    obtain ⟨e, he⟩ := he
    exact ⟨_, Router.notificationHandler_error he g ds⟩
  unfold Unreadable at hn
  rw [get?_notifications]
  cases hm : Wire.ofName? Method n.method with
  | none =>
    rw [hm] at hn
    exact hn.elim
  | some m =>
    have hname := wireName_of_ofName? hm
    rw [hm] at hn
    rw [← hname]
    cases m with
    | started => exact ⟨⟨by decide, by decide⟩, _, rfl, hfails started hn⟩
    | didOpen => exact ⟨⟨by decide, by decide⟩, _, rfl, hfails opened hn⟩
    | didChange => exact ⟨⟨by decide, by decide⟩, _, rfl, hfails changed hn⟩
    | didClose => exact ⟨⟨by decide, by decide⟩, _, rfl, hfails closed hn⟩
    | _ => exact hn.elim

/-- A request that comes to a handler is answered with a value, or with one of the codes with which
the handlers fail. -/
theorem code_of_handler {h : RequestHandler Documents} {code : Int}
    (hroute : (dispatcher grammars limit).route s.lifecycle r.method = .handler h)
    (hcode : errorCode? ((dispatcher grammars limit).dispatch s (.request r)).response =
      some code) : code ∈ failureCodes := by
  have hh := get?_of_route hroute
  by_cases hearly : r.id ∈ s.registry.early
  · rw [(dispatch_cancelled hroute hearly).1] at hcode
    cases hcode
    decide
  · have hi := mt (invoked_cancelled hroute).1 hearly
    rw [(dispatch_verdict hi hh rfl).1] at hcode
    have hmodest := modest_of_get? hh ⟨r.id, false⟩ r.params s.shared
    rcases hmodest.ending with ⟨v, hv⟩ | ⟨e, he, hmem⟩ | ⟨-, p, d, hpending⟩
    · rw [hv] at hcode
      cases hcode
    · rw [he] at hcode
      cases hcode
      exact hmem
    · cases hpending

/-- **A request that is answered with a refusal does not come to a handler.** -/
theorem refused_of_refuses (hr : Refuses r ((dispatcher grammars limit).dispatch s
    (.request r)).response) :
    (dispatcher grammars limit).route s.lifecycle r.method = .tooEarly ∨
      (dispatcher grammars limit).route s.lifecycle r.method = .startedBefore ∨
      (dispatcher grammars limit).route s.lifecycle r.method = .unknown := by
  -- the codes of refusals are none of those with which handlers fail
  have hcode : ∃ code, code ∉ failureCodes ∧
      errorCode? ((dispatcher grammars limit).dispatch s (.request r)).response = some code := by
    rcases hr with hr | hr | ⟨-, hr⟩
    · exact ⟨_, by decide, hr⟩
    · exact ⟨_, by decide, hr⟩
    · exact ⟨_, by decide, hr⟩
  obtain ⟨code, hnot, hcode⟩ := hcode
  have hfollow : errorCode? ((dispatcher grammars limit).follow s r
      ((dispatcher grammars limit).route s.lifecycle r.method)).response = some code := hcode
  cases hroute : (dispatcher grammars limit).route s.lifecycle r.method with
  | handler h => exact absurd (code_of_handler hroute hcode) hnot
  | control c =>
    rw [hroute] at hfollow
    cases hfollow
  | exit =>
    rw [hroute] at hfollow
    cases hfollow
  | tooEarly => exact Or.inl rfl
  | startedBefore => exact Or.inr (Or.inl rfl)
  | unknown => exact Or.inr (Or.inr rfl)

/-- **A message that is refused or ignored leaves no trace.** -/
theorem traceless_of_ignored (h : Ignored (dispatcher grammars limit) s m) :
    (dispatcher grammars limit).Traceless s m := by
  cases h with
  | answer a => exact ⟨rfl, rfl⟩
  | controlNotice hc hidle => exact traceless_control_notice hc hidle
  | controlRequest hc hidle => exact traceless_control_request hc hidle
  | unhandled ho hh => exact traceless_unhandled ho hh
  | unreadable hn =>
    obtain ⟨ho, h, hh, hrun⟩ := run_of_unreadable grammars hn
    obtain ⟨e, he⟩ := hrun s.shared
    exact traceless_failed ho hh he
  | @early n hl hx hc =>
    cases hcontrol : Wire.ofName? ControlMethod n.method with
    | none => exact traceless_early ⟨hcontrol, hx⟩ hl
    | some c =>
      cases c with
      | cancelRequest => exact absurd hcontrol hc
      | progress => exact traceless_control_notice hcontrol trivial
  | refused hr => exact traceless_refused (refused_of_refuses hr)

end Backend

namespace Session

open Backend

variable {grammars : Grammars} {limit : Option Nat} {s : ServerState Documents}
  {limits : Limits} {body : List UInt8}

/-! ### Sessions -/

/-- A body that is refused or ignored in a state: no message, or one that is. -/
def Inert (d : Dispatcher Documents) (s : ServerState Documents) (body : List UInt8) : Prop :=
  match Message.decode body with
  | .error _ => True
  | .ok m => Ignored d s m

/-- A body that is refused or ignored is no message that asks for the exit, and what is written for
it is the answer that it is owed. -/
theorem onBody_of_inert (ho : s.outbox = []) (h : Inert (dispatcher grammars limit) s body) :
    (onBody (dispatcher grammars limit) s body).state = s ∧
      (onBody (dispatcher grammars limit) s body).ending = none ∧
      ∃ answer : Option Response, answer.map Response.id = owed? body ∧
        (onBody (dispatcher grammars limit) s body).outgoing = (answer.map .response).toList := by
  have howed : (onBody (dispatcher grammars limit) s body).outgoing.filterMap
      Outgoing.answered? = (owed? body).toList :=
    answered_onFrame (finishes grammars limit) s ⟨body.length, body⟩
  have hid : ∀ answer : Option Response,
      (onBody (dispatcher grammars limit) s body).outgoing = (answer.map .response).toList →
        answer.map Response.id = owed? body := by
    intro answer hout
    rw [hout, answered_response] at howed
    rw [← Option.head?_toList (o := answer.map Response.id), howed, Option.head?_toList]
  unfold Inert at h
  cases hm : Message.decode body with
  | error e =>
    obtain ⟨hstate, hout, hend⟩ := onBody_error (d := dispatcher grammars limit) (s := s) hm
    exact ⟨hstate, hend, e.response?, hid _ hout, hout⟩
  | ok m =>
    rw [hm] at h
    obtain ⟨hstate, hout, hend⟩ := onBody_ok (d := dispatcher grammars limit) (s := s) hm
    obtain ⟨hsame, hnotes, hcontrol⟩ := (traceless_of_ignored h).dispatch ho
    rw [hnotes, List.map_nil, List.nil_append] at hout
    rw [hcontrol] at hend
    exact ⟨hstate.trans hsame, hend, _, hid _ hout, hout⟩

/-- **Messages that are refused or ignored leave no trace.** Let one of the bodies of a session be
inert in the state that the bodies before it lead to. The session without it writes the same, but
for the answer that the body is owed, and it ends the same way if its stream does; and the body
leaves the state of the server as it is, with its lifecycle, its registry, its outbox and its
documents. If the bodies before it end the session, nobody sees it at all. -/
theorem messages_without (hl : 1 ≤ limits.lineLength) (grammars : Grammars) (limit : Option Nat)
    (shared : Documents) {input without : Source} {pre post : List (List UInt8)}
    {body : List UInt8} (hinput : bodies (allReadings limits input) = pre ++ body :: post)
    (hwithout : bodies (allReadings limits without) = pre ++ post)
    (hinert : ∀ s, reach? (dispatcher grammars limit) (.start shared) pre = some s →
      Inert (dispatcher grammars limit) s body) :
    ∃ (before behind : List Outgoing) (answer : Option Response),
      (run (dispatcher grammars limit) shared limits input .unbounded).messages =
          before ++ (answer.map .response).toList ++ behind ∧
        (run (dispatcher grammars limit) shared limits without .unbounded).messages =
          before ++ behind ∧
        (input.ending = without.ending →
          (run (dispatcher grammars limit) shared limits input .unbounded).ending =
            (run (dispatcher grammars limit) shared limits without .unbounded).ending) ∧
        (reach? (dispatcher grammars limit) (.start shared) pre = none → answer = none) ∧
        ∀ s, reach? (dispatcher grammars limit) (.start shared) pre = some s →
          answer.map Response.id = owed? body ∧
            (onBody (dispatcher grammars limit) s body).state = s := by
  have hfinishes := finishes grammars limit
  rw [messages_run hl, messages_run hl, ending_run hfinishes hl, ending_run hfinishes hl, hinput,
    hwithout, outgoingOf_append, outgoingOf_append, List.any_append, List.any_append, List.any_cons]
  cases hreach : reach? (dispatcher grammars limit) (.start shared) pre with
  | none =>
    -- a body before it has ended the session
    have hexit := (reach?_eq_none hfinishes _ pre).1 hreach
    refine ⟨_, [], none, ?_, rfl, ?_, fun _ => rfl, nofun⟩
    · rw [Option.map_none, Option.toList_none, List.append_nil, List.append_nil]
    · intro _
      rw [hexit, Bool.true_or, Bool.true_or]
      rfl
  | some s =>
    -- nothing waits between two messages, so that the outbox, too, is left as it was
    have ho : s.outbox = [] := of_reach? (P := fun s => s.outbox = []) (fun _ _ _ => rfl) rfl hreach
    obtain ⟨hstate, hend, answer, hid, hout⟩ := onBody_of_inert ho (hinert s hreach)
    have hexit := (ending_onBody_eq_none hfinishes s body).1 hend
    refine ⟨outgoingOf (dispatcher grammars limit) (.start shared) pre,
      outgoingOf (dispatcher grammars limit) s post, answer, ?_, rfl, ?_, nofun, ?_⟩
    · dsimp only
      rw [outgoingOf_cons, hend, hstate, hout, List.append_assoc]
    · intro hsource
      rw [hexit, Bool.false_or, hsource]
    · intro t ht
      obtain rfl := Option.some.inj ht
      exact ⟨hid, hstate⟩

def startBody : List UInt8 :=
  Utf8.encode ("\x7b\"jsonrpc\":\"2.0\",\"id\":1,\"method\":\"initialize\"," ++
    "\"params\":\x7b\"capabilities\":\x7b\x7d\x7d\x7d").toList

/-- An object with an identifier that is no message. -/
def brokenBody : List UInt8 := Utf8.encode "\x7b\"id\":5\x7d".toList

def shutdownBody : List UInt8 :=
  Utf8.encode "\x7b\"jsonrpc\":\"2.0\",\"id\":2,\"method\":\"shutdown\"\x7d".toList

/-- What is no message is answered, and leaves no trace. -/
theorem messages_without_broken :
    ∃ (before behind : List Outgoing) (answer : Option Response),
      (run bareServer .empty .usual (.ofBytes ([startBody, brokenBody, shutdownBody].flatMap frame)
        .closed) .unbounded).messages = before ++ (answer.map .response).toList ++ behind ∧
      (run bareServer .empty .usual (.ofBytes ([startBody, shutdownBody].flatMap frame) .closed)
        .unbounded).messages = before ++ behind ∧
      answer.map Response.id = some (.number 5) := by
  have hl : 1 ≤ Limits.usual.lineLength := by decide
  have hinput : bodies (allReadings .usual
      (.ofBytes ([startBody, brokenBody, shutdownBody].flatMap frame) .closed)) =
        [startBody] ++ brokenBody :: [shutdownBody] := by decide +kernel
  have hwithout : bodies (allReadings .usual
      (.ofBytes ([startBody, shutdownBody].flatMap frame) .closed)) =
        [startBody] ++ [shutdownBody] := by decide +kernel
  have hbroken : (Message.decode brokenBody).toOption.isSome = false := by decide +kernel
  have hinert : ∀ s, Inert bareServer s brokenBody := by
    intro s
    unfold Inert
    cases hm : Message.decode brokenBody with
    | error e => trivial
    | ok m =>
      rw [hm] at hbroken
      cases hbroken
  have hreach : (reach? bareServer (.start .empty) [startBody]).isSome = true := by
    decide +kernel
  obtain ⟨s, hs⟩ := Option.isSome_iff_exists.1 hreach
  obtain ⟨before, behind, answer, h, h', -, -, hanswer⟩ :=
    messages_without hl noGrammar none .empty hinput hwithout fun s _ => hinert s
  refine ⟨before, behind, answer, h, h', (hanswer s hs).1.trans ?_⟩
  decide +kernel

end Session

end SyntaxServer
