import SyntaxServer.Proofs.Server.Documents
import SyntaxServer.Proofs.Server.Progress
import SyntaxServer.Proofs.Server.Turns

/-!
The outbox. Between two messages it is empty, and only a request that runs its handler fills it. So
what is written for such a request is what its handler queued, every progress begun and ended, and
then the answer (`outgoing_of_runs`), and nothing is queued for any other message
(`outgoing_of_idle`). Of the server's own handlers only the hover queues anything: the two ends of
its progress, however its analysis fares (`spare_of_reached`).
-/

namespace SyntaxServer

namespace Dispatcher

variable {σ : Type} {d : Dispatcher σ} {s : ServerState σ} {m : Message} {r : Request}

/-! ### Messages that queue nothing -/

theorem outbox_notification (d : Dispatcher σ) (s : ServerState σ) (n : Notification) :
    (d.notification s n).state.outbox = s.outbox := by
  cases noticed d s n with
  | control hc =>
    rw [notification_control hc]
    dsimp only
    rw [handleControl_frame]
  | exit hx => rw [notification_exit hx]
  | early ho hl => rw [notification_early ho hl]
  | unhandled ho hl hh => rw [notification_open ho hl, hh]
  | handled ho hl hh =>
    rw [notification_open ho hl, hh]
    dsimp only
    rw [notify_frame]

theorem outbox_request (hi : d.invoked s (.request r) = []) :
    (d.request s r).state.outbox = s.outbox := by
  show (d.follow s r (d.route s.lifecycle r.method)).state.outbox = s.outbox
  cases hroute : d.route s.lifecycle r.method with
  | control c =>
    show (handleControl s c r.params).1.outbox = s.outbox
    rw [handleControl_frame]
  | handler h =>
    have hearly := (invoked_cancelled hroute).1 hi
    show (d.run s r h).state.outbox = s.outbox
    rw [run_cancelled hearly]
  | _ => rfl

/-- **Only a request that runs its handler queues anything.** -/
theorem notifications_of_idle (hm : ∀ r, m = .request r → d.invoked s (.request r) = []) :
    (d.dispatch s m).notifications = s.outbox := by
  cases m with
  | request r => exact outbox_request (hm r rfl)
  | notification n => exact outbox_notification d s n
  | response r => rfl

end Dispatcher

namespace Session

variable {σ : Type} {d : Dispatcher σ} {x : Turn σ} {r : Request}

/-! ### Turns -/

theorem outbox_of_turn {shared : σ} {xs : List (List UInt8)}
    (hx : x ∈ turns d (.start shared) xs) : x.before.outbox = [] :=
  before_of_turn (P := fun s => s.outbox = []) (fun _ _ _ => rfl) rfl hx

/-- A turn runs the handler of a request. -/
def Turn.Runs (d : Dispatcher σ) (x : Turn σ) (r : Request) : Prop :=
  Message.decode x.body = .ok (.request r) ∧ d.invoked x.before (.request r) ≠ []

/-- What the handler of a request does in a turn. -/
def Turn.call (x : Turn σ) (r : Request) (h : RequestHandler σ) : RequestRun σ :=
  h ⟨r.id, false⟩ r.params x.before.shared

theorem outgoing_verdict {h : RequestHandler σ} (ho : x.before.outbox = []) (hr : x.Runs d r)
    (hh : d.router.requests.get? r.method = some h) :
    (x.reaction d).outgoing =
      match Dispatcher.verdict d.limit (x.call r h).ending with
      | some o => (Effect.queue (x.call r h).effects).map .notification ++ [.response ⟨r.id, o⟩]
      | none => [] := by
  have hcall : h ⟨r.id, false⟩ r.params x.before.shared = x.call r h := rfl
  obtain ⟨hresponse, hnotes⟩ := Dispatcher.dispatch_verdict hr.2 hh hcall
  refine (onBody_ok hr.1).2.1.trans ?_
  rw [hresponse, hnotes, ho]
  cases Dispatcher.verdict d.limit (x.call r h).ending <;> rfl

/-- **What a turn writes that runs the handler of a request**, if the handler ends or has a limit:
what it queued, in its order, and then the answer. -/
theorem outgoing_of_runs {h : RequestHandler σ} (ho : x.before.outbox = []) (hr : x.Runs d r)
    (hh : d.router.requests.get? r.method = some h)
    (hend : (x.call r h).ending = .stuck → d.limit ≠ none) :
    ∃ ns o, Progress.Queued [] (x.call r h).effects ns ∧
      Progress.Bracketed (x.call r h).effects ns ∧
      Dispatcher.verdict d.limit (x.call r h).ending = some o ∧
      (x.reaction d).outgoing = ns.map .notification ++ [.response ⟨r.id, o⟩] := by
  have hout := outgoing_verdict ho hr hh
  have hqueued := Progress.queued_queueFrom [] (x.call r h).effects
  cases hv : Dispatcher.verdict d.limit (x.call r h).ending with
  | none =>
    obtain ⟨hstuck, hlimit⟩ := Dispatcher.conclude_eq_none (Option.map_eq_none_iff.1 hv)
    exact absurd hlimit (hend hstuck)
  | some o =>
    rw [hv] at hout
    exact ⟨_, o, hqueued, Progress.bracketed_of_queued hqueued, rfl, hout⟩

/-- A turn whose handler never ends, without a limit, writes nothing. -/
theorem outgoing_of_stuck {h : RequestHandler σ} (ho : x.before.outbox = []) (hr : x.Runs d r)
    (hh : d.router.requests.get? r.method = some h) (hstuck : (x.call r h).ending = .stuck)
    (hlimit : d.limit = none) : (x.reaction d).outgoing = [] := by
  rw [outgoing_verdict ho hr hh, hstuck, hlimit]
  rfl

theorem not_mem_response (answer : Option Response) (n : Notification) :
    Outgoing.notification n ∉ (answer.map Outgoing.response).toList := by
  intro hn
  cases answer with
  | none => cases hn
  | some a => cases List.mem_singleton.1 hn

/-- **A turn that runs no handler of a request writes no notification.** -/
theorem outgoing_of_idle (ho : x.before.outbox = []) (hidle : ∀ r, ¬ x.Runs d r)
    (n : Notification) : .notification n ∉ (x.reaction d).outgoing := by
  show .notification n ∉ (onBody d x.before x.body).outgoing
  cases hm : Message.decode x.body with
  | error e =>
    rw [(onBody_error hm).2.1]
    exact not_mem_response e.response? n
  | ok m =>
    have hnone : (d.dispatch x.before m).notifications = [] := by
      rw [← ho]
      refine Dispatcher.notifications_of_idle fun r hr => ?_
      refine Classical.byContradiction fun hi => hidle r ⟨?_, hi⟩
      rw [hm, hr]
    rw [(onBody_ok hm).2.1, hnone]
    exact not_mem_response (d.dispatch x.before m).response n

/-- What a turn writes: what the handler that it runs has queued, every progress begun and ended,
and then the answer; no notification if it runs none; nothing while it waits for a handler that
never ends. -/
structure Turn.Tidy (d : Dispatcher σ) (x : Turn σ) : Prop where
  runs : ∀ r h, x.Runs d r → d.router.requests.get? r.method = some h →
    ((x.call r h).ending = .stuck → d.limit ≠ none) →
    ∃ ns o, Progress.Queued [] (x.call r h).effects ns ∧
      Progress.Bracketed (x.call r h).effects ns ∧
      Dispatcher.verdict d.limit (x.call r h).ending = some o ∧
      (x.reaction d).outgoing = ns.map .notification ++ [.response ⟨r.id, o⟩]
  idle : (∀ r, ¬ x.Runs d r) → ∀ n, .notification n ∉ (x.reaction d).outgoing
  stuck : ∀ r h, x.Runs d r → d.router.requests.get? r.method = some h →
    (x.call r h).ending = .stuck → d.limit = none → (x.reaction d).outgoing = []

theorem tidy_of_outbox (ho : x.before.outbox = []) : x.Tidy d where
  runs _ _ hr hh hend := outgoing_of_runs ho hr hh hend
  idle hidle := outgoing_of_idle ho hidle
  stuck _ _ hr hh hstuck hlimit := outgoing_of_stuck ho hr hh hstuck hlimit

end Session

namespace Backend

open Session

variable {o : Outside} {limit : Option Nat} {s : ServerState Documents} {x : Turn Documents}
  {r : Request} {p : HoverParams} {token : RequestId}

/-! ### The server's own states -/

/-- The states in which the server can be, whatever is given to it for each message. -/
inductive Reached : ServerState Documents → Prop
  | start : Reached (.start .empty)
  | step {s : ServerState Documents} (o : Outside) (limit : Option Nat) (m : Message) :
    Reached s → Reached ((server o limit).dispatch s m).state

theorem outbox_of_reached (h : Reached s) : s.outbox = [] := by
  cases h <;> rfl

theorem unopened_dispatch (s : ServerState Documents) (m : Message)
    (hs : s.lifecycle = .uninitialized → s.shared = .empty)
    (hl : ((server o limit).dispatch s m).state.lifecycle = .uninitialized) :
    ((server o limit).dispatch s m).state.shared = .empty := by
  have hbefore : s.lifecycle = .uninitialized := by
    cases hl' : s.lifecycle with
    | uninitialized => rfl
    | initialized =>
      rw [(Dispatcher.lifecycle_dispatch (server o limit) s m).2 (Or.inl hl')] at hl
      cases hl
  have hnone : accepted? s m = none := by
    unfold accepted?
    rw [hbefore]
  rw [shared_dispatch, hnone]
  exact hs hbefore

theorem unopened_of_reached (h : Reached s) (hl : s.lifecycle = .uninitialized) :
    s.shared = .empty := by
  induction h with
  | start => rfl
  | @step s o limit m h ih => exact unopened_dispatch s m ih hl

theorem initialized_of_reached {u : Url} (h : Reached s) (hopen : s.shared.get? u ≠ none) :
    s.lifecycle = .initialized := by
  cases hl : s.lifecycle with
  | initialized => rfl
  | uninitialized =>
    rw [unopened_of_reached h hl] at hopen
    exact absurd rfl hopen

theorem reached_of_turn {xs : List (List UInt8)}
    (hx : x ∈ turns (server o limit) (.start .empty) xs) : Reached x.before :=
  before_of_turn (P := Reached) (fun _ m h => .step o limit m h) .start hx

/-! ### What its handlers queue -/

/-- What a hover queues: the ends of its progress, if a document is open and it is asked for. -/
theorem effects_hover (o : Outside) (call : Call) (p : HoverParams) (ds : Documents) :
    (hover o call p ds).effects =
      match ds.get? p.uri with
      | none => []
      | some _ => (p.token.map fun t => Effect.progress t (.titled progressTitle)).toList := by
  unfold hover
  cases ds.get? p.uri with
  | none => rfl
  | some d =>
    dsimp only
    cases o.analysis p d <;> rfl

theorem asked_of_effects {call : Call} {params : Option Json} {ds : Documents}
    (he : (Router.requestHandler HoverParams.read (hover o) call params ds).effects ≠ []) :
    ∃ p token, readParams HoverParams.read params = .ok p ∧ p.token = some token ∧
      ds.get? p.uri ≠ none := by
  cases hp : readParams HoverParams.read params with
  | error e =>
    rw [Router.requestHandler_error hp] at he
    exact absurd rfl he
  | ok p =>
    rw [Router.requestHandler_ok hp, effects_hover] at he
    cases hd : ds.get? p.uri with
    | none =>
      rw [hd] at he
      exact absurd rfl he
    | some d =>
      cases ht : p.token with
      | none =>
        rw [hd, ht] at he
        exact absurd rfl he
      | some t => exact ⟨p, t, rfl, ht, hd ▸ Option.some_ne_none d⟩

theorem effects_requestHandler {α : Type} {read : Payload.Reader α}
    {h : Call → α → Documents → RequestRun Documents}
    (hh : ∀ call a ds, (h call a ds).effects = []) (call : Call) (params : Option Json)
    (ds : Documents) : (Router.requestHandler read h call params ds).effects = [] := by
  cases hp : readParams read params with
  | ok a =>
    rw [Router.requestHandler_ok hp]
    exact hh call a ds
  | error e =>
    rw [Router.requestHandler_error hp]
    rfl

/-- **Only hovers queue anything.** -/
theorem hover_of_effects {method : String} {h : RequestHandler Documents}
    (hh : (routerOf o).requests.get? method = some h) {call : Call} {params : Option Json}
    {ds : Documents} (he : (h call params ds).effects ≠ []) :
    method = wireName Method.hover ∧ ∃ p token, readParams HoverParams.read params = .ok p ∧
      p.token = some token ∧ ds.get? p.uri ≠ none := by
  rcases request_cases hh with ⟨-, rfl⟩ | ⟨-, rfl⟩ | ⟨hmethod, rfl⟩
  · exact absurd (effects_requestHandler (fun _ _ _ => rfl) call params ds) he
  · exact absurd (effects_requestHandler (fun _ _ _ => rfl) call params ds) he
  · exact ⟨hmethod, asked_of_effects he⟩

/-! ### What it writes -/

/-- A turn hovers under a progress: its message is a request for a hover with a token, on a
document that is open, and no cancellation of it waits. -/
structure HoversUnder (x : Turn Documents) (r : Request) (p : HoverParams) (token : RequestId) :
    Prop where
  message : Message.decode x.body = .ok (.request r)
  method : r.method = "textDocument/hover"
  payload : readParams HoverParams.read r.params = .ok p
  asked : p.token = some token
  opened : x.before.shared.get? p.uri ≠ none
  awaited : r.id ∉ x.before.registry.early

theorem runs_of_hoversUnder (hl : x.before.lifecycle = .initialized)
    (hx : HoversUnder x r p token) : x.Runs (server o limit) r := by
  have hroute : (server o limit).route x.before.lifecycle r.method =
      .handler (Router.requestHandler HoverParams.read (hover o)) := by
    rw [hl, hx.method]
    rfl
  exact ⟨hx.message, mt (Dispatcher.invoked_cancelled hroute).1 hx.awaited⟩

/-- **A hover under a progress writes its two ends and the answer**, and nothing between; and
nothing at all while the server waits for it. -/
theorem outgoing_of_hoversUnder (hl : x.before.lifecycle = .initialized)
    (ho : x.before.outbox = []) (hx : HoversUnder x r p token) :
    (x.reaction (server o limit)).outgoing =
      match hoverVerdict? o limit p (x.before.shared.get? p.uri) with
      | some a => [.notification (Progress.first token ⟨"Analyzing syntax", none, none, none⟩),
          .notification (Progress.last token), .response ⟨r.id, a⟩]
      | none => [] := by
  have hlimit : (server o limit).limit = limit := rfl
  have hcall : x.call r (Router.requestHandler HoverParams.read (hover o)) =
      hover o ⟨r.id, false⟩ p x.before.shared := Router.requestHandler_ok hx.payload _ _ _
  obtain ⟨d, hd⟩ := Option.ne_none_iff_exists'.1 hx.opened
  rw [outgoing_verdict ho (runs_of_hoversUnder hl hx) (get?_hover o hx.method), hcall,
    effects_hover, hx.asked, hlimit, verdict_hover, hd]
  cases hoverVerdict? o limit p (some d) <;> rfl

/-- **A turn that writes a notification hovers under a progress.** -/
theorem hoversUnder_of_notification (ho : x.before.outbox = []) {n : Notification}
    (hn : .notification n ∈ (x.reaction (server o limit)).outgoing) :
    ∃ r p token, HoversUnder x r p token := by
  -- a turn without a handler writes none, and all handlers but that of hovers queue none
  have hruns : ∃ r, x.Runs (server o limit) r := by
    refine Classical.byContradiction fun hnone => ?_
    exact outgoing_of_idle ho (fun r hr => hnone ⟨r, hr⟩) n hn
  obtain ⟨r, hr⟩ := hruns
  obtain ⟨h, -, hh, hearly⟩ := Dispatcher.handler_of_invoked hr.2
  have heffects : (x.call r h).effects ≠ [] := by
    intro hnone
    rw [outgoing_verdict ho hr hh, hnone] at hn
    cases hv : Dispatcher.verdict (server o limit).limit (x.call r h).ending with
    | none =>
      rw [hv] at hn
      cases hn
    | some a =>
      rw [hv] at hn
      cases List.mem_singleton.1 hn
  obtain ⟨hmethod, p, token, hp, ht, hopen⟩ := hover_of_effects hh heffects
  exact ⟨r, p, token, hr.1, hmethod, hp, ht, hopen, hearly⟩

/-- What a turn of the server writes: for a hover under a progress its two ends and the answer, or
nothing while it waits for it; for anything else no notification. -/
structure Spare (o : Outside) (limit : Option Nat) (x : Turn Documents) : Prop where
  hovers : ∀ r p token a, HoversUnder x r p token →
    hoverVerdict? o limit p (x.before.shared.get? p.uri) = some a →
    (x.reaction (server o limit)).outgoing =
      [.notification (Progress.first token ⟨"Analyzing syntax", none, none, none⟩),
        .notification (Progress.last token), .response ⟨r.id, a⟩]
  waits : ∀ r p token, HoversUnder x r p token →
    hoverVerdict? o limit p (x.before.shared.get? p.uri) = none →
    (x.reaction (server o limit)).outgoing = []
  others : (∀ r p token, ¬ HoversUnder x r p token) →
    ∀ n, .notification n ∉ (x.reaction (server o limit)).outgoing

theorem spare_of_reached (hx : Reached x.before) : Spare o limit x := by
  have ho := outbox_of_reached hx
  constructor
  · intro r p token a h ha
    rw [outgoing_of_hoversUnder (initialized_of_reached hx h.opened) ho h, ha]
  · intro r p token h hnone
    rw [outgoing_of_hoversUnder (initialized_of_reached hx h.opened) ho h, hnone]
  · intro hnone n hn
    obtain ⟨r, p, token, h⟩ := hoversUnder_of_notification ho hn
    exact hnone r p token h

end Backend

/-! ### Sessions -/

namespace Session

/-- **What handlers queue is written once, in order, before the answer of their own request**, and
every progress that is begun is ended. A session writes what its turns write, in turn; in each of
them, whatever the handlers are and however they end, what the handler has queued comes with the
ends of its progresses before the answer, and no other message writes a notification. Of the
server's own messages, only a hover under a progress does: the two ends of its progress, and then
the answer. That is so in every state of the server, however the analysis fares that the hover asks
for. -/
theorem queued_of_run {limits : Limits} (hl : 1 ≤ limits.lineLength) (input : Source) :
    (∀ {σ : Type} (d : Dispatcher σ) (shared : σ),
      (run d shared limits input .unbounded).messages =
          (turns d (.start shared) (bodies (allReadings limits input))).flatMap
            (fun x => (x.reaction d).outgoing) ∧
        ∀ x ∈ turns d (.start shared) (bodies (allReadings limits input)), x.Tidy d) ∧
      (∀ x, Backend.Reached x.before → ∀ o limit, Backend.Spare o limit x) ∧
      ∀ o limit, ∀ x ∈ turns (Backend.server o limit) (.start .empty)
        (bodies (allReadings limits input)), Backend.Spare o limit x := by
  refine ⟨?_, fun x hx o limit => Backend.spare_of_reached hx,
    fun o limit x hx => Backend.spare_of_reached (Backend.reached_of_turn hx)⟩
  intro σ d shared
  refine ⟨messages_run hl shared input, ?_⟩
  intro x hx
  exact tidy_of_outbox (outbox_of_turn hx)

/-- A start, an opening, and a hover under a progress. -/
def progressInput : List UInt8 :=
  [["\x7b\"jsonrpc\":\"2.0\",\"id\":1,\"method\":\"initialize\",",
      "\"params\":\x7b\"capabilities\":\x7b\x7d\x7d\x7d"],
    ["\x7b\"jsonrpc\":\"2.0\",\"method\":\"textDocument/didOpen\",\"params\":",
      "\x7b\"textDocument\":\x7b\"uri\":\"file:///a\",\"languageId\":\"json\",",
      "\"version\":1,\"text\":\"1\"\x7d\x7d\x7d"],
    ["\x7b\"jsonrpc\":\"2.0\",\"id\":2,\"method\":\"textDocument/hover\",\"params\":",
      "\x7b\"textDocument\":\x7b\"uri\":\"file:///a\"\x7d,",
      "\"position\":\x7b\"line\":0,\"character\":0\x7d,\"workDoneToken\":7\x7d\x7d"]].flatMap
    fun texts => frame (Utf8.encode (texts.flatMap String.toList))

open Backend in
/-- A server on which nothing comes of an analysis, and that waits for 50 milliseconds. -/
def hungServer : Dispatcher Documents :=
  server ⟨noGrammar, ClientCapabilities.anyRecord, fun _ _ => .pending⟩ (some 50)

open Backend in
/-- The hover is under a progress. It writes its two ends although its time runs out, and then the
answer. -/
theorem queued_of_progressInput :
    ∃ x ∈ turns hungServer (.start .empty)
        (bodies (allReadings .usual (.ofBytes progressInput .closed))),
      ∃ r p token, HoversUnder x r p token ∧ (x.reaction hungServer).outgoing =
        [.notification (Progress.first token ⟨"Analyzing syntax", none, none, none⟩),
          .notification (Progress.last token),
          .response ⟨r.id, .error ⟨-32803, "Request timed out after 50ms", none⟩⟩] := by
  have hl : 1 ≤ Limits.usual.lineLength := by decide
  obtain ⟨hgeneral, -, hserver⟩ := queued_of_run hl (.ofBytes progressInput .closed)
  obtain ⟨hmessages, -⟩ := hgeneral hungServer .empty
  have hsome : (run hungServer .empty .usual (.ofBytes progressInput .closed)
      .unbounded).messages.any (fun o => o.answered?.isNone) = true := by decide +kernel
  rw [hmessages] at hsome
  obtain ⟨o, ho, hnone⟩ := List.any_eq_true.1 hsome
  obtain ⟨x, hx, hout⟩ := List.mem_flatMap.1 ho
  have hspare := hserver _ _ x hx
  cases o with
  | response a => cases hnone
  | notification n =>
    have hhover : ∃ r p token, HoversUnder x r p token := by
      refine Classical.byContradiction fun hno => ?_
      refine hspare.others (fun r p token h => hno ⟨r, p, token, h⟩) n hout
    obtain ⟨r, p, token, h⟩ := hhover
    obtain ⟨d, hd⟩ := Option.ne_none_iff_exists'.1 h.opened
    refine ⟨x, hx, r, p, token, h, hspare.hovers r p token _ h ?_⟩
    rw [hd]
    rfl

end Session

end SyntaxServer
