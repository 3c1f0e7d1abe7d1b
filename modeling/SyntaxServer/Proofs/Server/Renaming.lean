import Mathlib.Data.List.Forall2
import Mathlib.Logic.Equiv.Basic
import SyntaxServer.Proofs.Rpc.Renaming
import SyntaxServer.Proofs.Server.Backend
import SyntaxServer.Proofs.Server.Unnoticed
import SyntaxServer.Proofs.Server.Verdict

/-!
Identifiers are opaque. A registry compares identifiers and does nothing else with them, so each of
its operations commutes with a renaming under which different identifiers stay different
(`Registry.enter_rename`, `Registry.finish_rename`, `Registry.cancel_rename`). The server's handlers
do not look at them at all (`Backend.blind`). So a message under new names is dealt with like the
message itself, in a state under new names (`renamed_dispatch`), and so is every message of a
history (`renaming_of_history`).
-/

namespace SyntaxServer

open Function (Injective)

/-! ### Tables -/

namespace Table

variable {κ κ' ν : Type} [DecidableEq κ] [DecidableEq κ'] {f : κ → κ'}

/-- A table under new keys. -/
def rekey (f : κ → κ') (t : Table κ ν) : Table κ' ν := ⟨t.rows.map fun row => (f row.1, row.2)⟩

theorem get?_rekey (hf : Injective f) (t : Table κ ν) (k : κ) :
    (t.rekey f).get? (f k) = t.get? k := by
  obtain ⟨rows⟩ := t
  unfold get? rekey
  induction rows with
  | nil => rfl
  | cons row rows ih =>
    obtain ⟨a, v⟩ := row
    rw [List.map_cons, List.lookup_cons, List.lookup_cons]
    by_cases hk : k = a
    · rw [hk, beq_self_eq_true, beq_self_eq_true]
    · rw [beq_false_of_ne hk, beq_false_of_ne (hf.ne hk)]
      exact ih

theorem erase_rekey (hf : Injective f) (t : Table κ ν) (k : κ) :
    (t.rekey f).erase (f k) = (t.erase k).rekey f := by
  have hrows : t.rows.filter (fun row => decide (f row.1 ≠ f k)) =
      t.rows.filter (fun row => decide (row.1 ≠ k)) :=
    List.filter_congr fun row _ => decide_eq_decide.2 (not_congr hf.eq_iff)
  unfold erase rekey
  rw [List.filter_map, ← hrows]
  rfl

theorem insert_rekey (hf : Injective f) (t : Table κ ν) (k : κ) (v : ν) :
    (t.rekey f).insert (f k) v = (t.insert k v).rekey f := by
  unfold insert
  rw [erase_rekey hf]
  rfl

end Table

/-! ### Registries -/

variable {f : RequestId → RequestId}

theorem remember_map (f : RequestId → RequestId) (history : List RequestId) (id : RequestId) :
    remember (history.map f) (f id) = (remember history id).map f := by
  unfold remember
  rw [List.length_map, List.map_append, apply_ite (List.map f), List.map_drop]
  rfl

theorem contains_map (hf : Injective f) (ids : List RequestId) (id : RequestId) :
    (ids.map f).contains (f id) = ids.contains id := by
  rw [Bool.eq_iff_iff, List.contains_iff_mem, List.contains_iff_mem, List.mem_map_of_injective hf]

namespace Registry

variable {τ : Type}

def rename (f : RequestId → RequestId) (r : Registry τ) : Registry τ :=
  ⟨r.active.rekey f, r.early.map f, r.finished.map f⟩

theorem enter_rename (hf : Injective f) (r : Registry τ) (id : RequestId) (token : τ) :
    (r.rename f).enter (f id) token =
      ((r.enter id token).1, (r.enter id token).2.rename f) := by
  unfold enter rename
  dsimp only
  rw [contains_map hf, Table.insert_rekey hf, List.map_erase hf]

theorem finish_rename (hf : Injective f) (r : Registry τ) (id : RequestId) :
    (r.rename f).finish (f id) = (r.finish id).rename f := by
  unfold finish rename
  dsimp only
  rw [Table.erase_rekey hf, remember_map]

theorem cancel_rename (hf : Injective f) (r : Registry τ) (id : RequestId) :
    (r.rename f).cancel (f id) = ((r.cancel id).1, (r.cancel id).2.rename f) := by
  have hactive : (r.rename f).active.get? (f id) = r.active.get? id := Table.get?_rekey hf ..
  have hfinished : (r.rename f).finished.contains (f id) = r.finished.contains id :=
    contains_map hf ..
  unfold cancel
  rw [hactive, hfinished]
  cases r.active.get? id with
  | some token => rfl
  | none =>
    by_cases hdone : r.finished.contains id = true
    · rw [if_pos hdone, if_pos hdone]
    · rw [if_neg hdone, if_neg hdone]
      unfold rename
      dsimp only
      rw [remember_map]

end Registry

/-! ### States and answers -/

variable {σ : Type}

/-- Two calls come to the same, but for their logs. -/
structure RequestRun.SameButLog (x y : RequestRun σ) : Prop where
  state : x.state = y.state
  ending : x.ending = y.ending
  effects : x.effects = y.effects

/-- A handler of requests that does not look at the identifier, but for its log. -/
def RequestHandler.Blind (h : RequestHandler σ) : Prop :=
  ∀ id id' cancelled params shared,
    (h ⟨id, cancelled⟩ params shared).SameButLog (h ⟨id', cancelled⟩ params shared)

def ServerState.rename (f : RequestId → RequestId) (s : ServerState σ) : ServerState σ :=
  { s with registry := s.registry.rename f }

def Response.rename (f : RequestId → RequestId) (r : Response) : Response := { r with id := f r.id }

/-- What becomes of a message, under new identifiers. -/
structure Dispatched.Renamed (f : RequestId → RequestId) (x y : Dispatched σ) : Prop where
  state : y.state = x.state.rename f
  response : y.response = x.response.map (Response.rename f)
  notifications : y.notifications = x.notifications
  control : y.control = x.control

/-! ### Messages -/

namespace Dispatcher

/-- Parameters under new identifiers: those of a well-formed cancellation name the new identifier
of their request, and others are the same. -/
inductive ParamsRenamed (f : RequestId → RequestId) (method : String) :
    Option Json → Option Json → Prop
  | target {params params' : Option Json} {k : RequestId} : target? method params = some k →
      target? method params' = some (f k) → ParamsRenamed f method params params'
  | other {params : Option Json} : target? method params = none →
      ParamsRenamed f method params params

/-- A message under new identifiers. -/
inductive Renamed (f : RequestId → RequestId) : Message → Message → Prop
  | request {id : RequestId} {method : String} {params params' : Option Json} :
      ParamsRenamed f method params params' →
      Renamed f (.request ⟨id, method, params⟩) (.request ⟨f id, method, params'⟩)
  | notification {method : String} {params params' : Option Json} :
      ParamsRenamed f method params params' →
      Renamed f (.notification ⟨method, params⟩) (.notification ⟨method, params'⟩)
  | response {id : RequestId} {o : Except ResponseError Json} :
      Renamed f (.response ⟨id, o⟩) (.response ⟨f id, o⟩)

theorem ParamsRenamed.eq_of_ordinary {method : String} {params params' : Option Json}
    (h : ParamsRenamed f method params params')
    (hc : Wire.ofName? ControlMethod method = none) : params' = params := by
  cases h with
  | target hk _ =>
    rw [target?_control _ hc] at hk
    cases hk
  | other _ => rfl

/-! ### Dispatch -/

/-- No handler of requests looks at the identifier. -/
def Blind (d : Dispatcher σ) : Prop :=
  ∀ method h, d.router.requests.get? method = some h → h.Blind

/-- What a step leads to, under new identifiers. -/
structure StepRenamed (f : RequestId → RequestId) (x y : Step σ) : Prop where
  state : y.state = x.state.rename f
  response : y.response = x.response.map (Response.rename f)
  control : y.control = x.control

variable {d : Dispatcher σ} {s : ServerState σ} {method : String} {params params' : Option Json}
  {id : RequestId} {m m' : Message}

theorem handleControl_rename (hf : Injective f) (s : ServerState σ)
    (h : ParamsRenamed f method params params') {c : ControlMethod}
    (hc : Wire.ofName? ControlMethod method = some c) :
    (handleControl (s.rename f) c params').1 = (handleControl s c params).1.rename f := by
  rw [handleControl_frame (s.rename f), handleControl_frame s, registry_handleControl params hc,
    registry_handleControl params' hc]
  cases h with
  | @target _ k hk hk' =>
    have hcancel : ((s.rename f).registry.cancel (f k)).2 = (s.registry.cancel k).2.rename f :=
      congrArg Prod.snd (Registry.cancel_rename hf s.registry k)
    rw [hk, hk']
    dsimp only
    rw [hcancel]
    rfl
  | other hk => rw [hk]

theorem concluded_rename (hf : Injective f) (s : ServerState σ) (id : RequestId)
    (method : String) {run run' : RequestRun σ} (h : run.SameButLog run')
    (o : Option (Except ResponseError Json)) :
    concluded (s.rename f) (f id) method run' o = (concluded s id method run o).rename f := by
  have hfinish : (s.rename f).registry.finish (f id) = (s.registry.finish id).rename f :=
    Registry.finish_rename hf ..
  unfold concluded
  rw [h.state, h.effects]
  cases o with
  | none => rfl
  | some o =>
    dsimp only
    rw [hfinish]
    rfl

theorem invoke_rename (hf : Injective f) {h : RequestHandler σ} (hh : h.Blind)
    (s : ServerState σ) (id : RequestId) (params : Option Json) :
    StepRenamed f (d.invoke s ⟨id, method, params⟩ h)
      (d.invoke (s.rename f) ⟨f id, method, params⟩ h) := by
  have hsame := hh id (f id) false params s.shared
  have hrun : h ⟨f id, false⟩ params (s.rename f).shared = h ⟨f id, false⟩ params s.shared := rfl
  obtain ⟨hstate₁, hresponse₁, hcontrol₁⟩ := d.invoke_verdict s ⟨id, method, params⟩ (h := h) rfl
  obtain ⟨hstate₂, hresponse₂, hcontrol₂⟩ :=
    d.invoke_verdict (s.rename f) ⟨f id, method, params⟩ hrun
  rw [← hsame.ending] at hstate₂ hresponse₂ hcontrol₂
  refine ⟨?_, ?_, hcontrol₂.trans hcontrol₁.symm⟩
  · rw [hstate₁, hstate₂]
    exact concluded_rename hf s id method hsame _
  · rw [hresponse₁, hresponse₂, Option.map_map]
    rfl

theorem run_rename (hf : Injective f) {h : RequestHandler σ} (hh : h.Blind) (s : ServerState σ)
    (id : RequestId) (params : Option Json) :
    StepRenamed f (d.run s ⟨id, method, params⟩ h)
      (d.run (s.rename f) ⟨f id, method, params⟩ h) := by
  have henter : (s.rename f).registry.enter (f id) () =
      ((s.registry.enter id ()).1, (s.registry.enter id ()).2.rename f) :=
    Registry.enter_rename hf ..
  unfold run
  dsimp only
  rw [henter]
  dsimp only
  by_cases he : (s.registry.enter id ()).1 = true
  · rw [if_pos he, if_pos he, Registry.finish_rename hf]
    exact ⟨rfl, rfl, rfl⟩
  · rw [if_neg he, if_neg he]
    exact invoke_rename hf hh { s with registry := (s.registry.enter id ()).2 } id params

theorem request_rename (hf : Injective f) (hd : d.Blind) (s : ServerState σ) (id : RequestId)
    (h : ParamsRenamed f method params params') :
    StepRenamed f (d.request s ⟨id, method, params⟩)
      (d.request (s.rename f) ⟨f id, method, params'⟩) := by
  have hfollow : StepRenamed f (d.follow s ⟨id, method, params⟩ (d.route s.lifecycle method))
      (d.follow (s.rename f) ⟨f id, method, params'⟩ (d.route s.lifecycle method)) := by
    have hroute := routed d s.lifecycle method
    generalize s.lifecycle = l at hroute
    generalize d.route l method = route at hroute
    cases hroute with
    | control hc => exact ⟨handleControl_rename hf s h hc, rfl, rfl⟩
    | handler ho _ hh =>
      obtain rfl := h.eq_of_ordinary ho.not_control
      exact run_rename hf (hd _ _ hh) s id _
    | _ => exact ⟨rfl, rfl, rfl⟩
  exact ⟨hfollow.state, hfollow.response, hfollow.control⟩

theorem notify_rename (s : ServerState σ) (n : Notification) (h : NotificationHandler σ) :
    StepRenamed f (notify s n h) (notify (s.rename f) n h) := by
  have hrun : h n.params (s.rename f).shared = h n.params s.shared := rfl
  unfold notify
  rw [hrun]
  dsimp only
  cases (h n.params s.shared).ending <;> exact ⟨rfl, rfl, rfl⟩

theorem notification_rename (hf : Injective f) (d : Dispatcher σ) (s : ServerState σ)
    (h : ParamsRenamed f method params params') :
    StepRenamed f (d.notification s ⟨method, params⟩)
      (d.notification (s.rename f) ⟨method, params'⟩) := by
  cases noticed d s ⟨method, params⟩ with
  | control hc =>
    rw [notification_control hc, notification_control (n := ⟨method, params'⟩) hc]
    exact ⟨handleControl_rename hf s h hc, rfl, rfl⟩
  | exit hx =>
    rw [notification_exit hx, notification_exit (n := ⟨method, params'⟩) hx]
    exact ⟨rfl, rfl, rfl⟩
  | early ho hl =>
    obtain rfl := h.eq_of_ordinary ho.not_control
    rw [notification_early ho hl, notification_early (s := s.rename f) ho hl]
    exact ⟨rfl, rfl, rfl⟩
  | unhandled ho hl hh =>
    obtain rfl := h.eq_of_ordinary ho.not_control
    rw [notification_open ho hl, notification_open (s := s.rename f) ho hl, hh]
    exact ⟨rfl, rfl, rfl⟩
  | handled ho hl hh =>
    obtain rfl := h.eq_of_ordinary ho.not_control
    rw [notification_open ho hl, notification_open (s := s.rename f) ho hl, hh]
    exact notify_rename s _ _

/-- **A message under new identifiers** is dealt with like the message, in a state under new
identifiers. -/
theorem renamed_dispatch (hf : Injective f) (hd : d.Blind) (s : ServerState σ)
    (h : Renamed f m m') : (d.dispatch s m).Renamed f (d.dispatch (s.rename f) m') := by
  have hhandle : StepRenamed f (d.handle s m) (d.handle (s.rename f) m') := by
    cases h with
    | request hp => exact request_rename hf hd s _ hp
    | notification hp => exact notification_rename hf d s hp
    | response => exact ⟨rfl, rfl, rfl⟩
  have hnotifications : (d.handle (s.rename f) m').state.outbox = (d.handle s m).state.outbox := by
    rw [hhandle.state]
    rfl
  exact ⟨congrArg (fun t : ServerState σ => { t with outbox := [] }) hhandle.state,
    hhandle.response, hnotifications, hhandle.control⟩

end Dispatcher

/-! ### Renaming a message in place -/

/-- The parameters of a method with the identifier that a well-formed cancellation names under its
new name. -/
def Dispatcher.renameParams (f : RequestId → RequestId) (method : String)
    (params : Option Json) : Option Json :=
  match target? method params with
  | some _ => params.map (Json.renameTarget f)
  | none => params

/-- A message with its own identifier, and the one that it cancels, under their new names. -/
def Message.rename (f : RequestId → RequestId) : Message → Message
  | .request r => .request ⟨f r.id, r.method, Dispatcher.renameParams f r.method r.params⟩
  | .notification n => .notification ⟨n.method, Dispatcher.renameParams f n.method n.params⟩
  | .response r => .response (r.rename f)

namespace Dispatcher

theorem target?_renameTarget (hp : ∀ id, RequestId.Proper id → (f id).Proper) {method : String}
    {params : Option Json} {k : RequestId} (h : target? method params = some k) :
    target? method (params.map (Json.renameTarget f)) = some (f k) := by
  obtain ⟨hc, p, hread, rfl⟩ := target?_eq_some_iff.1 h
  refine target?_eq_some_iff.2 ⟨hc, ⟨f p.id⟩, ?_, rfl⟩
  rw [readParams_eq_ok_iff] at hread ⊢
  cases params with
  | none => cases hread
  | some v => exact CancelParams.read_renameTarget hp hread

/-- **A message that is renamed in place** is the message under new identifiers. -/
theorem renamed_rename (hp : ∀ id, RequestId.Proper id → (f id).Proper) (m : Message) :
    Renamed f m (m.rename f) := by
  have hparams : ∀ method params,
      ParamsRenamed f method params (renameParams f method params) := by
    intro method params
    unfold renameParams
    cases hk : target? method params with
    | none => exact .other hk
    | some k => exact .target hk (target?_renameTarget hp hk)
  cases m with
  | request r => exact .request (hparams ..)
  | notification n => exact .notification (hparams ..)
  | response r => exact .response

end Dispatcher

/-! ### The server's own handlers -/

namespace Backend

theorem blind_requestHandler {α : Type} {read : Payload.Reader α}
    {h : Call → α → Documents → RequestRun Documents}
    (hh : ∀ id id' cancelled a s, (h ⟨id, cancelled⟩ a s).SameButLog (h ⟨id', cancelled⟩ a s)) :
    (Router.requestHandler read h).Blind := by
  intro id id' cancelled params s
  cases hp : readParams read params with
  | ok a =>
    rw [Router.requestHandler_ok hp, Router.requestHandler_ok hp]
    exact hh id id' cancelled a s
  | error e =>
    rw [Router.requestHandler_error hp, Router.requestHandler_error hp]
    exact ⟨rfl, rfl, rfl⟩

theorem blind_hover (o : Outside) (id id' : RequestId) (cancelled : Bool) (p : HoverParams)
    (s : Documents) :
    (hover o ⟨id, cancelled⟩ p s).SameButLog (hover o ⟨id', cancelled⟩ p s) := by
  unfold hover
  cases s.get? p.uri with
  | none => exact ⟨rfl, rfl, rfl⟩
  | some d =>
    dsimp only
    cases o.analysis p d <;> exact ⟨rfl, rfl, rfl⟩

/-- **No handler of the server looks at identifiers.** -/
theorem blind (o : Outside) (limit : Option Nat) : (server o limit).Blind := by
  intro method h hh
  rcases request_cases hh with ⟨-, rfl⟩ | ⟨-, rfl⟩ | ⟨-, rfl⟩
  · exact blind_requestHandler fun _ _ _ _ _ => ⟨rfl, rfl, rfl⟩
  · exact blind_requestHandler fun _ _ _ _ _ => ⟨rfl, rfl, rfl⟩
  · exact blind_requestHandler (blind_hover o)

end Backend

/-! ### Histories -/

/-- An event under new identifiers: the state that the message finds, the message, and what becomes
of it. -/
structure Event.Renamed (f : RequestId → RequestId) (e e' : Event σ) : Prop where
  before : e'.before = e.before.rename f
  message : Dispatcher.Renamed f e.message e'.message
  outcome : e.outcome.Renamed f e'.outcome

open Dispatcher in
theorem renamed_history {d : Dispatcher σ} (hf : Injective f) (hd : d.Blind) {ms ms' : List Message}
    (h : List.Forall₂ (Renamed f) ms ms') (s : ServerState σ) :
    List.Forall₂ (Event.Renamed f) (d.history s ms) (d.history (s.rename f) ms') := by
  induction h generalizing s with
  | nil => exact .nil
  | cons hm _ ih =>
    have hdispatch := renamed_dispatch hf hd s hm
    refine .cons ⟨rfl, hm, hdispatch⟩ ?_
    rw [hdispatch.state]
    exact ih _

namespace Backend

open Dispatcher (Renamed)

/-- **Identifiers are opaque.** Take any history of the server, and rename the identifiers of all
requests and responses and those that cancellations name, so that different ones stay different.
Every message finds the same state and comes to the same, up to the new names, of which an answer
has one: the same state, the same notifications and the same control. It does not matter in what
form a cancellation names the new identifier. -/
theorem renaming_of_history (hf : Injective f)
    (hp : ∀ id, RequestId.Proper id → (f id).Proper) (grammars : Grammars) (limit : Option Nat)
    (ms : List Message) :
    List.Forall₂ (Event.Renamed f) ((dispatcher grammars limit).history (.start .empty) ms)
        ((dispatcher grammars limit).history (.start .empty) (ms.map (Message.rename f))) ∧
      ∀ ms', List.Forall₂ (Renamed f) ms ms' →
        List.Forall₂ (Event.Renamed f) ((dispatcher grammars limit).history (.start .empty) ms)
          ((dispatcher grammars limit).history (.start .empty) ms') := by
  have hall : ∀ ms', List.Forall₂ (Renamed f) ms ms' →
      List.Forall₂ (Event.Renamed f) ((dispatcher grammars limit).history (.start .empty) ms)
        ((dispatcher grammars limit).history (.start .empty) ms') :=
    fun ms' h => renamed_history hf (blind (.ofGrammars grammars) limit) h (.start .empty)
  refine ⟨hall _ ?_, hall⟩
  rw [List.forall₂_map_right_iff, List.forall₂_same]
  exact fun m _ => Dispatcher.renamed_rename hp m

/-- A number and its text change places. -/
def swapFive : Equiv.Perm RequestId := Equiv.swap (.number 5) (.text "5")

/-- A cancellation of the number 5, with requests under the number and under its text behind it. -/
def fiveMessages : List Message :=
  [.request ⟨.text "5", "initialize", some (.object [("capabilities", .object [])])⟩,
    .notification ⟨"$/cancelRequest", some (.object [("id", .ofInt 5), ("why", .null)])⟩,
    .request ⟨.text "5", "shutdown", none⟩, .request ⟨.number 5, "shutdown", none⟩]

theorem proper_swapFive (id : RequestId) (h : id.Proper) : (swapFive id).Proper := by
  unfold swapFive
  rw [Equiv.swap_apply_def]
  split
  · trivial
  · split
    · rfl
    · exact h

/-- The cancellation hits the request under the number, and after the exchange the one under the
text. -/
theorem renaming_of_fiveMessages :
    List.Forall₂ (Event.Renamed swapFive) (bareServer.history (.start .empty) fiveMessages)
        (bareServer.history (.start .empty) (fiveMessages.map (Message.rename swapFive))) ∧
      (bareServer.history (.start .empty) fiveMessages).filterMap
          (fun e => e.outcome.response.map fun r => (r.id, r.isError)) =
        [(.text "5", false), (.text "5", false), (.number 5, true)] ∧
      (bareServer.history (.start .empty) (fiveMessages.map (Message.rename swapFive))).filterMap
          (fun e => e.outcome.response.map fun r => (r.id, r.isError)) =
        [(.number 5, false), (.number 5, false), (.text "5", true)] :=
  ⟨(renaming_of_history swapFive.injective proper_swapFive noGrammar none fiveMessages).1,
    by decide +kernel, by decide +kernel⟩

end Backend

end SyntaxServer
