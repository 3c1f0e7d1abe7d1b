import SyntaxServer.Proofs.Server.Answers
import SyntaxServer.Proofs.Server.Cancellation

/-!
What a dispatcher keeps between two messages. Whichever way a message goes, its request is out of
the registry again when it is done (`rests_dispatch`), so nothing piles up however long the
dispatcher is used, and whatever becomes of the lifecycle and of the handlers' state in between
(`quiet_of_deliveries`).
-/

namespace SyntaxServer

/-! ### Registries at rest -/

namespace Registry

variable {τ : Type} {r : Registry τ} {id : RequestId}

/-- A registry at rest: no request runs, and the histories are no longer than they may be. -/
structure Rests (r : Registry τ) : Prop where
  idle : r.inFlight = 0
  early : r.early.length ≤ 64
  finished : r.finished.length ≤ 64

theorem inFlight_eq_zero_iff : r.inFlight = 0 ↔ r.active = .empty := by
  obtain ⟨⟨rows⟩, early, finished⟩ := r
  simp [inFlight, Table.size, Table.empty]

theorem rests_empty : (empty : Registry τ).Rests := ⟨rfl, Nat.zero_le _, Nat.zero_le _⟩

theorem rests_cancel (h : r.Rests) (id : RequestId) : (r.cancel id).2.Rests := by
  rw [cancel_idle (inFlight_eq_zero_iff.1 h.idle)]
  split
  · exact h
  · exact ⟨h.idle, length_remember h.early id, h.finished⟩

theorem rests_turn (h : r.Rests) (id : RequestId) (token : τ) : (r.turn id token).Rests := by
  rw [turn_idle (inFlight_eq_zero_iff.1 h.idle)]
  exact ⟨rfl, (List.erase_sublist ..).length_le.trans h.early, length_remember h.finished id⟩

theorem cancel_of_rests (h : r.Rests) (id : RequestId) :
    (r.cancel id).1 = .deferred ∨ (r.cancel id).1 = .alreadyFinished := by
  rw [cancel_idle (inFlight_eq_zero_iff.1 h.idle)]
  split
  · exact Or.inr rfl
  · exact Or.inl rfl

end Registry

/-! ### Deliveries -/

variable {σ : Type}

/-- A message, with the lifecycle and the state of the handlers that it is dispatched in. -/
structure Delivery (σ : Type) where
  lifecycle : Lifecycle
  shared : σ
  message : Message

namespace Dispatcher

variable {d : Dispatcher σ} {s : ServerState σ} {m : Message} {id : RequestId}

/-- The state that a delivery finds: only the registry and the outbox are the dispatcher's own. -/
def found (s : ServerState σ) (x : Delivery σ) : ServerState σ :=
  { s with lifecycle := x.lifecycle, shared := x.shared }

/-- What some deliveries come to, dispatched in turn. -/
def deliveries (d : Dispatcher σ) : ServerState σ → List (Delivery σ) → List (Event σ)
  | _, [] => []
  | s, x :: xs =>
    let o := d.dispatch (found s x) x.message
    ⟨found s x, x.message, o⟩ :: d.deliveries o.state xs

/-! ### One message -/

/-- **Every way out of a message leaves the registry at rest.** -/
theorem rests_dispatch (hd : d.Finishes) (h : s.registry.Rests) (m : Message) :
    (d.dispatch s m).state.registry.Rests := by
  cases recorded d s m with
  | cancelled _ _ hx =>
    rw [hx]
    exact Registry.rests_cancel h _
  | entered _ hx =>
    rw [hx]
    exact Registry.rests_turn h _ ()
  | waiting _ hstall _ =>
    -- no handler is waited for without end
    rw [control_dispatch hd s m] at hstall
    split at hstall <;> cases hstall
  | kept _ _ hx =>
    rw [hx]
    exact h

/-- What is logged about a cancellation whose request does not run. -/
def unsignalled : List String :=
  ["Cancellation recorded for pending request", "Cancellation for finished request ignored"]

theorem handleControl_log {method : String} {c : ControlMethod} {params : Option Json}
    (h : s.registry.Rests) (hc : Wire.ofName? ControlMethod method = some c)
    (ht : target? method params = some id) :
    ∃ text ∈ unsignalled,
      (handleControl s c params).2 = [Log.dispatch .debug text [Log.idField id]] := by
  unfold target? at ht
  rw [hc] at ht
  cases c with
  | progress => cases ht
  | cancelRequest =>
    unfold handleControl cancel
    cases hp : readParams CancelParams.read params with
    | error e =>
      rw [hp] at ht
      cases ht
    | ok p =>
      rw [hp] at ht
      obtain rfl : p.id = id := Option.some.inj ht
      rcases Registry.cancel_of_rests h p.id with ho | ho
      · exact ⟨_, List.mem_cons_self .., by simp [ho]⟩
      · exact ⟨_, List.mem_cons_of_mem _ (List.mem_singleton_self _), by simp [ho]⟩

theorem control_of_target? {method : String} {params : Option Json}
    (ht : target? method params = some id) :
    ∃ c, Wire.ofName? ControlMethod method = some c := by
  cases hc : Wire.ofName? ControlMethod method with
  | some c => exact ⟨c, rfl⟩
  | none =>
    rw [target?_control params hc] at ht
    cases ht

/-- A cancellation of a registry at rest is logged as one whose request does not run. -/
theorem log_of_cancels? (h : s.registry.Rests) (hm : cancels? m = some id) :
    ∃ text ∈ unsignalled,
      (d.dispatch s m).log.getLast? = some (Log.dispatch .debug text [Log.idField id]) := by
  cases m with
  | response r => cases hm
  | notification n =>
    obtain ⟨c, hc⟩ := control_of_target? hm
    obtain ⟨text, htext, hlog⟩ := handleControl_log h hc hm
    refine ⟨text, htext, ?_⟩
    have hlast : (d.dispatch s (.notification n)).log = (handleControl s c n.params).2 := by
      unfold dispatch handle
      dsimp only
      rw [notification_control hc]
    rw [hlast, hlog]
    rfl
  | request r =>
    obtain ⟨c, hc⟩ := control_of_target? hm
    obtain ⟨text, htext, hlog⟩ := handleControl_log h hc hm
    refine ⟨text, htext, ?_⟩
    have hlast : (d.dispatch s (.request r)).log =
        Log.dispatch .debug "Dispatching request" [Log.idField r.id, Log.methodField r.method] ::
          (handleControl s c r.params).2 := by
      unfold dispatch handle request route
      dsimp only
      rw [hc]
      rfl
    rw [hlast, hlog]
    rfl

/-! ### All messages -/

theorem rests_of_deliveries (hd : d.Finishes) (h : s.registry.Rests) (xs : List (Delivery σ)) :
    ∀ e ∈ d.deliveries s xs, e.before.registry.Rests ∧
      e.outcome = d.dispatch e.before e.message := by
  induction xs generalizing s with
  | nil => exact fun e he => absurd he List.not_mem_nil
  | cons x xs ih =>
    intro e he
    rcases List.mem_cons.1 he with rfl | he
    · exact ⟨h, rfl⟩
    · exact ih (rests_dispatch hd (s := found s x) h x.message) e he

/-- **Nothing is left behind between messages**, whatever states they are dispatched in: no request
runs after one, nothing waits to be written, and the histories are bounded. So a cancellation never
finds its request running, and is logged as remembered or ignored. -/
theorem quiet_of_deliveries (hd : d.Finishes) (shared : σ) (xs : List (Delivery σ)) :
    ∀ e ∈ d.deliveries (.start shared) xs,
      e.outcome.state.registry.Rests ∧ e.outcome.state.outbox = [] ∧
        ∀ id, cancels? e.message = some id →
          (e.before.registry.cancel id).1 ≠ .signalled () ∧
            ∃ text ∈ unsignalled,
              e.outcome.log.getLast? = some (Log.dispatch .debug text [Log.idField id]) := by
  intro e he
  obtain ⟨hbefore, hout⟩ :=
    rests_of_deliveries hd (s := .start shared) Registry.rests_empty xs e he
  rw [hout]
  refine ⟨rests_dispatch hd hbefore e.message, rfl, fun id hm => ⟨?_, log_of_cancels? hbefore hm⟩⟩
  rcases Registry.cancel_of_rests hbefore id with ho | ho
  · rw [ho]
    simp
  · rw [ho]
    simp

def failure? (r : Response) : Option Int :=
  match r.outcome with
  | .ok _ => none
  | .error x => some x.code

/-- Every way out of a message: a start, a handler that hangs under a progress, one that panics,
one that fails, one cancelled before, a request too early, and cancellations of a finished request
and of none. -/
def everyExit : List (Delivery Scripted.Recorded) :=
  [⟨.uninitialized, [], .request ⟨.number 1, "initialize", some .null⟩⟩,
    ⟨.initialized, [], .request ⟨.number 2, "textDocument/hover",
      some (.object [("do", .string "hang"), ("token", .string "t")])⟩⟩,
    ⟨.initialized, [], .request ⟨.number 3, "textDocument/hover",
      some (.object [("do", .string "panic_other"), ("token", .string "t")])⟩⟩,
    ⟨.initialized, [], .request ⟨.number 4, "textDocument/hover",
      some (.object [("do", .string "internal")])⟩⟩,
    ⟨.uninitialized, ["x"], .notification (.cancel (.number 5))⟩,
    ⟨.initialized, [], .request ⟨.number 5, "shutdown", none⟩⟩,
    ⟨.uninitialized, [], .request ⟨.number 6, "shutdown", none⟩⟩,
    ⟨.initialized, [], .notification (.cancel (.number 2))⟩]

theorem quiet_of_everyExit :
    Finishes ⟨Scripted.router, some 1000⟩ ∧
      ((deliveries ⟨Scripted.router, some 1000⟩ (.start []) everyExit).map fun e =>
          (e.outcome.response.bind failure?, e.outcome.notifications.length)) =
        [(none, 0), (some (-32803), 2), (some (-32603), 2), (some (-32603), 0), (none, 0),
          (some (-32800), 0), (some (-32002), 0), (none, 0)] ∧
      ∀ e ∈ deliveries ⟨Scripted.router, some 1000⟩ (.start []) everyExit,
        e.outcome.state.registry.inFlight = 0 ∧ e.outcome.state.outbox = [] := by
  have hd := Session.finishes_scripted 1000
  refine ⟨hd, by decide +kernel, fun e he => ?_⟩
  obtain ⟨hrests, hwritten, -⟩ := quiet_of_deliveries hd [] everyExit e he
  exact ⟨hrests.idle, hwritten⟩

end Dispatcher

end SyntaxServer
