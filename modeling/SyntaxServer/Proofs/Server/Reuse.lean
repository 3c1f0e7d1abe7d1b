import SyntaxServer.Proofs.Server.Cancellation

/-!
Identifiers that are used again. An identifier starts clean in a state if no request of it is
cancelled before its handler runs, unless it is cancelled from then on: that is so if and only if
no cancellation of it waits (`startsClean_iff`). A request that is entered takes one of its waiting
cancellations along, and one that is refused takes none, so what waits after a request follows from
what waited before it (`startsClean_of_request`).
-/

namespace SyntaxServer.Dispatcher

variable {σ : Type} {d : Dispatcher σ} {s : ServerState σ} {m : Message} {ms : List Message}
  {r : Request} {k : RequestId}

/-- The state after some messages, dispatched in turn. -/
def after (d : Dispatcher σ) (s : ServerState σ) (ms : List Message) : ServerState σ :=
  ms.foldl (fun s m => (d.dispatch s m).state) s

/-- A request is answered as cancelled, and its handler does not run. -/
def CancelledFirst (d : Dispatcher σ) (s : ServerState σ) (r : Request) : Prop :=
  (d.dispatch s (.request r)).response = some (.ofCode r.id .requestCancelled) ∧
    d.invoked s (.request r) = []

/-- An identifier starts clean: whatever messages come, if none of them cancels it or is a request
of it, the request of it that comes then is not cancelled before its handler runs. -/
def StartsClean (d : Dispatcher σ) (s : ServerState σ) (k : RequestId) : Prop :=
  ∀ ms r, (∀ m ∈ ms, cancels? m ≠ some k ∧ answers m ≠ some k) → r.id = k →
    ¬ d.CancelledFirst (d.after s ms) r

/-! ### Requests that are cancelled first -/

/-- The code of an answer, if it is an error. -/
def errorCode? (answer : Option Response) : Option Int :=
  answer.bind fun a => match a.outcome with
    | .ok _ => none
    | .error e => some e.code

/-- **A request is cancelled first** if and only if a handler is found for it and a cancellation of
it waits. -/
theorem cancelledFirst_iff :
    d.CancelledFirst s r ↔
      (∃ h, d.route s.lifecycle r.method = .handler h) ∧ r.id ∈ s.registry.early := by
  constructor
  · rintro ⟨hresponse, hinvoked⟩
    have hcode : errorCode? (d.follow s r (d.route s.lifecycle r.method)).response =
        some (-32800) := congrArg errorCode? hresponse
    cases hroute : d.route s.lifecycle r.method with
    | handler h => exact ⟨⟨h, rfl⟩, (invoked_cancelled hroute).1 hinvoked⟩
    | _ =>
      rw [hroute] at hcode
      cases hcode
  · rintro ⟨⟨h, hroute⟩, hk⟩
    exact ⟨(dispatch_cancelled hroute hk).1, (invoked_cancelled hroute).2 hk⟩

/-! ### Identifiers that start clean -/

theorem not_mem_early_after (hms : ∀ m ∈ ms, cancels? m ≠ some k) (hk : k ∉ s.registry.early) :
    k ∉ (d.after s ms).registry.early := by
  induction ms generalizing s with
  | nil => exact hk
  | cons m ms ih =>
    obtain ⟨hm, hms⟩ := List.forall_mem_cons.1 hms
    exact ih hms fun hnext => (mem_early_dispatch hnext).elim hk hm

theorem startsClean_of_not_mem (hk : k ∉ s.registry.early) : d.StartsClean s k := by
  intro ms r hms hid hcancelled
  obtain ⟨-, hwaits⟩ := cancelledFirst_iff.1 hcancelled
  exact not_mem_early_after (fun m hm => (hms m hm).1) hk (hid ▸ hwaits)

/-- **An identifier starts clean** if and only if no cancellation of it waits, as long as some
method has a handler. -/
theorem startsClean_iff (hopen : ∃ method h, d.route s.lifecycle method = .handler h) :
    d.StartsClean s k ↔ k ∉ s.registry.early := by
  refine ⟨fun hclean hk => ?_, startsClean_of_not_mem⟩
  obtain ⟨method, h, hroute⟩ := hopen
  exact hclean [] ⟨k, method, none⟩ (by simp) rfl (cancelledFirst_iff.2 ⟨⟨h, hroute⟩, hk⟩)

/-! ### What a request leaves behind -/

/-- A request takes all waiting cancellations of its identifier along: of one it takes one if it is
entered; if it is refused there are none; and a request that is itself a cancellation adds none. -/
def TakesAll (d : Dispatcher σ) (s : ServerState σ) (r : Request) : Prop :=
  match d.entered? s.lifecycle (.request r), cancels? (.request r) with
  | some _, _ => s.registry.early.count r.id ≤ 1
  | none, none => s.registry.early.count r.id = 0
  | none, some id => (s.registry.cancel id).2.early.count r.id = 0

theorem takesAll_iff :
    d.TakesAll s r ↔ r.id ∉ (d.dispatch s (.request r)).state.registry.early := by
  unfold TakesAll
  have hentered : ∀ {id}, d.entered? s.lifecycle (.request r) = some id →
      (s.registry.early.count r.id ≤ 1 ↔ r.id ∉ s.registry.early.erase id) := by
    intro id hid
    obtain ⟨rfl, -⟩ := entered?_eq_some_iff.1 hid
    rw [mem_erase_self_iff, not_lt]
  cases recorded d s (.request r) with
  | cancelled hc he hx =>
    rw [he, hc, hx]
    exact List.count_eq_zero
  | entered he hx =>
    rw [he, hx]
    exact hentered he
  | waiting he _ hx =>
    rw [he, hx]
    exact hentered he
  | kept hc he hx =>
    rw [he, hc, hx]
    exact List.count_eq_zero

/-- **When an identifier starts clean.** At the beginning every one does. After a request, in
whatever state it came and however it was answered, its identifier does if and only if the request
took all waiting cancellations of it along. -/
theorem startsClean_of_request (d : Dispatcher σ) (s : ServerState σ) (r : Request)
    (hopen : ∃ method h,
      d.route (d.dispatch s (.request r)).state.lifecycle method = .handler h) :
    (∀ shared k, d.StartsClean (.start shared) k) ∧
      (d.StartsClean (d.dispatch s (.request r)).state r.id ↔ d.TakesAll s r) :=
  ⟨fun _ _ => startsClean_of_not_mem List.not_mem_nil,
    (startsClean_iff hopen).trans takesAll_iff.symm⟩

/-- A start, and some cancellations of one identifier. -/
def startAndCancel (n : Nat) : List Message :=
  .request ⟨.number 1, "initialize", none⟩ ::
    List.replicate n (.notification (.cancel (.number 5)))

/-- The state after a start and some cancellations of one identifier. -/
def cancelledState (n : Nat) : ServerState Scripted.Recorded :=
  after ⟨Scripted.router, none⟩ (.start []) (startAndCancel n)

def shutdownRequest : Request := ⟨.number 5, "shutdown", none⟩

/-- Cancelled once, an identifier starts clean after its request. -/
theorem startsClean_cancelledOnce :
    (∃ method h, route ⟨Scripted.router, none⟩
        (dispatch ⟨Scripted.router, none⟩ (cancelledState 1)
          (.request shutdownRequest)).state.lifecycle method = .handler h) ∧
      StartsClean ⟨Scripted.router, none⟩
        (dispatch ⟨Scripted.router, none⟩ (cancelledState 1) (.request shutdownRequest)).state
        (.number 5) := by
  have hopen : ∃ method h, route ⟨Scripted.router, none⟩
      (dispatch ⟨Scripted.router, none⟩ (cancelledState 1)
        (.request shutdownRequest)).state.lifecycle method = .handler h := ⟨"shutdown", _, rfl⟩
  refine ⟨hopen, (startsClean_of_request _ _ shutdownRequest hopen).2.2 ?_⟩
  show ([.number 5] : List RequestId).count (.number 5) ≤ 1
  decide

/-- **Cancelled twice, it does not**: the second cancellation hits the next request. -/
theorem not_startsClean_cancelledTwice :
    ¬ StartsClean ⟨Scripted.router, none⟩
      (dispatch ⟨Scripted.router, none⟩ (cancelledState 2) (.request shutdownRequest)).state
      (.number 5) := by
  intro hclean
  refine hclean [] shutdownRequest (by simp) rfl (cancelledFirst_iff.2 ⟨⟨_, rfl⟩, ?_⟩)
  show RequestId.number 5 ∈ [RequestId.number 5]
  exact List.mem_singleton_self _

end SyntaxServer.Dispatcher
