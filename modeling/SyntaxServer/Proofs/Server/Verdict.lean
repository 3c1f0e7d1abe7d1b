import SyntaxServer.Proofs.Server.Cancellation

/-!
Verdicts. How a request is answered whose handler runs, and what it leaves, follows from the end of
the call, from its effects and from the state that it leaves (`invoke_verdict`). The request itself
counts in two places only: its identifier goes back into the answer and the registry, and its method
says whether a session starts. What is written for it is what its handler queued and the answer, or
nothing (`dispatch_verdict`).
-/

namespace SyntaxServer.Dispatcher

variable {σ : Type} {d : Dispatcher σ} {s : ServerState σ}

/-- How the end of a call is answered, not at all while it is waited for. What is logged about the
request does not matter. -/
def verdict (limit : Option Nat) (x : CallEnd Json) : Option (Except ResponseError Json) :=
  (conclude limit (.text "") "" x).map Prod.fst

theorem conclude_verdict (limit : Option Nat) (id : RequestId) (method : String)
    (x : CallEnd Json) : (conclude limit id method x).map Prod.fst = verdict limit x := by
  cases x with
  | stuck => cases limit <;> rfl
  | _ => rfl

/-- The state after a call with a verdict. A call without one is not finished, and what it queued
stays with it. -/
def concluded (s : ServerState σ) (id : RequestId) (method : String) (run : RequestRun σ) :
    Option (Except ResponseError Json) → ServerState σ
  | none => { s with shared := run.state }
  | some o =>
    ⟨lifecycleAfter s.lifecycle method o, s.registry.finish id,
      s.outbox ++ Effect.queue run.effects, run.state⟩

/-- What the server does after a call with a verdict: it goes on, or it waits for one. -/
def controlOf : Option (Except ResponseError Json) → Control
  | none => .stall
  | some _ => .proceed

/-- **What a request comes to whose handler runs.** -/
theorem invoke_verdict (d : Dispatcher σ) (s : ServerState σ) (r : Request)
    {h : RequestHandler σ} {run : RequestRun σ} (hrun : h ⟨r.id, false⟩ r.params s.shared = run) :
    (d.invoke s r h).state = concluded s r.id r.method run (verdict d.limit run.ending) ∧
      (d.invoke s r h).response = (verdict d.limit run.ending).map (Response.mk r.id) ∧
      (d.invoke s r h).control = controlOf (verdict d.limit run.ending) := by
  rw [← conclude_verdict d.limit r.id r.method]
  unfold invoke
  dsimp only
  rw [hrun]
  cases conclude d.limit r.id r.method run.ending with
  | none => exact ⟨rfl, rfl, rfl⟩
  | some p => exact ⟨rfl, rfl, rfl⟩

/-- **What is written for a request whose handler runs**, behind what waited before: what it queued
and its answer, or nothing while it is waited for. -/
theorem dispatch_verdict {r : Request} {h : RequestHandler σ} {run : RequestRun σ}
    (hi : d.invoked s (.request r) ≠ []) (hh : d.router.requests.get? r.method = some h)
    (hrun : h ⟨r.id, false⟩ r.params s.shared = run) :
    (d.dispatch s (.request r)).response = (verdict d.limit run.ending).map (Response.mk r.id) ∧
      (d.dispatch s (.request r)).notifications =
        match verdict d.limit run.ending with
        | some _ => s.outbox ++ Effect.queue run.effects
        | none => s.outbox := by
  obtain ⟨h', hroute, hh', hearly⟩ := handler_of_invoked hi
  obtain rfl : h' = h := Option.some.inj (hh'.symm.trans hh)
  obtain ⟨hresponse, hnotes, -, -⟩ := dispatch_run hroute (run_invoked hearly h')
  obtain ⟨hstate, hanswer, -⟩ :=
    d.invoke_verdict { s with registry := (s.registry.enter r.id ()).2 } r (h := h') hrun
  rw [hresponse, hnotes, hanswer, hstate]
  cases verdict d.limit run.ending <;> exact ⟨rfl, rfl⟩

end SyntaxServer.Dispatcher
