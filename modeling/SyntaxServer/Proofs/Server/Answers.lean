import SyntaxServer.Proofs.Frame.Readings
import SyntaxServer.Proofs.Rpc.Identifier
import SyntaxServer.Proofs.Server.Dispatch
import SyntaxServer.Server.Scripted
import SyntaxServer.Server.Session

/-!
The answers of a session. If all handlers end, a session hears every body up to the first that asks
for the exit, and answers each one that is owed an answer, once, in the order in which they arrive,
under the identifier of the body (`answers_of_run`).
-/

namespace SyntaxServer.Session

open Message (bodyId?)

variable {σ : Type} {d : Dispatcher σ} {s : ServerState σ}

/-! ### Bodies -/

/-- The bodies of the frames among some readings. -/
def bodies (rs : List Reading) : List (List UInt8) :=
  rs.filterMap fun r => match r.result with
    | .ok f => some f.body
    | .error _ => none

def asksExit (body : List UInt8) : Bool :=
  match Message.decode body with
  | .ok m => Dispatcher.ends m
  | .error _ => false

/-- The bodies up to the first that asks for the exit, and that one. -/
def heard : List (List UInt8) → List (List UInt8)
  | [] => []
  | body :: rest => if asksExit body then [body] else body :: heard rest

/-- The identifier under which a body is owed an answer: that of an object with a valid one, if it
is not the answer of a client. -/
def owed? (body : List UInt8) : Option RequestId :=
  match Message.decode body with
  | .ok (.response _) => none
  | _ => bodyId? body

/-! ### One reading -/

theorem answered_notifications (ns : List Notification) :
    (ns.map Outgoing.notification).filterMap Outgoing.answered? = [] := by
  rw [List.filterMap_map, List.filterMap_eq_nil_iff]
  intro n _
  rfl

theorem answered_response (r : Option Response) :
    (r.map Outgoing.response).toList.filterMap Outgoing.answered? = (r.map Response.id).toList := by
  cases r <;> rfl

/-- **A frame is answered as it is owed.** -/
theorem answered_onFrame (hd : d.Finishes) (s : ServerState σ) (f : Frame) :
    (onFrame d s f).outgoing.filterMap Outgoing.answered? = (owed? f.body).toList := by
  have hknown := Message.known?_decode f.body
  unfold onFrame owed?
  cases hm : Message.decode f.body with
  | error e =>
    rw [hm] at hknown
    dsimp only
    rw [answered_response, ← hknown]
    unfold DecodeError.response?
    rw [Option.map_map]
    cases h : e.id? <;> simp [Message.known?, h, Response.failure]
  | ok m =>
    rw [hm] at hknown
    have hresponse := Dispatcher.response_dispatch hd s m
    dsimp only
    rw [List.filterMap_append, answered_notifications, answered_response, hresponse]
    cases m with
    | request r => rw [← hknown]; rfl
    | notification n => rw [← hknown]; rfl
    | response r => rfl

theorem ending_onFrame (hd : d.Finishes) (s : ServerState σ) (f : Frame) :
    (onFrame d s f).ending.map Prod.fst = if asksExit f.body then some .exited else none := by
  unfold onFrame asksExit
  cases Message.decode f.body with
  | error e => rfl
  | ok m =>
    dsimp only
    rw [Dispatcher.control_dispatch hd]
    by_cases h : Dispatcher.ends m = true
    · rw [if_pos h, if_pos h]
      rfl
    · rw [if_neg h, if_neg h]
      rfl

/-! ### All readings -/

theorem writeAll_unbounded (os : List Outgoing) :
    (writeAll .unbounded os).1.messages = os ∧ (writeAll .unbounded os).2 = some .unbounded := by
  induction os with
  | nil => exact ⟨rfl, rfl⟩
  | cons o os ih =>
    obtain ⟨h₁, h₂⟩ := ih
    have hw : Sink.unbounded.write? = some .unbounded := rfl
    unfold writeAll
    rw [hw]
    exact ⟨congrArg (o :: ·) h₁, h₂⟩

theorem serve_cons (d : Dispatcher σ) (s : ServerState σ) (r : Reading) (rs : List Reading) :
    (serve d s .unbounded (r :: rs)).messages = (react d s r).outgoing ++
        (match (react d s r).ending with
          | some _ => []
          | none => (serve d (react d s r).state .unbounded rs).messages) ∧
      (serve d s .unbounded (r :: rs)).ending =
        (match (react d s r).ending with
          | some x => x.1
          | none => (serve d (react d s r).state .unbounded rs).ending) := by
  obtain ⟨h₁, h₂⟩ := writeAll_unbounded (react d s r).outgoing
  rw [serve, h₂]
  cases (react d s r).ending with
  | some x => exact ⟨congrArg (· ++ []) h₁, rfl⟩
  | none => exact ⟨congrArg (· ++ _) h₁, rfl⟩

theorem bodies_cons_ok {r : Reading} {f : Frame} (h : r.result = .ok f) (rs : List Reading) :
    bodies (r :: rs) = f.body :: bodies rs :=
  List.filterMap_cons_some (by rw [h])

theorem bodies_cons_error {r : Reading} {x : FrameError} (h : r.result = .error x)
    (rs : List Reading) : bodies (r :: rs) = bodies rs :=
  List.filterMap_cons_none (by rw [h])

/-- A frame that was not read is not answered, and ends nothing but with the stream. -/
theorem react_error {r : Reading} {x : FrameError} (h : r.result = .error x)
    (hx : x.isFinal = false) :
    (react d s r).outgoing = [] ∧ (react d s r).ending = none := by
  unfold react
  rw [h]
  cases x with
  | endOfStream => cases hx
  | io cause => cases hx
  | _ => exact ⟨rfl, rfl⟩

def endOf : StreamEnd → SessionEnd
  | .closed => .closed
  | .failed cause => .failed cause

theorem react_last {r : Reading} {e : StreamEnd} (h : r.result = .error (e.error .endOfStream)) :
    (react d s r).outgoing = [] ∧ (react d s r).ending.map Prod.fst = some (endOf e) := by
  unfold react
  rw [h]
  cases e with
  | closed => exact ⟨rfl, rfl⟩
  | failed cause => exact ⟨rfl, rfl⟩

/-- Some readings are answered as is owed for them, and end with the exit, if one is asked for, or
with the input. -/
def Answered (d : Dispatcher σ) (s : ServerState σ) (e : StreamEnd) (rs : List Reading) : Prop :=
  (serve d s .unbounded rs).messages.filterMap Outgoing.answered? =
      (heard (bodies rs)).filterMap owed? ∧
    (serve d s .unbounded rs).ending = if (bodies rs).any asksExit then .exited else endOf e

theorem answered_last {e : StreamEnd} {last : Reading}
    (h : last.result = .error (e.error .endOfStream)) : Answered d s e [last] := by
  obtain ⟨hm, he⟩ := serve_cons d s last []
  obtain ⟨hout, hend⟩ := react_last (d := d) (s := s) h
  obtain ⟨p, hp, hfst⟩ := Option.map_eq_some_iff.1 hend
  unfold Answered
  rw [hm, he, hout, hp, bodies_cons_error h]
  exact ⟨rfl, hfst⟩

theorem answered_error {e : StreamEnd} {r : Reading} {x : FrameError} {rs : List Reading}
    (h : r.result = .error x) (hx : x.isFinal = false)
    (ih : Answered d (react d s r).state e rs) : Answered d s e (r :: rs) := by
  obtain ⟨hm, he⟩ := serve_cons d s r rs
  obtain ⟨hout, hend⟩ := react_error (d := d) (s := s) h hx
  unfold Answered
  rw [hm, he, hout, hend, bodies_cons_error h]
  exact ih

theorem answered_ok {e : StreamEnd} {r : Reading} {f : Frame} {rs : List Reading}
    (hd : d.Finishes) (h : r.result = .ok f) (ih : Answered d (react d s r).state e rs) :
    Answered d s e (r :: rs) := by
  obtain ⟨hm, he⟩ := serve_cons d s r rs
  have hout : (react d s r).outgoing.filterMap Outgoing.answered? = (owed? f.body).toList := by
    unfold react
    rw [h]
    exact answered_onFrame hd s f
  have hend : (react d s r).ending.map Prod.fst =
      if asksExit f.body then some .exited else none := by
    unfold react
    rw [h]
    exact ending_onFrame hd s f
  have howed : ∀ rest : List (List UInt8), (f.body :: rest).filterMap owed? =
      (owed? f.body).toList ++ rest.filterMap owed? := by
    intro rest
    rw [List.filterMap_cons]
    cases owed? f.body <;> rfl
  unfold Answered
  rw [hm, he, bodies_cons_ok h, heard, List.any_cons, List.filterMap_append, hout]
  by_cases hx : asksExit f.body = true
  · rw [if_pos hx] at hend
    obtain ⟨p, hp, hfst⟩ := Option.map_eq_some_iff.1 hend
    rw [hp, if_pos hx, hx, howed]
    exact ⟨rfl, hfst⟩
  · rw [if_neg hx] at hend
    rw [Option.map_eq_none_iff.1 hend, if_neg hx, Bool.eq_false_iff.2 hx, howed]
    exact ⟨congrArg (_ ++ ·) ih.1, ih.2⟩

/-- Readings up to the end of a stream are answered as they are owed. -/
theorem answered_serve {e : StreamEnd} {init : List Reading} {last : Reading}
    (hd : d.Finishes) (hinit : ∀ r ∈ init, r.isFinal = false)
    (hlast : last.result = .error (e.error .endOfStream)) (s : ServerState σ) :
    Answered d s e (init ++ [last]) := by
  induction init generalizing s with
  | nil => exact answered_last hlast
  | cons r init ih =>
    obtain ⟨hr, hinit⟩ := List.forall_mem_cons.1 hinit
    cases hresult : r.result with
    | error x =>
      unfold Reading.isFinal at hr
      rw [hresult] at hr
      exact answered_error hresult hr (ih hinit _)
    | ok f => exact answered_ok hd hresult (ih hinit _)

/-- **A session answers what it owes**: exactly one answer for each body it hears that is owed
one, in the order of the bodies. It ends with the exit, if one is asked for, or with the input. -/
theorem answers_of_run {limits : Limits} (hd : d.Finishes) (hl : 1 ≤ limits.lineLength)
    (shared : σ) (input : Source) :
    (run d shared limits input .unbounded).messages.filterMap Outgoing.answered? =
        (heard (bodies (allReadings limits input))).filterMap owed? ∧
      (run d shared limits input .unbounded).ending =
        if (bodies (allReadings limits input)).any asksExit then .exited
        else endOf input.ending := by
  obtain ⟨rs, hrs, hfinal⟩ := exists_results hl input.ending input.bytes
  rw [← map_view_allReadings hl] at hrs
  obtain ⟨init, tail, hall, hinit, htail⟩ := List.map_eq_append_iff.1 hrs
  obtain ⟨last, rest, rfl, hlast, hrest⟩ := List.map_eq_cons_iff.1 htail
  rw [List.map_eq_nil_iff.1 hrest] at hall
  unfold run
  rw [hall]
  refine answered_serve hd (fun r hr => ?_) (Prod.mk.inj hlast).1 _
  rw [← isFinal_view]
  exact hfinal _ (hinit ▸ List.mem_map_of_mem hr)

/-! ### Handlers that act out their parameters -/

theorem finishes_scripted (n : Nat) : Dispatcher.Finishes ⟨Scripted.router, some n⟩ := by
  refine Dispatcher.finishes_onNotification (Dispatcher.finishes_onNotification
    (Dispatcher.finishes_onRequest (Dispatcher.finishes_onRequest (Dispatcher.finishes_onRequest
      (Dispatcher.finishes_onRequest (Dispatcher.finishes_empty _) _ ?_) _ ?_) _ ?_) _ ?_)
        _ ?_) _ ?_
  · exact fun _ _ _ _ => Option.some_ne_none n
  · exact fun _ _ _ _ => Option.some_ne_none n
  · exact fun _ _ _ _ => Option.some_ne_none n
  · exact fun _ _ _ _ => Option.some_ne_none n
  · intro p shared
    unfold Scripted.record
    dsimp only
    split
    · simp
    · dsimp only
      split <;> simp
  · exact fun _ _ => by simp [Scripted.recordClosing]

/-- Too early, no message, a notification, the exit, and one that is not heard. -/
def rejectedInput : List UInt8 :=
  ["\x7b\"jsonrpc\":\"2.0\",\"id\":7,\"method\":\"shutdown\"\x7d", "\x7b\"id\":\"a\"\x7d",
    "\x7b\"jsonrpc\":\"2.0\",\"method\":\"initialized\"\x7d",
    "\x7b\"jsonrpc\":\"2.0\",\"id\":1,\"method\":\"exit\"\x7d",
    "\x7b\"jsonrpc\":\"2.0\",\"id\":2,\"method\":\"exit\"\x7d"].flatMap
    fun text => frame (Utf8.encode text.toList)

theorem answers_of_rejectedInput :
    (run ⟨Scripted.router, some 1000⟩ [] .usual (.ofBytes rejectedInput .closed)
        .unbounded).messages.filterMap Outgoing.answered? = [.number 7, .text "a", .number 1] ∧
      (run ⟨Scripted.router, some 1000⟩ [] .usual (.ofBytes rejectedInput .closed)
        .unbounded).ending = .exited := by
  have hl : 1 ≤ Limits.usual.lineLength := by decide
  obtain ⟨hanswers, hending⟩ := answers_of_run (finishes_scripted 1000) hl []
    (.ofBytes rejectedInput .closed)
  refine ⟨hanswers.trans ?_, hending.trans ?_⟩
  · decide +kernel
  · decide +kernel

end SyntaxServer.Session
