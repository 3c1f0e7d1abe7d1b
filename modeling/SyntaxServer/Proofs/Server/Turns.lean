import SyntaxServer.Proofs.Frame.Cut
import SyntaxServer.Proofs.Server.Answers

/-!
Sessions by their bodies. A session depends on its stream through the bodies of the frames that are
read of it, and on nothing else: each of them is dealt with in the state that those before it
leave, up to one that ends the session, and what is written is what is written for each in turn
(`messages_run`). The first bodies of a session do not see those that follow (`turns_append`). The
state that a session goes on from is defined once, for bodies and for readings (`through?`).
-/

namespace SyntaxServer.Session

variable {σ : Type} {d : Dispatcher σ} {s t : ServerState σ} {limits : Limits} {shared : σ}
  {body : List UInt8} {xs : List (List UInt8)}

/-! ### Going on -/

section Steps

variable {α : Type} {step : ServerState σ → α → Reaction σ} {as : List α}

/-- The state after some steps, none if the session ends with one of them. -/
def through? (step : ServerState σ → α → Reaction σ) :
    ServerState σ → List α → Option (ServerState σ)
  | s, [] => some s
  | s, a :: as =>
    match (step s a).ending with
    | some _ => none
    | none => through? step (step s a).state as

/-- A session that goes on has gone on after each of the steps. -/
theorem through_induction {P : ServerState σ → List α → Prop} (h : through? step s as = some t)
    (nil : P t [])
    (cons : ∀ s a as, (step s a).ending = none → P (step s a).state as → P s (a :: as)) :
    P s as := by
  induction as generalizing s with
  | nil =>
    cases h
    exact nil
  | cons a as ih =>
    unfold through? at h
    cases hend : (step s a).ending with
    | some x =>
      rw [hend] at h
      cases h
    | none =>
      rw [hend] at h
      exact cons s a as hend (ih h)

end Steps

/-! ### One body -/

/-- What a server does about the body of a frame. -/
def onBody (d : Dispatcher σ) (s : ServerState σ) (body : List UInt8) : Reaction σ :=
  onFrame d s ⟨body.length, body⟩

/-- A body that a session deals with, and the state that it finds. -/
structure Turn (σ : Type) where
  before : ServerState σ
  body : List UInt8

def Turn.reaction (d : Dispatcher σ) (x : Turn σ) : Reaction σ := onBody d x.before x.body

/-- Of a frame only its body matters, but for the log. -/
theorem onFrame_body (d : Dispatcher σ) (s : ServerState σ) (f : Frame) :
    (onFrame d s f).state = (onBody d s f.body).state ∧
      (onFrame d s f).outgoing = (onBody d s f.body).outgoing ∧
      (onFrame d s f).ending = (onBody d s f.body).ending := by
  unfold onBody onFrame
  dsimp only
  cases Message.decode f.body with
  | error e => exact ⟨rfl, rfl, rfl⟩
  | ok m => exact ⟨rfl, rfl, rfl⟩

theorem onBody_error {e : DecodeError} (h : Message.decode body = .error e) :
    (onBody d s body).state = s ∧
      (onBody d s body).outgoing = (e.response?.map .response).toList ∧
      (onBody d s body).ending = none := by
  unfold onBody onFrame
  dsimp only
  rw [h]
  exact ⟨rfl, rfl, rfl⟩

theorem onBody_ok {m : Message} (h : Message.decode body = .ok m) :
    (onBody d s body).state = (d.dispatch s m).state ∧
      (onBody d s body).outgoing = (d.dispatch s m).notifications.map .notification ++
        ((d.dispatch s m).response.map .response).toList ∧
      (onBody d s body).ending = endingOf (d.dispatch s m).control := by
  unfold onBody onFrame
  dsimp only
  rw [h]
  exact ⟨rfl, rfl, rfl⟩

/-- A body without bytes is no message, and no identifier can be read of it. -/
theorem onBody_nil (d : Dispatcher σ) (s : ServerState σ) :
    (onBody d s []).outgoing = [] ∧ (onBody d s []).ending = none := by
  have hread : Json.ofBytes? [] = none := Option.isNone_iff_eq_none.1 (by decide +kernel)
  have hdecode : Message.decode [] = .error .notJson := by
    unfold Message.decode
    rw [hread]
  obtain ⟨-, hout, hend⟩ := onBody_error (d := d) (s := s) hdecode
  exact ⟨hout, hend⟩

/-! ### Bodies in turn -/

/-- The bodies that a session deals with. -/
def turns (d : Dispatcher σ) : ServerState σ → List (List UInt8) → List (Turn σ)
  | _, [] => []
  | s, body :: rest =>
    ⟨s, body⟩ :: match (onBody d s body).ending with
      | some _ => []
      | none => turns d (onBody d s body).state rest

/-- The state after some bodies, none if the session ends with one of them. -/
abbrev reach? (d : Dispatcher σ) (s : ServerState σ) (xs : List (List UInt8)) :
    Option (ServerState σ) := through? (onBody d) s xs

/-- **The first bodies of a session do not see those that follow.** -/
theorem turns_append (d : Dispatcher σ) (s : ServerState σ) (xs ys : List (List UInt8)) :
    turns d s (xs ++ ys) = turns d s xs ++
      match reach? d s xs with
      | some t => turns d t ys
      | none => [] := by
  induction xs generalizing s with
  | nil => rfl
  | cons body xs ih =>
    rw [List.cons_append, turns, turns, reach?, through?]
    cases (onBody d s body).ending with
    | some x => rfl
    | none => exact congrArg (_ :: ·) (ih _)

def outgoingOf (d : Dispatcher σ) (s : ServerState σ) (xs : List (List UInt8)) : List Outgoing :=
  (turns d s xs).flatMap fun x => (x.reaction d).outgoing

theorem outgoingOf_append (d : Dispatcher σ) (s : ServerState σ) (xs ys : List (List UInt8)) :
    outgoingOf d s (xs ++ ys) = outgoingOf d s xs ++
      match reach? d s xs with
      | some t => outgoingOf d t ys
      | none => [] := by
  unfold outgoingOf
  rw [turns_append, List.flatMap_append]
  cases reach? d s xs <;> rfl

theorem outgoingOf_cons (d : Dispatcher σ) (s : ServerState σ) (body : List UInt8)
    (xs : List (List UInt8)) :
    outgoingOf d s (body :: xs) = (onBody d s body).outgoing ++
      match (onBody d s body).ending with
      | some _ => []
      | none => outgoingOf d (onBody d s body).state xs := by
  unfold outgoingOf
  rw [turns, List.flatMap_cons]
  cases (onBody d s body).ending <;> rfl

/-! ### The exit -/

theorem ending_onBody (hd : d.Finishes) (s : ServerState σ) (body : List UInt8) :
    (onBody d s body).ending.map Prod.fst = if asksExit body = true then some .exited else none :=
  ending_onFrame hd s ⟨body.length, body⟩

theorem ending_onBody_eq_none (hd : d.Finishes) (s : ServerState σ) (body : List UInt8) :
    (onBody d s body).ending = none ↔ asksExit body = false := by
  rw [← Option.map_eq_none_iff, ending_onBody hd]
  cases asksExit body <;> simp

/-- A session gets through some bodies if and only if none of them asks for the exit. -/
theorem reach?_eq_none (hd : d.Finishes) (s : ServerState σ) (xs : List (List UInt8)) :
    reach? d s xs = none ↔ xs.any asksExit = true := by
  induction xs generalizing s with
  | nil => exact ⟨nofun, nofun⟩
  | cons body xs ih =>
    have hbody := ending_onBody_eq_none hd s body
    rw [reach?, through?, List.any_cons, Bool.or_eq_true]
    cases hend : (onBody d s body).ending with
    | none =>
      dsimp only
      rw [ih, hbody.1 hend]
      simp
    | some e =>
      have hask : asksExit body = true := by
        rw [hend] at hbody
        exact Bool.of_not_eq_false fun hno => Option.some_ne_none e (hbody.2 hno)
      exact ⟨fun _ => Or.inl hask, fun _ => rfl⟩

/-! ### What holds in every turn -/

section Invariants

variable {P : ServerState σ → Prop} (hstep : ∀ s m, P s → P (d.dispatch s m).state)

include hstep

theorem keeps_onBody (hs : P s) (body : List UInt8) : P (onBody d s body).state := by
  cases hm : Message.decode body with
  | error e =>
    rw [(onBody_error hm).1]
    exact hs
  | ok m =>
    rw [(onBody_ok hm).1]
    exact hstep s m hs

/-- A property of states that every message keeps, and that holds at first, holds in every turn. -/
theorem before_of_turn {x : Turn σ} (hs : P s) (hx : x ∈ turns d s xs) : P x.before := by
  induction xs generalizing s with
  | nil => cases hx
  | cons body xs ih =>
    rw [turns] at hx
    cases hx with
    | head => exact hs
    | tail _ hx =>
      cases hend : (onBody d s body).ending with
      | some e =>
        rw [hend] at hx
        cases hx
      | none =>
        rw [hend] at hx
        exact ih (keeps_onBody hstep hs body) hx

theorem of_reach? (hs : P s) (ht : reach? d s xs = some t) : P t :=
  through_induction (P := fun s _ => P s → P t) ht id
    (fun _ body _ _ ih hs => ih (keeps_onBody hstep hs body)) hs

end Invariants

/-! ### Streams -/

theorem bodies_allReadings (hl : 0 < limits.lineLength) (input : Source) :
    bodies (allReadings limits input) = bodiesOf (results limits input.ending input.bytes) := by
  rw [← map_view_allReadings hl]
  unfold bodies bodiesOf
  rw [List.filterMap_map]
  refine List.filterMap_congr fun r _ => ?_
  show _ = r.result.toOption.map Frame.body
  cases r.result <;> rfl

/-- The readings of a stream go on up to the one that says how it ends. -/
theorem exists_allReadings (hl : 0 < limits.lineLength) (input : Source) :
    ∃ init last, allReadings limits input = init ++ [last] ∧
      (∀ r ∈ init, r.isFinal = false) ∧
      last.result = .error (input.ending.error .endOfStream) := by
  obtain ⟨rs, hrs, hfinal⟩ := exists_results hl input.ending input.bytes
  rw [← map_view_allReadings hl] at hrs
  obtain ⟨init, tail, hall, hinit, htail⟩ := List.map_eq_append_iff.1 hrs
  obtain ⟨last, rest, rfl, hlast, hrest⟩ := List.map_eq_cons_iff.1 htail
  rw [List.map_eq_nil_iff.1 hrest] at hall
  refine ⟨init, last, hall, ?_, (Prod.mk.inj hlast).1⟩
  intro r hr
  rw [← isFinal_view]
  exact hfinal _ (hinit ▸ List.mem_map_of_mem hr)

theorem messages_serve {e : StreamEnd} {init : List Reading} {last : Reading}
    (hinit : ∀ r ∈ init, r.isFinal = false) (hlast : last.result = .error (e.error .endOfStream))
    (s : ServerState σ) :
    (serve d s .unbounded (init ++ [last])).messages =
      outgoingOf d s (bodies (init ++ [last])) := by
  induction init generalizing s with
  | nil =>
    obtain ⟨hout, hend⟩ := react_last (d := d) (s := s) hlast
    obtain ⟨p, hp, -⟩ := Option.map_eq_some_iff.1 hend
    rw [List.nil_append, (serve_cons d s last []).1, hout, hp, bodies_cons_error hlast]
    rfl
  | cons r init ih =>
    obtain ⟨hr, hinit⟩ := List.forall_mem_cons.1 hinit
    rw [List.cons_append, (serve_cons d s r _).1]
    cases hresult : r.result with
    | error x =>
      -- a frame that is dropped is no body, and does nothing
      have hx : x.isFinal = false := by
        unfold Reading.isFinal at hr
        rw [hresult] at hr
        exact hr
      obtain ⟨hout, hend⟩ := react_error (d := d) (s := s) hresult hx
      have hstate : (react d s r).state = s := by
        unfold react
        rw [hresult]
        cases x <;> rfl
      rw [hout, hend, hstate, bodies_cons_error hresult]
      exact ih hinit s
    | ok f =>
      have hreact : (react d s r).state = (onFrame d s f).state ∧
          (react d s r).outgoing = (onFrame d s f).outgoing ∧
          (react d s r).ending = (onFrame d s f).ending := by
        unfold react
        rw [hresult]
        exact ⟨rfl, rfl, rfl⟩
      obtain ⟨hstate, hout, hend⟩ := hreact
      obtain ⟨hstate', hout', hend'⟩ := onFrame_body d s f
      rw [bodies_cons_ok hresult, outgoingOf_cons, hout, hout', hend, hend', hstate, hstate']
      cases (onBody d s f.body).ending with
      | some x => rfl
      | none => exact congrArg (_ ++ ·) (ih hinit _)

/-- **What a session writes** is what is written for the bodies of its stream in turn. -/
theorem messages_run (hl : 0 < limits.lineLength) (shared : σ) (input : Source) :
    (run d shared limits input .unbounded).messages =
      outgoingOf d (.start shared) (bodies (allReadings limits input)) := by
  obtain ⟨init, last, hall, hinit, hlast⟩ := exists_allReadings hl input
  unfold run
  rw [hall]
  exact messages_serve hinit hlast _

/-- If all handlers end, a session ends with the exit, or with its stream. -/
theorem ending_run (hd : d.Finishes) (hl : 0 < limits.lineLength) (shared : σ) (input : Source) :
    (run d shared limits input .unbounded).ending =
      if (bodies (allReadings limits input)).any asksExit then .exited
      else endOf input.ending := by
  obtain ⟨init, last, hall, hinit, hlast⟩ := exists_allReadings hl input
  unfold run
  rw [hall]
  exact (answered_serve hd hinit hlast _).2

end SyntaxServer.Session
