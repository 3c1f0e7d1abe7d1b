import SyntaxServer.Proofs.Server.Reuse
import SyntaxServer.Proofs.Server.Turns

/-!
Sessions from the middle. Readings before which a session does not end leave a state that is known
by their messages (`after?_spec`), and what is written for the readings behind them depends on that
state alone (`frames_append`). Two states are alike if no further readings tell them apart; a
reading that both go on after leaves states that are alike again (`alike_react`).
-/

namespace SyntaxServer.Session

variable {σ : Type} {d : Dispatcher σ} {s t : ServerState σ} {r : Reading} {m : Message}
  {rs xs ys : List Reading}

/-! ### Messages that were read -/

def messageOf? (r : Reading) : Option Message :=
  match r.result with
  | .ok f => (Message.decode f.body).toOption
  | .error _ => none

/-- What became of the messages that were read since the start. -/
def eventsOf (d : Dispatcher σ) (shared : σ) (rs : List Reading) : List (Event σ) :=
  d.history (.start shared) (rs.filterMap messageOf?)

theorem react_none (h : messageOf? r = none) : (react d s r).state = s := by
  unfold messageOf? at h
  unfold react
  cases hr : r.result with
  | error e => cases e <;> rfl
  | ok f =>
    rw [hr] at h
    dsimp only at h ⊢
    unfold onFrame
    cases hm : Message.decode f.body with
    | error e => rfl
    | ok m =>
      rw [hm] at h
      cases h

theorem react_some (h : messageOf? r = some m) :
    (react d s r).state = (d.dispatch s m).state ∧
      (react d s r).outgoing = (d.dispatch s m).notifications.map .notification ++
        ((d.dispatch s m).response.map .response).toList ∧
      (react d s r).ending = endingOf (d.dispatch s m).control := by
  unfold messageOf? at h
  unfold react
  cases hr : r.result with
  | error e =>
    rw [hr] at h
    cases h
  | ok f =>
    rw [hr] at h
    dsimp only at h ⊢
    unfold onFrame
    cases hm : Message.decode f.body with
    | error e =>
      rw [hm] at h
      cases h
    | ok m' =>
      rw [hm] at h
      cases h
      exact ⟨rfl, rfl, rfl⟩

theorem proceed_of_endingOf {c : Control} (h : endingOf c = none) : c = .proceed := by
  cases c with
  | proceed => rfl
  | exit => cases h
  | stall => cases h

/-! ### Sessions that go on -/

/-- The state after some readings, none if the session ends with one of them. -/
abbrev after? (d : Dispatcher σ) (s : ServerState σ) (rs : List Reading) :
    Option (ServerState σ) := through? (react d) s rs

/-- **The state of a session that goes on** is the one after its messages, all of which were dealt
with. -/
theorem after?_spec (h : after? d s rs = some t) :
    t = d.after s (rs.filterMap messageOf?) ∧
      ∀ e ∈ d.history s (rs.filterMap messageOf?), e.outcome.control = .proceed := by
  refine through_induction (P := fun s rs => t = d.after s (rs.filterMap messageOf?) ∧
    ∀ e ∈ d.history s (rs.filterMap messageOf?), e.outcome.control = .proceed) h ?_ ?_
  · exact ⟨rfl, by simp [Dispatcher.history]⟩
  · rintro s r rs hend ⟨ht, hall⟩
    cases hm : messageOf? r with
    | none =>
      rw [react_none hm] at ht hall
      rw [List.filterMap_cons_none hm]
      exact ⟨ht, hall⟩
    | some m =>
      obtain ⟨hstate, -, hending⟩ := react_some (d := d) (s := s) hm
      rw [hstate] at ht hall
      rw [List.filterMap_cons_some hm]
      refine ⟨ht, List.forall_mem_cons.2 ⟨?_, hall⟩⟩
      exact proceed_of_endingOf (hending.symm.trans hend)

/-- What goes on alike behind some readings goes on alike from them on. -/
theorem messages_congr (h : after? d s rs = some t)
    (hxs : ∀ output, (serve d t output xs).messages = (serve d t output ys).messages)
    (output : Sink) :
    (serve d s output (rs ++ xs)).messages = (serve d s output (rs ++ ys)).messages := by
  refine through_induction (P := fun s rs => ∀ output, (serve d s output (rs ++ xs)).messages =
    (serve d s output (rs ++ ys)).messages) h hxs ?_ output
  intro s r rs hend ih output
  rw [List.cons_append, List.cons_append, serve, serve, hend]
  cases (writeAll output (react d s r).outgoing).2 with
  | none => rfl
  | some output' => exact congrArg (_ ++ ·) (ih output')

/-- What is written for readings is what is written for the first of them, and then what is
written from the state after those. -/
theorem frames_append (h : after? d s rs = some t) (xs : List Reading) :
    (serve d s .unbounded (rs ++ xs)).frames =
      (serve d s .unbounded rs).frames ++ (serve d t .unbounded xs).frames := by
  unfold Transcript.frames
  rw [← List.map_append]
  refine congrArg _ ?_
  refine through_induction (P := fun s rs => (serve d s .unbounded (rs ++ xs)).messages =
    (serve d s .unbounded rs).messages ++ (serve d t .unbounded xs).messages) h rfl ?_
  intro s r rs hend ih
  rw [List.cons_append, (serve_cons d s r _).1, (serve_cons d s r rs).1, hend]
  dsimp only
  rw [ih, List.append_assoc]

/-! ### States that are alike -/

/-- No session tells two states apart: whatever is read, the same frames are written. -/
def Alike (d : Dispatcher σ) (s t : ServerState σ) : Prop :=
  ∀ xs, (serve d s .unbounded xs).frames = (serve d t .unbounded xs).frames

theorem alike_react (h : Alike d s t) (hs : (react d s r).ending = none)
    (ht : (react d t r).ending = none) :
    (react d s r).outgoing.map Outgoing.bytes = (react d t r).outgoing.map Outgoing.bytes ∧
      Alike d (react d s r).state (react d t r).state := by
  have hcons : ∀ {u : ServerState σ}, (react d u r).ending = none → ∀ xs,
      (serve d u .unbounded (r :: xs)).frames = (react d u r).outgoing.map Outgoing.bytes ++
        (serve d (react d u r).state .unbounded xs).frames := by
    intro u hu xs
    unfold Transcript.frames
    rw [(serve_cons d u r xs).1, hu, List.map_append]
  have hout : (react d s r).outgoing.map Outgoing.bytes =
      (react d t r).outgoing.map Outgoing.bytes := by
    have hone : (react d s r).outgoing.map Outgoing.bytes ++ [] =
        (react d t r).outgoing.map Outgoing.bytes ++ [] :=
      (hcons hs []).symm.trans ((h [r]).trans (hcons ht []))
    exact List.append_cancel_right hone
  refine ⟨hout, fun xs => ?_⟩
  have hmore := h (r :: xs)
  rw [hcons hs, hcons ht, hout] at hmore
  exact List.append_cancel_left hmore

/-! ### Readings that go unnoticed -/

/-- A reading changes no frame that is written, whatever takes the frames and whatever is read
after it. -/
def Unnoticed (d : Dispatcher σ) (shared : σ) (pre : List Reading) (r : Reading) : Prop :=
  ∀ output post, (serve d (.start shared) output (pre ++ r :: post)).frames =
    (serve d (.start shared) output (pre ++ post)).frames

theorem serve_silent (hout : (react d s r).outgoing = []) (hend : (react d s r).ending = none)
    (output : Sink) (xs : List Reading) :
    (serve d s output (r :: xs)).messages =
      (serve d (react d s r).state output xs).messages := by
  rw [serve, hout, hend]
  rfl

/-- A reading that writes nothing and leaves the state as it was goes unnoticed. -/
theorem unnoticed_of_same {shared : σ} {pre : List Reading}
    (hpre : after? d (.start shared) pre = some t) (hout : (react d t r).outgoing = [])
    (hend : (react d t r).ending = none) (hsame : (react d t r).state = t) :
    Unnoticed d shared pre r := by
  intro output post
  refine congrArg (List.map Outgoing.bytes) (messages_congr hpre (fun output => ?_) output)
  rw [serve_silent hout hend, hsame]

/-- A reading that writes nothing and goes unnoticed leaves a state like the one it found. -/
theorem alike_of_unnoticed {shared : σ} {pre : List Reading}
    (hpre : after? d (.start shared) pre = some t) (hout : (react d t r).outgoing = [])
    (hend : (react d t r).ending = none) (h : Unnoticed d shared pre r) :
    Alike d t (react d t r).state := by
  intro xs
  have hframes := h .unbounded xs
  rw [frames_append hpre, frames_append hpre] at hframes
  have hrest := List.append_cancel_left hframes
  exact hrest.symm.trans (congrArg (List.map Outgoing.bytes) (serve_silent hout hend _ xs))

end SyntaxServer.Session
