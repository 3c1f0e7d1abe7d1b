import SyntaxServer.Proofs.Frame.Progress
import SyntaxServer.Proofs.Server.Answers

/-!
The loop of a server, call by call. Each turn calls the reader once, on what the call before it
left, and nothing but the turns themselves bounds the loop (`Serves`). On a stream of `n` bytes it is
over after at most `n + 1` calls, with the session of the stream (`serves_of_readings`), since every
call before the end of the stream takes a byte (`progress_of_calls`).
-/

namespace SyntaxServer.Session

open Stage (Comes Next)

variable {σ : Type} {d : Dispatcher σ} {s : ServerState σ} {k : Sink} {limits : Limits}
  {input : Source}

/-! ### Turns -/

/-- The loop from a state on, with an output and an input: it is over after some calls of the
reader, with what it wrote. A turn ends it if a write fails, or if what was read says so. -/
inductive Serves (d : Dispatcher σ) (limits : Limits) :
    ServerState σ → Sink → Source → Nat → Transcript → Prop
  | broken {s : ServerState σ} {k : Sink} {input : Source} {x : Reaction σ} {w : Written} :
      react d s (nextFrame limits input) = x → writeAll k x.outgoing = (w, none) →
      Serves d limits s k input 1 ((Transcript.mk [] (.failed k.cause) []).after x.log w)
  | ended {s : ServerState σ} {k k' : Sink} {input : Source} {x : Reaction σ} {w : Written}
      {e : SessionEnd} {last : List Log.Entry} :
      react d s (nextFrame limits input) = x → writeAll k x.outgoing = (w, some k') →
      x.ending = some (e, last) →
      Serves d limits s k input 1 ((Transcript.mk [] e last).after x.log w)
  | goesOn {s : ServerState σ} {k k' : Sink} {input : Source} {x : Reaction σ} {w : Written}
      {n : Nat} {t : Transcript} :
      react d s (nextFrame limits input) = x → writeAll k x.outgoing = (w, some k') →
      x.ending = none → Serves d limits x.state k' (nextFrame limits input).rest n t →
      Serves d limits s k input (n + 1) (t.after x.log w)

/-- **The loop comes to one end**: neither the calls nor what is written can be others. -/
theorem serves_unique {n n' : Nat} {t t' : Transcript} (h : Serves d limits s k input n t)
    (h' : Serves d limits s k input n' t') : n' = n ∧ t' = t := by
  induction h generalizing n' t' with
  | broken hx hw =>
    subst hx
    cases h' with
    | broken hx' hw' =>
      subst hx'
      cases hw.symm.trans hw'
      exact ⟨rfl, rfl⟩
    | ended hx' hw' _ | goesOn hx' hw' _ _ =>
      subst hx'
      cases hw.symm.trans hw'
  | ended hx hw hend =>
    subst hx
    cases h' with
    | broken hx' hw' =>
      subst hx'
      cases hw.symm.trans hw'
    | ended hx' hw' hend' =>
      subst hx'
      cases hw.symm.trans hw'
      cases hend.symm.trans hend'
      exact ⟨rfl, rfl⟩
    | goesOn hx' _ hend' _ =>
      subst hx'
      cases hend.symm.trans hend'
  | goesOn hx hw hend _ ih =>
    subst hx
    cases h' with
    | broken hx' hw' =>
      subst hx'
      cases hw.symm.trans hw'
    | ended hx' _ hend' =>
      subst hx'
      cases hend.symm.trans hend'
    | goesOn hx' hw' _ hrest' =>
      subst hx'
      cases hw.symm.trans hw'
      obtain ⟨hn, ht⟩ := ih hrest'
      exact ⟨congrArg (· + 1) hn, by rw [ht]⟩

theorem react_of_isFinal {r : Reading} (h : r.isFinal = true) : (react d s r).ending ≠ none := by
  unfold Reading.isFinal at h
  unfold react
  cases hr : r.result with
  | ok f =>
    rw [hr] at h
    cases h
  | error x =>
    rw [hr] at h
    cases x with
    | endOfStream => exact Option.some_ne_none _
    | io cause => exact Option.some_ne_none _
    | _ => cases h

/-- **The loop is over after few calls**, with the session of the readings. -/
theorem serves_of_readings (hl : 0 < limits.lineLength) {m : Nat} (hm : input.bytes.length < m)
    (s : ServerState σ) (k : Sink) :
    ∃ n ≤ input.bytes.length + 1,
      Serves d limits s k input n (serve d s k (readings limits m input)) := by
  induction m generalizing input s k with
  | zero => exact absurd hm (Nat.not_lt_zero _)
  | succ m ih =>
    rw [readings_succ, serve]
    obtain ⟨w, sink, hw⟩ : ∃ w sink,
        writeAll k (react d s (nextFrame limits input)).outgoing = (w, sink) := ⟨_, _, rfl⟩
    rw [hw]
    cases sink with
    | none => exact ⟨1, Nat.le_add_left .., .broken rfl hw⟩
    | some k' =>
      cases hend : (react d s (nextFrame limits input)).ending with
      | some p => exact ⟨1, Nat.le_add_left .., .ended rfl hw hend⟩
      | none =>
        have hfinal : (nextFrame limits input).isFinal = false :=
          Bool.of_not_eq_true fun h => react_of_isFinal h hend
        have hless := length_of_nextFrame hl hfinal
        have hm' : (nextFrame limits input).rest.bytes.length < m := by omega
        obtain ⟨n, hn, hserves⟩ := ih hm' (react d s (nextFrame limits input)).state k'
        rw [hfinal]
        exact ⟨n + 1, by omega, .goesOn rfl hw hend hserves⟩

/-- If all handlers end, nothing that is read makes the server wait without end. -/
theorem react_ne_waiting (hd : d.Finishes) (s : ServerState σ) (r : Reading) :
    (react d s r).ending.map Prod.fst ≠ some .waiting := by
  unfold react
  cases r.result with
  | error x =>
    cases x with
    | endOfStream | io cause => simp [onError]
    | _ => exact nofun
  | ok f =>
    have hframe := ending_onFrame hd s f
    dsimp only
    rw [hframe]
    split <;> simp

theorem ending_ne_waiting (hd : d.Finishes) {n : Nat} {t : Transcript}
    (h : Serves d limits s k input n t) : t.ending ≠ .waiting := by
  induction h with
  | broken _ _ => exact nofun
  | goesOn _ _ _ _ ih => exact ih
  | @ended s k k' input x w e last hx _ hend =>
    subst hx
    have hreact := react_ne_waiting hd s (nextFrame limits input)
    rw [hend] at hreact
    intro he
    exact hreact (congrArg some he)

/-! ### Progress -/

/-- **The reader makes progress on every input**, if lines may have any length at all. A call ends
after few steps, in whatever pieces its bytes arrive, with what the reader reads. One that does not
report the end of the stream takes a byte, so the end comes after at most as many calls as there
are bytes, and the loop of a server whose handlers end is over after at most one more. -/
theorem progress_of_calls (hl : 1 ≤ limits.lineLength) (input : Source) :
    (∀ n t, Comes limits input.ending input.bytes n t → n ≤ 2 * input.bytes.length + 2 ∧
      ((∃ u, Next limits input.ending t u) ∨ t = .ended (nextFrame limits input).view)) ∧
    ((nextFrame limits input).isFinal = false →
      ∃ used, used ≠ [] ∧ input.bytes = used ++ (nextFrame limits input).rest.bytes) ∧
    (∃ init last, calls limits (init.length + 1) input = init ++ [last] ∧
      init.length ≤ input.bytes.length ∧ (∀ r ∈ init, r.isFinal = false) ∧
      last.result = .error (input.ending.error .endOfStream)) ∧
    (d.Finishes → ∀ shared output, (run d shared limits input output).ending ≠ .waiting ∧
      ∃ n ≤ input.bytes.length + 1, ∀ n' t,
        Serves d limits (.start shared) output input n' t ↔
          n' = n ∧ t = run d shared limits input output) := by
  refine ⟨fun n t h => ⟨?_, ?_⟩, used_of_nextFrame hl, exists_calls hl input, ?_⟩
  · have := Stage.steps_of_comes h
    omega
  · rw [view_nextFrame]
    exact Stage.next_or_ended (Stage.leads_of_comes h)
  · intro hd shared output
    obtain ⟨n, hn, hserves⟩ := serves_of_readings (d := d) hl
      (Nat.lt_succ_self input.bytes.length) (.start shared) output
    refine ⟨ending_ne_waiting hd hserves, n, hn, fun n' t => ⟨serves_unique hserves, ?_⟩⟩
    rintro ⟨rfl, rfl⟩
    exact hserves

/-- A stray line end, a header without a length, a body that is no message, and a body that is
cut. -/
def unreadable : List UInt8 :=
  (Utf8.encode "\r\nX: 1\r\n\r\nContent-Length: 2\r\n\r\n[]Content-Length: 9\r\n\r\n[".toList)

theorem progress_of_unreadable :
    Dispatcher.Finishes ⟨Scripted.router, some 1000⟩ ∧ unreadable.length = 55 ∧
      (calls .usual 4 (.ofBytes unreadable .closed)).map (·.result) =
        [.error (.missingLength 1), .ok ⟨2, [91, 93]⟩, .error (.truncated 9 1),
          .error .endOfStream] ∧
      (∃ used, used ≠ [] ∧ (Source.ofBytes unreadable .closed).bytes =
        used ++ (nextFrame .usual (.ofBytes unreadable .closed)).rest.bytes) ∧
      ∃ n ≤ (Source.ofBytes unreadable .closed).bytes.length + 1,
        Serves ⟨Scripted.router, some 1000⟩ .usual (.start []) .unbounded
          (.ofBytes unreadable .closed) n
          (run ⟨Scripted.router, some 1000⟩ [] .usual (.ofBytes unreadable .closed) .unbounded) := by
  have hd := finishes_scripted 1000
  have hl : 1 ≤ Limits.usual.lineLength := by decide
  obtain ⟨-, hused, -, hloop⟩ :=
    progress_of_calls (d := ⟨Scripted.router, some 1000⟩) hl (.ofBytes unreadable .closed)
  obtain ⟨-, n, hn, hserves⟩ := hloop hd [] .unbounded
  refine ⟨hd, by decide +kernel, by decide +kernel, hused (by decide +kernel), n, hn, ?_⟩
  exact (hserves _ _).2 ⟨rfl, rfl⟩

end SyntaxServer.Session
