import SyntaxServer.Proofs.Server.Answers

/-!
Streams that fail while they are written to. A stream that has room for some frames takes the first
of the messages that it is given, and fails with the first one too many (`writeAll_room`). Whatever
the server has done about a reading by then, nothing of it comes out, so the session is the one on a
stream that never fails, cut at a frame (`cut_of_room`).
-/

namespace SyntaxServer.Session

variable {σ : Type} {d : Dispatcher σ} {s : ServerState σ} {n : Nat} {cause : String}

/-! ### Some messages -/

/-- **A stream with room for some frames** takes the first of the messages. It fails if there are
more than it has room for, and else it has room for the others. -/
theorem writeAll_room (n : Nat) (cause : String) (os : List Outgoing) :
    (writeAll ⟨some n, cause⟩ os).1.messages = os.take n ∧
      (writeAll ⟨some n, cause⟩ os).2 =
        if n < os.length then none else some ⟨some (n - os.length), cause⟩ := by
  induction os generalizing n with
  | nil => exact ⟨List.take_nil.symm, rfl⟩
  | cons o os ih =>
    cases n with
    | zero => exact ⟨rfl, rfl⟩
    | succ n =>
      have hwrite : (Sink.mk (some (n + 1)) cause).write? = some ⟨some n, cause⟩ := rfl
      obtain ⟨hmessages, hsink⟩ := ih n
      unfold writeAll
      rw [hwrite]
      dsimp only
      rw [hmessages, hsink, List.length_cons, Nat.add_sub_add_right]
      refine ⟨rfl, ?_⟩
      by_cases h : n < os.length
      · rw [if_pos h, if_pos (Nat.succ_lt_succ h)]
      · rw [if_neg h, if_neg (mt Nat.lt_of_succ_lt_succ h)]

/-! ### All readings -/

/-- A session on a stream with room for some frames is another one that is cut: it writes the first
messages, and it fails if there are more. -/
structure CutAt (n : Nat) (cause : String) (t whole : Transcript) : Prop where
  messages : t.messages = whole.messages.take n
  ending : t.ending = if n < whole.messages.length then .failed cause else whole.ending

theorem cutAt_full {r : Reading} (h : n < (react d s r).outgoing.length) (rs : List Reading) :
    CutAt n cause (serve d s ⟨some n, cause⟩ (r :: rs)) (serve d s .unbounded (r :: rs)) := by
  obtain ⟨hmessages, hsink⟩ := writeAll_room n cause (react d s r).outgoing
  obtain ⟨hwhole, -⟩ := serve_cons d s r rs
  rw [if_pos h] at hsink
  have hserve : (serve d s ⟨some n, cause⟩ (r :: rs)).messages = (react d s r).outgoing.take n ∧
      (serve d s ⟨some n, cause⟩ (r :: rs)).ending = .failed cause := by
    rw [serve, hsink]
    refine ⟨?_, rfl⟩
    rw [← hmessages]
    exact List.append_nil _
  constructor
  · rw [hserve.1, hwhole, List.take_append_of_le_length (Nat.le_of_lt h)]
  · rw [hserve.2, hwhole, List.length_append, if_pos (by omega)]

theorem cutAt_fits {r : Reading} {rs : List Reading} (h : ¬ n < (react d s r).outgoing.length)
    (ih : CutAt (n - (react d s r).outgoing.length) cause
      (serve d (react d s r).state ⟨some (n - (react d s r).outgoing.length), cause⟩ rs)
      (serve d (react d s r).state .unbounded rs)) :
    CutAt n cause (serve d s ⟨some n, cause⟩ (r :: rs)) (serve d s .unbounded (r :: rs)) := by
  obtain ⟨hmessages, hsink⟩ := writeAll_room n cause (react d s r).outgoing
  obtain ⟨hwhole, hending⟩ := serve_cons d s r rs
  rw [if_neg h] at hsink
  rw [List.take_of_length_le (Nat.le_of_not_lt h)] at hmessages
  cases hend : (react d s r).ending with
  | some x =>
    rw [hend] at hwhole hending
    dsimp only at hwhole hending
    rw [List.append_nil] at hwhole
    constructor
    · rw [hwhole, List.take_of_length_le (Nat.le_of_not_lt h), serve, hsink, hend]
      exact (List.append_nil _).trans hmessages
    · rw [hwhole, if_neg h, hending, serve, hsink, hend]
      rfl
  | none =>
    rw [hend] at hwhole hending
    dsimp only at hwhole hending
    constructor
    · rw [hwhole, List.take_append, List.take_of_length_le (Nat.le_of_not_lt h), ← ih.messages,
        serve, hsink, hend]
      exact congrArg (· ++ _) hmessages
    · have hlength : n < (serve d s .unbounded (r :: rs)).messages.length ↔
          n - (react d s r).outgoing.length <
            (serve d (react d s r).state .unbounded rs).messages.length := by
        rw [hwhole, List.length_append]
        omega
      rw [if_congr hlength rfl hending, ← ih.ending, serve, hsink, hend]
      rfl

/-- **Readings on a stream with room for some frames** are served up to the first message too
many. -/
theorem cutAt_serve (d : Dispatcher σ) (s : ServerState σ) (n : Nat) (cause : String)
    (rs : List Reading) :
    CutAt n cause (serve d s ⟨some n, cause⟩ rs) (serve d s .unbounded rs) := by
  induction rs generalizing s n with
  | nil => exact ⟨List.take_nil.symm, rfl⟩
  | cons r rs ih =>
    by_cases h : n < (react d s r).outgoing.length
    · exact cutAt_full h rs
    · exact cutAt_fits h (ih ..)

/-- **A stream that fails cuts the session between two frames.** If writing fails once `n` frames
are written, the session writes the first `n` frames of the one on a stream that never fails. It
fails if and only if that one writes more, and else it ends in the same way. -/
theorem cut_of_room (d : Dispatcher σ) (shared : σ) (limits : Limits) (input : Source) (n : Nat)
    (cause : String) :
    (run d shared limits input ⟨some n, cause⟩).frames =
        (run d shared limits input .unbounded).frames.take n ∧
      (run d shared limits input ⟨some n, cause⟩).ending =
        if n < (run d shared limits input .unbounded).frames.length then .failed cause
        else (run d shared limits input .unbounded).ending := by
  have hcut : CutAt n cause (run d shared limits input ⟨some n, cause⟩)
      (run d shared limits input .unbounded) := cutAt_serve d (.start shared) n cause _
  unfold Transcript.frames
  rw [List.length_map, ← List.map_take, ← hcut.messages]
  exact ⟨rfl, hcut.ending⟩

end SyntaxServer.Session
