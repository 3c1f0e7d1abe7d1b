import SyntaxServer.Proofs.Server.Backend
import SyntaxServer.Proofs.Server.Turns

/-!
Causality. Wherever a stream is cut, and however it ends there, what a session writes for its
beginning is the beginning of what it writes for all of it (`prefix_frames`): a cut may leave
a shorter length, or a carriage return that closes a header, but no message can be made of that. So
a stream that fails is answered like one that ends, and the failure shows unless a message asks for
the exit before it (`causal_of_prefix`).
-/

namespace SyntaxServer.Session

open Backend (bareServer)

variable {σ : Type} {d : Dispatcher σ} {s : ServerState σ} {limits : Limits} {shared : σ}
  {xs ys : List (List UInt8)}

/-! ### Bodies that are cut off -/

theorem prefix_outgoingOf (d : Dispatcher σ) (s : ServerState σ) (h : xs <+: ys) :
    outgoingOf d s xs <+: outgoingOf d s ys := by
  obtain ⟨more, rfl⟩ := h
  rw [outgoingOf_append]
  exact List.prefix_append _ _

theorem outgoingOf_concat_nil (d : Dispatcher σ) (s : ServerState σ) (xs : List (List UInt8)) :
    outgoingOf d s (xs ++ [[]]) = outgoingOf d s xs := by
  rw [outgoingOf_append]
  cases reach? d s xs with
  | none => exact List.append_nil _
  | some t =>
    have hnone : outgoingOf d t [[]] = [] := by
      rw [outgoingOf_cons, (onBody_nil d t).1, (onBody_nil d t).2]
      rfl
    dsimp only
    rw [hnone, List.append_nil]

theorem outgoingOf_cutOff (d : Dispatcher σ) (s : ServerState σ) (h : CutOff xs ys) :
    outgoingOf d s xs <+: outgoingOf d s ys := by
  obtain ⟨whole, hxs, hbegin⟩ := h
  rcases hxs with rfl | rfl
  · exact prefix_outgoingOf d s hbegin
  · rw [outgoingOf_concat_nil]
    exact prefix_outgoingOf d s hbegin

theorem asksExit_nil : asksExit [] = false := by decide +kernel

theorem any_asksExit_of_cutOff (h : CutOff xs ys) (hx : xs.any asksExit = true) :
    ys.any asksExit = true := by
  obtain ⟨whole, hxs, hbegin⟩ := h
  have hwhole : whole.any asksExit = true := by
    rcases hxs with rfl | rfl
    · exact hx
    · rwa [List.any_append, List.any_cons, asksExit_nil, List.any_nil, Bool.or_false,
        Bool.or_false] at hx
  obtain ⟨body, hbody, hask⟩ := List.any_eq_true.1 hwhole
  exact List.any_eq_true.2 ⟨body, hbegin.subset hbody, hask⟩

/-! ### Streams that are cut off -/

theorem cutOff_allReadings (hl : 0 < limits.lineLength) {input whole : Source}
    (h : input.bytes <+: whole.bytes) :
    CutOff (bodies (allReadings limits input)) (bodies (allReadings limits whole)) := by
  obtain ⟨more, hmore⟩ := h
  rw [bodies_allReadings hl, bodies_allReadings hl, ← hmore]
  exact cutOff_bodies hl input.ending whole.ending input.bytes more

/-- **The frames for the beginning of a stream** are the beginning of those for all of it. -/
theorem prefix_frames (hl : 0 < limits.lineLength) (shared : σ) {input whole : Source}
    (h : input.bytes <+: whole.bytes) :
    (run d shared limits input .unbounded).frames <+:
      (run d shared limits whole .unbounded).frames := by
  unfold Transcript.frames
  rw [messages_run hl, messages_run hl]
  exact (outgoingOf_cutOff d _ (cutOff_allReadings hl h)).map _

theorem frames_congr (hl : 0 < limits.lineLength) (shared : σ) {input other : Source}
    (h : other.bytes = input.bytes) :
    (run d shared limits other .unbounded).frames =
      (run d shared limits input .unbounded).frames := by
  have hthere : other.bytes <+: input.bytes := h ▸ List.prefix_refl _
  have hback : input.bytes <+: other.bytes := h ▸ List.prefix_refl _
  refine (prefix_frames hl shared hthere).eq_of_length_le ?_
  exact (prefix_frames hl shared hback).length_le

theorem any_asksExit_congr (hl : 0 < limits.lineLength) {input other : Source}
    (h : other.bytes = input.bytes) :
    (bodies (allReadings limits other)).any asksExit =
      (bodies (allReadings limits input)).any asksExit := by
  have hthere : other.bytes <+: input.bytes := h ▸ List.prefix_refl _
  have hback : input.bytes <+: other.bytes := h ▸ List.prefix_refl _
  refine Bool.eq_iff_iff.2 ⟨?_, ?_⟩
  · exact any_asksExit_of_cutOff (cutOff_allReadings hl hthere)
  · exact any_asksExit_of_cutOff (cutOff_allReadings hl hback)

/-- **The output of the server is causal in the bytes of its input.** For the beginning of a stream
it writes the beginning of what it writes for the whole stream. If a stream fails instead of ending,
the same frames are written, and the session fails if and only if no message among its bodies asks
for the exit. -/
theorem causal_of_prefix {grammars : Grammars} {limit : Option Nat} (hl : 1 ≤ limits.lineLength)
    (shared : Documents) {input whole : Source} (h : input.bytes <+: whole.bytes) :
    (run (Backend.dispatcher grammars limit) shared limits input .unbounded).frames <+:
        (run (Backend.dispatcher grammars limit) shared limits whole .unbounded).frames ∧
      ∀ broken cause, broken.bytes = input.bytes → broken.ending = .failed cause →
        (run (Backend.dispatcher grammars limit) shared limits broken .unbounded).frames =
            (run (Backend.dispatcher grammars limit) shared limits input .unbounded).frames ∧
          (run (Backend.dispatcher grammars limit) shared limits broken .unbounded).ending =
            if (bodies (allReadings limits input)).any asksExit then .exited
            else .failed cause := by
  refine ⟨prefix_frames hl shared h, ?_⟩
  intro broken cause hbytes hending
  refine ⟨frames_congr hl shared hbytes, ?_⟩
  rw [ending_run (Backend.finishes grammars limit) hl, any_asksExit_congr hl hbytes, hending]
  rfl

/-- A start and a request to shut down, as they come in. -/
def startAndShutdown : List UInt8 :=
  ["\x7b\"jsonrpc\":\"2.0\",\"id\":1,\"method\":\"initialize\"," ++
      "\"params\":\x7b\"capabilities\":\x7b\x7d\x7d\x7d",
    "\x7b\"jsonrpc\":\"2.0\",\"id\":2,\"method\":\"shutdown\"\x7d"].flatMap
    fun text => frame (Utf8.encode text.toList)

/-- The stream is cut in the middle of the length of its second frame. -/
theorem causal_startAndShutdown :
    (startAndShutdown.drop 97).take 17 = Utf8.encode "Content-Length: 4".toList ∧
      (run bareServer .empty .usual (.ofBytes (startAndShutdown.take 114) .closed)
        .unbounded).frames <+:
        (run bareServer .empty .usual (.ofBytes startAndShutdown .closed) .unbounded).frames ∧
      (run bareServer .empty .usual (.ofBytes (startAndShutdown.take 114) (.failed "read failed"))
        .unbounded).ending = .failed "read failed" := by
  have hl : 1 ≤ Limits.usual.lineLength := by decide
  have hcut : (Source.ofBytes (startAndShutdown.take 114) .closed).bytes <+:
      (Source.ofBytes startAndShutdown .closed).bytes := by
    rw [Source.bytes_ofBytes, Source.bytes_ofBytes]
    exact List.take_prefix _ _
  obtain ⟨hbegin, hbroken⟩ := causal_of_prefix hl .empty hcut
  refine ⟨by decide +kernel, hbegin, ?_⟩
  refine (hbroken (.ofBytes (startAndShutdown.take 114) (.failed "read failed")) "read failed"
    rfl rfl).2.trans ?_
  decide +kernel

end SyntaxServer.Session
