import SyntaxServer.Proofs.Frame.Recovery
import SyntaxServer.Rpc.Message

/-!
Frames that are cut off. The cut may lie within the line of the length, which may then say nothing
or a shorter length, between the characters of a line end, or within the body (`severed`). The end
of the stream serves as the end of the line that it cuts: it adds one more header line to the block
(`scan_open`), or closes the block as a blank line does (`scan_returns`), so the header is not over
or the body is too short. Whichever it is, the cut is told, and nothing is left
(`truncated_of_cut`).
-/

namespace SyntaxServer

open Source (newline splitLine_short)
open HeaderLine (carriageReturn written)

variable {limits : Limits} {b : HeaderBlock} {x : HeaderEnd} {l p missing body : List UInt8}

/-! ### A stream that ends within a line -/

theorem scan_last (hl : newline ∉ l) (hlen : l.length < limits.lineLength) (hne : l ≠ []) :
    scan limits .closed b l =
      match b.step limits .closed (l ++ [newline]) with
      | .inl x => (x, [])
      | .inr b' => scan limits .closed b' [] := by
  have hstep : b.step limits .closed l = b.step limits .closed (l ++ [newline]) := by
    rw [step_line]
    unfold HeaderBlock.step
    rw [if_neg (by omega), if_neg (by simp), if_neg hne]
  rw [scan_eq, splitLine_short hl (Nat.le_of_lt hlen)]
  dsimp only
  rewrite [hstep]
  cases b.step limits .closed (l ++ [newline]) <;> rfl

/-- **A header line without its end** is the last one of a block that is not over. -/
theorem scan_open (h : IsHeader limits l) (hb : b.lines < limits.headerLines) :
    scan limits .closed b l =
      (.failed (.truncated ((b.add (.ofBytes limits l)).length.getD 0) 0), []) := by
  have hne : l ≠ [] := by
    rintro rfl
    exact h.not_blank (by simp)
  have hlines : (b.add (.ofBytes limits l)).lines = b.lines + 1 := lines_add (ofBytes_ne_blank h)
  rw [scan_last h.one_line h.fits hne, step_line, if_neg (ofBytes_ne_blank h)]
  dsimp only
  rw [hlines, if_neg (by omega)]
  dsimp only
  rw [scan_nil _ _ (Nat.zero_lt_of_lt h.fits)]
  unfold HeaderBlock.cut
  rw [hlines, if_neg (by omega)]
  rfl

/-- **A blank line without its end** closes a block all the same. -/
theorem scan_returns (hl : ∀ c ∈ l, c = carriageReturn) (hne : l ≠ [])
    (hlen : l.length < limits.lineLength) (hb : b.close = some x) :
    scan limits .closed b l = (x, []) := by
  have hnewline : newline ∉ l := fun h => absurd (hl _ h) (by decide)
  rw [scan_last hnewline hlen hne, step_line,
    if_pos ((HeaderLine.ofBytes_eq_blank_iff hnewline).2 hl), hb]

/-! ### Limits that accept a frame -/

/-- Limits accept the frame of a body if it is read of the frame alone. -/
def Accepts (limits : Limits) (body : List UInt8) : Prop :=
  (nextFrame limits (.ofBytes (frame body) .closed)).result = .ok ⟨body.length, body⟩

theorem accepts_iff_next :
    Accepts limits body ↔ (next limits .closed (frame body)).1 = .ok ⟨body.length, body⟩ :=
  Iff.rfl

theorem one_lt_of_written {n : Nat} (h : (written n).length < limits.lineLength) :
    1 < limits.lineLength := by
  obtain ⟨t, ht⟩ := written_eq_cons n
  rw [ht, List.length_cons] at h
  omega

theorem not_accepts_of_long (h : limits.lineLength ≤ (written body.length).length) :
    ¬ Accepts limits body := by
  obtain ⟨l, t, hlt, hlen⟩ : ∃ l t, written body.length = l ++ t ∧
      l.length = limits.lineLength :=
    ⟨_, _, (List.take_append_drop limits.lineLength _).symm, by rw [List.length_take]; omega⟩
  have hnewline : newline ∉ l := by
    intro hmem
    exact HeaderLine.newline_not_mem_written body.length (hlt ▸ List.mem_append_left t hmem)
  rw [accepts_iff_next, frame_eq_lines, hlt, List.append_assoc,
    next_of_scan (scan_cut hnewline hlen)]
  exact nofun

/-- **Limits accept a frame** if and only if it keeps each of them. -/
theorem accepts_iff : Accepts limits body ↔ Plain limits body := by
  constructor
  · intro h
    have hwritten : (written body.length).length < limits.lineLength :=
      Nat.lt_of_not_le fun hle => not_accepts_of_long hle h
    have hgap : 1 < limits.lineLength := one_lt_of_written hwritten
    rw [accepts_iff_next, frame_eq_lines, next_eq, scan_header (isHeader_written hwritten)] at h
    dsimp only at h
    by_cases hlines : limits.headerLines <
        (HeaderBlock.empty.add (.ofBytes limits (written body.length))).lines
    · rw [if_pos hlines] at h
      cases h
    · rw [if_neg hlines] at h
      rw [lines_add (ofBytes_ne_blank (isHeader_written hwritten))] at hlines
      -- of a line that is no good length no body is read
      cases hline : HeaderLine.ofBytes limits (written body.length) with
      | length m =>
        obtain ⟨-, hle, hword⟩ := HeaderLine.ofBytes_written_eq_length_iff.1 hline
        exact ⟨⟨by simp, hwritten, hgap, Nat.not_lt.1 hlines, hword⟩, hle⟩
      | blank => exact absurd hline (ofBytes_ne_blank (isHeader_written hwritten))
      | _ =>
        rw [hline, scan_blankLine .closed hgap rfl] at h
        refine absurd h (follow_ne_ok ?_ _)
        intro n hn
        cases hn
  · rintro ⟨hfits, hle⟩
    have hnext := next_frame .closed hfits []
    rw [bytes_frame, List.append_nil] at hnext
    rw [accepts_iff_next, hnext]
    exact if_pos hle

/-! ### Where a frame can be cut -/

/-- The places of a cut in the frame of a body, each with the bytes before the cut: within the line
of the length, behind it, within the blank line, and behind that. -/
inductive Severed (body missing : List UInt8) : List UInt8 → Prop
  | line {l : List UInt8} : l <+: written body.length → Severed body missing l
  | lineEnd : Severed body missing (written body.length ++ [newline])
  | blank : Severed body missing (written body.length ++ [newline, carriageReturn])
  | body {part : List UInt8} : part ++ missing = body →
    Severed body missing (written body.length ++ newline :: (blankLine 1 ++ part))

/-- **Where a frame can be cut.** -/
theorem severed (h : p ++ missing = frame body) : Severed body missing p := by
  rw [frame_eq_lines, List.append_eq_append_iff] at h
  rcases h with ⟨rest, hline, -⟩ | ⟨rest, rfl, hrest⟩
  · exact .line ⟨rest, hline.symm⟩
  · have hblank : blankLine 1 = [carriageReturn, newline] := rfl
    rw [hblank] at hrest
    rcases rest with _ | ⟨c, _ | ⟨c', _ | ⟨c'', part⟩⟩⟩
    · exact .line (by simp)
    · obtain ⟨rfl, -⟩ := List.cons.inj hrest
      exact .lineEnd
    · cases hrest
      exact .blank
    · cases hrest
      exact .body rfl

/-! ### What is read of the beginning of a frame -/

theorem isHeader_of_prefix {n : Nat} (hwritten : (written n).length < limits.lineLength)
    (hl : l <+: written n) (hne : l ≠ []) : IsHeader limits l := by
  refine ⟨?_, ?_, hl.length_le.trans_lt hwritten⟩
  · intro hmem
    exact HeaderLine.newline_not_mem_written n (hl.subset hmem)
  · obtain ⟨c, t, rfl⟩ := List.exists_cons_of_ne_nil hne
    obtain ⟨t', ht'⟩ := written_eq_cons n
    rw [ht', List.cons_prefix_cons] at hl
    intro hblank
    have hc : c = carriageReturn := hblank c (List.mem_cons_self ..)
    rw [hl.1] at hc
    exact absurd hc (by decide)

theorem scan_written (hplain : Plain limits body) (bs : List UInt8) :
    scan limits .closed .empty (written body.length ++ newline :: bs) =
      scan limits .closed ⟨some body.length, none, none, 1⟩ bs := by
  obtain ⟨⟨-, hwritten, -, hlines, hword⟩, hle⟩ := hplain
  have hline : HeaderLine.ofBytes limits (written body.length) = .length body.length :=
    HeaderLine.ofBytes_written_eq_length_iff.2 ⟨rfl, hle, hword⟩
  rw [scan_header (isHeader_written hwritten), hline]
  exact if_neg (Nat.not_lt.2 hlines)

/-- **A cut is told**, with the length of the body and what there is of it if the body is cut, and
nothing is left. -/
theorem next_of_severed (hplain : Plain limits body) (hp : p ≠ []) (hmissing : missing ≠ [])
    (hbody : body ≠ []) (h : p ++ missing = frame body) :
    ∃ expected received, next limits .closed p = (.error (.truncated expected received), []) ∧
      (missing.length ≤ body.length →
        expected = body.length ∧ received = body.length - missing.length) := by
  obtain ⟨-, hwritten, hgap, hlines, -⟩ := hplain.fits
  have hlength := congrArg List.length h
  have hshort : missing.length ≤ body.length → (written body.length).length + 3 ≤ p.length := by
    intro hle
    rw [frame_eq_lines] at hlength
    simp [blankLine] at hlength
    omega
  cases severed h with
  | line hl =>
    have hheader := isHeader_of_prefix hwritten hl hp
    refine ⟨_, _, next_of_scan (scan_open hheader hlines), fun hle => ?_⟩
    have := hl.length_le
    have := hshort hle
    omega
  | lineEnd =>
    have hscan := scan_written hplain []
    rw [scan_nil _ _ (Nat.zero_lt_of_lt hgap)] at hscan
    refine ⟨_, _, next_of_scan hscan, fun hle => ?_⟩
    have := hshort hle
    simp at this
  | blank =>
    have hscan := scan_written hplain [carriageReturn]
    rw [scan_returns (l := [carriageReturn]) (by simp) (by simp) hgap rfl] at hscan
    refine ⟨_, _, (next_of_scan hscan).trans (if_pos (List.length_pos_iff.2 hbody)), fun hle => ?_⟩
    have := hshort hle
    simp at this
  | @body part hpart =>
    have hscan := scan_written hplain (blankLine 1 ++ part)
    rw [scan_blankLine .closed hgap rfl] at hscan
    have hless : part.length < body.length := by
      have := List.length_pos_iff.2 hmissing
      rw [← hpart, List.length_append]
      omega
    refine ⟨_, _, (next_of_scan hscan).trans (if_pos hless), fun _ => ⟨rfl, ?_⟩⟩
    rw [← hpart, List.length_append]
    omega

/-! ### Messages -/

/-- The body of a message is never empty: it is an object. -/
theorem Message.body_ne_nil (m : Message) : m.toJson.body ≠ [] := by
  have hobject : ∃ ms, m.toJson = .object ms := by
    cases m with
    | response r =>
      obtain ⟨id, outcome⟩ := r
      cases outcome <;> exact ⟨_, rfl⟩
    | _ => exact ⟨_, rfl⟩
  obtain ⟨ms, hms⟩ := hobject
  have hbrace : String.utf8EncodeChar '\x7b' ≠ [] := by decide
  rw [hms]
  simp [Json.body, Json.text, Json.chars, Utf8.ofString, hbrace]

/-- **A frame that is cut off is told as truncated.** A stream has some of a frame, but not all of
it, and then ends. If the limits accept the frame, and its body is not empty, which that of a message
never is, the first call tells that it is cut off, wherever the cut is. If only bytes of the body are
missing, it tells how long the body is, and how much of it is there. The next call finds the end of
the stream. -/
theorem truncated_of_cut {s : Source} (hbody : body ≠ []) (haccepts : Accepts limits body)
    (hcut : s.bytes ++ missing = frame body) (hsome : s.bytes ≠ []) (hmissing : missing ≠ [])
    (hclosed : s.ending = .closed) :
    (∃ expected received,
      (nextFrame limits s).result = .error (.truncated expected received) ∧
        (missing.length ≤ body.length →
          expected = body.length ∧ received = body.length - missing.length)) ∧
      (nextFrame limits (nextFrame limits s).rest).result = .error .endOfStream ∧
      ∀ m : Message, m.toJson.body ≠ [] := by
  have hplain := accepts_iff.1 haccepts
  obtain ⟨-, -, hgap, -, -⟩ := hplain.fits
  obtain ⟨expected, received, hnext, hknown⟩ :=
    next_of_severed hplain hsome hmissing hbody hcut
  have hview := view_nextFrame limits s
  rw [hclosed, hnext] at hview
  obtain ⟨hresult, hrest⟩ := Prod.mk.inj hview
  refine ⟨⟨expected, received, hresult, hknown⟩, ?_, Message.body_ne_nil⟩
  have hagain := view_nextFrame limits (nextFrame limits s).rest
  rw [ending_nextFrame, hclosed, hrest, next_nil .closed (Nat.zero_lt_of_lt hgap)] at hagain
  exact (Prod.mk.inj hagain).1

/-- A body of twelve letters. -/
def letters : List UInt8 := List.replicate 12 65

/-- The first bytes of its frame, which arrive three at a time. -/
def lettersCut (k : Nat) : Source := ⟨Source.cut 2 ((frame letters).take k), .closed⟩

/-- Cut within the digits, which leaves the length 1, and behind five letters. -/
theorem truncated_of_letters :
    Accepts ⟨1, 32, 12⟩ letters ∧
      (∃ expected received, (nextFrame ⟨1, 32, 12⟩ (lettersCut 17)).result =
        .error (.truncated expected received)) ∧
      (nextFrame ⟨1, 32, 12⟩ (lettersCut 27)).result = .error (.truncated 12 5) ∧
      (nextFrame ⟨1, 32, 12⟩ (nextFrame ⟨1, 32, 12⟩ (lettersCut 27)).rest).result =
        .error .endOfStream := by
  have haccepts : Accepts ⟨1, 32, 12⟩ letters := accepts_iff.2 ⟨by decide, by decide⟩
  have hbytes : ∀ k, (lettersCut k).bytes = (frame letters).take k :=
    fun k => Source.flatten_cut 2 _
  have hcut : ∀ k, (lettersCut k).bytes ++ (frame letters).drop k = frame letters := by
    intro k
    rw [hbytes, List.take_append_drop]
  have hsome : ∀ k, (frame letters).take (k + 1) ≠ [] := by
    intro k
    rw [frame_eq_lines]
    obtain ⟨t, ht⟩ := written_eq_cons letters.length
    simp [ht]
  obtain ⟨⟨expected, received, hdigits, -⟩, -⟩ := truncated_of_cut (by decide) haccepts (hcut 17)
    (hbytes 17 ▸ hsome 16) (by decide) rfl
  obtain ⟨⟨expected', received', hbody, hknown⟩, hend, -⟩ := truncated_of_cut (by decide) haccepts
    (hcut 27) (hbytes 27 ▸ hsome 26) (by decide) rfl
  obtain ⟨rfl, rfl⟩ := hknown (by decide)
  exact ⟨haccepts, ⟨expected, received, hdigits⟩, hbody, hend⟩

end SyntaxServer
