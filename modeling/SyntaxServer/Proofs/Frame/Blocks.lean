import SyntaxServer.Proofs.Frame.Readings

/-!
Streams of blocks. A block is a frame with whatever other headers, lines without a length, or
a blank line on its own; its bytes say nothing about where they end but in the length, which may
also be that of a body that is too large. The reader stays aligned: the readings of a stream of
blocks are those of the blocks in turn, each with the bytes of the blocks that are left
(`readings_of_blocks`).
-/

namespace SyntaxServer

open Source (newline)
open HeaderLine (carriageReturn lengthName written)

variable {limits : Limits} {b : HeaderBlock} {bs rest : List UInt8}

/-! ### Other headers -/

/-- A header line that fits the limit and is no length. -/
structure IsOther (limits : Limits) (l : List UInt8) : Prop extends IsHeader limits l where
  other_name : ¬ lengthName <+: l

instance {l : List UInt8} : Decidable (IsOther limits l) :=
  decidable_of_iff (IsHeader limits l ∧ ¬ lengthName <+: l)
    ⟨fun h => ⟨h.1, h.2⟩, fun h => ⟨h.toIsHeader, h.other_name⟩⟩

theorem addLines_other {ls : List (List UInt8)} (h : ∀ l ∈ ls, IsOther limits l) :
    b.addLines limits ls = { b with lines := b.lines + ls.length } := by
  induction ls generalizing b with
  | nil => rfl
  | cons l ls ih =>
    obtain ⟨hl, h⟩ := List.forall_mem_cons.1 h
    obtain ⟨text, ht⟩ := HeaderLine.exists_other hl.one_line hl.not_blank hl.other_name
    show HeaderBlock.addLines limits (b.add (HeaderLine.ofBytes limits l)) ls = _
    rw [ih h, ht, List.length_cons, Nat.add_comm ls.length, ← Nat.add_assoc]
    rfl

theorem addLines_append (ls ms : List (List UInt8)) :
    b.addLines limits (ls ++ ms) = (b.addLines limits ls).addLines limits ms :=
  List.foldl_append

/-! ### The line of a length -/

theorem carriageReturn_ne_of_lengthName {l : List UInt8} (h : lengthName <+: l) :
    ¬ ∀ c ∈ l, c = carriageReturn := by
  obtain ⟨t, rfl⟩ := h
  intro h
  exact absurd (h 67 (List.mem_append_left _ (by decide))) (by decide)

theorem lengthName_prefix_written (n : Nat) : lengthName <+: written n := by
  refine ⟨(' ' :: Natural.digits n).map Utf8.byte ++ [carriageReturn], ?_⟩
  unfold written
  rw [Utf8.encode_ascii (HeaderLine.ascii_written n), HeaderLine.lengthName_eq, List.map_append,
    List.append_assoc]

theorem isHeader_written {n : Nat} (h : (written n).length < limits.lineLength) :
    IsHeader limits (written n) :=
  ⟨HeaderLine.newline_not_mem_written n,
    carriageReturn_ne_of_lengthName (lengthName_prefix_written n), h⟩

/-- The block of a frame's header. -/
def framed (limits : Limits) (n lines : Nat) : HeaderBlock :=
  if n ≤ limits.contentLength then ⟨some n, none, none, lines⟩
  else ⟨none, some (String.ofList (Natural.digits n)), some n, lines⟩

theorem addLines_framed {before after : List (List UInt8)} {n : Nat}
    (h : ∀ l ∈ before ++ after, IsOther limits l) (hn : n < Natural.wordLimit) :
    HeaderBlock.empty.addLines limits (before ++ written n :: after) =
      framed limits n (before.length + 1 + after.length) := by
  rw [addLines_append, addLines_other fun l hl => h l (List.mem_append_left _ hl)]
  show HeaderBlock.addLines limits (HeaderBlock.add _ (HeaderLine.ofBytes limits (written n))) after
    = _
  rw [addLines_other fun l hl => h l (List.mem_append_right _ hl), HeaderLine.ofBytes_written hn]
  unfold framed
  split
  · simp [HeaderBlock.add, HeaderBlock.empty]
  · simp [HeaderBlock.add, HeaderBlock.empty]

/-! ### Blocks -/

/-- A blank line: carriage returns, and the end of the line. -/
def blankLine (gap : Nat) : List UInt8 := List.replicate gap carriageReturn ++ [newline]

theorem blankLine_append (gap : Nat) (bs : List UInt8) :
    blankLine gap ++ bs = List.replicate gap carriageReturn ++ newline :: bs := by
  unfold blankLine
  rw [List.append_assoc]
  rfl

/-- What a stream is made of: a body behind its length, with other headers before and after
that, lines without a length, and blank lines. -/
inductive Block where
  | frame (before after : List (List UInt8)) (gap : Nat) (body : List UInt8)
  | bare (lines : List (List UInt8)) (gap : Nat)
  | stray (gap : Nat)

namespace Block

def bytes : Block → List UInt8
  | .frame before after gap body =>
    lineBytes (before ++ written body.length :: after) ++ (blankLine gap ++ body)
  | .bare lines gap => lineBytes lines ++ blankLine gap
  | .stray gap => blankLine gap

/-- The block keeps the limits on lines; the length of its body is a word. -/
def Fits (limits : Limits) : Block → Prop
  | .frame before after gap body =>
    (∀ l ∈ before ++ after, IsOther limits l) ∧ (written body.length).length < limits.lineLength ∧
      gap < limits.lineLength ∧ before.length + 1 + after.length ≤ limits.headerLines ∧
      body.length < Natural.wordLimit
  | .bare lines gap =>
    lines ≠ [] ∧ (∀ l ∈ lines, IsOther limits l) ∧ gap < limits.lineLength ∧
      lines.length ≤ limits.headerLines
  | .stray gap => gap < limits.lineLength

instance : (b : Block) → Decidable (b.Fits limits)
  | .frame .. => inferInstanceAs (Decidable (_ ∧ _))
  | .bare .. => inferInstanceAs (Decidable (_ ∧ _))
  | .stray _ => inferInstanceAs (Decidable (_ < _))

/-- What is read of the frame of a body: the body, or that it is too large. -/
def received (limits : Limits) (body : List UInt8) : Except FrameError Frame :=
  if body.length ≤ limits.contentLength then .ok ⟨body.length, body⟩
  else .error (.invalidLength (String.ofList (Natural.digits body.length)))

/-- What is read of a block: what is read of its frame, or that there is no length; nothing of
a blank line. -/
def result (limits : Limits) : Block → Option (Except FrameError Frame)
  | .frame _ _ _ body => some (received limits body)
  | .bare lines _ => some (.error (.missingLength lines.length))
  | .stray _ => none

def stream (blocks : List Block) : List UInt8 := blocks.flatMap bytes

/-- What is read of a stream of blocks, with the bytes that are left each time. -/
def results (limits : Limits) : List Block → List Result
  | [] => [(.error .endOfStream, [])]
  | b :: blocks =>
    ((b.result limits).map fun y => (y, stream blocks)).toList ++ results limits blocks

end Block

/-- **A frame as it is written** is a block without other headers. -/
theorem bytes_frame (body : List UInt8) : (Block.frame [] [] 1 body).bytes = frame body := by
  have hend : Utf8.encode ['\r', '\n', '\r', '\n'] =
      [carriageReturn, newline, carriageReturn, newline] := by decide
  show lineBytes [written body.length] ++ (blankLine 1 ++ body) = frame body
  unfold frame written blankLine lineBytes
  rw [Utf8.encode_append _ ['\r', '\n', '\r', '\n'], hend]
  simp

/-- **A frame has one body**: the header ends with its first line. -/
theorem frame_inj {body body' : List UInt8} (h : frame body = frame body') : body = body' := by
  have hframe : ∀ body : List UInt8, frame body =
      written body.length ++ newline :: carriageReturn :: newline :: body := by
    intro body
    rw [← bytes_frame]
    show lineBytes [written body.length] ++ (blankLine 1 ++ body) = _
    simp [lineBytes, blankLine]
  have hrest : ∀ body : List UInt8, (frame body).dropWhile (· ≠ newline) =
      newline :: carriageReturn :: newline :: body := by
    intro body
    rw [hframe, List.dropWhile_append_of_pos]
    · exact List.dropWhile_cons_of_neg (by simp)
    · intro c hc
      refine decide_eq_true fun heq => ?_
      exact HeaderLine.newline_not_mem_written body.length (heq ▸ hc)
  have heq := (hrest body).symm.trans ((congrArg _ h).trans (hrest body'))
  exact (List.cons.inj (List.cons.inj (List.cons.inj heq).2).2).2

/-! ### Reading a block -/

theorem scan_blankLine {gap : Nat} {x : HeaderEnd} (e : StreamEnd) (h : gap < limits.lineLength)
    (hb : b.close = some x) (bs : List UInt8) :
    scan limits e b (blankLine gap ++ bs) = (x, bs) := by
  rw [blankLine_append, scan_blank (fun c hc => List.eq_of_mem_replicate hc)
    (by rwa [List.length_replicate]), hb]

theorem scan_blankLine_none {gap : Nat} (e : StreamEnd) (h : gap < limits.lineLength)
    (hb : b.close = none) (bs : List UInt8) :
    scan limits e b (blankLine gap ++ bs) = scan limits e b bs := by
  rw [blankLine_append, scan_blank (fun c hc => List.eq_of_mem_replicate hc)
    (by rwa [List.length_replicate]), hb]

theorem taking_append (e : StreamEnd) (body bs : List UInt8) (y : Except FrameError Frame) :
    taking e body.length (body ++ bs) y = (y, bs) := by
  unfold taking
  rw [if_neg (by rw [List.length_append]; omega), List.drop_left]

theorem next_frame {before after : List (List UInt8)} {gap : Nat} {body : List UInt8}
    (e : StreamEnd) (h : (Block.frame before after gap body).Fits limits) (bs : List UInt8) :
    next limits e ((Block.frame before after gap body).bytes ++ bs) =
      (Block.received limits body, bs) := by
  obtain ⟨hother, hwritten, hgap, hlines, hword⟩ := h
  have hheader : ∀ l ∈ before ++ written body.length :: after, IsHeader limits l := by
    intro l hl
    rcases List.mem_append.1 hl with hl | hl
    · exact (hother l (List.mem_append_left _ hl)).toIsHeader
    · rcases List.mem_cons.1 hl with rfl | hl
      · exact isHeader_written hwritten
      · exact (hother l (List.mem_append_right _ hl)).toIsHeader
  have hscan : scan limits e .empty ((Block.frame before after gap body).bytes ++ bs) =
      scan limits e (framed limits body.length (before.length + 1 + after.length))
        (blankLine gap ++ (body ++ bs)) := by
    rw [← addLines_framed hother hword, ← scan_lines hheader]
    · rw [Block.bytes, List.append_assoc, List.append_assoc]
    · rw [List.length_append, List.length_cons]
      show 0 + _ ≤ _
      omega
  unfold framed at hscan
  unfold Block.received
  by_cases hn : body.length ≤ limits.contentLength
  · rw [if_pos hn] at hscan ⊢
    rw [scan_blankLine e hgap rfl] at hscan
    rw [next_of_scan hscan]
    show taking e body.length (body ++ bs) _ = _
    rw [taking_append, List.take_left]
  · rw [if_neg hn] at hscan ⊢
    rw [scan_blankLine e hgap rfl] at hscan
    rw [next_of_scan hscan]
    exact taking_append e body bs _

theorem next_bare {lines : List (List UInt8)} {gap : Nat} (e : StreamEnd)
    (h : (Block.bare lines gap).Fits limits) (bs : List UInt8) :
    next limits e ((Block.bare lines gap).bytes ++ bs) =
      (.error (.missingLength lines.length), bs) := by
  obtain ⟨hne, hother, hgap, hlines⟩ := h
  have hheader : ∀ l ∈ lines, IsHeader limits l := fun l hl => (hother l hl).toIsHeader
  have hclose : HeaderBlock.close ⟨none, none, none, 0 + lines.length⟩ =
      some (.failed (.missingLength lines.length)) := by
    unfold HeaderBlock.close
    dsimp only
    rw [Nat.zero_add, if_neg (mt List.length_eq_zero_iff.1 hne)]
  have hscan : scan limits e .empty ((Block.bare lines gap).bytes ++ bs) =
      (.failed (.missingLength lines.length), bs) := by
    rw [Block.bytes, List.append_assoc, scan_lines hheader (by show 0 + _ ≤ _; omega),
      addLines_other hother]
    exact scan_blankLine e hgap hclose bs
  exact next_of_scan hscan

theorem next_stray {gap : Nat} (e : StreamEnd) (h : (Block.stray gap).Fits limits)
    (bs : List UInt8) : next limits e ((Block.stray gap).bytes ++ bs) = next limits e bs := by
  rw [next_eq, next_eq, Block.bytes, scan_blankLine_none e h rfl]

/-! ### Reading a stream -/

theorem results_of_next {y : Except FrameError Frame} (hl : 0 < limits.lineLength)
    (h : next limits .closed bs = (y, rest)) (hy : Result.isFinal (y, rest) = false) :
    results limits .closed bs = (y, rest) :: results limits .closed rest := by
  rw [results_eq hl, h, hy]
  rfl

theorem isFinal_received (body : List UInt8) :
    Result.isFinal (Block.received limits body, rest) = false := by
  unfold Block.received
  split <;> rfl

theorem results_stream {blocks : List Block} (hl : 0 < limits.lineLength)
    (h : ∀ b ∈ blocks, b.Fits limits) :
    results limits .closed (Block.stream blocks) = Block.results limits blocks := by
  induction blocks with
  | nil =>
    rw [results_eq hl]
    show next limits .closed [] :: _ = _
    rw [Block.stream, List.flatMap_nil, next_nil _ hl]
    rfl
  | cons b blocks ih =>
    obtain ⟨hb, h⟩ := List.forall_mem_cons.1 h
    have hstream : Block.stream (b :: blocks) = b.bytes ++ Block.stream blocks :=
      List.flatMap_cons
    rw [hstream, Block.results, ← ih h]
    cases b with
    | frame before after gap body =>
      exact results_of_next hl (next_frame .closed hb _) (isFinal_received body)
    | bare lines gap => exact results_of_next hl (next_bare .closed hb _) rfl
    | stray gap => rw [results_eq hl, next_stray .closed hb, ← results_eq hl]; rfl

/-- **The reader stays aligned over every stream of blocks**: the readings are those of the blocks
in turn, each up to the first byte of the next block, and then the end of the stream. -/
theorem readings_of_blocks {blocks : List Block} {s : Source} (hl : 1 ≤ limits.lineLength)
    (h : ∀ b ∈ blocks, b.Fits limits) (hs : s.bytes = Block.stream blocks)
    (he : s.ending = .closed) :
    (allReadings limits s).map (fun r => (r.result, r.rest.bytes)) =
      Block.results limits blocks := by
  rw [← results_stream hl h, ← hs, ← he]
  exact map_view_allReadings hl s

/-- A blank line, a frame with another header, a line without a length, and a frame whose body is
too large for two bytes. -/
def mixedBlocks : List Block :=
  [.stray 1, .frame [[88, 58, 255]] [] 1 [123, 125], .bare [[88]] 0,
    .frame [] [[89]] 1 [91, 49, 93]]

theorem readings_of_mixedBlocks :
    (∀ b ∈ mixedBlocks, b.Fits ⟨2, 32, 2⟩) ∧
      (allReadings ⟨2, 32, 2⟩ ⟨Source.cut 4 (Block.stream mixedBlocks), .closed⟩).map
          (fun r => (r.result, r.rest.bytes)) =
        [(.ok ⟨2, [123, 125]⟩, Block.stream (mixedBlocks.drop 2)),
          (.error (.missingLength 1), Block.stream (mixedBlocks.drop 3)),
          (.error (.invalidLength "3"), []), (.error .endOfStream, [])] := by
  have hfits : ∀ b ∈ mixedBlocks, b.Fits ⟨2, 32, 2⟩ := by decide
  exact ⟨hfits, readings_of_blocks (by decide) hfits (Source.flatten_cut 4 _) rfl⟩

end SyntaxServer
