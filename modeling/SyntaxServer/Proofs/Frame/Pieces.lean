import Mathlib.Logic.Relation
import SyntaxServer.Proofs.Frame.Readings

/-!
Streams that hand out their bytes in pieces of any size. Each read of the reader gets some of the
bytes that are left, at least one, and no more than it asks for; nothing says how many. The loops
over such reads are relations here: what a loop has received and what the stream still has are a
`Filling`, and a step of the loop is one read, for a run of bytes (`Filling.Read`) or for a line
(`Filling.Look`). A read keeps what its loop ends with (`filling_of_runs`, `line_of_look`), so the
pieces cannot be told from the results: the reader on bytes that arrive at once gives the results of
every delivery of them (`calls_of_pieces`).
-/

namespace SyntaxServer

open Relation (ReflTransGen)
open Source (newline splitLine length_splitLine splitLine_append splitLine_zero splitLine_ne_nil
  splitLine_short splitLine_of_open splitLine_append_of_open splitLine_append_of_closed)

variable {limits : Limits} {e : StreamEnd} {b : HeaderBlock} {x : HeaderEnd} {n : Nat}
  {bs : List UInt8}

/-! ### Lines that are cut -/

/-- What a line ends with does not depend on what stands before it, if that is cut. -/
theorem isCut_append {l : List UInt8} (hl : isCut l = true) (m : List UInt8) :
    isCut (l ++ m) = isCut m := by
  cases m with
  | nil =>
    rw [List.append_nil, hl]
    rfl
  | cons b m =>
    unfold isCut
    rw [List.getLast?_append, List.getLast?_cons]
    rfl

/-! ### Loops of reads -/

/-- The bytes that a loop of reads has received, and those that the stream has not handed out. -/
structure Filling where
  received : List UInt8
  rest : List UInt8

namespace Filling

variable {f g : Filling}

def start (bs : List UInt8) : Filling := ⟨[], bs⟩

/-- A loop that takes a byte with each read, and can read on until it is over, comes to its end. -/
theorem exists_ended {read : Filling → Filling → Prop} {ended : Filling → Prop}
    (hless : ∀ f g, read f g → g.rest.length < f.rest.length)
    (hnext : ∀ f, ReflTransGen read (start bs) f → ¬ ended f → ∃ g, read f g) :
    ∃ f, ReflTransGen read (start bs) f ∧ ended f := by
  have hfrom : ∀ k f, f.rest.length = k → ReflTransGen read (start bs) f →
      ∃ g, ReflTransGen read (start bs) g ∧ ended g := by
    intro k
    induction k using Nat.strongRecOn with
    | _ k ih =>
      intro f hk hf
      by_cases hended : ended f
      · exact ⟨f, hf, hended⟩
      · obtain ⟨g, hread⟩ := hnext f hf hended
        exact ih _ (hk ▸ hless f g hread) g rfl (hf.tail hread)
  exact hfrom _ (start bs) rfl .refl

/-! #### Runs of bytes -/

/-- A read for a run of `n` bytes gets a piece of what is left, no longer than what is missing. -/
inductive Read (n : Nat) : Filling → Filling → Prop
  | piece (received piece rest : List UInt8) : piece ≠ [] → received.length + piece.length ≤ n →
      Read n ⟨received, piece ++ rest⟩ ⟨received ++ piece, rest⟩

/-- A run is over with its last byte, or with the stream. -/
def Filled (n : Nat) (f : Filling) : Prop := f.received.length = n ∨ f.rest = []

/-- The loop for a run of `n` bytes can come this far. -/
def Runs (n : Nat) (bs : List UInt8) (f : Filling) : Prop := ReflTransGen (Read n) (start bs) f

/-- **A loop for a run of bytes** drops none, and never has more than it is for. -/
theorem filling_of_runs (h : Runs n bs f) :
    f.received ++ f.rest = bs ∧ f.received.length ≤ n := by
  induction h with
  | refl => exact ⟨rfl, Nat.zero_le n⟩
  | tail _ hread ih =>
    obtain ⟨hbytes, -⟩ := ih
    cases hread with
    | piece _ _ _ _ hlength =>
      rw [← hbytes, List.length_append]
      exact ⟨List.append_assoc .., hlength⟩

theorem filling_of_filled (h : Runs n bs f) (hover : f.Filled n) :
    f.received = bs.take n ∧ f.rest = bs.drop n := by
  obtain ⟨hbytes, hlength⟩ := filling_of_runs h
  rw [← hbytes]
  rcases hover with hfull | hend
  · exact ⟨(List.take_left' hfull).symm, (List.drop_left' hfull).symm⟩
  · rw [hend, List.append_nil, List.take_of_length_le hlength, List.drop_of_length_le hlength]
    exact ⟨rfl, rfl⟩

theorem length_of_read (h : Read n f g) : g.rest.length < f.rest.length ∧
    g.received.length + g.rest.length = f.received.length + f.rest.length := by
  cases h with
  | piece received piece rest hpiece _ =>
    have := List.length_pos_iff.2 hpiece
    simp only [List.length_append]
    omega

theorem exists_read (h : Runs n bs f) (hover : ¬ f.Filled n) : ∃ g, Read n f g := by
  obtain ⟨-, hlength⟩ := filling_of_runs h
  obtain ⟨received, rest⟩ := f
  cases rest with
  | nil => exact absurd (Or.inr rfl) hover
  | cons b rest =>
    have hlt : received.length < n := Nat.lt_of_le_of_ne hlength fun hn => hover (Or.inl hn)
    exact ⟨_, .piece received [b] rest (List.cons_ne_nil b []) hlt⟩

/-- **Every loop for a run of bytes** comes to its end. -/
theorem exists_filled (n : Nat) (bs : List UInt8) : ∃ f, Runs n bs f ∧ f.Filled n :=
  exists_ended (fun _ _ hread => (length_of_read hread).1) fun _ => exists_read

/-- What a loop that is over makes of `n` bytes that were to be taken. -/
def taken (e : StreamEnd) (n : Nat) (f : Filling) (y : Except FrameError Frame) : Result :=
  if f.received.length < n then (.error (e.error (.truncated n f.received.length)), f.rest)
  else (y, f.rest)

theorem taken_eq (h : Runs n bs f) (hover : f.Filled n) (y : Except FrameError Frame) :
    f.taken e n y = taking e n bs y := by
  obtain ⟨hreceived, hrest⟩ := filling_of_filled h hover
  have hlength : f.received.length = min n bs.length := by rw [hreceived, List.length_take]
  unfold taken taking
  by_cases hn : bs.length < n
  · rw [if_pos (by omega), if_pos hn, hlength, Nat.min_eq_right (Nat.le_of_lt hn), hrest,
      List.drop_of_length_le (Nat.le_of_lt hn)]
  · rw [if_neg (by omega), if_neg hn, hrest]

/-! #### Lines -/

/-- A look at a piece of what is left takes it through its first line end, up to `n` bytes in all,
and leaves the others. -/
inductive Look (n : Nat) : Filling → Filling → Prop
  | piece (received piece rest : List UInt8) : isCut received = true → received.length < n →
      piece ≠ [] →
      Look n ⟨received, piece ++ rest⟩
        ⟨received ++ (splitLine (n - received.length) piece).1,
          (splitLine (n - received.length) piece).2 ++ rest⟩

/-- A line is over with its end, at the limit, or with the stream. -/
def Lined (n : Nat) (f : Filling) : Prop :=
  isCut f.received = false ∨ f.received.length = n ∨ f.rest = []

/-- The loop for a line of at most `n` bytes can come this far. -/
def Lines (n : Nat) (bs : List UInt8) (f : Filling) : Prop := ReflTransGen (Look n) (start bs) f

/-- The line that a loop ends with, and what it leaves, if all that is left arrives at once. -/
def line (n : Nat) (f : Filling) : List UInt8 × List UInt8 :=
  if isCut f.received = true then
    (f.received ++ (splitLine (n - f.received.length) f.rest).1,
      (splitLine (n - f.received.length) f.rest).2)
  else (f.received, f.rest)

/-- **A look keeps the line** that its loop ends with. -/
theorem line_of_look (h : Look n f g) : g.line n = f.line n := by
  cases h with
  | piece received piece rest hcut hlength hpiece =>
    unfold line
    dsimp only
    rw [if_pos hcut, isCut_append hcut, List.length_append, ← Nat.sub_sub]
    generalize n - received.length = m
    by_cases hover :
        (splitLine m piece).1.getLast? = some newline ∨ (splitLine m piece).1.length = m
    · rw [splitLine_append_of_closed hover]
      cases hend : isCut (splitLine m piece).1 with
      | false => rfl
      | true =>
        have hm : (splitLine m piece).1.length = m := hover.resolve_left (of_decide_eq_true hend)
        rw [if_pos rfl, hm, Nat.sub_self, splitLine_zero, List.append_nil]
    · have hend : isCut (splitLine m piece).1 = true :=
        decide_eq_true fun hl => hover (Or.inl hl)
      rw [splitLine_append_of_open hover, hend, if_pos rfl, splitLine_of_open hover,
        List.append_assoc]
      rfl

theorem length_of_lines (h : Lines n bs f) : f.received.length ≤ n := by
  induction h with
  | refl => exact Nat.zero_le n
  | tail _ hlook _ =>
    cases hlook with
    | piece received piece _ _ hlength _ =>
      have := length_splitLine (n - received.length) piece
      rw [List.length_append]
      omega

theorem line_of_lines (h : Lines n bs f) : f.line n = splitLine n bs := by
  induction h with
  | refl => rfl
  | tail _ hlook ih => rw [line_of_look hlook, ih]

theorem splitLine_of_lined (h : Lines n bs f) (hover : f.Lined n) :
    splitLine n bs = (f.received, f.rest) := by
  rw [← line_of_lines h]
  unfold line
  by_cases hcut : isCut f.received = true
  · rw [if_pos hcut]
    rcases hover with hend | hfull | hend
    · rw [hcut] at hend
      cases hend
    · rw [hfull, Nat.sub_self, splitLine_zero, List.append_nil]
    · rw [hend, splitLine_short List.not_mem_nil (Nat.zero_le _), List.append_nil]
  · rw [if_neg hcut]

theorem length_of_look (h : Look n f g) : g.rest.length < f.rest.length ∧
    g.received.length + g.rest.length = f.received.length + f.rest.length := by
  cases h with
  | piece received piece rest _ hlength hpiece =>
    have hone := List.length_pos_iff.2 (splitLine_ne_nil (Nat.sub_pos_of_lt hlength) hpiece)
    have happ := congrArg List.length (splitLine_append (n - received.length) piece)
    simp only [List.length_append] at happ ⊢
    omega

theorem exists_look (h : Lines n bs f) (hover : ¬ f.Lined n) : ∃ g, Look n f g := by
  have hlength := length_of_lines h
  obtain ⟨received, rest⟩ := f
  cases rest with
  | nil => exact absurd (Or.inr (Or.inr rfl)) hover
  | cons b rest =>
    have hlt : received.length < n :=
      Nat.lt_of_le_of_ne hlength fun hn => hover (Or.inr (Or.inl hn))
    have hcut : isCut received = true := Bool.of_not_eq_false fun hend => hover (Or.inl hend)
    exact ⟨_, .piece received [b] rest hcut hlt (List.cons_ne_nil b [])⟩

/-- **Every loop for a line** comes to its end. -/
theorem exists_lined (n : Nat) (bs : List UInt8) : ∃ f, Lines n bs f ∧ f.Lined n :=
  exists_ended (fun _ _ hlook => (length_of_look hlook).1) fun _ => exists_look

end Filling

/-! ### Headers and frames -/

open Filling (Runs Lines)

/-- Reading a header line by line, each line with a loop of looks: how the header ends, and the
bytes after it. -/
inductive ReadsHeader (limits : Limits) (e : StreamEnd) :
    HeaderBlock → List UInt8 → HeaderEnd × List UInt8 → Prop
  | ends {b : HeaderBlock} {bs : List UInt8} {f : Filling} {x : HeaderEnd} :
      Lines limits.lineLength bs f → f.Lined limits.lineLength →
      b.step limits e f.received = .inl x → ReadsHeader limits e b bs (x, f.rest)
  | goesOn {b b' : HeaderBlock} {bs : List UInt8} {f : Filling} {y : HeaderEnd × List UInt8} :
      Lines limits.lineLength bs f → f.Lined limits.lineLength →
      b.step limits e f.received = .inr b' → ReadsHeader limits e b' f.rest y →
      ReadsHeader limits e b bs y

/-- Doing what a header says with the bytes after it: a body is taken, or skipped, with a loop of
reads. -/
inductive ReadsRest (e : StreamEnd) : HeaderEnd → List UInt8 → Result → Prop
  | body {n : Nat} {bs : List UInt8} {f : Filling} : Runs n bs f → f.Filled n →
      ReadsRest e (.body n) bs (f.taken e n (.ok ⟨n, f.received⟩))
  | skipped {value : String} {n : Nat} {bs : List UInt8} {f : Filling} : Runs n bs f →
      f.Filled n →
      ReadsRest e (.rejected value (some n)) bs (f.taken e n (.error (.invalidLength value)))
  | unskipped {value : String} {bs : List UInt8} :
      ReadsRest e (.rejected value none) bs (.error (.invalidLength value), bs)
  | failed {x : FrameError} {bs : List UInt8} : ReadsRest e (.failed x) bs (.error x, bs)

/-- Reading one frame after the other. -/
inductive ReadsFrames (limits : Limits) (e : StreamEnd) : List UInt8 → List Result → Prop
  | nil {bs : List UInt8} : ReadsFrames limits e bs []
  | cons {bs : List UInt8} {h : HeaderEnd × List UInt8} {y : Result} {ys : List Result} :
      ReadsHeader limits e .empty bs h → ReadsRest e h.1 h.2 y → ReadsFrames limits e y.2 ys →
      ReadsFrames limits e bs (y :: ys)

/-- **However the lines of a header arrive**, it is the header of the bytes. -/
theorem readsHeader_iff {y : HeaderEnd × List UInt8} :
    ReadsHeader limits e b bs y ↔ y = scan limits e b bs := by
  constructor
  · intro h
    induction h with
    | ends hlines hover hstep =>
      rw [scan_eq, Filling.splitLine_of_lined hlines hover]
      dsimp only
      rw [hstep]
    | @goesOn b b' bs f y hlines hover hstep _ ih =>
      rw [ih, scan_eq limits e _ bs, Filling.splitLine_of_lined hlines hover]
      dsimp only
      rw [hstep]
  · rintro rfl
    induction hn : bs.length using Nat.strongRecOn generalizing b bs with
    | _ n ih =>
      obtain ⟨f, hlines, hover⟩ := Filling.exists_lined limits.lineLength bs
      have hline := Filling.splitLine_of_lined hlines hover
      rw [scan_eq, hline]
      dsimp only
      cases hstep : b.step limits e f.received with
      | inl x => exact .ends hlines hover hstep
      | inr b' =>
        have hmore : b.step limits e (splitLine limits.lineLength bs).1 = .inr b' := by
          rw [hline]
          exact hstep
        have hless : f.rest.length < n := by
          have hlength := length_splitLine_of_more hmore
          rw [hline] at hlength
          exact hn ▸ hlength
        exact .goesOn hlines hover hstep (ih _ hless rfl)

/-- **However a body arrives**, it is the beginning of the bytes. -/
theorem readsRest_iff {y : Result} : ReadsRest e x bs y ↔ y = x.follow e bs := by
  constructor
  · intro h
    cases h with
    | body hruns hover =>
      rw [Filling.taken_eq hruns hover, (Filling.filling_of_filled hruns hover).1]
      rfl
    | skipped hruns hover => exact Filling.taken_eq hruns hover _
    | unskipped => rfl
    | failed => rfl
  · rintro rfl
    cases x with
    | body n =>
      obtain ⟨f, hruns, hover⟩ := Filling.exists_filled n bs
      have hbody : f.taken e n (.ok ⟨n, f.received⟩) = (HeaderEnd.body n).follow e bs := by
        rw [Filling.taken_eq hruns hover, (Filling.filling_of_filled hruns hover).1]
        rfl
      exact hbody ▸ .body hruns hover
    | rejected value skip =>
      cases skip with
      | none => exact .unskipped
      | some n =>
        obtain ⟨f, hruns, hover⟩ := Filling.exists_filled n bs
        have hskip : f.taken e n (.error (.invalidLength value)) =
            (HeaderEnd.rejected value (some n)).follow e bs := Filling.taken_eq hruns hover _
        exact hskip ▸ .skipped hruns hover
    | failed x => exact .failed

/-! ### Calls of the reader -/

/-- The first `k` calls of the reader, each on what the one before it left, whatever they find. -/
def calls (limits : Limits) : Nat → Source → List Reading
  | 0, _ => []
  | k + 1, s => nextFrame limits s :: calls limits k (nextFrame limits s).rest

/-- **The chunks of a stream do not matter** to any number of calls. -/
theorem view_calls (limits : Limits) (k : Nat) {s t : Source} (hb : s.bytes = t.bytes)
    (he : s.ending = t.ending) :
    (calls limits k s).map Reading.view = (calls limits k t).map Reading.view := by
  induction k generalizing s t with
  | zero => rfl
  | succ k ih =>
    have hview : (nextFrame limits s).view = (nextFrame limits t).view := by
      rw [view_nextFrame, view_nextFrame, hb, he]
    have hbytes : (nextFrame limits s).rest.bytes = (nextFrame limits t).rest.bytes :=
      (Prod.mk.inj hview).2
    have hending : (nextFrame limits s).rest.ending = (nextFrame limits t).rest.ending := by
      rw [ending_nextFrame, ending_nextFrame, he]
    unfold calls
    rw [List.map_cons, List.map_cons, hview, ih hbytes hending]

theorem calls_succ (limits : Limits) (e : StreamEnd) (bs : List UInt8) (k : Nat) :
    (calls limits (k + 1) (.ofBytes bs e)).map Reading.view =
      next limits e bs :: (calls limits k (.ofBytes (next limits e bs).2 e)).map Reading.view := by
  rw [calls, List.map_cons]
  refine congrArg (next limits e bs :: ·) (view_calls limits k ?_ (ending_nextFrame ..))
  rw [Source.bytes_ofBytes]
  rfl

theorem readsFrames_iff {ys : List Result} :
    ReadsFrames limits e bs ys ↔
      ys = (calls limits ys.length (.ofBytes bs e)).map Reading.view := by
  induction ys generalizing bs with
  | nil => exact ⟨fun _ => rfl, fun _ => .nil⟩
  | cons y ys ih =>
    rw [List.length_cons, calls_succ, List.cons.injEq, next_eq]
    constructor
    · intro h
      cases h with
      | cons hheader hrest hframes =>
        have hy := readsRest_iff.1 hrest
        rw [readsHeader_iff.1 hheader] at hy
        rw [← hy]
        exact ⟨rfl, ih.1 hframes⟩
    · rintro ⟨hy, hys⟩
      rw [← hy] at hys
      exact .cons (readsHeader_iff.2 rfl) (readsRest_iff.2 hy) (ih.2 hys)

/-- **The results depend only on the bytes.** Whatever pieces a stream hands out, any number of
calls of the reader have the results that they have on bytes that arrive at once; the chunks of a
stream do not matter. While a body of `n` bytes is received there are never more than `n` of them,
and in the end they are the next ones, all `n` or as many as there are. -/
theorem calls_of_pieces (limits : Limits) (e : StreamEnd) (bs : List UInt8) :
    (∀ ys, ReadsFrames limits e bs ys ↔
      ys = (calls limits ys.length (.ofBytes bs e)).map Reading.view) ∧
    (∀ s : Source, s.bytes = bs → s.ending = e → ∀ k,
      (calls limits k s).map Reading.view = (calls limits k (.ofBytes bs e)).map Reading.view) ∧
    (∀ n f, Runs n bs f → f.received.length ≤ n ∧ (f.Filled n → f.received = bs.take n ∧
      ∀ s : Source, s.bytes = bs → s.ending = e →
        (readBody n s).view = f.taken e n (.ok ⟨n, f.received⟩))) := by
  refine ⟨fun ys => readsFrames_iff, ?_, ?_⟩
  · rintro s rfl rfl k
    exact view_calls limits k (Source.bytes_ofBytes ..).symm rfl
  · intro n f hruns
    obtain ⟨-, hlength⟩ := Filling.filling_of_runs hruns
    refine ⟨hlength, fun hover => ?_⟩
    obtain ⟨hreceived, -⟩ := Filling.filling_of_filled hruns hover
    refine ⟨hreceived, ?_⟩
    rintro s rfl rfl
    rw [Filling.taken_eq hruns hover, hreceived]
    exact view_readRest (.body n) s

/-- A frame whose body has a letter of two bytes. -/
def letterFrame : List UInt8 := frame [34, 195, 169, 34]

/-- The bytes of a body with a letter of two bytes, in two pieces that meet within the letter. -/
theorem runs_letter : Runs 4 [34, 195, 169, 34] ⟨[34, 195, 169, 34], []⟩ :=
  (ReflTransGen.single (.piece [] [34, 195] [169, 34] (by decide) (by decide))).tail
    (.piece [34, 195] [169, 34] [] (by decide) (by decide))

/-- The frame arrives byte by byte, and the next call finds the end of the stream. -/
theorem calls_of_letterFrame :
    ReadsFrames .usual .closed letterFrame
        [(.ok ⟨4, [34, 195, 169, 34]⟩, []), (.error .endOfStream, [])] ∧
      (calls .usual 2 ⟨Source.cut 0 letterFrame, .closed⟩).map Reading.view =
        [(.ok ⟨4, [34, 195, 169, 34]⟩, []), (.error .endOfStream, [])] ∧
      (readBody 4 ⟨[[34, 195], [169, 34]], .closed⟩).view = (.ok ⟨4, [34, 195, 169, 34]⟩, []) := by
  have hcalls : (calls .usual 2 (.ofBytes letterFrame .closed)).map Reading.view =
      [(.ok ⟨4, [34, 195, 169, 34]⟩, []), (.error .endOfStream, [])] := by
    decide +kernel
  obtain ⟨hframes, hsource, -⟩ := calls_of_pieces .usual .closed letterFrame
  obtain ⟨-, -, hbody⟩ := calls_of_pieces .usual .closed [34, 195, 169, 34]
  obtain ⟨-, hover⟩ := hbody 4 _ runs_letter
  refine ⟨(hframes _).2 hcalls.symm, ?_, (hover (Or.inl rfl)).2 _ rfl rfl⟩
  exact (hsource ⟨_, .closed⟩ (Source.flatten_cut 0 letterFrame) rfl 2).trans hcalls

end SyntaxServer
