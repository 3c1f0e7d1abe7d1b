import SyntaxServer.Frame.Basic
import SyntaxServer.Frame.Source
import SyntaxServer.Log.Entry
import SyntaxServer.Text.Blank

/-!
Reading frames. The lines of a header are collected into a block; the blank line after them says
what to do with the bytes that follow: read a body, skip one that is too large, or go on with
the next block. Every call that reports anything but the end of the stream takes at least one
byte, if lines may have any length at all.
-/

namespace SyntaxServer

/-! ### Header lines -/

inductive HeaderLine where
  | blank
  | length (n : Nat)
  | tooLarge (n : Nat) (value : String)
  | malformed (value : String)
  | other (text : String)
  deriving DecidableEq, Repr

namespace HeaderLine

/-- A character of a line end. -/
def isLineEnd (c : Char) : Bool := c = '\r' || c = '\n'

/-- The line of a value after the name of the length. -/
def ofValue (limits : Limits) (value : List Char) : HeaderLine :=
  match Natural.word? value with
  | some n => if n ≤ limits.contentLength then .length n else .tooLarge n (String.ofList value)
  | none => .malformed (String.ofList value)

/-- The line of a text without its line end. -/
def ofText (limits : Limits) (cs : List Char) : HeaderLine :=
  if cs = [] then .blank
  else
    match lengthHeader.isPrefixOf? cs with
    | some value => ofValue limits (Text.trim value)
    | none => .other (String.ofList cs)

/-- The line of some bytes. -/
def ofBytes (limits : Limits) (bs : List UInt8) : HeaderLine :=
  ofText limits (Text.dropEnd isLineEnd (Utf8.lenient bs))

def log (limits : Limits) : HeaderLine → List Log.Entry
  | .blank => []
  | .length _ => []
  | .tooLarge n _ => [⟨.warn, .transport, "Content-Length exceeds limit",
      [("length", .ofNat n), ("limit", .ofNat limits.contentLength)]⟩]
  | .malformed value => [⟨.warn, .transport, "Rejecting Content-Length header",
      [("value", .string value)]⟩]
  | .other text => [⟨.debug, .transport, "Skipping non Content-Length header",
      [("header", .string text)]⟩]

end HeaderLine

/-! ### Header blocks -/

/-- The lines of a header so far: the last good length, the last bad one, the last that was too
large, and how many lines there are. -/
structure HeaderBlock where
  length : Option Nat
  invalid : Option String
  oversized : Option Nat
  lines : Nat
  deriving DecidableEq, Repr

/-- How a header ends: with the length of the body to read, with a bad length and the length of
a body to skip, or with an error. -/
inductive HeaderEnd where
  | body (n : Nat)
  | rejected (value : String) (skip : Option Nat)
  | failed (e : FrameError)
  deriving DecidableEq, Repr

namespace HeaderBlock

def empty : HeaderBlock := ⟨none, none, none, 0⟩

/-- Adds a line that is not blank. -/
def add (b : HeaderBlock) : HeaderLine → HeaderBlock
  | .blank => b
  | .length n => { b with length := some n, lines := b.lines + 1 }
  | .tooLarge n value =>
    { b with oversized := some n, invalid := some value, lines := b.lines + 1 }
  | .malformed value => { b with invalid := some value, lines := b.lines + 1 }
  | .other _ => { b with lines := b.lines + 1 }

/-- What the blank line after a block says; nothing after no lines. A bad length outweighs a good
one. -/
def close (b : HeaderBlock) : Option HeaderEnd :=
  match b.invalid, b.length with
  | some value, _ => some (.rejected value b.oversized)
  | none, some n => some (.body n)
  | none, none => if b.lines = 0 then none else some (.failed (.missingLength b.lines))

/-- What the end of the stream within a block says. -/
def cut (b : HeaderBlock) : FrameError :=
  if b.lines = 0 then .endOfStream else .truncated (b.length.getD 0) 0

end HeaderBlock

/-- The error of a stream that ends too early: its own failure, if it has one. -/
def StreamEnd.error (e : StreamEnd) (otherwise : FrameError) : FrameError :=
  match e with
  | .closed => otherwise
  | .failed cause => .io cause

/-- A line is cut if no line end closes it. -/
def isCut (line : List UInt8) : Bool := line.getLast? ≠ some Source.newline

/-- A header that was read, and the stream after it. -/
structure HeaderScan where
  log : List Log.Entry
  ending : HeaderEnd
  rest : Source

/-- Reads a header from a block of lines on. -/
def readHeader (limits : Limits) (b : HeaderBlock) (s : Source) : HeaderScan :=
  let line := (s.line limits.lineLength).1
  let rest := (s.line limits.lineLength).2
  if line.length = limits.lineLength ∧ isCut line then
    ⟨[⟨.warn, .transport, "Header line exceeds length limit",
      [("limit", .ofNat limits.lineLength)]⟩], .failed (.lineTooLong limits.lineLength), rest⟩
  else if isCut line ∧ s.ending ≠ .closed then ⟨[], .failed (s.ending.error b.cut), rest⟩
  else if hl : (s.line limits.lineLength).1 = [] then ⟨[], .failed b.cut, rest⟩
  else
    have : rest.bytes.length < s.bytes.length := by
      have h := congrArg List.length (s.line_append limits.lineLength)
      have := List.length_pos_iff.2 hl
      simp only [List.length_append] at h
      show (s.line limits.lineLength).2.bytes.length < s.bytes.length
      omega
    let header := HeaderLine.ofBytes limits line
    if header = .blank then
      match b.close with
      | some e => ⟨[], e, rest⟩
      | none => readHeader limits b rest
    else
      let b := b.add header
      let log := header.log limits
      if limits.headerLines < b.lines then
        ⟨log ++ [⟨.warn, .transport, "Header block exceeds line limit",
          [("lines", .ofNat b.lines)]⟩], .failed (.missingLength b.lines), rest⟩
      else
        let r := readHeader limits b rest
        { r with log := log ++ r.log }
termination_by s.bytes.length

/-! ### Frames -/

/-- What one call of the reader gives: a frame or an error, the log, and the stream after it. -/
structure Reading where
  result : Except FrameError Frame
  log : List Log.Entry
  rest : Source

/-- Takes the body of a frame. -/
def readBody (n : Nat) (s : Source) : Reading :=
  let r := s.take n
  if r.1.length < n then ⟨.error (s.ending.error (.truncated n r.1.length)), [], r.2⟩
  else ⟨.ok ⟨n, r.1⟩, [⟨.trace, .transport, "Read frame", [("content_length", .ofNat n)]⟩], r.2⟩

/-- Skips the body of a frame that is refused. -/
def skipBody (value : String) (n : Nat) (s : Source) : Reading :=
  let r := s.take n
  if r.1.length < n then ⟨.error (s.ending.error (.truncated n r.1.length)), [], r.2⟩
  else ⟨.error (.invalidLength value),
    [⟨.debug, .transport, "Discarded oversized body", [("content_length", .ofNat n)]⟩], r.2⟩

/-- Does what a header says with the stream after it. -/
def readRest (ending : HeaderEnd) (s : Source) : Reading :=
  match ending with
  | .body n => readBody n s
  | .rejected value (some n) => skipBody value n s
  | .rejected value none => ⟨.error (.invalidLength value), [], s⟩
  | .failed e => ⟨.error e, [], s⟩

def nextFrame (limits : Limits) (s : Source) : Reading :=
  let h := readHeader limits .empty s
  let r := readRest h.ending h.rest
  { r with log := h.log ++ r.log }

/-- Reads the next frame of bytes that more may follow; none if it needs more of them. -/
def nextFrame? (limits : Limits) (bs : List UInt8) : Option Reading :=
  let r := nextFrame limits (.ofBytes bs (.failed ""))
  match r.result with
  | .error (.io _) => none
  | _ => some r

/-- A reading after which there is none. -/
def Reading.isFinal (r : Reading) : Bool :=
  match r.result with
  | .ok _ => false
  | .error e => e.isFinal

/-- At most `n` readings in turn, up to the end of the stream. -/
def readings (limits : Limits) : Nat → Source → List Reading
  | 0, _ => []
  | n + 1, s =>
    let r := nextFrame limits s
    if r.isFinal then [r] else r :: readings limits n r.rest

/-- All readings of a stream. Each before the last takes a byte. -/
def allReadings (limits : Limits) (s : Source) : List Reading :=
  readings limits (s.bytes.length + 1) s

end SyntaxServer
