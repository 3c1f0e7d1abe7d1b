import SyntaxServer.Number.Natural
import SyntaxServer.Text.Quoted
import SyntaxServer.Text.Utf8

/-!
Frames: a header that gives the length of a body in bytes, a blank line, and the body.
-/

namespace SyntaxServer

/-- What a header line of the length starts with. -/
def lengthHeader : List Char := "Content-Length:".toList

/-- The frame of a body. -/
def frame (body : List UInt8) : List UInt8 :=
  Utf8.encode (lengthHeader ++ ' ' :: Natural.digits body.length ++ ['\r', '\n', '\r', '\n']) ++ body

/-- Bounds on what a reader accepts. -/
structure Limits where
  headerLines : Nat
  lineLength : Nat
  contentLength : Nat
  deriving DecidableEq, Repr

/-- The usual bounds: 32 lines of 8 KiB, and bodies of 64 MiB. -/
def Limits.usual : Limits := ⟨32, 8192, 67108864⟩

structure Frame where
  contentLength : Nat
  body : List UInt8
  deriving DecidableEq, Repr

/-- Why no frame was read. -/
inductive FrameError where
  | endOfStream
  | truncated (expected received : Nat)
  | missingLength (lines : Nat)
  | invalidLength (value : String)
  | lineTooLong (limit : Nat)
  | io (cause : String)
  deriving DecidableEq, Repr

namespace FrameError

def message : FrameError → String
  | .endOfStream => "End of stream"
  | .truncated expected received =>
    "Frame truncated: expected " ++ toString expected ++ " bytes, received " ++ toString received
  | .missingLength lines =>
    "Header block of " ++ toString lines ++ " lines without Content-Length"
  | .invalidLength value => "Invalid Content-Length: " ++ Text.quoted value
  | .lineTooLong limit => "Header line exceeds " ++ toString limit ++ " bytes"
  | .io cause => "Transport I/O failure: " ++ cause

/-- No frame can follow the error. -/
def isFinal : FrameError → Bool
  | .endOfStream => true
  | .io _ => true
  | _ => false

end FrameError

end SyntaxServer
