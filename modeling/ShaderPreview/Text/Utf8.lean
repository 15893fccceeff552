/-!
# Strict UTF-8

Decoding of bytes as UTF-8 without mercy: the first byte that cannot be part of a well-formed
sequence ends the decoding, and the fault says where it stands, how many bytes it spoils and why.
A sequence that starts well and is cut short by the end of the data spoils all that is left;
one that is broken by a wrong byte spoils what came before that byte.

## Main definitions

* `Utf8.Fault`: where and why decoding stopped.
* `Utf8.decode`: the text of some bytes.
-/

namespace ShaderPreview.Utf8

/-- Why some bytes are not UTF-8. -/
inductive Reason where
  | invalidStart
  | invalidContinuation
  | unexpectedEnd
  deriving DecidableEq, Repr

/-- A **decoding fault**: the first spoilt byte, its position, how many bytes are spoilt, and
why. -/
structure Fault where
  byte : UInt8
  position : Nat
  width : Nat
  reason : Reason
  deriving DecidableEq, Repr

/-- Whether a byte lies between two others, both included. -/
def within (low high byte : UInt8) : Bool := low ≤ byte && byte ≤ high

/-- Whether a byte may follow the second one of a sequence. -/
def isContinuation (byte : UInt8) : Bool := within 0x80 0xBF byte

/-- The code point of a start byte's payload and its continuation bytes. -/
def codePoint (start : UInt8) (continuation : List UInt8) : Char :=
  Char.ofNat (continuation.foldl (fun n b => n * 64 + (b.toNat - 0x80)) start.toNat)

/-- The bytes that the second byte of a sequence must lie between. Narrower than usual where the
sequence would be longer than needed, a surrogate, or beyond the last code point. -/
def secondBounds (start : UInt8) : UInt8 × UInt8 :=
  if start = 0xE0 then (0xA0, 0xBF)
  else if start = 0xED then (0x80, 0x9F)
  else if start = 0xF0 then (0x90, 0xBF)
  else if start = 0xF4 then (0x80, 0x8F)
  else (0x80, 0xBF)

/-- The **sequence** that a start byte opens: its character and the number of bytes after the
start, or the number of spoilt bytes and the reason. -/
def sequence (start : UInt8) (tail : List UInt8) : Except (Nat × Reason) (Char × Nat) :=
  let (low, high) := secondBounds start
  if start < 0x80 then .ok (Char.ofNat start.toNat, 0)
  else if start < 0xC2 then .error (1, .invalidStart)
  else if start < 0xE0 then
    match tail with
    | [] => .error (1, .unexpectedEnd)
    | b :: _ =>
      if within low high b then .ok (codePoint (start - 0xC0) [b], 1)
      else .error (1, .invalidContinuation)
  else if start < 0xF0 then
    match tail with
    | [] => .error (1, .unexpectedEnd)
    | [b] => .error (if within low high b then (2, .unexpectedEnd) else (1, .invalidContinuation))
    | b :: c :: _ =>
      if !within low high b then .error (1, .invalidContinuation)
      else if !isContinuation c then .error (2, .invalidContinuation)
      else .ok (codePoint (start - 0xE0) [b, c], 2)
  else if start < 0xF5 then
    match tail with
    | [] => .error (1, .unexpectedEnd)
    | [b] => .error (if within low high b then (2, .unexpectedEnd) else (1, .invalidContinuation))
    | [b, c] =>
      if !within low high b then .error (1, .invalidContinuation)
      else .error (if isContinuation c then (3, .unexpectedEnd) else (2, .invalidContinuation))
    | b :: c :: d :: _ =>
      if !within low high b then .error (1, .invalidContinuation)
      else if !isContinuation c then .error (2, .invalidContinuation)
      else if !isContinuation d then .error (3, .invalidContinuation)
      else .ok (codePoint (start - 0xF0) [b, c, d], 3)
  else .error (1, .invalidStart)

/-- The characters of some bytes, the first of which stands at the given position. -/
def decodeFrom (position : Nat) : List UInt8 → Except Fault (List Char)
  | [] => .ok []
  | start :: tail =>
    match sequence start tail with
    | .error (width, reason) => .error ⟨start, position, width, reason⟩
    | .ok (c, more) => (decodeFrom (position + 1 + more) (tail.drop more)).map (c :: ·)
termination_by bytes => bytes.length
decreasing_by simp only [List.length_drop, List.length_cons]; omega

/-- The **text of some bytes**. -/
def decode (bytes : List UInt8) : Except Fault String :=
  (decodeFrom 0 bytes).map String.ofList

/-- The words for a reason. -/
def Reason.message : Reason → String
  | .invalidStart => "invalid start byte"
  | .invalidContinuation => "invalid continuation byte"
  | .unexpectedEnd => "unexpected end of data"

end ShaderPreview.Utf8
