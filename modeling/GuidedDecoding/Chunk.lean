import GuidedDecoding.Failure

/-!
What a caller hands in as input. Byte strings are read as they are and memory of wider words byte by
byte; text and foreign objects are refused. `view` is the strict reading that parsing uses,
`convert` the lenient one behind comparisons, which also makes bytes of a count or of a list of
numbers.
-/

set_option autoImplicit false

namespace GuidedDecoding

inductive Chunk where
  | bytes (data : Bytes)
  | buffer (data : Bytes)
  | view (data : Bytes)
  /-- A view of 16-bit words. -/
  | words (data : List UInt16)
  | text (s : String)
  | absent
  | count (n : Nat)
  | fraction
  | items (data : List UInt8)
  deriving DecidableEq, Repr

instance : Coe Bytes Chunk := ⟨Chunk.bytes⟩

namespace Chunk

def wordBytes (w : UInt16) : Bytes := [w.toUInt8,(w >>> 8).toUInt8]

def memory? : Chunk → Option Bytes
  | .bytes data => some data
  | .buffer data => some data
  | .view data => some data
  | .words data => some (data.flatMap wordBytes)
  | _ => none

/-- The bytes that a parse reads. -/
def toView : Chunk → Except Fault Bytes
  | .bytes data => .ok data
  | .buffer data => .ok data
  | .view data => .ok data
  | .words data => .ok (data.flatMap wordBytes)
  | .text _ => .error .textInsteadOfBytes
  | .absent => .error (.notBytes "NoneType")
  | .count _ => .error (.notBytes "int")
  | .fraction => .error (.notBytes "float")
  | .items _ => .error (.notBytes "list")

/-- The bytes that a comparison uses. -/
def toBytes : Chunk → Except Fault Bytes
  | .bytes data => .ok data
  | .buffer data => .ok data
  | .view data => .ok data
  | .words data => .ok (data.flatMap wordBytes)
  | .text _ => .error .textWithoutEncoding
  | .absent => .error (.notConvertible "NoneType")
  | .count n => .ok (List.replicate n 0)
  | .fraction => .error (.notConvertible "float")
  | .items data => .ok data

def isFlatView : Chunk → Bool
  | .view _ => true
  | _ => false

def isVacant : Chunk → Bool
  | .bytes data => data.isEmpty
  | .buffer data => data.isEmpty
  | .view data => data.isEmpty
  | .words data => data.isEmpty
  | .text s => s.isEmpty
  | .absent => true
  | .count n => n == 0
  | .fraction => false
  | .items data => data.isEmpty

def render : Chunk → String
  | .bytes data => Quoted.bytes data
  | .buffer data => Quoted.buffer data
  | .view _ => "<memory>"
  | .words _ => "<memory>"
  | .text s => Quoted.text s
  | .absent => "None"
  | .count n => toString n
  | .fraction => "1.5"
  | .items data => "[" ++ ", ".intercalate (data.map fun b => toString b.toNat) ++ "]"

end Chunk

end GuidedDecoding
