import GuidedDecoding.Vocabulary

set_option autoImplicit false

namespace GuidedDecoding

inductive Token where
  | text (cs : CodePoints)
  | bytes (data : Bytes)
  | absent
  | number (n : Int)
  | flag (b : Bool)
  deriving DecidableEq, Repr

/-- The bytes of a token. What is neither text nor bytes is spelled out first. -/
def Token.toBytes : Token → Except Fault Bytes
  | text cs =>
    match cs.encode with
    | .ok data => .ok data
    | .error run => .error (.unencodable run)
  | bytes data => .ok data
  | absent => .ok (utf8 "None")
  | number n => .ok (utf8 (toString n))
  | flag b => .ok (utf8 (if b then "True" else "False"))

/-- A way to look a token up by its id. One that fails says why. -/
abbrev LookUp := Int → Except String Token

structure Tokenizer where
  decoder : Option LookUp := none
  pieces : Option LookUp := none
  converter : LookUp
  size : Int
  endToken : Option Int := none
  startToken : Option Int := none
  paddingToken : Option Int := none
  unknownToken : Option Int := none
  specialIds : List Int := []

namespace Tokenizer

/-- Decoding is preferred to a table of pieces, and conversion is what is left. -/
def lookUp (t : Tokenizer) : LookUp := (t.decoder.or t.pieces).getD t.converter

def decode (t : Tokenizer) (id : Int) : Except Fault Bytes :=
  match t.lookUp id with
  | .error why => .error (.undecodable id why)
  | .ok token => token.toBytes

def special (t : Tokenizer) : List Int :=
  (t.specialIds ++ t.endToken.toList ++ t.startToken.toList ++ t.paddingToken.toList ++
    t.unknownToken.toList).eraseDups

def sizeLimit : Int := 1 <<< 63

def sizeFault? (t : Tokenizer) : Option Fault :=
  if t.size < 0 then some .negativeSize
  else if sizeLimit ≤ t.size then some .sizeTooLarge
  else none

def ordinaryIds (t : Tokenizer) (special : List Int) : List Int :=
  ((List.range t.size.toNat).map Int.ofNat).filter fun id => !special.contains id

def decodable (t : Tokenizer) (special : List Int) : Vocabulary Bytes :=
  (t.ordinaryIds special).filterMap fun id =>
    match t.decode id with
    | .ok data => some (id,data)
    | .error _ => none

def vocabulary (t : Tokenizer) (special : List Int) : Except Fault (Vocabulary Bytes) :=
  match t.sizeFault? with
  | some f => .error f
  | none => .ok (t.decodable special)

end Tokenizer

end GuidedDecoding
