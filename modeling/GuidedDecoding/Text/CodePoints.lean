import GuidedDecoding.Bytes

set_option autoImplicit false

namespace GuidedDecoding

abbrev CodePoints := List Nat

/-- The first run of surrogates in a text: the code it opens with and the places of its two ends. -/
structure SurrogateRun where
  code : Nat
  first : Nat
  last : Nat
  deriving DecidableEq, Repr

namespace CodePoints

def isSurrogate (c : Nat) : Bool := 0xD800 ≤ c && c ≤ 0xDFFF

/-- The bytes of one code point: up to seven bits in one byte, then six more bits a byte. -/
def encodeOne (c : Nat) : Bytes :=
  if c < 0x80 then [c.toUInt8]
  else if c < 0x800 then [(0xC0 + c / 0x40).toUInt8,(0x80 + c % 0x40).toUInt8]
  else if c < 0x10000 then
    [(0xE0 + c / 0x1000).toUInt8,(0x80 + c / 0x40 % 0x40).toUInt8,(0x80 + c % 0x40).toUInt8]
  else
    [(0xF0 + c / 0x40000).toUInt8,(0x80 + c / 0x1000 % 0x40).toUInt8,
      (0x80 + c / 0x40 % 0x40).toUInt8,(0x80 + c % 0x40).toUInt8]

def surrogateRun? : Nat → CodePoints → Option SurrogateRun
  | _, [] => none
  | place, c :: cs =>
    if isSurrogate c then some ⟨c,place,place + (cs.takeWhile isSurrogate).length⟩
    else surrogateRun? (place + 1) cs

def encode (cs : CodePoints) : Except SurrogateRun Bytes :=
  match surrogateRun? 0 cs with
  | some run => .error run
  | none => .ok (cs.flatMap encodeOne)

end CodePoints

def utf8 (s : String) : Bytes := s.toList.flatMap fun c => CodePoints.encodeOne c.toNat

end GuidedDecoding
