import GuidedDecoding.Text.Ranges

set_option autoImplicit false

namespace GuidedDecoding.Text

def spaces : Ranges := [
    (0x0009,0x000D),(0x0020,0x0020),(0x0085,0x0085),(0x00A0,0x00A0),(0x1680,0x1680),
    (0x2000,0x200A),(0x2028,0x2029),(0x202F,0x202F),(0x205F,0x205F),(0x3000,0x3000)]

def isSpace (c : Char) : Bool := spaces.contains c

/-- White space, or a separator of records. -/
def isBlank (c : Char) : Bool := isSpace c || (0x1C ≤ c.toNat && c.toNat ≤ 0x1F)

def lineEnds : Ranges := [
    (0x000A,0x000D),(0x001C,0x001E),(0x0085,0x0085),(0x2028,0x2029)]

def dropTrailing (p : Char → Bool) (cs : List Char) : List Char :=
  (cs.reverse.dropWhile p).reverse

def trim (p : Char → Bool) (cs : List Char) : List Char := dropTrailing p (cs.dropWhile p)

def piecesBetween (p : Char → Bool) : List Char → List (List Char)
  | [] => [[]]
  | c :: cs =>
    match p c, piecesBetween p cs with
    | true, pieces => [] :: pieces
    | false, piece :: pieces => (c :: piece) :: pieces
    | false, [] => [[c]]

def words (cs : List Char) : List (List Char) :=
  (piecesBetween isBlank cs).filter fun word => !word.isEmpty

end GuidedDecoding.Text
