import GuidedDecoding.Text.CellWidth

set_option autoImplicit false

namespace GuidedDecoding.Text

structure Cluster where
  text : List Char
  width : Nat
  deriving DecidableEq, Repr

namespace Cluster

/-- The clusters of text behind one that may go on. `last` is the last character that took room. -/
def behind (current : Cluster) (last : Option Char) : List Char → List Cluster
  | [] => [current]
  | c :: cs =>
    if c = joiner then behind ⟨current.text ++ c :: cs.take 1,current.width⟩ last (cs.drop 1)
    else if c = emojiSelector ∧ last.any widened.contains then
      behind ⟨current.text ++ [c],current.width + 1⟩ none cs
    else if c = emojiSelector ∨ charWidth c = 0 then
      behind ⟨current.text ++ [c],current.width⟩ last cs
    else current :: behind ⟨[c],charWidth c⟩ (some c) cs
termination_by cs => cs.length

def ofText : List Char → List Cluster
  | [] => []
  | c :: cs => behind ⟨[c],charWidth c⟩ (if charWidth c = 0 then none else some c) cs

/-- The first `size` cells. Half of a wide cluster becomes a space. -/
def take : (size : Nat) → List Cluster → List Char
  | _, [] => []
  | size, c :: cs =>
    if size = 0 then []
    else if c.width ≤ size then c.text ++ take (size - c.width) cs
    else [' ']

def pieces (size column : Nat) : List Cluster → List (List Char)
  | [] => [[]]
  | c :: cs =>
    if column + c.width ≤ size then
      match pieces size (column + c.width) cs with
      | piece :: more => (c.text ++ piece) :: more
      | [] => [c.text]
    else
      match pieces size c.width cs with
      | piece :: more => [] :: (c.text ++ piece) :: more
      | [] => [[],c.text]

end Cluster

def fit (size : Nat) (cs : List Char) : List Char :=
  if size = 0 then []
  else if width cs ≤ size then cs ++ List.replicate (size - width cs) ' '
  else Cluster.take size (Cluster.ofText cs)

def pieces (size : Nat) (cs : List Char) : List (List Char) :=
  Cluster.pieces size 0 (Cluster.ofText cs)

end GuidedDecoding.Text
