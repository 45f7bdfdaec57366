import GuidedDecoding.Text.CellWidth

set_option autoImplicit false

namespace GuidedDecoding.Layout

structure Stretch where
  start : Nat
  stop : Nat
  style : List (List Char) := []
  deriving DecidableEq, Repr

namespace Stretch

def shift (n : Nat) (t : Stretch) : Stretch := { t with start := t.start + n, stop := t.stop + n }

def upTo? (n : Nat) (t : Stretch) : Option Stretch :=
  if t.start < n then some { t with stop := min n t.stop } else none

def within? (start stop : Nat) (t : Stretch) : Option Stretch :=
  let first := t.start - start
  let last := min t.stop stop - start
  if first < last then some { t with start := first, stop := last } else none

end Stretch

structure Styled where
  text : List Char
  stretches : List Stretch := []
  /-- Whether all of the text has a style besides. -/
  isStyled : Bool := false
  deriving DecidableEq, Repr

namespace Styled

def plain (cs : List Char) : Styled := { text := cs }

def withText (s : Styled) (cs : List Char) : Styled :=
  { s with
    text := cs
    stretches :=
      if cs.length < s.text.length then s.stretches.filterMap (Stretch.upTo? cs.length)
      else s.stretches }

def piece (s : Styled) (start stop : Nat) : Styled :=
  { s with
    text := (s.text.drop start).take (stop - start)
    stretches := s.stretches.filterMap (Stretch.within? start stop) }

def piecesFrom (s : Styled) (start : Nat) : List Nat → List Styled
  | [] => [s.piece start s.text.length]
  | place :: places => s.piece start place :: piecesFrom s place places

def divide (s : Styled) (places : List Nat) : List Styled :=
  if places.isEmpty then [s] else s.piecesFrom 0 places

def placesBehind (p : Char → Bool) (cs : List Char) : List Nat :=
  cs.zipIdx.filterMap fun (c,i) => if p c then some (i + 1) else none

def lines (s : Styled) : List Styled :=
  let ends := placesBehind (· == '\n') s.text
  (s.divide (ends.flatMap fun n => [n - 1,n])).filter fun piece => piece.text != ['\n']

def spaces (n : Nat) : List Char := List.replicate n ' '

def extend (n : Nat) (s : Styled) : Styled :=
  { s with
    text := s.text ++ spaces n
    stretches := s.stretches.map fun t =>
      if s.text.length ≤ t.stop then { t with stop := t.stop + n } else t }

def padRight (n : Nat) (s : Styled) : Styled := { s with text := s.text ++ spaces n }

def padLeft (n : Nat) (s : Styled) : Styled :=
  { s with text := spaces n ++ s.text, stretches := s.stretches.map (Stretch.shift n) }

/-- Adds text behind, and makes a stretch of its style. -/
def append (s next : Styled) : Styled :=
  let own := if next.isStyled then [⟨0,next.text.length,[]⟩] else []
  { s with
    text := s.text ++ next.text
    stretches := s.stretches ++ (own ++ next.stretches).map (Stretch.shift s.text.length) }

/-- Pieces whose last character may be a tab, which becomes a space and more of them, up to the next
multiple of eight cells; `column` is where the pieces start. -/
def tabbed (column : Nat) : List Styled → List Styled
  | [] => []
  | s :: rest =>
    if s.text.getLast? = some '\t' then
      let s := { s with text := s.text.dropLast ++ [' '] }
      let reached := column + Text.width s.text
      let more := (8 - reached % 8) % 8
      s.extend more :: tabbed (reached + more) rest
    else s :: tabbed (column + Text.width s.text) rest

def expandTabs (s : Styled) : Styled :=
  if s.text.contains '\t' then
    let pieces := s.divide (placesBehind (· == '\t') s.text)
    let pieces := pieces.filter fun piece => !piece.text.isEmpty
    (tabbed 0 pieces).foldl append { s with text := [], stretches := [] }
  else s

/-- Text parted wherever a stretch starts or ends. -/
def runs (s : Styled) : List (List Char) :=
  let edges := s.stretches.flatMap fun t => [t.start,t.stop]
  let places := (List.range s.text.length).filter fun n => n != 0 && edges.contains n
  (s.divide places).map Styled.text

end Styled

end GuidedDecoding.Layout
