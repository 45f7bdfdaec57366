import GuidedDecoding.Decimal.Fixed
import GuidedDecoding.Layout.Wrapping

set_option autoImplicit false

namespace GuidedDecoding.Layout

def pageWidth : Nat := 200

/-- Lines as they are drawn: the styles that they have, and their characters. -/
structure Drawing where
  styles : List (List (List Char))
  rows : List (List Char)
  deriving Repr

def stylesOf (lines : List Styled) : List (List (List Char)) :=
  lines.flatMap fun line => line.stretches.map Stretch.style

def paragraph (s : Styled) : Drawing :=
  let lines := wrap pageWidth true none s
  ⟨stylesOf lines,lines.map Styled.text⟩

structure Column where
  header : String
  justify : Justify := .left
  /-- A fixed width; without one the widest cell decides. -/
  width : Option Nat := none

structure Table where
  title : String
  columns : List Column
  rows : List (List Styled)

structure Extent where
  width : Nat
  isFlexible : Bool
  deriving DecidableEq, Repr

namespace Extent

def total (es : List Extent) : Nat := es.foldl (fun n e => n + e.width) 0

def widest (test : Nat → Bool) (es : List Extent) : Nat :=
  es.foldl (fun n e => if e.isFlexible && test e.width then max n e.width else n) 0

/-- Takes `excess` cells from `count` extents as wide as `widest`, evenly, but no more than `most`
from one. -/
def reduce (widest most : Nat) : (excess count : Nat) → List Extent → List Extent
  | _, _, [] => []
  | excess, count, e :: es =>
    if e.isFlexible ∧ e.width = widest then
      let taken := min most (Decimal.roundDiv excess count)
      { e with width := e.width - taken } :: reduce widest most (excess - taken) (count - 1) es
    else e :: reduce widest most excess count es

/-- Narrows the widest extents until all of them fit in `room`. Each round makes the widest as
narrow as the next narrower one, or does enough. -/
def narrow : (rounds room : Nat) → List Extent → List Extent
  | 0, _, es => es
  | rounds + 1, room, es =>
    let excess := total es - room
    let first := widest (fun _ => true) es
    let second := widest (· != first) es
    if excess = 0 ∨ first = second then es
    else
      let count := es.countP fun e => e.isFlexible && e.width == first
      narrow rounds room (reduce first (min excess (first - second)) excess count es)

end Extent

namespace Table

def lineWidth (cell : List Char) : Nat :=
  ((Text.piecesBetween Text.lineEnds.contains cell).map Text.width).foldl max 0

def room (t : Table) : Nat := pageWidth - (t.columns.length + 1)

def extentOf (room : Nat) (column : Column) (cells : List Styled) : Extent :=
  let content := match column.width with
    | some width => width
    | none =>
      ((column.header.toList :: cells.map Styled.text).map lineWidth).foldl max 0
  ⟨min room (content + 2),column.width.isNone⟩

def widths (t : Table) : List Nat :=
  let extents := t.columns.zipIdx.map fun (column,i) =>
    extentOf t.room column (t.rows.filterMap fun row => row[i]?)
  (Extent.narrow extents.length t.room extents).map fun e => e.width - 2

def rule (left fill middle right : Char) (widths : List Nat) : List Char :=
  left :: [middle].intercalate (widths.map fun w => List.replicate (w + 2) fill) ++ [right]

def rowLines (bar : Char) (columns : List (Column × Nat)) (cells : List Styled) : Drawing :=
  let cells := List.zipWith (fun (column,width) cell => wrap width false (some column.justify) cell)
    columns cells
  let height := (cells.map List.length).foldl max 1
  let line (i : Nat) : List Char :=
    bar :: [bar].intercalate (List.zipWith
      (fun (_,width) lines =>
        ' ' :: assemble width ((lines[i]?).map Styled.runs |>.getD []) ++ [' '])
      columns cells) ++ [bar]
  ⟨cells.flatMap stylesOf,(List.range height).map line⟩

def render (t : Table) : Drawing :=
  let widths := t.widths
  let columns := t.columns.zip widths
  let total := widths.foldl (fun n width => n + width + 3) 1
  let titles := wrap total true (some .centre) (.plain t.title.toList)
  let header := rowLines '┃' columns (t.columns.map fun column => .plain column.header.toList)
  let body := t.rows.map (rowLines '│' columns)
  ⟨body.flatMap Drawing.styles,
    titles.map Styled.text ++
      rule '┏' '━' '┳' '┓' widths ::
      header.rows ++
      rule '┡' '━' '╇' '┩' widths ::
      body.flatMap Drawing.rows ++
      [rule '└' '─' '┴' '┘' widths]⟩

end Table

def panel (title : String) (content : Styled) : Drawing :=
  let inner := pageWidth - 2
  let heading := ' ' :: title.toList ++ [' ']
  let spare := inner - Text.width heading
  let top := '╭' :: List.replicate (spare / 2) '─' ++ heading ++
    List.replicate (spare - spare / 2) '─' ++ ['╮']
  let lines := wrap (inner - 2) true none content
  let body := lines.map fun line => '│' :: ' ' :: assemble (inner - 2) line.runs ++ [' ','│']
  ⟨stylesOf lines,top :: body ++ ['╰' :: List.replicate inner '─' ++ ['╯']]⟩

end GuidedDecoding.Layout
