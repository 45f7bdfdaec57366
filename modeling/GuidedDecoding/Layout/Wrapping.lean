import GuidedDecoding.Layout.Styled
import GuidedDecoding.Text.Blank
import GuidedDecoding.Text.Cells

set_option autoImplicit false

namespace GuidedDecoding.Layout

/-- Text parted between each blank and a character behind it that is none. -/
def cutAtBlanks : List Char → List (List Char)
  | [] => []
  | c :: cs =>
    match cutAtBlanks cs with
    | [] => [[c]]
    | word :: words =>
      if Text.isBlank c && !word.head?.any Text.isBlank then [c] :: word :: words
      else (c :: word) :: words

def wordsOf (cs : List Char) : List (List Char) :=
  match cutAtBlanks cs with
  | lead :: word :: words =>
    if lead.all Text.isBlank then (lead ++ word) :: words else lead :: word :: words
  | words => words

structure Progress where
  place : Nat := 0
  column : Nat := 0
  /-- Where new lines start, the latest first. -/
  breaks : List Nat := []

def starts (place : Nat) : List (List Char) → List Nat
  | [] => []
  | piece :: pieces => place :: starts (place + piece.length) pieces

/-- Puts a word on the line or on new ones. -/
def Progress.put (width : Nat) (folds : Bool) (p : Progress) (word : List Char) : Progress :=
  let size := Text.width (Text.dropTrailing Text.isBlank word)
  let next := p.place + word.length
  let isFirst := p.place == 0
  if p.column + size ≤ width then ⟨next,p.column + Text.width word,p.breaks⟩
  else if width < size ∧ folds then
    let pieces := Text.pieces width word
    let found := (starts p.place pieces).filter (· != 0)
    ⟨next,Text.width (pieces.getLast?.getD []),found.reverse ++ p.breaks⟩
  else ⟨next,Text.width word,if isFirst then p.breaks else p.place :: p.breaks⟩

def breaks (width : Nat) (folds : Bool) (cs : List Char) : List Nat :=
  ((wordsOf cs).foldl (Progress.put width folds) {}).breaks.reverse

inductive Justify where
  | left
  | centre
  deriving DecidableEq, Repr

/-- Drops blanks at the end, of which those stay that are among the first `width` characters. -/
def dropBlanks (width : Nat) (s : Styled) : Styled :=
  let kept := max (Text.dropTrailing Text.isBlank s.text).length width
  if kept < s.text.length then s.withText (s.text.take kept) else s

def shorten (width : Nat) (folds : Bool) (s : Styled) : Styled :=
  if Text.width s.text ≤ width then s
  else if folds then s.withText (Text.fit width s.text)
  else s.withText (Text.fit (width - 1) s.text ++ ['…'])

def justify (width : Nat) (folds : Bool) (s : Styled) : Justify → Styled
  | .left =>
    let s := shorten width folds s
    s.padRight (width - Text.width s.text)
  | .centre =>
    let s := shorten width folds (s.withText (Text.dropTrailing Text.isBlank s.text))
    let s := s.padLeft ((width - Text.width s.text) / 2)
    s.padRight (width - Text.width s.text)

def wrap (width : Nat) (folds : Bool) (how : Option Justify) (s : Styled) : List Styled :=
  s.lines.flatMap fun line =>
    let line := line.expandTabs
    (line.divide (breaks width folds line.text)).map fun part =>
      let part := dropBlanks width part
      shorten width folds (match how with
        | none => part
        | some j => justify width folds part j)

def runsWidth (runs : List (List Char)) : Nat := runs.foldl (fun n run => n + Text.width run) 0

/-- The first cells of runs, each of which is measured by itself. -/
def takeCells : (width : Nat) → List (List Char) → List Char
  | _, [] => []
  | width, run :: runs =>
    let size := Text.width run
    if size < width then run ++ takeCells (width - size) runs else Text.fit width run

def assemble (width : Nat) (runs : List (List Char)) : List Char :=
  let size := runsWidth runs
  if size ≤ width then runs.flatten ++ Styled.spaces (width - size) else takeCells width runs

end GuidedDecoding.Layout
