import GuidedDecoding.Text.Quoted

/-!
Console markup: text with tags in square brackets, as in [bold]..[/bold]. A tag opens with a
lower-case letter or one of # / @, and holds no opening bracket. Backslashes before a tag stand for
half as many, and an odd one makes the tag plain text.
-/

set_option autoImplicit false

namespace GuidedDecoding.Markup

inductive Piece where
  | char (c : Char)
  /-- A bracket that opens no tag, and the backslashes before it. -/
  | bracket (backslashes : Nat)
  | tag (backslashes : Nat) (content : List Char)
  deriving DecidableEq, Repr

def opensTag (c : Char) : Bool := c.isLower || c == '#' || c == '/' || c == '@'

def tagContent? (cs : List Char) : Option (List Char) :=
  let content := cs.takeWhile fun c => c != ']' && c != '['
  let opens := match content with
    | c :: _ => opensTag c
    | [] => false
  if opens && (cs.drop content.length).head? == some ']' then some content else none

/-- Splits marked-up text; `backslashes` of them are pending. -/
def scan (backslashes : Nat) : List Char → List Piece
  | [] => List.replicate backslashes (.char '\\')
  | '\\' :: cs => scan (backslashes + 1) cs
  | '[' :: cs =>
    match tagContent? cs with
    | some content => .tag backslashes content :: scan 0 (cs.drop (content.length + 1))
    | none => .bracket backslashes :: scan 0 cs
  | c :: cs => List.replicate backslashes (.char '\\') ++ .char c :: scan 0 cs
termination_by cs => cs.length

def backslashes (n : Nat) : List Char := List.replicate n '\\'

def escapePiece : Piece → List Char
  | .char c => [c]
  | .bracket n => backslashes n ++ ['[']
  | .tag n content => backslashes (2 * n + 1) ++ '[' :: content ++ [']']

/-- Makes text mean itself as markup. A single backslash at the end is doubled, for a tag may
follow. -/
def escape (s : String) : String :=
  let escaped := (scan 0 s.toList).flatMap escapePiece
  let dangling := match escaped.reverse with
    | '\\' :: '\\' :: _ => false
    | '\\' :: _ => true
    | _ => false
  String.ofList (if dangling then escaped ++ ['\\'] else escaped)

def quotedBytes (data : Bytes) : String := escape (Quoted.bareBytes data)

end GuidedDecoding.Markup
