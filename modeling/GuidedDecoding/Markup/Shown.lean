import GuidedDecoding.Layout.Styled
import GuidedDecoding.Markup
import GuidedDecoding.Markup.Parameters
import GuidedDecoding.Markup.Style
import GuidedDecoding.Text.Emoji

set_option autoImplicit false

namespace GuidedDecoding.Markup

inductive Token where
  | text (cs : List Char)
  | escaped (cs : List Char)
  | tag (place : Nat) (content : List Char)
  deriving DecidableEq, Repr

def prepend (cs : List Char) : List Token → List Token
  | .text ds :: tokens => .text (cs ++ ds) :: tokens
  | tokens => .text cs :: tokens

def tokens (place : Nat) : List Piece → List Token
  | [] => []
  | .char c :: pieces => prepend [c] (tokens (place + 1) pieces)
  | .bracket n :: pieces =>
    prepend (backslashes (n - 1) ++ ['[']) (tokens (place + n + 1) pieces)
  | .tag n content :: pieces =>
    .escaped (backslashes (n / 2)) ::
      (if n % 2 = 1 then .escaped ('[' :: content ++ [']']) else .tag (place + n) content) ::
      tokens (place + n + content.length + 2) pieces

structure OpenTag where
  name : String
  parameters : List Char
  start : Nat
  deriving DecidableEq, Repr

/-- The words of the style that a tag asks for: its name, and its parameters as more of it. -/
def OpenTag.style (t : OpenTag) :
    List (List Char) := Text.words (t.name.toList ++ ' ' :: t.parameters)

def OpenTag.stretch (stop : Nat) (t : OpenTag) : Layout.Stretch := ⟨t.start,stop,t.style⟩

structure Shown where
  text : List Char := []
  opened : List OpenTag := []
  stretches : List Layout.Stretch := []
  deriving DecidableEq, Repr

namespace Shown

def isDropped (c : Char) : Bool :=
  c.toNat == 7 || c.toNat == 8 || c.toNat == 11 || c.toNat == 12 || c.toNat == 13

def visible (cs : List Char) : List Char := cs.filter fun c => !isDropped c

def addText (s : Shown) (cs : List Char) : Shown :=
  { s with text := s.text ++ visible (Text.Emoji.replace cs) }

def openTag (s : Shown) (name parameters : List Char) : Except Fault Shown :=
  (styleName name).map fun name =>
    { s with opened := ⟨name,parameters,s.text.length⟩ :: s.opened }

/-- Ends the stretch of an open tag. Only now are a handler's parameters read, which are no
style. -/
def closeTag (s : Shown) (t : OpenTag) : Except Fault Shown :=
  let closed (stretch : Layout.Stretch) : Shown :=
    { s with opened := s.opened.erase t, stretches := stretch :: s.stretches }
  let stretch := t.stretch s.text.length
  if t.name.startsWith "@" then
    (Parameters.check t.parameters).map fun _ => closed { stretch with style := [] }
  else .ok (closed stretch)

def closeNamed (s : Shown) (place : Nat) (content name : List Char) : Except Fault Shown :=
  if (Text.trim Text.isBlank name).isEmpty then
    match s.opened with
    | [] => .error (.nothingToClose place)
    | t :: _ => s.closeTag t
  else
    match styleName name with
    | .error f => .error f
    | .ok name =>
      match s.opened.find? fun t => t.name == name with
      | none => .error (.unopenedTag (String.ofList ('[' :: content ++ [']'])) place)
      | some t => s.closeTag t

def add (s : Shown) : Token → Except Fault Shown
  | .text cs => .ok (s.addText cs)
  | .escaped cs => .ok (s.addText cs)
  | .tag place content =>
    let name := content.takeWhile (· != '=')
    match name with
    | '/' :: name => s.closeNamed place content name
    | name => s.openTag name (content.drop (name.length + 1))

/-- The text and its stretches, by where they start; of two that start at one place the outer one
comes first. Tags left open cover the rest. -/
def styled (s : Shown) : Layout.Styled :=
  let opened := s.opened.reverse.map (OpenTag.stretch s.text.length)
  { text := s.text, stretches := (opened ++ s.stretches).mergeSort fun a b => a.start ≤ b.start }

def ofMarkup (markup : String) : Except Fault Shown :=
  (tokens 0 (scan 0 markup.toList)).foldlM add {}

end Shown

def checkStyles (styles : List (List (List Char))) : Except Fault Unit :=
  styles.forM fun words => (Style.read {} words).map fun _ => ()

end GuidedDecoding.Markup
