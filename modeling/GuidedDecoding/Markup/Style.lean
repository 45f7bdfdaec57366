import GuidedDecoding.Markup.Colour
import GuidedDecoding.Text.LetterCase

set_option autoImplicit false

namespace GuidedDecoding.Markup

inductive Attribute where
  | bold
  | dim
  | italic
  | underline
  | blink
  | fastBlink
  | reverse
  | conceal
  | strike
  | doubleUnderline
  | frame
  | encircle
  | overline
  deriving DecidableEq, Repr

namespace Attribute

def all : List Attribute := [
  .bold,.dim,.italic,.underline,.blink,.fastBlink,.reverse,.conceal,.strike,.doubleUnderline,
  .frame,.encircle,.overline]

def name : Attribute → String
  | .bold => "bold"
  | .dim => "dim"
  | .italic => "italic"
  | .underline => "underline"
  | .blink => "blink"
  | .fastBlink => "blink2"
  | .reverse => "reverse"
  | .conceal => "conceal"
  | .strike => "strike"
  | .doubleUnderline => "underline2"
  | .frame => "frame"
  | .encircle => "encircle"
  | .overline => "overline"

def letters? : Attribute → Option String
  | .bold => some "b"
  | .dim => some "d"
  | .italic => some "i"
  | .underline => some "u"
  | .reverse => some "r"
  | .conceal => some "c"
  | .strike => some "s"
  | .doubleUnderline => some "uu"
  | .overline => some "o"
  | _ => none

def ofName? (name : String) : Option Attribute :=
  all.find? fun a => a.name == name || a.letters? == some name

end Attribute

structure Style where
  attributes : List (Attribute × Bool) := []
  colour : Option String := none
  background : Option String := none
  link : Option String := none
  deriving DecidableEq, Repr

namespace Style

def switch (a : Attribute) (isOn : Bool) (s : Style) : Style :=
  { s with attributes := (a,isOn) :: s.attributes }

/-- Adds what the words of a name ask for; `none` if one of them asks for nothing known. -/
def read (s : Style) : List (List Char) → Except Fault (Option Style)
  | [] => .ok (some s)
  | word :: rest =>
    let small := Text.lower word
    match String.ofList small, rest with
    | "on", [] => .ok none
    | "on", ground :: rest =>
      let ground := Text.lower ground
      match Colour.accepts ground with
      | .error f => .error f
      | .ok false => .ok none
      | .ok true => read { s with background := some (String.ofList ground) } rest
    | "not", [] => .ok none
    | "not", name :: rest =>
      match Attribute.ofName? (String.ofList name) with
      | some a => read (s.switch a false) rest
      | none => .ok none
    | "link", [] => .ok none
    | "link", target :: rest => read { s with link := some (String.ofList target) } rest
    | name, rest =>
      match Attribute.ofName? name with
      | some a => read (s.switch a true) rest
      | none =>
        match Colour.accepts small with
        | .error f => .error f
        | .ok false => .ok none
        | .ok true => read { s with colour := some name } rest

def render (s : Style) : String :=
  let attributes := Attribute.all.filterMap fun a =>
    (s.attributes.lookup a).map fun isOn => if isOn then a.name else "not " ++ a.name
  let parts := attributes ++ s.colour.toList ++ (s.background.map ("on " ++ ·)).toList ++
    (s.link.map ("link " ++ ·)).toList
  if parts.isEmpty then "none" else " ".intercalate parts

end Style

def styleName (name : List Char) : Except Fault String :=
  match Style.read {} (Text.words name) with
  | .error f => .error f
  | .ok (some s) => .ok s.render
  | .ok none => .ok (String.ofList (Text.lower (Text.trim Text.isBlank name)))

end GuidedDecoding.Markup
