import GuidedDecoding.Failure
import GuidedDecoding.Markup.Notation.Value
import GuidedDecoding.Text.Blank

set_option autoImplicit false

namespace GuidedDecoding.Markup.Parameters

def isNamePart (c : Char) : Bool := Text.Identifier.isWordPart c || c == '.'

def value? (stripped : List Char) : Option (List Char) :=
  let rest := stripped.dropWhile isNamePart
  if rest.isEmpty then none
  else if rest.head? == some '(' && rest.getLast? == some ')' && !rest.contains '\n' then some rest
  else some stripped

def check (parameters : List Char) : Except Fault Unit :=
  match value? (Text.trim Text.isBlank parameters) with
  | none => .ok ()
  | some value =>
    match Notation.valueOf value with
    | .ok _ => .ok ()
    | .error (.unreadable d) =>
      .error (.unreadableParameters (String.ofList value) (String.ofList parameters) d.message)
    | .error flaw => .error (.unusableParameters (String.ofList parameters) flaw.message)

end GuidedDecoding.Markup.Parameters
