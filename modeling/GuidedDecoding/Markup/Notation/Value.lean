import GuidedDecoding.Markup.Notation.Reading

/-!
What a written value means. Constants, collections of values, numbers behind a sign, and the sum or
difference of a number and an imaginary one are values; nothing else is. Members of a set and keys
of a map must not be collections that can change.
-/

set_option autoImplicit false

namespace GuidedDecoding.Markup.Notation

inductive Flaw where
  | unreadable (d : Defect)
  | nullCharacter
  | noValue
  | noKey
  | changeable (kind : String)
  | tooLarge
  deriving DecidableEq, Repr

def Flaw.message : Flaw → String
  | .unreadable d => d.message
  | .nullCharacter => "source code string cannot contain null bytes"
  | .noValue => "malformed node or string"
  | .noKey => "malformed node or string: None"
  | .changeable kind => s!"unhashable type: '{kind}'"
  | .tooLarge => "int too large to convert to float"

/-- A value, as far as it decides what other values may hold it. -/
inductive Meaning where
  | constant
  | number (n : Number)
  | changeable (kind : String)
  deriving DecidableEq, Repr

namespace Meaning

/-- Whole numbers from here on exceed every floating-point number. -/
def floatLimit : Nat := (1 <<< 1024) - (1 <<< 970)

def ofNumber : Node → Except Flaw Number
  | .constant (.number n) => .ok n
  | _ => .error .noValue

def ofSigned : Node → Except Flaw Number
  | .signed operand => ofNumber operand
  | n => ofNumber n

/-- The sum or difference of two numbers, of which the second alone is imaginary. -/
def ofSum (left right : Node) : Except Flaw Meaning := do
  match ← ofSigned left, ← ofNumber right with
  | .whole n, .imaginary => if floatLimit ≤ n then .error .tooLarge else .ok (.number .imaginary)
  | .real, .imaginary => .ok (.number .imaginary)
  | _, _ => .error .noValue

def checkMember : Meaning → Except Flaw Unit
  | .changeable kind => .error (.changeable kind)
  | _ => .ok ()

def tuple : List Meaning → Meaning
  | [] => .constant
  | .changeable kind :: _ => .changeable kind
  | _ :: rest => tuple rest

mutual

def ofNode : Node → Except Flaw Meaning
  | .constant (.number n) => .ok (.number n)
  | .constant _ => .ok .constant
  | .tuple items => (ofItems items).map tuple
  | .set items => (checkMembers items).map fun _ => .changeable "set"
  | .map pairs => (checkPairs pairs).map fun _ => .changeable "dict"
  | .call (.name "set") .absent => .ok (.changeable "set")
  | .sum left right => ofSum left right
  | n => (ofSigned n).map .number

def ofItems : List Node → Except Flaw (List Meaning)
  | [] => .ok []
  | n :: ns => do
    let first ← ofNode n
    return first :: (← ofItems ns)

def checkMembers : List Node → Except Flaw Unit
  | [] => .ok ()
  | n :: ns => do
    checkMember (← ofNode n)
    checkMembers ns

def checkPairs : List Node → Except Flaw Unit
  | [] => .ok ()
  | .pair .absent _ :: _ => .error .noKey
  | .pair key value :: rest => do
    let key ← ofNode key
    let _ ← ofNode value
    checkMember key
    checkPairs rest
  | _ :: _ => .error .noValue

end

end Meaning

def valueOf (cs : List Char) : Except Flaw Meaning :=
  if cs.contains '\x00' then .error .nullCharacter
  else
    match readValue cs with
    | .error d => .error (.unreadable d)
    | .ok n => Meaning.ofNode n

end GuidedDecoding.Markup.Notation
