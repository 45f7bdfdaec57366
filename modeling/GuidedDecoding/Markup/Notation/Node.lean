import GuidedDecoding.Markup.Notation.Lexeme

set_option autoImplicit false

namespace GuidedDecoding.Markup.Notation

inductive Number where
  | whole (n : Nat)
  | real
  | imaginary
  deriving DecidableEq, Repr

inductive Constant where
  | none
  | true
  | false
  | ellipsis
  | text
  | bytes
  | number (n : Number)
  deriving DecidableEq, Repr

inductive Node where
  | absent
  | lexeme (l : Lexeme)
  | list (items : List Node)
  | name (spelling : String)
  | constant (c : Constant)
  | tuple (items : List Node)
  | set (items : List Node)
  | map (pairs : List Node)
  /-- An entry of a map; an unpacked map has no key. -/
  | pair (key value : Node)
  | starred (operand : Node)
  | attribute
  | call (function arguments : Node)
  /-- How many arguments stand by place and by name, and whether one of the latter is unpacked. -/
  | arguments (placed named : Nat) (unpacks : Bool)
  | keyword (unpacks : Bool)
  | signed (operand : Node)
  /-- The sum or difference of two operands. -/
  | sum (left right : Node)
  /-- A comparison. If it asks first whether something is in a collection, that something is
  kept. -/
  | comparison (member : Option Node)
  | other (kind : String)
  deriving Repr, Inhabited

namespace Node

def kind : Node → String
  | .name _ => "name"
  | .constant .none => "None"
  | .constant .true => "True"
  | .constant .false => "False"
  | .constant .ellipsis => "ellipsis"
  | .constant _ => "literal"
  | .tuple _ => "tuple"
  | .set _ => "set display"
  | .map _ => "dict literal"
  | .starred _ => "starred"
  | .attribute => "attribute"
  | .call _ _ => "function call"
  | .signed _ => "expression"
  | .sum _ _ => "expression"
  | .comparison _ => "comparison"
  | .other kind => kind
  | _ => ""

mutual

/-- The part of an operand that nothing can be assigned to. -/
def untargetable? : Node → Option Node
  | .tuple items => untargetableIn? items
  | .starred operand => untargetable? operand
  | .comparison (some member) => untargetable? member
  | .comparison none => none
  | .name _ => none
  | .attribute => none
  | n => some n

def untargetableIn? : List Node → Option Node
  | [] => none
  | n :: ns =>
    match untargetable? n with
    | some m => some m
    | none => untargetableIn? ns

end

def isCommand : Node → Bool
  | .name spelling => spelling == "print" || spelling == "exec"
  | _ => false

def items : Node → List Node
  | .list ns => ns
  | _ => []

def isStarred : Node → Bool
  | .starred _ => true
  | _ => false

def isUnpacking : Node → Bool
  | .keyword unpacks => unpacks
  | _ => false

def argumentsOf (placed : Nat) (others : List Node) : Node :=
  let starred := (others.filter isStarred).length
  .arguments (placed + starred) (others.length - starred) (others.any isUnpacking)

end Node

end GuidedDecoding.Markup.Notation
