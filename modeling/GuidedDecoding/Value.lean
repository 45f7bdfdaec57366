import GuidedDecoding.Text.Quoted

set_option autoImplicit false

namespace GuidedDecoding

inductive Value where
  | none
  | int (n : Int)
  | text (s : String)
  | list (items : List Value)
  | tuple (items : List Value)
  | branch (index : Nat) (value : Value)
  deriving BEq, Repr, Inhabited

namespace Value

mutual

def render : Value → String
  | .none => "None"
  | .int n => toString n
  | .text s => Quoted.text s
  | .list items => "[" ++ ", ".intercalate (renderAll items) ++ "]"
  | .tuple [item] => "(" ++ item.render ++ ",)"
  | .tuple items => "(" ++ ", ".intercalate (renderAll items) ++ ")"
  | .branch index value => s!"Branch(index={index}, value=" ++ value.render ++ ")"

def renderAll : List Value → List String
  | [] => []
  | item :: items => item.render :: renderAll items

end

end Value

structure Branch where
  index : Nat
  value : Value
  deriving BEq, Repr

def Branch.toValue (b : Branch) : Value := .branch b.index b.value

end GuidedDecoding
