import GuidedDecoding.Text.Quoted

set_option autoImplicit false

namespace GuidedDecoding

inductive Datum where
  | absent
  | flag (b : Bool)
  | number (n : Int)
  /-- The mantissa divided by ten to the number of places. Zero has a sign too. -/
  | decimal (isNegative : Bool) (mantissa : Nat) (places : Nat)
  | infinity (isNegative : Bool)
  | undefined
  | text (s : String)
  | list (items : List Datum)
  | map (entries : List (String × Datum))
  deriving Repr, Inhabited

instance : Coe String Datum := ⟨Datum.text⟩

namespace Datum

/-- Significant digits with the point behind the first `point` of them, if they are not too many or
too few for that; else with an exponent. -/
def pointed (digits : List Char) (point : Int) : String :=
  let zeros (n : Int) : List Char := List.replicate n.toNat '0'
  let count : Int := digits.length
  if point ≤ -4 ∨ 16 < point then
    let exponent := point - 1
    let places := if digits.length = 1 then [] else '.' :: digits.drop 1
    let sign := if exponent < 0 then "-" else "+"
    let tens := if exponent.natAbs < 10 then "0" else ""
    String.ofList (digits.take 1 ++ places) ++ "e" ++ sign ++ tens ++ toString exponent.natAbs
  else if point ≤ 0 then String.ofList ('0' :: '.' :: zeros (-point) ++ digits)
  else if count ≤ point then String.ofList (digits ++ zeros (point - count) ++ ['.','0'])
  else String.ofList (digits.take point.toNat ++ '.' :: digits.drop point.toNat)

def sign (isNegative : Bool) : String := if isNegative then "-" else ""

def renderDecimal (isNegative : Bool) (mantissa : Nat) (places : Nat) : String :=
  let digits := (toString mantissa).toList
  let significant := (digits.reverse.dropWhile (· == '0')).reverse
  sign isNegative ++
    if mantissa = 0 then "0.0" else pointed significant (digits.length - places)

mutual

def render : Datum → String
  | .absent => "None"
  | .flag true => "True"
  | .flag false => "False"
  | .number n => toString n
  | .decimal isNegative mantissa places => renderDecimal isNegative mantissa places
  | .infinity isNegative => sign isNegative ++ "inf"
  | .undefined => "nan"
  | .text s => Quoted.text s
  | .list items => "[" ++ ", ".intercalate (renderAll items) ++ "]"
  | .map entries => "\x7b" ++ ", ".intercalate (renderEntries entries) ++ "\x7d"

def renderAll : List Datum → List String
  | [] => []
  | item :: items => item.render :: renderAll items

def renderEntries : List (String × Datum) → List String
  | [] => []
  | (name,value) :: entries => (Quoted.text name ++ ": " ++ value.render) :: renderEntries entries

end

def kind : Datum → String
  | .absent => "NoneType"
  | .flag _ => "bool"
  | .number _ => "int"
  | .decimal .. => "float"
  | .infinity _ => "float"
  | .undefined => "float"
  | .text _ => "str"
  | .list _ => "list"
  | .map _ => "dict"

def isKey : Datum → Bool
  | .list _ => false
  | .map _ => false
  | _ => true

def length? : Datum → Option Nat
  | .text s => some s.length
  | .list items => some items.length
  | .map entries => some entries.length
  | _ => none

def shown : Datum → String
  | .text s => s
  | d => d.render

end Datum

end GuidedDecoding
