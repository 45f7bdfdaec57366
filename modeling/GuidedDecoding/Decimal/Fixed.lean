set_option autoImplicit false

namespace GuidedDecoding.Decimal

/-- The integer nearest to `num / den`, the even one of two. -/
def roundDiv (num den : Nat) : Nat :=
  let q := num / den
  let twice := 2 * (num % den)
  if den < twice ∨ (twice = den ∧ q % 2 = 1) then q + 1 else q

inductive Magnitude where
  /-- The mantissa times two to the exponent. -/
  | finite (mantissa : Nat) (exponent : Int)
  | infinite
  | notANumber
  deriving DecidableEq, Repr

def isNegative (bits : UInt64) : Bool := bits >>> 63 != 0

def magnitude (bits : UInt64) : Magnitude :=
  let exponent := ((bits >>> 52) &&& 0x7FF).toNat
  let fraction := (bits &&& 0xFFFFFFFFFFFFF).toNat
  if exponent = 0x7FF then if fraction = 0 then .infinite else .notANumber
  else if exponent = 0 then .finite fraction (-1074)
  else .finite (fraction + 0x10000000000000) (exponent - 1075)

def units (places mantissa : Nat) (exponent : Int) : Nat :=
  let scaled := mantissa * Nat.pow 10 places
  if 0 ≤ exponent then scaled <<< exponent.toNat else roundDiv scaled (1 <<< (-exponent).toNat)

def pointed (places count : Nat) : String :=
  let digits := toString (count / Nat.pow 10 places)
  let fraction := toString (count % Nat.pow 10 places)
  if places = 0 then digits
  else digits ++ "." ++ String.ofList (List.replicate (places - fraction.length) '0') ++ fraction

def fixed (places : Nat) (x : Float) : String :=
  let sign := if isNegative x.toBits then "-" else ""
  match magnitude x.toBits with
  | .finite mantissa exponent => sign ++ pointed places (units places mantissa exponent)
  | .infinite => sign ++ "inf"
  | .notANumber => "nan"

end GuidedDecoding.Decimal
