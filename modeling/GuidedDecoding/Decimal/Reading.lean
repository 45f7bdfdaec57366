import GuidedDecoding.Text.Blank
import GuidedDecoding.Text.Digit

/-!
Reading a whole number that a person typed. Blanks around it are dropped and a sign may precede it.
Single underscores may part its digits, any number of them its leading zeros, and a point with
nothing but zeros behind it may follow. Leading zeros hide a minus sign behind them, if no sign
precedes them. Only the digits 0 to 9 count.
-/

set_option autoImplicit false

namespace GuidedDecoding.Decimal

def digits? (afterDigit : Bool) : List Char → Option (List Nat)
  | [] => if afterDigit then some [] else none
  | c :: cs =>
    if c = '_' then if afterDigit then digits? false cs else none
    else if c.isDigit then (digits? true cs).map ((c.toNat - 48) :: ·)
    else none

/-- What precedes the point, if zeros and nothing else follow it. -/
def wholePart (cs : List Char) : List Char :=
  match cs.dropWhile (· != '.') with
  | _ :: '0' :: places => if places.all (· == '0') then cs.takeWhile (· != '.') else cs
  | _ => cs

/-- Drops leading zeros and the underscores among them, but for the last of these before a point or
at the end. -/
def dropLeadingZeros (cs : List Char) : List Char :=
  if cs.head? = some '0' then
    let leading := cs.takeWhile fun c => c == '0' || c == '_'
    match cs.drop leading.length with
    | [] => leading.drop (leading.length - 1)
    | '.' :: places => leading.drop (leading.length - 1) ++ '.' :: places
    | significant => significant
  else cs

def ofDigits? (ds : List Nat) : Option Nat :=
  if ds.length ≤ Text.mostDigits then some (Text.ofDigits ds) else none

def natural? (cs : List Char) : Option Nat :=
  (digits? false (wholePart (dropLeadingZeros cs))).bind ofDigits?

/-- A number behind a sign that leading zeros hid. One underscore may lead it, but no more zeros. -/
def hidden? (cs : List Char) : Option Nat :=
  let whole := wholePart cs
  match digits? false (if whole.head? = some '_' then whole.drop 1 else whole) with
  | some [0] => some 0
  | some (0 :: _) => none
  | some ds => ofDigits? ds
  | none => none

def unsigned? (cs : List Char) : Option Int :=
  match cs.head?, dropLeadingZeros cs with
  | some '0', '-' :: ds => (hidden? ds).map fun n => -(n : Int)
  | _, _ => (natural? cs).map Int.ofNat

def integer? (s : String) : Option Int :=
  match Text.trim Text.isSpace s.toList with
  | '-' :: cs => (natural? cs).map fun n => -(n : Int)
  | '+' :: cs => unsigned? cs
  | cs => unsigned? cs

end GuidedDecoding.Decimal
