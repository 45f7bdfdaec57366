import GuidedDecoding.Failure

/-!
Decimal numerals of a bounded range, read digit by digit. A numeral has no leading zeros and a minus
sign only before a value below zero. What has been read so far is kept as a sign and the magnitude
of the digits; `reachable` decides whether more digits can still lead into the range.
-/

set_option autoImplicit false

namespace GuidedDecoding

structure IntegerRange where
  least : Int
  greatest : Int
  least_le_greatest : least ≤ greatest
  deriving DecidableEq, Repr

structure Numeral where
  negative : Bool := false
  magnitude : Nat := 0
  digits : Nat := 0
  deriving DecidableEq, Repr

namespace Numeral

def start : Numeral := {}

def value (n : Numeral) : Int := if n.negative then -n.magnitude else n.magnitude

def minusSign : UInt8 := '-'.toUInt8

def digit? (b : UInt8) : Option Nat :=
  if '0'.toUInt8 ≤ b ∧ b ≤ '9'.toUInt8 then some (b - '0'.toUInt8).toNat else none

def push (n : Numeral) (digit : Nat) : Numeral :=
  { n with magnitude := n.magnitude * 10 + digit, digits := n.digits + 1 }

def render (n : Numeral) : String :=
  let negative := if n.negative then "True" else "False"
  s!"IntegerState(negative={negative}, value={n.magnitude}, digits={n.digits})"

end Numeral

/-- Whether some number in `[low, high]` starts with `lead` and has as many further digits as the
factor `scale` says, or more. The numbers with `k` further digits fill the block from `lead * 10 ^
k` to `lead * 10 ^ k + 10 ^ k - 1`, and the blocks move up as `k` grows. -/
def reachableFrom (lead low high scale : Nat) : Bool :=
  if _ : 0 < lead * scale ∧ lead * scale ≤ high then
    decide (low ≤ lead * scale + scale - 1) || reachableFrom lead low high (scale * 10)
  else false
termination_by high + 1 - lead * scale
decreasing_by
  rename_i h
  have : lead * (scale * 10) = lead * scale * 10 := by rw [Nat.mul_assoc]
  omega

/-- Whether some number in `[low, high]` is `lead` with `more` or more digits appended. -/
def reachable (lead low high more : Nat) : Bool := reachableFrom lead low high (Nat.pow 10 more)

namespace IntegerRange

def ofBounds (least greatest : Int) : Except Fault IntegerRange :=
  if h : least ≤ greatest then .ok ⟨least,greatest,h⟩
  else .error (.emptyRange least greatest)

/-- The magnitudes of the values of one sign, as bounds; `none` if there is no such value. -/
def magnitudes (r : IntegerRange) (negative : Bool) : Option (Nat × Nat) :=
  let low := if negative then max (-r.greatest) 1 else max r.least 0
  let high := if negative then -r.least else r.greatest
  if low ≤ high then some (low.toNat,high.toNat) else none

def contains (r : IntegerRange) (n : Int) : Bool := r.least ≤ n && n ≤ r.greatest

def viable (r : IntegerRange) (n : Numeral) : Bool :=
  match r.magnitudes n.negative with
  | none => false
  | some (low,high) =>
    n.digits == 0 || if n.magnitude = 0 then low == 0 else reachable n.magnitude low high 0

/-- Whether a further digit can follow. Nothing follows a zero. -/
def extendable (r : IntegerRange) (n : Numeral) : Bool :=
  match r.magnitudes n.negative with
  | none => false
  | some (low,high) => n.magnitude != 0 && reachable n.magnitude low high 1

def close (r : IntegerRange) (n : Numeral) (position : Nat) (rest : Bytes) :
    Except ParseError (Int × Bytes) :=
  if 0 < n.digits ∧ r.contains n.value then .ok (n.value,rest)
  else
    let found := rest.take 1
    .error {
      reason := if n.digits = 0 then .digitExpected found
        else .outsideRange n.negative n.magnitude r.least r.greatest
      position := position
      found := some found }

/-- A sign is read once, before any digit, and only where the range has a value below zero. -/
def takesSign (r : IntegerRange) (n : Numeral) (b : UInt8) : Bool :=
  b == Numeral.minusSign && n.digits == 0 && !n.negative && (r.magnitudes true).isSome

/-- Reads on. The answer is the value with the bytes after it as soon as no digit can follow, or the
numeral so far if the bytes end first. -/
def read (r : IntegerRange) (n : Numeral) (position : Nat) :
    Bytes → Except ParseError (Numeral ⊕ Int × Bytes)
  | [] => .ok (.inl n)
  | b :: rest =>
    if r.takesSign n b then read r { n with negative := true } (position + 1) rest
    else
      match Numeral.digit? b with
      | none => (r.close n position (b :: rest)).map .inr
      | some d =>
        let next := n.push d
        if !r.viable next then (r.close n position (b :: rest)).map .inr
        else if r.extendable next then read r next (position + 1) rest
        else .ok (.inr (next.value,rest))

def requiresSign (r : IntegerRange) (n : Numeral) : Bool :=
  n.digits == 0 && !n.negative && (r.magnitudes false).isNone

end IntegerRange

end GuidedDecoding
