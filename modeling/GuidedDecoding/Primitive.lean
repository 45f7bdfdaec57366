import GuidedDecoding.Outcome

set_option autoImplicit false

namespace GuidedDecoding

namespace Literal

/-- Matches `data` against what is left of a literal. A count of matched bytes beyond the literal's
length never finishes. -/
def scan (literal : Bytes) (matched consumed : Nat) : (left data : Bytes) → Attempt
  | [], data =>
    if matched = literal.length then .ok (.finished .none data)
    else .ok (.incomplete (.literal matched) (.borrowed []))
  | b :: left, [] => .ok (.incomplete (.literal matched) (.borrowed (b :: left)))
  | b :: left, x :: data =>
    if x = b then scan literal (matched + 1) (consumed + 1) left data
    else
      .error (.parse {
        reason := .literalMismatch [b] literal
        position := consumed
        expected := some [b]
        found := some [x] })

def advance (literal : Bytes) (matched : Nat) (data : Bytes) : Attempt :=
  scan literal matched 0 (literal.drop matched) data

end Literal

def IntegerRange.advance (r : IntegerRange) (n : Numeral) (data : Bytes) : Attempt :=
  match r.read n 0 data with
  | .error e => .error (.parse e)
  | .ok (.inr (value,rest)) => .ok (.finished (.int value) rest)
  | .ok (.inl read) =>
    .ok (.incomplete (.integer read)
      (if r.requiresSign read then .borrowed [Numeral.minusSign] else .empty))

end GuidedDecoding
