import GuidedDecoding.Bytes
import GuidedDecoding.Text.Printable

/-!
Quoted forms of text and of byte strings. Both stand between single quotes, or between double quotes
when the content holds a single quote and no double one. The quote in use, the backslash, tab, line
feed and carriage return are escaped by a backslash; what cannot be shown is written in hexadecimal.
-/

set_option autoImplicit false

namespace GuidedDecoding.Quoted

def hexDigit (n : Nat) : Char :=
  Char.ofNat (if n < 10 then '0'.toNat + n else 'a'.toNat + (n - 10))

def hex : (width : Nat) → (n : Nat) → List Char
  | 0, _ => []
  | width + 1, n => hex width (n / 16) ++ [hexDigit (n % 16)]

/-- Single quotes, unless double ones save escaping. -/
def quoteMark (content : List Char) : Char :=
  if content.contains '\'' && !content.contains '"' then '"' else '\''

/-- The escapes that bytes and text share; `none` leaves the decision to the caller. -/
def shortEscape? (quote c : Char) : Option (List Char) :=
  if c = quote ∨ c = '\\' then some ['\\',c]
  else if c = '\t' then some ['\\','t']
  else if c = '\n' then some ['\\','n']
  else if c = '\r' then some ['\\','r']
  else none

def escapeByte (quote : Char) (b : UInt8) : List Char :=
  let c := Char.ofNat b.toNat
  (shortEscape? quote c).getD
    (if 0x20 ≤ b.toNat ∧ b.toNat ≤ 0x7E then [c] else '\\' :: 'x' :: hex 2 b.toNat)

def escapeChar (quote c : Char) : List Char :=
  (shortEscape? quote c).getD
    (if Text.isPrintable c then [c]
     else if c.toNat < 0x100 then '\\' :: 'x' :: hex 2 c.toNat
     else if c.toNat < 0x10000 then '\\' :: 'u' :: hex 4 c.toNat
     else '\\' :: 'U' :: hex 8 c.toNat)

def bareBytes (data : Bytes) : String :=
  let quote := quoteMark (data.map fun b => Char.ofNat b.toNat)
  String.ofList (quote :: data.flatMap (escapeByte quote) ++ [quote])

def bytes (data : Bytes) : String := "b" ++ bareBytes data

/-- Bytes that may change. Here a single quote is escaped whatever the mark. -/
def buffer (data : Bytes) : String :=
  let quote := quoteMark (data.map fun b => Char.ofNat b.toNat)
  "bytearray(b" ++ String.ofList (quote :: data.flatMap (escapeByte '\'') ++ [quote]) ++ ")"

def text (s : String) : String :=
  let quote := quoteMark s.toList
  String.ofList (quote :: s.toList.flatMap (escapeChar quote) ++ [quote])

end GuidedDecoding.Quoted
