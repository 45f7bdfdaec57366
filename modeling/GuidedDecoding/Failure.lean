import GuidedDecoding.Text.CodePoints
import GuidedDecoding.Text.Quoted

/-!
Why a request cannot be answered. A `ParseError` says that the bytes cannot be part of a parse; it
is an ordinary outcome, and combinators act on it. A `Fault` is anything else: a grammar that cannot
be built, input of the wrong kind, a transform that fails. No combinator handles a fault.
-/

set_option autoImplicit false

namespace GuidedDecoding

inductive Reason where
  | literalMismatch (wanted : Bytes) (literal : Bytes)
  | digitExpected (found : Bytes)
  | outsideRange (negative : Bool) (magnitude : Nat) (least greatest : Int)
  | noAlternativeLeft
  /-- Every alternative failed; the reason of the last to fail is kept. -/
  | noAlternativeMatched (last : Reason)
  | emptyRepetition (items : Nat) (required : Nat)
  | stated (message : String)
  deriving DecidableEq, Repr

def Reason.message : Reason → String
  | .literalMismatch wanted literal =>
    s!"Expected {Quoted.bytes wanted} of literal {Quoted.bytes literal}"
  | .digitExpected found => s!"Expected a digit, found {Quoted.bytes found}"
  | .outsideRange negative magnitude least greatest =>
    let sign := if negative then "-" else ""
    s!"Integer {sign}{magnitude} is outside [{least}, {greatest}]"
  | .noAlternativeLeft => "No alternative left to try"
  | .noAlternativeMatched last => s!"No alternative matched: {last.message}"
  | .emptyRepetition items required =>
    s!"Repetition matched no input after {items} item(s); at least {required} required"
  | .stated message => message

/-- The bytes cannot be part of a parse. `position` counts from the start of the bytes in hand. -/
structure ParseError where
  reason : Reason
  position : Int := 0
  expected : Option Bytes := none
  found : Option Bytes := none
  deriving DecidableEq, Repr

def ParseError.message (e : ParseError) : String := e.reason.message

def ParseError.render (e : ParseError) : String :=
  let shown (data : Option Bytes) : String := (data.map Quoted.bytes).getD "None"
  s!"ParseError({Quoted.text e.message}, position={e.position}, " ++
    s!"expected={shown e.expected}, found={shown e.found})"

inductive Fault where
  | emptyRange (least greatest : Int)
  | negativeMinimum (count : Int)
  | maximumBelowMinimum (most least : Int)
  | noAlternatives
  | unencodable (run : SurrogateRun)
  | textInsteadOfBytes
  | notBytes (kind : String)
  | textWithoutEncoding
  | notConvertible (kind : String)
  | foreignCheckpoint
  | transformFailed (kind message : String)
  | sessionFinished (steps : Nat)
  | undecodable (token : Int) (why : String)
  | negativeSize
  | sizeTooLarge
  | outOfBounds (index : Int) (size : Nat)
  | negativeWidth (width : Int)
  | indexTooLarge
  | noPlaces (ids : Nat)
  | noColumns
  | chunkSizeNotPositive (size : Int)
  | emptySpan
  | unopenedTag (tag : String) (place : Nat)
  | nothingToClose (place : Nat)
  | missingNumber
  | tooManyDigits (digits : Nat)
  | endlessNumber
  | missingPart (name : String)
  | unhashable (kind : String)
  | notText (kind : String)
  | notPlainText (kind : String)
  | withoutLength (kind : String)
  /-- The parameters of a handler tag cannot be read; `literal` is the part in question. -/
  | unreadableParameters (literal parameters : String) (why : String)
  /-- The parameters of a handler tag can be read but are no value. -/
  | unusableParameters (parameters : String) (why : String)
  | tooLargeForFloat
  deriving DecidableEq, Repr

def Fault.message : Fault → String
  | .emptyRange least greatest =>
    s!"Integer range is empty: minimum {least} > maximum {greatest}"
  | .negativeMinimum count => s!"Minimum count must be >= 0, got {count}"
  | .maximumBelowMinimum most least => s!"Maximum count {most} is below minimum count {least}"
  | .noAlternatives => "ChoiceParser needs at least one alternative"
  | .unencodable run =>
    if run.first = run.last then
      "'utf-8' codec can't encode character '\\u" ++ String.ofList (Quoted.hex 4 run.code) ++
        s!"' in position {run.first}: surrogates not allowed"
    else
      s!"'utf-8' codec can't encode characters in position {run.first}-{run.last}: " ++
        "surrogates not allowed"
  | .textInsteadOfBytes => "Parsers consume bytes, not str; encode the text first"
  | .notBytes kind => s!"memoryview: a bytes-like object is required, not '{kind}'"
  | .textWithoutEncoding => "string argument without an encoding"
  | .notConvertible kind => s!"cannot convert '{kind}' object to bytes"
  | .foreignCheckpoint => "The checkpoint belongs to another grammar"
  | .transformFailed _ message => message
  | .sessionFinished steps => s!"Parse already finished after {steps} step(s)"
  | .undecodable token why => s!"Cannot decode token {token}: {why}"
  | .negativeSize => "__len__() should return >= 0"
  | .sizeTooLarge => "cannot fit 'int' into an index-sized integer"
  | .negativeWidth width => s!"Trying to create tensor with negative dimension {width}: [{width}]"
  | .indexTooLarge => "Overflow when unpacking long long"
  | .noPlaces ids =>
    s!"setStorage: sizes [{ids}], strides [0], storage offset 0, and itemsize 1 requiring " ++
      "a storage size of 1 are out of bounds for storage of size 0"
  | .outOfBounds index size =>
    s!"index {index} is out of bounds for dimension 0 with size {size}"
  | .noColumns => "tuple index out of range"
  | .chunkSizeNotPositive size => s!"Chunk size must be positive, got {size}"
  | .emptySpan => "integer modulo by zero"
  | .unopenedTag tag place =>
    s!"closing tag '{tag}' at position {place} doesn't match any open tag"
  | .nothingToClose place => s!"closing tag '[/]' at position {place} has nothing to close"
  | .missingNumber => "invalid literal for int() with base 10: ''"
  | .tooManyDigits digits =>
    s!"Exceeds the limit (4300 digits) for integer string conversion: value has {digits} " ++
      "digits; use sys.set_int_max_str_digits() to increase the limit"
  | .endlessNumber =>
    "Exceeds the limit (4300 digits) for integer string conversion; " ++
      "use sys.set_int_max_str_digits() to increase the limit"
  | .missingPart name => Quoted.text name
  | .unhashable kind => s!"unhashable type: '{kind}'"
  | .notText kind => s!"expected string or bytes-like object, got '{kind}'"
  | .notPlainText kind => s!"'{kind}' object has no attribute 'translate'"
  | .withoutLength kind => s!"object of type '{kind}' has no len()"
  | .unreadableParameters literal parameters why =>
    s!"error parsing {Quoted.text literal} in {Quoted.text parameters}; {why}"
  | .unusableParameters parameters why => s!"error parsing {Quoted.text parameters}; {why}"
  | .tooLargeForFloat => "int too large to convert to float"

inductive Failure where
  | parse (e : ParseError)
  | fault (f : Fault)
  deriving DecidableEq, Repr

def Failure.message : Failure → String
  | .parse e => e.message
  | .fault f => f.message

end GuidedDecoding
