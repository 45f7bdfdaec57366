import GuidedDecoding.Text.Printable
import GuidedDecoding.Text.Quoted

set_option autoImplicit false

namespace GuidedDecoding.Markup.Notation

inductive Defect where
  | invalid
  | unexpectedIndent
  | unexpectedDedent
  | unmatchedDedent
  | mixedIndent
  | deepIndent
  | lineContinued
  | unexpectedEnd
  | neverClosed (opening : Char)
  | unmatched (closing : Char)
  /-- The line of the opening bracket is given if it is another one. -/
  | mismatched (opening closing : Char) (line : Option Nat)
  | deepBrackets
  | foreignCharacter (c : Char)
  | endlessText (isTriple : Bool) (line : Nat)
  | badNumber (kind : String)
  | badDigit (digit : Char) (kind : String)
  | leadingZeros
  | longNumber (digits : Nat)
  | foreignByte
  | mixedTexts
  | badEscape (first last : Nat) (why : String)
  | badByteEscape (place : Nat)
  | missingComma
  | missingElse
  | missingParentheses (name : String)
  | maybeEquality
  | namedTarget (kind : String)
  | assignedHere (kind : String)
  | assignedTo (kind : String)
  | assignedArgument
  | lateUnpacking
  | lateAfterUnpacking
  | lateAfterName
  | bareGenerator
  | loneStar
  | loneDoubleStar
  | starredGenerator
  | starredMapGenerator
  | bareTargets
  | missingColon
  | missingValue
  | starredValue
  | plainAfterDefault
  | bracketedParameters
  | leadingSlash
  | secondSlash
  | slashAfterStar
  | starAfterSlash
  | emptyStar
  | starDefault
  | secondStar
  | doubleStarDefault
  | lateParameter
  | missingDefault
  | backslashInFormat
  | commentInFormat
  | inFormat (d : Defect)
  | singleBrace
  | missingBrace
  | emptyExpression
  | missingExpression (before : Char)
  | deepExpressions
  | deepFormatBrackets
  | unendedText
  | badConversion
  deriving DecidableEq, Repr

namespace Defect

def codePoint (c : Char) : String :=
  let digits := (Nat.toDigits 16 c.toNat).map Char.toUpper
  "U+" ++ String.ofList (List.replicate (4 - digits.length) '0' ++ digits)

def message : Defect → String
  | .invalid => "invalid syntax"
  | .unexpectedIndent => "unexpected indent"
  | .unexpectedDedent => "unexpected unindent"
  | .unmatchedDedent => "unindent does not match any outer indentation level"
  | .mixedIndent => "inconsistent use of tabs and spaces in indentation"
  | .deepIndent => "too many levels of indentation"
  | .lineContinued => "unexpected character after line continuation character"
  | .unexpectedEnd => "unexpected EOF while parsing"
  | .neverClosed opening => s!"'{opening}' was never closed"
  | .unmatched closing => s!"unmatched '{closing}'"
  | .mismatched opening closing line =>
    let place := match line with
      | some n => s!" on line {n}"
      | none => ""
    s!"closing parenthesis '{closing}' does not match opening parenthesis '{opening}'{place}"
  | .deepBrackets => "too many nested parentheses"
  | .foreignCharacter c =>
    if Text.isPrintable c then s!"invalid character '{c}' ({codePoint c})"
    else s!"invalid non-printable character {codePoint c}"
  | .endlessText isTriple line =>
    let kind := if isTriple then "triple-quoted string" else "string"
    s!"unterminated {kind} literal (detected at line {line})"
  | .badNumber kind => s!"invalid {kind} literal"
  | .badDigit digit kind => s!"invalid digit '{digit}' in {kind} literal"
  | .leadingZeros =>
    "leading zeros in decimal integer literals are not permitted; " ++
      "use an 0o prefix for octal integers"
  | .longNumber digits =>
    s!"Exceeds the limit (4300 digits) for integer string conversion: value has {digits} " ++
      "digits; use sys.set_int_max_str_digits() to increase the limit - Consider hexadecimal " ++
      "for huge integer literals to avoid decimal conversion limits."
  | .foreignByte => "bytes can only contain ASCII literal characters"
  | .mixedTexts => "cannot mix bytes and nonbytes literals"
  | .badEscape first last why =>
    s!"(unicode error) 'unicodeescape' codec can't decode bytes in position {first}-{last}: {why}"
  | .badByteEscape place => s!"(value error) invalid \\x escape at position {place}"
  | .missingComma => "invalid syntax. Perhaps you forgot a comma?"
  | .missingElse => "expected 'else' after 'if' expression"
  | .missingParentheses name =>
    s!"Missing parentheses in call to '{name}'. Did you mean {name}(...)?"
  | .maybeEquality => "invalid syntax. Maybe you meant '==' or ':=' instead of '='?"
  | .namedTarget kind => s!"cannot use assignment expressions with {kind}"
  | .assignedHere kind => s!"cannot assign to {kind} here. Maybe you meant '==' instead of '='?"
  | .assignedTo kind => s!"cannot assign to {kind}"
  | .assignedArgument => "expression cannot contain assignment, perhaps you meant \"==\"?"
  | .lateUnpacking => "iterable argument unpacking follows keyword argument unpacking"
  | .lateAfterUnpacking => "positional argument follows keyword argument unpacking"
  | .lateAfterName => "positional argument follows keyword argument"
  | .bareGenerator => "Generator expression must be parenthesized"
  | .loneStar => "cannot use starred expression here"
  | .loneDoubleStar => "cannot use double starred expression here"
  | .starredGenerator => "iterable unpacking cannot be used in comprehension"
  | .starredMapGenerator => "dict unpacking cannot be used in dict comprehension"
  | .bareTargets => "did you forget parentheses around the comprehension target?"
  | .missingColon => "':' expected after dictionary key"
  | .missingValue => "expression expected after dictionary key and ':'"
  | .starredValue => "cannot use a starred expression in a dictionary value"
  | .plainAfterDefault => "non-default argument follows default argument"
  | .bracketedParameters => "Lambda expression parameters cannot be parenthesized"
  | .leadingSlash => "at least one argument must precede /"
  | .secondSlash => "/ may appear only once"
  | .slashAfterStar => "/ must be ahead of *"
  | .starAfterSlash => "expected comma between / and *"
  | .emptyStar => "named arguments must follow bare *"
  | .starDefault => "var-positional argument cannot have default value"
  | .secondStar => "* argument may appear only once"
  | .doubleStarDefault => "var-keyword argument cannot have default value"
  | .lateParameter => "arguments cannot follow var-keyword argument"
  | .missingDefault => "expected default value expression"
  | .backslashInFormat => "f-string expression part cannot include a backslash"
  | .commentInFormat => "f-string expression part cannot include '#'"
  | .inFormat d => "f-string: " ++ d.message
  | .singleBrace => "single '\x7d' is not allowed"
  | .missingBrace => "expecting '\x7d'"
  | .emptyExpression => "empty expression not allowed"
  | .missingExpression before => s!"expression required before '{before}'"
  | .deepExpressions => "expressions nested too deeply"
  | .deepFormatBrackets => "too many nested parenthesis"
  | .unendedText => "unterminated string"
  | .badConversion => "invalid conversion character: expected 's', 'r', or 'a'"

end Defect

end GuidedDecoding.Markup.Notation
