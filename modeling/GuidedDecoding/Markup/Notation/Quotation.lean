import GuidedDecoding.Markup.Notation.Node
import GuidedDecoding.Text.CharacterName
import GuidedDecoding.Text.Quoted

set_option autoImplicit false

namespace GuidedDecoding.Markup.Notation

/-! Escapes -/

namespace Escape

/-- Text as its escapes are read: what is not ASCII is written as an escape itself, and a backslash
in front of it as another one. -/
def spellOut : List Char → List Char
  | [] => []
  | '\\' :: [] => "\\u005c".toList
  | '\\' :: c :: cs =>
    if c.toNat < 0x80 then '\\' :: c :: spellOut cs
    else "\\u005c".toList ++ '\\' :: 'U' :: Quoted.hex 8 c.toNat ++ spellOut cs
  | c :: cs =>
    if c.toNat < 0x80 then c :: spellOut cs
    else '\\' :: 'U' :: Quoted.hex 8 c.toNat ++ spellOut cs

def isHexDigit (c : Char) : Bool := c.isDigit || ('a' ≤ c.toLower && c.toLower ≤ 'f')

def hexValue (cs : List Char) : Nat :=
  cs.foldl (fun n c => n * 16 + if c.isDigit then c.toNat - 48 else c.toLower.toNat - 87) 0

/-- How many digits an escape of this letter has, and what it is when some are missing. -/
def digits? : Char → Option (Nat × String)
  | 'x' => some (2,"truncated \\xXX escape")
  | 'u' => some (4,"truncated \\uXXXX escape")
  | 'U' => some (8,"truncated \\UXXXXXXXX escape")
  | _ => none

def nameDefect? (place : Nat) : List Char → Option Defect
  | '\x7b' :: cs =>
    let name := cs.takeWhile (· != '\x7d')
    if name.length = cs.length then
      some (.badEscape place (place + 2 + name.length) "malformed \\N character escape")
    else if name.isEmpty then some (.badEscape place (place + 2) "malformed \\N character escape")
    else if Text.CharacterName.isKnown name then none
    else some (.badEscape place (place + 3 + name.length) "unknown Unicode character name")
  | _ => some (.badEscape place (place + 1) "malformed \\N character escape")

def defectAt? (place : Nat) (letter : Char) (cs : List Char) : Option Defect :=
  if letter = 'N' then nameDefect? place cs
  else
    match digits? letter with
    | none => none
    | some (count,truncated) =>
      let digits := (cs.takeWhile isHexDigit).take count
      if digits.length < count then
        some (.badEscape place (place + 1 + digits.length) truncated)
      else if 0x10FFFF < hexValue digits then
        some (.badEscape place (place + 1 + count) "illegal Unicode character")
      else none

def firstDefect? (place : Nat) : List Char → Option Defect
  | [] => none
  | [_] => none
  | '\\' :: c :: cs =>
    match defectAt? place c cs with
    | some d => some d
    | none => firstDefect? (place + 2) cs
  | _ :: c :: cs => firstDefect? (place + 1) (c :: cs)

def firstByteDefect? (place : Nat) : List Char → Option Defect
  | [] => none
  | [_] => none
  | '\\' :: c :: cs =>
    if c = 'x' ∧ (cs.takeWhile isHexDigit).length < 2 then some (.badByteEscape place)
    else firstByteDefect? (place + 2) cs
  | _ :: c :: cs => firstByteDefect? (place + 1) (c :: cs)

end Escape

/-! Formatted texts -/

namespace Format

/-- How an operand inside a formatted text is read, given its line. -/
abbrev Reader := (line : Nat) → List Char → Except Defect Unit

structure Setting where
  read : Reader
  isRaw : Bool
  raise : Defect → Defect
  lineOf : List Char → Nat

def Setting.fail {α : Type} (s : Setting) (d : Defect) : Except Defect α :=
  .error (s.raise (.inFormat d))

/-- The text up to a brace, what follows, and whether the brace was doubled and more text follows.
Braces are doubled only outside of others. -/
def literal (s : Setting) (isOuter : Bool) :
    List Char → Except Defect (List Char × List Char × Bool)
  | [] => .ok ([],[],false)
  | c :: cs =>
    if c = '\\' ∧ s.isRaw = false then
      match cs with
      | [] => .ok ([c],[],false)
      | 'N' :: '\x7b' :: ds => (inName s isOuter ds).map (push [c,'N','\x7b'])
      | 'N' :: d :: ds => (literal s isOuter ds).map (push [c,'N',d])
      | d :: ds =>
        if d = '\x7b' ∨ d = '\x7d' then (brace d ds).map (push [c])
        else (literal s isOuter ds).map (push [c,d])
    else if c = '\x7b' ∨ c = '\x7d' then brace c cs
    else (literal s isOuter cs).map (push [c])
where
  push (front : List Char) (found : List Char × List Char × Bool) :
      List Char × List Char × Bool :=
    (front ++ found.1,found.2)
  brace (c : Char) (cs : List Char) : Except Defect (List Char × List Char × Bool) :=
    if isOuter then
      if cs.head? = some c then .ok ([c],cs.drop 1,true)
      else if c = '\x7d' then s.fail .singleBrace
      else .ok ([],c :: cs,false)
    else .ok ([],c :: cs,false)
  inName (s : Setting) (isOuter : Bool) :
      List Char → Except Defect (List Char × List Char × Bool)
    | [] => .ok ([],[],false)
    | c :: cs =>
      if c = '\x7d' then (literal s isOuter cs).map (push [c])
      else (inName s isOuter cs).map (push [c])

/-- The quote that a text inside an operand is waiting for, three times or once. -/
structure Awaited where
  quote : Char
  isTriple : Bool

def mostBrackets : Nat := 200

structure Inside where
  awaited : Option Awaited := none
  opened : List Char := []

def inText (a : Awaited) (inside : Inside) (c : Char) (cs : List Char) : Nat × Inside :=
  if a.quote ≠ c then (1,inside)
  else if !a.isTriple then (1,{ inside with awaited := none })
  else if [c,c].isPrefixOf cs then (3,{ inside with awaited := none })
  else (1,inside)

def endsOperand (c : Char) : Bool := c == '!' || c == ':' || c == '\x7d' || c == '='

def comparesWith (c : Char) (cs : List Char) : Bool :=
  "!=<>".toList.contains c && cs.head? == some '='

/-- One step through an operand: how many characters are read and what comes then, unless the
character ends the operand. -/
def step (s : Setting) (inside : Inside) (c : Char) (cs : List Char) :
    Except Defect (Option (Nat × Inside)) :=
  if c = '\\' then .error (s.raise .backslashInFormat)
  else
    match inside.awaited with
    | some a => .ok (some (inText a inside c cs))
    | none =>
      if Lexeme.isQuote c then
        let isTriple := [c,c].isPrefixOf cs
        .ok (some (if isTriple then 3 else 1,{ inside with awaited := some ⟨c,isTriple⟩ }))
      else if (Lexeme.closer? c).isSome then
        if mostBrackets ≤ inside.opened.length then s.fail .deepFormatBrackets
        else .ok (some (1,{ inside with opened := c :: inside.opened }))
      else if c = '#' then .error (s.raise .commentInFormat)
      else if inside.opened.isEmpty && comparesWith c cs then .ok (some (2,inside))
      else if inside.opened.isEmpty && endsOperand c then .ok none
      else if Lexeme.isCloser c then
        match inside.opened with
        | [] => s.fail (.unmatched c)
        | o :: outer =>
          if Lexeme.closer? o = some c then .ok (some (1,{ inside with opened := outer }))
          else s.fail (.mismatched o c none)
      else .ok (some (1,inside))

/-- The length of the operand behind a brace. The sign that ends it must be there; `limit` bounds
the steps. -/
def operandLength (s : Setting) : (limit : Nat) → Inside → List Char → Except Defect Nat
  | 0, _, _ => s.fail .missingBrace
  | limit + 1, inside, cs =>
    match cs with
    | [] =>
      match inside.awaited, inside.opened with
      | some _, _ => s.fail .unendedText
      | none, c :: _ => s.fail (.unmatched c)
      | none, [] => s.fail .missingBrace
    | c :: rest =>
      match step s inside c rest with
      | .error d => .error d
      | .ok none => .ok 0
      | .ok (some (n,inside)) => (operandLength s limit inside (cs.drop n)).map (· + n)

def isSpace (c : Char) : Bool := c == ' ' || c == '\t' || c == '\n' || c == '\x0c'

def checkOperand (s : Setting) (line : Nat) (cs rest : List Char) : Except Defect Unit :=
  if cs.all isSpace then
    match rest with
    | '\x7d' :: _ => s.fail .emptyExpression
    | c :: _ => s.fail (.missingExpression c)
    | [] => s.fail .missingBrace
  else s.read line ('(' :: cs ++ [')','\n'])

def afterConversion (s : Setting) : List Char → Except Defect (List Char)
  | '!' :: c :: cs =>
    if c = 's' ∨ c = 'r' ∨ c = 'a' then .ok cs else s.fail .badConversion
  | ['!'] => s.fail .missingBrace
  | cs => .ok cs

def afterEquals : List Char → List Char
  | '=' :: cs => cs.dropWhile fun c => isSpace c || c == '\x0b' || c == '\r'
  | cs => cs

def deepest : Nat := 2

/-- Reads formatted text up to its end, or up to the brace that ends a format inside braces, and
gives what follows. `limit` bounds the pieces. -/
def pieces (s : Setting) : (limit depth : Nat) → List Char → Except Defect (List Char)
  | 0, _, _ => s.fail .missingBrace
  | limit + 1, depth, cs => do
    let (text,rest,goesOn) ← literal s (depth == 0) cs
    if let some d := if s.isRaw then none else Escape.firstDefect? 0 (Escape.spellOut text) then
      .error (s.raise d)
    else if goesOn then pieces s limit depth rest
    else
      match rest with
      | '\x7b' :: cs =>
        if deepest ≤ depth then s.fail .deepExpressions
        else
          let n ← operandLength s (cs.length + 1) {} cs
          let rest := cs.drop n
          checkOperand s (s.lineOf ('\x7b' :: cs)) (cs.take n) rest
          let rest ← afterConversion s (afterEquals rest)
          let rest ← match rest with
            | [] => s.fail .missingBrace
            | [':'] => s.fail .missingBrace
            | ':' :: cs => pieces s limit (depth + 1) cs
            | rest => pure rest
          match rest with
          | '\x7d' :: cs => pieces s limit depth cs
          | _ => s.fail .missingBrace
      | rest => if depth ≠ 0 ∧ rest.isEmpty then s.fail .missingBrace else .ok rest

end Format

/-! Whole texts -/

structure Quotation where
  isBytes : Bool
  isRaw : Bool
  isFormat : Bool
  body : List Char
  line : Nat

namespace Quotation

def ofLexeme (l : Lexeme) : Quotation :=
  let mark := (l.content.takeWhile fun c => !Lexeme.isQuote c).map Char.toLower
  let quoted := l.content.drop mark.length
  let size := match quoted with
    | a :: b :: c :: _ => if a = b ∧ b = c then 3 else 1
    | _ => 1
  let body := (quoted.drop size).take (quoted.length - 2 * size)
  ⟨mark.contains 'b',mark.contains 'r',mark.contains 'f',body,l.line⟩

def defect? (q : Quotation) : Option Defect :=
  if q.isFormat then none
  else if q.isBytes then
    if q.body.any fun c => 0x80 ≤ c.toNat then some .foreignByte
    else if q.isRaw then none
    else Escape.firstByteDefect? 0 q.body
  else if q.isRaw then none
  else Escape.firstDefect? 0 (Escape.spellOut q.body)

def checkFormat (q : Quotation) (read : Format.Reader) (raise : Defect → Defect) :
    Except Defect Unit :=
  let total := q.body.count '\n'
  let s : Format.Setting := ⟨read,q.isRaw,raise,fun rest => q.line + total - rest.count '\n'⟩
  if q.isFormat then (Format.pieces s (q.body.length + 1) 0 q.body).map fun _ => () else .ok ()

def checkAll (read : Format.Reader) (raise : Defect → Defect) (isBytes : Option Bool) :
    List Quotation → Except Defect Unit
  | [] => .ok ()
  | q :: qs =>
    match q.defect? with
    | some d => .error (raise d)
    | none =>
      if isBytes.any (· != q.isBytes) then .error (raise .mixedTexts)
      else
        match q.checkFormat read raise with
        | .error d => .error d
        | .ok () => checkAll read raise (some q.isBytes) qs

def join (read : Format.Reader) (raise : Defect → Defect) (ls : List Lexeme) :
    Except Defect Node :=
  let qs := ls.map ofLexeme
  (checkAll read raise none qs).map fun _ =>
    if qs.any Quotation.isFormat then .other "f-string expression"
    else .constant (if qs.any Quotation.isBytes then .bytes else .text)

end Quotation

end GuidedDecoding.Markup.Notation
