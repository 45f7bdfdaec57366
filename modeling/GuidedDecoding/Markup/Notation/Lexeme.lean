import GuidedDecoding.Markup.Notation.Defect
import GuidedDecoding.Text.Identifier

set_option autoImplicit false

namespace GuidedDecoding.Markup.Notation

inductive Symbol where
  | name
  | number
  | text
  | lineEnd
  | indent
  | dedent
  | ending
  | word (s : String)
  | sign (s : String)
  deriving DecidableEq, Repr

structure Lexeme where
  symbol : Symbol
  content : List Char := []
  line : Nat
  depth : Nat
  deriving DecidableEq, Repr

inductive Halt where
  | defect (d : Defect)
  /-- The text ends inside a bracket or behind a continued line. -/
  | ended
  | lineContinued
  | unmatchedDedent
  | mixedIndent
  | deepIndent
  deriving DecidableEq, Repr

structure Scanner where
  rest : List Char
  line : Nat := 1
  isBehindLine : Bool := false
  startsLine : Bool := true
  /-- The margins in use, the widest first: with tabs of eight columns, and with tabs of one. -/
  margins : List (Nat × Nat) := []
  /-- Indents still to be given; dedents count below zero. -/
  owed : Int := 0
  opened : List (Char × Nat) := []
  isOver : Bool := false
  deriving Repr

namespace Scanner

def unifyLineEnds : List Char → List Char
  | [] => []
  | '\r' :: '\n' :: cs => '\n' :: unifyLineEnds cs
  | '\r' :: cs => '\n' :: unifyLineEnds cs
  | c :: cs => c :: unifyLineEnds cs

def ofText (cs : List Char) : Scanner := { rest := unifyLineEnds cs }

def skip : (n : Nat) → Scanner → Scanner
  | 0, s => s
  | n + 1, s =>
    match s.rest with
    | [] => s
    | c :: cs =>
      let line := if s.isBehindLine then s.line + 1 else s.line
      skip n { s with rest := cs, line := line, isBehindLine := c == '\n' }

def nextLine (s : Scanner) : Nat := (s.skip 1).line

end Scanner

/-! Numbers -/

namespace Lexeme

def isAsciiPart (c : Char) : Bool := c.isAlphanum || c == '_'

def mayBePart (c : Char) : Bool := isAsciiPart c || 0x80 ≤ c.toNat

/-- Words that may follow a number without a blank. -/
def joinedWords : List (List Char) := ["and","else","for","not","or"].map String.toList

/-- Words that may follow a number, with more letters behind them. -/
def joinedPrefixes : List (List Char) := ["if","in","is"].map String.toList

def startsJoined (cs : List Char) : Bool :=
  (joinedPrefixes.any fun w => w.isPrefixOf cs) ||
    joinedWords.any fun w => w.isPrefixOf cs && !(cs.drop w.length).head?.any mayBePart

/-- What follows a number, unless it runs on as a name would. -/
def endNumber (kind : String) (rest : List Char) : Except Defect (List Char) :=
  if rest.head?.any isAsciiPart && !startsJoined rest then .error (.badNumber kind)
  else .ok rest

def startsWithDigit (cs : List Char) : Bool := cs.head?.any Char.isDigit

def afterDigits : List Char → Except Defect (List Char)
  | [] => .ok []
  | c :: cs =>
    if c.isDigit then afterDigits cs
    else if c = '_' then
      if startsWithDigit cs then afterDigits cs else .error (.badNumber "decimal")
    else .ok (c :: cs)

def afterZeros : List Char → Except Defect (List Char)
  | [] => .ok []
  | c :: cs =>
    if c = '0' then afterZeros cs
    else if c = '_' then
      if startsWithDigit cs then afterZeros cs else .error (.badNumber "decimal")
    else .ok (c :: cs)

def radix? (letter : Char) : Option (String × (Char → Bool)) :=
  match letter.toLower with
  | 'x' => some ("hexadecimal",fun c => c.isDigit || ('a' ≤ c.toLower && c.toLower ≤ 'f'))
  | 'o' => some ("octal",fun c => '0' ≤ c && c ≤ '7')
  | 'b' => some ("binary",fun c => c == '0' || c == '1')
  | _ => none

def afterRadix (kind : String) (isDigit : Char → Bool) (isDue : Bool) :
    List Char → Except Defect (List Char)
  | [] => if isDue then .error (.badNumber kind) else .ok []
  | c :: cs =>
    if isDigit c then afterRadix kind isDigit false cs
    else if c = '_' ∧ isDue = false then afterRadix kind isDigit true cs
    else if c.isDigit then .error (.badDigit c kind)
    else if isDue then .error (.badNumber kind)
    else endNumber kind (c :: cs)

def endDecimal (rest : List Char) : Except Defect (List Char) :=
  match rest with
  | c :: cs => if c.toLower = 'j' then endNumber "imaginary" cs else endNumber "decimal" rest
  | [] => .ok []

def afterExponent (cs : List Char) : Except Defect (List Char) :=
  match cs with
  | e :: rest =>
    if e.toLower ≠ 'e' then endDecimal cs
    else
      let isSigned := rest.head?.any fun c => c == '+' || c == '-'
      let digits := if isSigned then rest.drop 1 else rest
      if startsWithDigit digits then afterDigits digits >>= endDecimal
      else if isSigned then .error (.badNumber "decimal")
      else endNumber "decimal" cs
  | [] => .ok []

def afterPlaces (cs : List Char) : Except Defect (List Char) :=
  if startsWithDigit cs then afterDigits cs >>= afterExponent else afterExponent cs

def afterWhole (cs : List Char) : Except Defect (List Char) :=
  match cs with
  | '.' :: places => afterPlaces places
  | _ => afterExponent cs

/-- What follows a number that starts with a zero. Other digits must not follow the zeros, unless it
is no whole number. -/
def afterLeadingZero (cs : List Char) : Except Defect (List Char) := do
  let rest ← afterZeros cs
  if startsWithDigit rest then
    let rest ← afterDigits rest
    if rest.head?.any fun c => c == '.' || c.toLower == 'e' || c.toLower == 'j' then afterWhole rest
    else .error .leadingZeros
  else afterWhole rest

def afterNumber : List Char → Except Defect (List Char)
  | '.' :: cs => afterPlaces cs
  | '0' :: cs =>
    match cs with
    | [] => .ok []
    | letter :: rest =>
      match radix? letter with
      | some (kind,isDigit) =>
        afterRadix kind isDigit true (if rest.head? = some '_' then rest.drop 1 else rest)
      | none => afterLeadingZero cs
  | cs => afterDigits cs >>= afterWhole

/-! Quoted texts -/

def isQuote (c : Char) : Bool := c == '\'' || c == '"'

def textMarks : List String := ["b","f","r","u","br","rb","fr","rf"]

/-- The number of characters up to the end of a text that `size` quotes close, of which `run` have
been seen; for a text that is not closed, the number of characters read. -/
def closing (quote : Char) (size run n : Nat) : List Char → Except Nat Nat
  | [] => .error n
  | c :: cs =>
    if c = quote then
      if run + 1 = size then .ok (n + 1) else closing quote size (run + 1) (n + 1) cs
    else if c = '\n' ∧ size = 1 then .error (n + 1)
    else if c = '\\' then
      match cs with
      | [] => .error (n + 1)
      | _ :: cs => closing quote size 0 (n + 2) cs
    else closing quote size 0 (n + 1) cs

/-- The same, read behind the opening quote, and whether three quotes close it. -/
def closingBehind (quote : Char) : List Char → Except Nat Nat × Bool
  | c :: d :: cs =>
    if c = quote then
      if d = quote then (closing quote 3 0 2 cs,true) else (.ok 1,false)
    else (closing quote 1 0 0 (c :: d :: cs),false)
  | cs => (closing quote 1 0 0 cs,false)

/-! Words and signs -/

def reservedWords : List String := [
    "False","None","True","and","as","assert","async","await","break","class","continue",
    "def","del","elif","else","except","finally","for","from","global","if","import","in",
    "is","lambda","nonlocal","not","or","pass","raise","return","try","while","with","yield"]

def compounds : List String := [
    "...","**=","//=","<<=",">>=","!=","%=","&=","**","*=","+=","-=","->","//","/=",
    ":=","<<","<=","<>","==",">=",">>","@=","^=","|="]

def signAt (cs : List Char) : String :=
  (compounds.find? fun s => s.toList.isPrefixOf cs).getD (String.ofList (cs.take 1))

def closer? : Char → Option Char
  | '(' => some ')'
  | '[' => some ']'
  | '\x7b' => some '\x7d'
  | _ => none

def isCloser (c : Char) : Bool := c == ')' || c == ']' || c == '\x7d'

end Lexeme

namespace Scanner

def mostBrackets : Nat := 200

def mostMargins : Nat := 98

abbrev Step := Except Halt Lexeme × Scanner

def halt (h : Halt) (s : Scanner) : Step := (.error h,{ s with isOver := true })

/-- A lexeme of the next `n` characters. `looksAhead` says that the character behind it has been
seen. -/
def give (symbol : Symbol) (n : Nat) (looksAhead : Bool) (s : Scanner) : Step :=
  let next := s.skip n
  (.ok ⟨symbol,s.rest.take n,s.nextLine,s.opened.length⟩,
    { next with isOver := looksAhead && next.rest.isEmpty })

/-- A margin: its columns with tabs of eight and of one, the column of the first continued line, and
how many characters make it up. -/
structure Margin where
  column : Nat := 0
  narrow : Nat := 0
  held : Nat := 0
  length : Nat := 0

def margin (m : Margin) : List Char → Except Halt Margin
  | ' ' :: cs =>
    margin { m with column := m.column + 1, narrow := m.narrow + 1, length := m.length + 1 } cs
  | '\t' :: cs =>
    margin { m with
      column := (m.column / 8 + 1) * 8, narrow := m.narrow + 1, length := m.length + 1 } cs
  | '\x0c' :: cs => margin { m with column := 0, narrow := 0, length := m.length + 1 } cs
  | '\\' :: '\n' :: c :: cs =>
    margin { m with
      held := if m.held = 0 then m.column else m.held, length := m.length + 2 } (c :: cs)
  | ['\\','\n'] => .error .ended
  | '\\' :: _ => .error .lineContinued
  | _ => .ok m

def leave (column : Nat) : List (Nat × Nat) → List (Nat × Nat) × Nat
  | [] => ([],0)
  | (wide,narrow) :: outer =>
    if column < wide then
      let (margins,n) := leave column outer
      (margins,n + 1)
    else ((wide,narrow) :: outer,0)

def settle (column narrow : Nat) (s : Scanner) : Except Halt Scanner :=
  let (wide,thin) := s.margins.headD (0,0)
  if column = wide then if narrow = thin then .ok s else .error .mixedIndent
  else if wide < column then
    if mostMargins < s.margins.length then .error .deepIndent
    else if narrow ≤ thin then .error .mixedIndent
    else .ok { s with margins := (column,narrow) :: s.margins, owed := s.owed + 1 }
  else
    let (margins,n) := leave column s.margins
    let (wide,thin) := margins.headD (0,0)
    if column ≠ wide then .error .unmatchedDedent
    else if narrow ≠ thin then .error .mixedIndent
    else .ok { s with margins := margins, owed := s.owed - n }

/-- Reads a margin at the start of a line, and says whether the line is vacant: a vacant line and a
line inside brackets have no margin of their own. -/
def startLine (s : Scanner) : Except Halt (Scanner × Bool) :=
  match margin {} s.rest with
  | .error h => .error h
  | .ok m =>
    let s := { s.skip m.length with startsLine := false }
    let isVacant := s.rest.head?.any fun c => c == '#' || c == '\n'
    if isVacant || !s.opened.isEmpty then .ok (s,isVacant)
    else
      (if m.held = 0 then s.settle m.column m.narrow else s.settle m.held m.held).map (·,false)

def bracketsAfter (s : Scanner) (c : Char) : Except Defect (List (Char × Nat)) :=
  if (Lexeme.closer? c).isSome then
    if mostBrackets ≤ s.opened.length then .error .deepBrackets
    else .ok ((c,s.nextLine) :: s.opened)
  else if Lexeme.isCloser c then
    match s.opened with
    | [] => .error (.unmatched c)
    | (opening,line) :: outer =>
      if Lexeme.closer? opening = some c then .ok outer
      else .error (.mismatched opening c (if line = s.nextLine then none else some line))
  else .ok s.opened

def giveSign (s : Scanner) : Step :=
  let sign := Lexeme.signAt s.rest
  match s.rest, sign.length with
  | c :: _, 1 =>
    match s.bracketsAfter c with
    | .error d => s.halt (.defect d)
    | .ok opened =>
      if Text.isPrintable c then { s with opened := opened }.give (.sign sign) 1 true
      else s.halt (.defect (.foreignCharacter c))
  | _, n => s.give (.sign sign) n (n = 2)

def giveText (mark : Nat) (quote : Char) (s : Scanner) : Step :=
  match Lexeme.closingBehind quote (s.rest.drop (mark + 1)) with
  | (.ok n,_) => s.give .text (mark + 1 + n) (n = 1)
  | (.error n,isTriple) =>
    s.halt (.defect (.endlessText isTriple (s.skip (mark + 1 + n)).line))

def giveWord (s : Scanner) : Step :=
  let word := s.rest.takeWhile Lexeme.mayBePart
  let spelled := String.ofList word
  match s.rest.drop word.length with
  | q :: _ =>
    if Lexeme.isQuote q && Lexeme.textMarks.contains (String.ofList (word.map Char.toLower)) then
      s.giveText word.length q
    else named word spelled
  | [] => named word spelled
where
  named (word : List Char) (spelled : String) : Step :=
    match Text.Identifier.firstForeign? word with
    | some c => s.halt (.defect (.foreignCharacter c))
    | none =>
      let symbol := if Lexeme.reservedWords.contains spelled then .word spelled else .name
      s.give symbol word.length true

def giveNumber (s : Scanner) : Step :=
  match Lexeme.afterNumber s.rest with
  | .error d => s.halt (.defect d)
  | .ok rest => s.give .number (s.rest.length - rest.length) true

def isBlank (c : Char) : Bool := c == ' ' || c == '\t' || c == '\x0c'

def skipBlanks (s : Scanner) : Scanner :=
  let s := s.skip (s.rest.takeWhile isBlank).length
  if s.rest.head? = some '#' then s.skip (s.rest.takeWhile (· != '\n')).length else s

def giveEnding (s : Scanner) : Step :=
  if s.opened.isEmpty then
    (.ok ⟨.ending,[],s.line,0⟩,{ s with isOver := true })
  else s.halt .ended

/-- The next lexeme. `limit` bounds the lines that are passed over on the way to it, and `isVacant`
says whether the line so far holds nothing. -/
def seek : (limit : Nat) → (isVacant : Bool) → Scanner → Step
  | 0, _, s => s.halt .ended
  | limit + 1, isVacant, s =>
    if s.startsLine then
      match s.startLine with
      | .error h => s.halt h
      | .ok (s,isVacant) => seek limit isVacant s
    else if s.owed < 0 then { s with owed := s.owed + 1 }.give .dedent 0 true
    else if 0 < s.owed then { s with owed := s.owed - 1 }.give .indent 0 true
    else
      let s := s.skipBlanks
      match s.rest with
      | [] => s.giveEnding
      | c :: cs =>
        if c == '\n' then
          let next := { s.skip 1 with startsLine := true }
          if isVacant || !s.opened.isEmpty then seek limit false next
          else ((s.give .lineEnd 1 false).1,next)
        else if c == '\\' then
          match cs with
          | '\n' :: _ :: _ => seek limit isVacant (s.skip 2)
          | ['\n'] => s.halt .ended
          | _ => s.halt .lineContinued
        else if Lexeme.isQuote c then s.giveText 0 c
        else if c.isDigit || (c == '.' && Lexeme.startsWithDigit cs) then s.giveNumber
        else if c.isAlpha || c == '_' || 0x80 ≤ c.toNat then s.giveWord
        else s.giveSign

def next (s : Scanner) : Step := s.seek (2 * s.rest.length + 2) false

/-- What keeps the text from being read to its end, with the bracket that is open then. -/
def lastHalt? : (limit : Nat) → Scanner → Option (Halt × List (Char × Nat))
  | 0, _ => none
  | limit + 1, s =>
    match s.next with
    | (.error h,next) => some (h,next.opened)
    | (.ok lexeme,next) => if lexeme.symbol = .ending then none else lastHalt? limit next

end Scanner

def Halt.toDefect (opened : List (Char × Nat)) : Halt → Defect
  | .defect d => d
  | .ended =>
    match opened with
    | [] => .unexpectedEnd
    | (c,_) :: _ => .neverClosed c
  | .lineContinued => .lineContinued
  | .unmatchedDedent => .unmatchedDedent
  | .mixedIndent => .mixedIndent
  | .deepIndent => .deepIndent

end GuidedDecoding.Markup.Notation
