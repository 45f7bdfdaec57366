import GuidedDecoding.Markup.Notation.Quotation
import GuidedDecoding.Markup.Notation.Rule
import Std.Data.HashMap

/-!
Reading written values by their rules. What a rule comes to at a place is kept, so that no place is
read twice for one rule that asks for it. A value that does not match is read once more with the
rules that name a defect; a defect of the lexemes that are left comes before one that they name.
-/

set_option autoImplicit false

namespace GuidedDecoding.Markup.Notation

inductive Match where
  | found (n : Node)
  | missed
  | defective (d : Defect)

/-- What matching a row of items came to. After a commitment no other alternative counts. -/
inductive RowMatch where
  | found (ns : List Node)
  | missed (isCommitted : Bool)
  | defective (d : Defect)

structure Reading where
  scanner : Scanner
  lexemes : Array Lexeme := #[]
  place : Nat := 0
  kept : Std.HashMap (Nat × Rule) (Option Node × Nat) := {}
  /-- Whether rules that name a defect are consulted. -/
  seeksDefects : Bool := false
  isFormat : Bool
  format : Format.Reader

namespace Reading

def raise (r : Reading) (d : Defect) : Defect := if r.isFormat then .inFormat d else d

def missed (r : Reading) (place : Nat) : Match × Reading := (.missed,{ r with place := place })

def peek (r : Reading) : Except Defect Lexeme × Reading :=
  match r.lexemes[r.place]? with
  | some l => (.ok l,r)
  | none =>
    match r.scanner.next with
    | (.ok l,scanner) => (.ok l,{ r with scanner := scanner, lexemes := r.lexemes.push l })
    | (.error h,scanner) =>
      let d := h.toDefect scanner.opened
      let d := match h with
        | .defect _ => d
        | _ => r.raise d
      (.error d,{ r with scanner := scanner })

def matchLexeme (test : Lexeme → Bool) (r : Reading) : Match × Reading :=
  match r.peek with
  | (.error d,r) => (.defective d,r)
  | (.ok l,r) =>
    if test l then (.found (.lexeme l),{ r with place := r.place + 1 }) else (.missed,r)

def softWords : List (List Char) := ["_","case","match"].map String.toList

def isSoftWord (l : Lexeme) : Bool := l.symbol == .name && softWords.any l.content.isPrefixOf

def isInBrackets (r : Reading) : Bool := r.lexemes[r.place - 1]?.any fun l => l.depth != 0

def lexemesOf (ns : List Node) : List Lexeme :=
  ns.filterMap fun
    | .lexeme l => some l
    | _ => none

def settle (r : Reading) (place : Nat) : Result → Match × Reading
  | .node n => (.found n,r)
  | .refused => r.missed place
  | .defect d => (.defective (r.raise d),r)
  | .defectInBrackets d => if r.isInBrackets then (.defective (r.raise d),r) else r.missed place
  | .texts ns =>
    match Quotation.join r.format r.raise (lexemesOf ns) with
    | .ok n => (.found n,r)
    | .error d => (.defective d,r)

def keep (r : Reading) (key : Nat × Rule) (n : Option Node) (place : Nat) : Reading :=
  { r with kept := r.kept.insert key (n,place) }

def namesDefect : List Item → Bool
  | [.rule rule] => rule.namesDefect
  | _ => false

def commaItem : Item := .symbol (.sign ",")

mutual

/-- Matches a rule at the place reached. `fuel` bounds the depth of the matching. -/
def matchRule : (fuel : Nat) → Rule → Reading → Match × Reading
  | 0, _, r => (.defective (r.raise .invalid),r)
  | fuel + 1, rule, r =>
    let start := r.place
    match r.kept[(start,rule)]? with
    | some (some n,place) => (.found n,{ r with place := place })
    | some (none,place) => r.missed place
    | none =>
      if rule.isLeftRecursive then grow fuel rule start none start r
      else if rule = .soundOperand then
        let seeksDefects := r.seeksDefects
        let (m,r) := matchAny fuel rule.alternatives start { r with seeksDefects := false }
        (m,{ r with seeksDefects := seeksDefects })
      else
        match matchAny fuel rule.alternatives start r with
        | (.found n,r) => (.found n,if rule.isKept then r.keep (start,rule) n r.place else r)
        | (.missed,r) => (.missed,if rule.isKept then r.keep (start,rule) none start else r)
        | (.defective d,r) => (.defective d,r)

/-- Matches a rule whose first item is the rule itself: what it has come to so far, as far as
`place`, is taken for that item, as long as that leads on. -/
def grow : (fuel : Nat) → Rule → (start : Nat) → Option Node → (place : Nat) → Reading →
    Match × Reading
  | 0, _, _, _, _, r => (.defective (r.raise .invalid),r)
  | fuel + 1, rule, start, best, place, r =>
    let done (r : Reading) : Match × Reading :=
      match best with
      | some n => (.found n,{ r with place := place })
      | none => r.missed start
    match matchAny fuel rule.alternatives start (r.keep (start,rule) best place) with
    | (.defective d,r) => (.defective d,r)
    | (.missed,r) => done r
    | (.found n,r) =>
      if r.place ≤ place then done r else grow fuel rule start (some n) r.place r

def matchAny : (fuel : Nat) → List Alternative → (start : Nat) → Reading → Match × Reading
  | 0, _, _, r => (.defective (r.raise .invalid),r)
  | _, [], start, r => r.missed start
  | fuel + 1, .of items action :: rest, start, r =>
    if namesDefect items && !r.seeksDefects then matchAny fuel rest start r
    else
      match matchRow fuel items false [] { r with place := start } with
      | (.found ns,r) => r.settle start (action ns)
      | (.missed true,r) => r.missed start
      | (.missed false,r) => matchAny fuel rest start r
      | (.defective d,r) => (.defective d,r)

/-- Matches items one behind the other; `parts` are those so far, the latest first. -/
def matchRow : (fuel : Nat) → List Item → (isCommitted : Bool) → (parts : List Node) → Reading →
    RowMatch × Reading
  | 0, _, _, _, r => (.defective (r.raise .invalid),r)
  | _, [], _, parts, r => (.found parts.reverse,r)
  | fuel + 1, item :: items, isCommitted, parts, r =>
    match item with
    | .commit => matchRow fuel items true parts r
    | .ahead expected i =>
      let place := r.place
      match matchItem fuel i r with
      | (.defective d,r) => (.defective d,r)
      | (.found _,r) =>
        if expected then matchRow fuel items isCommitted parts { r with place := place }
        else (.missed isCommitted,r)
      | (.missed,r) =>
        if expected then (.missed isCommitted,r)
        else matchRow fuel items isCommitted parts { r with place := place }
    | item =>
      match matchItem fuel item r with
      | (.defective d,r) => (.defective d,r)
      | (.missed,r) => (.missed isCommitted,r)
      | (.found n,r) => matchRow fuel items isCommitted (n :: parts) r

def matchItem : (fuel : Nat) → Item → Reading → Match × Reading
  | 0, _, r => (.defective (r.raise .invalid),r)
  | fuel + 1, item, r =>
    match item with
    | .symbol s => r.matchLexeme fun l => l.symbol == s
    | .softWord => r.matchLexeme isSoftWord
    | .rule rule => matchRule fuel rule r
    | .optional i =>
      let place := r.place
      match matchItem fuel i r with
      | (.missed,r) => (.found .absent,{ r with place := place })
      | result => result
    | .many i => matchMany fuel i [] r
    | .atLeastOne i =>
      match matchItem fuel i r with
      | (.found n,r) => matchMany fuel i [n] r
      | result => result
    | .parted i =>
      match matchItem fuel i r with
      | (.found n,r) =>
        matchMany fuel (.choice [.of [commaItem,i] fun ns => .node (ns.getD 1 .absent)]) [n] r
      | result => result
    | .choice alternatives => matchAny fuel alternatives r.place r
    | .ahead _ _ => (.missed,r)
    | .commit => (.missed,r)

def matchMany : (fuel : Nat) → Item → (parts : List Node) → Reading → Match × Reading
  | 0, _, _, r => (.defective (r.raise .invalid),r)
  | fuel + 1, i, parts, r =>
    let place := r.place
    match matchItem fuel i r with
    | (.found n,r) => matchMany fuel i (n :: parts) r
    | (.missed,r) => (.found (.list parts.reverse),{ r with place := place })
    | (.defective d,r) => (.defective d,r)

end

def lastLine (r : Reading) : Nat := (r.lexemes.back?.map Lexeme.line).getD 1

/-- A defect of what is left comes before the defect found: one of its lexemes, or a bracket of an
earlier line that is never closed. -/
def overrule (r : Reading) (d : Defect) : Defect :=
  match r.scanner.lastHalt? (2 * r.scanner.rest.length + 2) with
  | none => d
  | some (.defect d',_) => d'
  | some (_,[]) => d
  | some (_,(c,line) :: _) => if line < r.lastLine then r.raise (.neverClosed c) else d

def unmatched (r : Reading) (last : Option Symbol) : Defect :=
  match last with
  | some .indent => r.raise .unexpectedIndent
  | some .dedent => r.raise .unexpectedDedent
  | _ => r.overrule (r.raise .invalid)

/-- A defect that has been found; once the end has been seen, nothing is left that comes before
it. -/
def firstDefect (r : Reading) (d : Defect) : Defect := if r.scanner.isOver then d else r.overrule d

def run (rule : Rule) (r : Reading) : Except Defect Node :=
  let fuel := 1000 * (r.scanner.rest.length + 2)
  match matchRule fuel rule r with
  | (.found n,_) => .ok n
  | (.defective d,r) => .error (r.firstDefect d)
  | (.missed,r) =>
    let last := r.lexemes.back?.map Lexeme.symbol
    match matchRule fuel rule { r with place := 0, kept := {}, seeksDefects := true } with
    | (.defective d,r) => .error (r.firstDefect d)
    | (_,r) => .error (r.unmatched last)

end Reading

/-- Reads what stands inside a formatted text, `depth` such texts deep at most. -/
def readFormat : (depth : Nat) → Format.Reader
  | 0, _, _ => .error (.inFormat .deepExpressions)
  | depth + 1, line, cs =>
    let r : Reading := {
      scanner := { Scanner.ofText cs with line := line }
      isFormat := true
      format := readFormat depth }
    (r.run .format).map fun _ => ()

def readValue (cs : List Char) : Except Defect Node :=
  let cs := cs.dropWhile fun c => c == ' ' || c == '\t'
  let r : Reading := {
    scanner := Scanner.ofText cs, isFormat := false, format := readFormat cs.length }
  r.run .value

end GuidedDecoding.Markup.Notation
