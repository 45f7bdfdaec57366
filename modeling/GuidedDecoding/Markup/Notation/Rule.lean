import GuidedDecoding.Markup.Notation.Node
import GuidedDecoding.Text.Digit

/-!
The rules of written values. A rule has alternatives, of which the first that matches counts; an
alternative is a row of items, and what its parts come to. Rules that name a defect match what is
wrong with a value, and are consulted only once it is known that something is.
-/

set_option autoImplicit false

namespace GuidedDecoding.Markup.Notation

inductive Rule where
  | value
  | format
  | operands
  | operand
  | soundOperand
  | produced
  | starredOperands
  | starredOperand
  | starredItems
  | starredItem
  | assignment
  | item
  | disjunction
  | conjunction
  | inversion
  | comparison
  | comparisonPair
  | bitOr
  | bitXor
  | bitAnd
  | shift
  | sum
  | term
  | factor
  | power
  | awaited
  | primary
  | atom
  | texts
  | group
  | tuple
  | set
  | map
  | pairs
  | pair
  | plainPair
  | clauses
  | clause
  | setGenerator
  | generator
  | mapGenerator
  | function
  | parameters
  | parameterList
  | placedOnly
  | placedOnlyWithDefault
  | starParameters
  | mapParameter
  | plainParameter
  | defaultParameter
  | anyParameter
  | parameter
  | default
  | callArguments
  | arguments
  | keywords
  | starredArgument
  | keywordOrStarred
  | keywordOrMap
  | targets
  | targetTuple
  | target
  | starTarget
  | atomTarget
  | targetPrimary
  | targetGoesOn
  | badOperand
  | badCommand
  | badItem
  | badGroup
  | badGenerator
  | badMapGenerator
  | badTarget
  | badPairs
  | badPair
  | badArguments
  | badKeyword
  | badParameters
  | badParametersDefault
  | badStarParameters
  | badMapParameter
  | badDefault
  deriving DecidableEq, Hashable, Repr

namespace Rule

def namesDefect : Rule → Bool
  | badOperand | badCommand | badItem | badGroup | badGenerator | badMapGenerator | badTarget
  | badPairs | badPair | badArguments | badKeyword | badParameters | badStarParameters
  | badMapParameter | badDefault => true
  | _ => false

def isLeftRecursive : Rule → Bool
  | bitOr | bitXor | bitAnd | shift | sum | term | primary | targetPrimary => true
  | _ => false

/-- Rules that keep what they came to at each place. -/
def isKept : Rule → Bool
  | operand | starredOperand | disjunction | conjunction | inversion | factor | awaited | texts
  | callArguments | starTarget | target | badItem => true
  | _ => false

end Rule

inductive Result where
  | node (n : Node)
  | texts (ls : List Node)
  /-- No match after all; no other alternative is tried. -/
  | refused
  | defect (d : Defect)
  /-- A defect if the last lexeme stands in brackets; else no match. -/
  | defectInBrackets (d : Defect)

abbrev Action := List Node → Result

mutual

inductive Item where
  | symbol (s : Symbol)
  | softWord
  | rule (r : Rule)
  | optional (i : Item)
  | many (i : Item)
  | atLeastOne (i : Item)
  | parted (i : Item)
  /-- Looks ahead for an item, which must be there or must not. -/
  | ahead (expected : Bool) (i : Item)
  | choice (alternatives : List Alternative)
  /-- From here on, no other alternative is tried. -/
  | commit

inductive Alternative where
  | of (items : List Item) (action : Action)

end

namespace Rule

open Item

private def sign (s : String) : Item := symbol (.sign s)

private def word (s : String) : Item := symbol (.word s)

private def name : Item := symbol .name

private def comma : Item := sign ","

private def oneOf (items : List Item) : Item :=
  choice (items.map fun i => ⟨[i],fun ns => .node (ns.headD .absent)⟩)

private def keep (i : Nat) : Action := fun ns => .node (ns.getD i .absent)

private def other (kind : String) : Action := fun _ => .node (.other kind)

private def defect (d : Defect) : Action := fun _ => .defect d

private def constant (c : Constant) : Action := fun _ => .node (.constant c)

private def only (r : Rule) : Alternative := ⟨[rule r],keep 0⟩

private def sequence (items : List Item) : Item := choice [⟨items,fun ns => .node (.list ns)⟩]

private def behind (s : Item) (i : Item) : Item := choice [⟨[s,i],keep 1⟩]

private def tupleOf : Action := fun ns =>
  .node (.tuple (ns.headD .absent :: (ns.getD 1 .absent).items))

private def pairOf : Action := fun ns => .node (.pair (ns.headD .absent) (ns.getD 2 .absent))

private def spelling : Node → String
  | .lexeme l => String.ofList l.content
  | _ => ""

private def digitValue (c : Char) : Nat :=
  if c.isDigit then c.toNat - 48 else c.toLower.toNat - 87

private def ofDigits (base : Nat) (digits : List Char) : Nat :=
  digits.foldl (fun n c => n * base + digitValue c) 0

private def number (cs : List Char) : Result :=
  let digits := cs.filter (· != '_')
  let whole (n : Nat) : Result := .node (.constant (.number (.whole n)))
  match digits.map Char.toLower with
  | '0' :: 'x' :: ds => whole (ofDigits 16 ds)
  | '0' :: 'o' :: ds => whole (ofDigits 8 ds)
  | '0' :: 'b' :: ds => whole (ofDigits 2 ds)
  | ds =>
    if ds.getLast? = some 'j' then .node (.constant (.number .imaginary))
    else if !ds.all Char.isDigit then .node (.constant (.number .real))
    else if Text.mostDigits < ds.length ∧ ds.any (· != '0') then .defect (.longNumber ds.length)
    else whole (ofDigits 10 ds)

private def assigned (make : String → Defect) : Action := fun ns =>
  .defect (make (ns.headD .absent).kind)

private def argument : Item :=
  oneOf [rule .starredArgument,
    choice [⟨[oneOf [rule .assignment,choice [⟨[rule .operand,ahead false (sign ":=")],keep 0⟩]],
      ahead false (sign "=")],keep 0⟩]]

private def comparisons : List Alternative :=
  (["==","!=","<=","<",">=",">"].map fun s => ⟨[sign s,rule .bitOr],keep 0⟩) ++ [
    ⟨[word "not",word "in",rule .bitOr],keep 0⟩,
    ⟨[word "in",rule .bitOr],keep 0⟩,
    ⟨[word "is",word "not",rule .bitOr],keep 0⟩,
    ⟨[word "is",rule .bitOr],keep 0⟩]

private def comparisonOf : Action := fun ns =>
  let isIn : Node → Bool
    | .lexeme l => l.symbol = .word "in"
    | _ => false
  .node (.comparison (if (ns.getD 1 .absent).items.head?.any isIn then ns.head? else none))

private def joined (r : Rule) (finer : Rule) (s : String) : Alternative :=
  ⟨[rule r,sign s,rule finer],other "expression"⟩

private def targetsBehind : List Item := [
    rule .targets,word "in",commit,rule .disjunction,many (behind (word "if") (rule .disjunction))]

private def finalParameter (i : Item) : List Alternative :=
  [⟨[i,comma],keep 0⟩,⟨[i,ahead true (sign ":")],keep 0⟩]

private def withDefault : Item := sequence [rule .parameter,rule .default]

private def opening (signs : List String) : Item := oneOf (signs.map sign)

def alternatives : Rule → List Alternative
  | value => [⟨[rule .operands,many (symbol .lineEnd),symbol .ending],keep 0⟩]
  | format => [only .starredOperands]
  | operands => [
      ⟨[rule .operand,atLeastOne (behind comma (rule .operand)),optional comma],tupleOf⟩,
      ⟨[rule .operand,comma],fun ns => .node (.tuple (ns.take 1))⟩,
      only .operand]
  | operand => [
      only .badOperand,
      only .badCommand,
      ⟨[rule .disjunction,word "if",rule .disjunction,word "else",rule .operand],
        other "conditional expression"⟩,
      only .disjunction,
      only .function]
  | soundOperand => [
      ⟨[rule .disjunction,word "if",rule .disjunction,word "else",rule .operand],
        other "conditional expression"⟩,
      only .disjunction,
      only .function]
  | produced => [
      ⟨[word "yield",word "from",rule .operand],other "yield expression"⟩,
      ⟨[word "yield",optional (rule .starredOperands)],other "yield expression"⟩]
  | starredOperands => [
      ⟨[rule .starredOperand,atLeastOne (behind comma (rule .starredOperand)),optional comma],
        tupleOf⟩,
      ⟨[rule .starredOperand,comma],fun ns => .node (.tuple (ns.take 1))⟩,
      only .starredOperand]
  | starredOperand => [
      ⟨[sign "*",rule .bitOr],fun ns => .node (.starred (ns.getD 1 .absent))⟩,
      only .operand]
  | starredItems => [⟨[parted (rule .starredItem),optional comma],keep 0⟩]
  | starredItem => [
      ⟨[sign "*",rule .bitOr],fun ns => .node (.starred (ns.getD 1 .absent))⟩,
      only .item]
  | assignment => [⟨[name,sign ":=",commit,rule .operand],other "named expression"⟩]
  | item => [
      only .assignment,
      only .badItem,
      ⟨[rule .operand,ahead false (sign ":=")],keep 0⟩]
  | disjunction => [
      ⟨[rule .conjunction,atLeastOne (behind (word "or") (rule .conjunction))],other "expression"⟩,
      only .conjunction]
  | conjunction => [
      ⟨[rule .inversion,atLeastOne (behind (word "and") (rule .inversion))],other "expression"⟩,
      only .inversion]
  | inversion => [
      ⟨[word "not",rule .inversion],other "expression"⟩,
      only .comparison]
  | comparison => [
      ⟨[rule .bitOr,atLeastOne (rule .comparisonPair)],comparisonOf⟩,
      only .bitOr]
  | comparisonPair => comparisons
  | bitOr => [joined .bitOr .bitXor "|",only .bitXor]
  | bitXor => [joined .bitXor .bitAnd "^",only .bitAnd]
  | bitAnd => [joined .bitAnd .shift "&",only .shift]
  | shift => [joined .shift .sum "<<",joined .shift .sum ">>",only .sum]
  | sum => [
      ⟨[rule .sum,sign "+",rule .term],
        fun ns => .node (.sum (ns.headD .absent) (ns.getD 2 .absent))⟩,
      ⟨[rule .sum,sign "-",rule .term],
        fun ns => .node (.sum (ns.headD .absent) (ns.getD 2 .absent))⟩,
      only .term]
  | term =>
    ["*","/","//","%","@"].map (joined .term .factor) ++ [only .factor]
  | factor => [
      ⟨[sign "+",rule .factor],fun ns => .node (.signed (ns.getD 1 .absent))⟩,
      ⟨[sign "-",rule .factor],fun ns => .node (.signed (ns.getD 1 .absent))⟩,
      ⟨[sign "~",rule .factor],other "expression"⟩,
      only .power]
  | power => [
      ⟨[rule .awaited,sign "**",rule .factor],other "expression"⟩,
      only .awaited]
  | awaited => [
      ⟨[word "await",rule .primary],other "await expression"⟩,
      only .primary]
  | primary => [
      ⟨[rule .primary,sign ".",name],fun _ => .node .attribute⟩,
      ⟨[rule .primary,rule .generator],
        fun ns => .node (.call (ns.headD .absent) (.arguments 1 0 false))⟩,
      ⟨[rule .primary,sign "(",optional (rule .callArguments),sign ")"],
        fun ns => .node (.call (ns.headD .absent) (ns.getD 2 .absent))⟩,
      only .atom]
  | atom => [
      ⟨[name],fun ns => .node (.name (spelling (ns.headD .absent)))⟩,
      ⟨[word "True"],constant .true⟩,
      ⟨[word "False"],constant .false⟩,
      ⟨[word "None"],constant .none⟩,
      ⟨[ahead true (symbol .text),rule .texts],keep 0⟩,
      ⟨[symbol .number],fun ns => number (spelling (ns.headD .absent)).toList⟩,
      ⟨[ahead true (sign "("),oneOf [rule .tuple,rule .group,rule .generator]],keep 0⟩,
      ⟨[ahead true (sign "\x7b"),
        oneOf [rule .map,rule .set,rule .mapGenerator,rule .setGenerator]],keep 0⟩,
      ⟨[sign "..."],constant .ellipsis⟩]
  | texts => [⟨[atLeastOne (symbol .text)],fun ns => .texts (ns.headD .absent).items⟩]
  | group => [
      ⟨[sign "(",oneOf [rule .produced,rule .item],sign ")"],keep 1⟩,
      only .badGroup]
  | tuple => [
      ⟨[sign "(",
        optional (sequence [rule .starredItem,comma,optional (rule .starredItems)]),
        sign ")"],
        fun ns =>
          let parts := (ns.getD 1 .absent).items
          .node (.tuple (parts.take 1 ++ (parts.getD 2 .absent).items))⟩]
  | set => [
      ⟨[sign "\x7b",rule .starredItems,sign "\x7d"],
        fun ns => .node (.set (ns.getD 1 .absent).items)⟩]
  | map => [
      ⟨[sign "\x7b",optional (rule .pairs),sign "\x7d"],
        fun ns => .node (.map (ns.getD 1 .absent).items)⟩,
      ⟨[sign "\x7b",rule .badPairs,sign "\x7d"],fun _ => .refused⟩]
  | pairs => [⟨[parted (rule .pair),optional comma],keep 0⟩]
  | pair => [
      ⟨[sign "**",rule .bitOr],fun ns => .node (.pair .absent (ns.getD 1 .absent))⟩,
      only .plainPair]
  | plainPair => [⟨[rule .operand,sign ":",rule .operand],pairOf⟩]
  | clauses => [⟨[atLeastOne (rule .clause)],keep 0⟩]
  | clause => [
      ⟨word "async" :: word "for" :: targetsBehind,keep 0⟩,
      ⟨word "for" :: targetsBehind,keep 0⟩,
      only .badTarget]
  | setGenerator => [
      ⟨[sign "\x7b",rule .item,rule .clauses,sign "\x7d"],other "set comprehension"⟩,
      only .badGenerator]
  | generator => [
      ⟨[sign "(",
        oneOf [rule .assignment,choice [⟨[rule .operand,ahead false (sign ":=")],keep 0⟩]],
        rule .clauses,sign ")"],other "generator expression"⟩,
      only .badGenerator]
  | mapGenerator => [
      ⟨[sign "\x7b",rule .plainPair,rule .clauses,sign "\x7d"],other "dict comprehension"⟩,
      only .badMapGenerator]
  | function => [
      ⟨[word "lambda",optional (rule .parameters),sign ":",rule .operand],other "lambda"⟩]
  | parameters => [only .badParameters,only .parameterList]
  | parameterList => [
      ⟨[rule .placedOnly,many (rule .plainParameter),many (rule .defaultParameter),
        optional (rule .starParameters)],keep 0⟩,
      ⟨[rule .placedOnlyWithDefault,many (rule .defaultParameter),
        optional (rule .starParameters)],keep 0⟩,
      ⟨[atLeastOne (rule .plainParameter),many (rule .defaultParameter),
        optional (rule .starParameters)],keep 0⟩,
      ⟨[atLeastOne (rule .defaultParameter),optional (rule .starParameters)],keep 0⟩,
      ⟨[rule .starParameters],keep 0⟩]
  | placedOnly => [
      ⟨[atLeastOne (rule .plainParameter),sign "/",comma],keep 0⟩,
      ⟨[atLeastOne (rule .plainParameter),sign "/",ahead true (sign ":")],keep 0⟩]
  | placedOnlyWithDefault => [
      ⟨[many (rule .plainParameter),atLeastOne (rule .defaultParameter),sign "/",comma],keep 0⟩,
      ⟨[many (rule .plainParameter),atLeastOne (rule .defaultParameter),sign "/",
        ahead true (sign ":")],keep 0⟩]
  | starParameters => [
      only .badStarParameters,
      ⟨[sign "*",rule .plainParameter,many (rule .anyParameter),optional (rule .mapParameter)],
        keep 0⟩,
      ⟨[sign "*",comma,atLeastOne (rule .anyParameter),optional (rule .mapParameter)],keep 0⟩,
      only .mapParameter]
  | mapParameter => [
      only .badMapParameter,
      ⟨[sign "**",rule .plainParameter],keep 0⟩]
  | plainParameter => finalParameter (rule .parameter)
  | defaultParameter => finalParameter withDefault
  | anyParameter => finalParameter (sequence [rule .parameter,optional (rule .default)])
  | parameter => [⟨[name],keep 0⟩]
  | default => [
      ⟨[sign "=",rule .operand],keep 0⟩,
      only .badDefault]
  | callArguments => [
      ⟨[rule .arguments,optional comma,ahead true (sign ")")],keep 0⟩,
      only .badArguments]
  | arguments => [
      ⟨[parted argument,optional (behind comma (rule .keywords))],
        fun ns => .node
          (.argumentsOf (ns.headD .absent).items.length (ns.getD 1 .absent).items)⟩,
      ⟨[rule .keywords],fun ns => .node (.argumentsOf 0 (ns.headD .absent).items)⟩]
  | keywords => [
      ⟨[parted (rule .keywordOrStarred),comma,parted (rule .keywordOrMap)],
        fun ns => .node (.list ((ns.headD .absent).items ++ (ns.getD 2 .absent).items))⟩,
      ⟨[parted (rule .keywordOrStarred)],keep 0⟩,
      ⟨[parted (rule .keywordOrMap)],keep 0⟩]
  | starredArgument => [
      ⟨[sign "*",rule .operand],fun ns => .node (.starred (ns.getD 1 .absent))⟩]
  | keywordOrStarred => [
      only .badKeyword,
      ⟨[name,sign "=",rule .operand],fun _ => .node (.keyword false)⟩,
      only .starredArgument]
  | keywordOrMap => [
      only .badKeyword,
      ⟨[name,sign "=",rule .operand],fun _ => .node (.keyword false)⟩,
      ⟨[sign "**",rule .operand],fun _ => .node (.keyword true)⟩]
  | targets => [
      ⟨[rule .starTarget,ahead false comma],keep 0⟩,
      ⟨[rule .starTarget,many (behind comma (rule .starTarget)),optional comma],keep 0⟩]
  | targetTuple => [
      ⟨[rule .starTarget,atLeastOne (behind comma (rule .starTarget)),optional comma],keep 0⟩,
      ⟨[rule .starTarget,comma],keep 0⟩]
  | starTarget => [
      ⟨[sign "*",choice [⟨[ahead false (sign "*"),rule .starTarget],keep 0⟩]],keep 1⟩,
      only .target]
  | target => [
      ⟨[rule .targetPrimary,sign ".",name,ahead false (rule .targetGoesOn)],keep 0⟩,
      only .atomTarget]
  | atomTarget => [
      ⟨[name],keep 0⟩,
      ⟨[sign "(",rule .target,sign ")"],keep 1⟩,
      ⟨[sign "(",optional (rule .targetTuple),sign ")"],keep 1⟩]
  | targetPrimary => [
      ⟨[rule .targetPrimary,sign ".",name,ahead true (rule .targetGoesOn)],keep 0⟩,
      ⟨[rule .targetPrimary,rule .generator,ahead true (rule .targetGoesOn)],keep 0⟩,
      ⟨[rule .targetPrimary,sign "(",optional (rule .callArguments),sign ")",
        ahead true (rule .targetGoesOn)],keep 0⟩,
      ⟨[rule .atom,ahead true (rule .targetGoesOn)],keep 0⟩]
  | targetGoesOn => [⟨[sign "("],keep 0⟩,⟨[sign "["],keep 0⟩,⟨[sign "."],keep 0⟩]
  | badOperand => [
      ⟨[ahead false (choice [⟨[name,symbol .text],keep 0⟩,⟨[softWord],keep 0⟩]),
        rule .disjunction,rule .soundOperand],
        fun ns =>
          if (ns.headD .absent).isCommand then .refused else .defectInBrackets .missingComma⟩,
      ⟨[rule .disjunction,word "if",rule .disjunction,
        ahead false (oneOf [word "else",sign ":"])],defect .missingElse⟩]
  | badCommand => [
      ⟨[name,ahead false (sign "("),rule .starredOperands],
        fun ns =>
          let spelling := spelling (ns.headD .absent)
          if (Node.name spelling).isCommand then .defect (.missingParentheses spelling)
          else .refused⟩]
  | badItem => [
      ⟨[rule .operand,sign ":=",rule .operand],assigned .namedTarget⟩,
      ⟨[name,sign "=",rule .bitOr,ahead false (oneOf [sign "=",sign ":="])],
        defect .maybeEquality⟩,
      ⟨[ahead false (oneOf [rule .tuple,rule .generator,word "True",word "None",word "False"]),
        rule .bitOr,sign "=",rule .bitOr,ahead false (oneOf [sign "=",sign ":="])],
        assigned .assignedHere⟩]
  | badGroup => [
      ⟨[sign "(",rule .starredArgument,sign ")"],defect .loneStar⟩,
      ⟨[sign "(",sign "**",rule .operand,sign ")"],defect .loneDoubleStar⟩]
  | badGenerator => [
      ⟨[opening ["[","(","\x7b"],rule .starredArgument,rule .clauses],defect .starredGenerator⟩,
      ⟨[opening ["[","\x7b"],rule .starredItem,comma,rule .starredItems,rule .clauses],
        defect .bareTargets⟩,
      ⟨[opening ["[","\x7b"],rule .starredItem,comma,rule .clauses],defect .bareTargets⟩]
  | badMapGenerator => [
      ⟨[sign "\x7b",sign "**",rule .bitOr,rule .clauses,sign "\x7d"],
        defect .starredMapGenerator⟩]
  | badTarget => [
      ⟨[optional (word "async"),word "for",rule .starredOperands],
        fun ns =>
          match (ns.getD 2 .absent).untargetable? with
          | some n => .defect (.assignedTo n.kind)
          | none => .refused⟩]
  | badPairs => [
      ⟨[parted (rule .pair),comma,rule .badPair],keep 0⟩,
      ⟨[rule .operand,sign ":",sign "*",rule .bitOr],defect .starredValue⟩,
      ⟨[rule .operand,sign ":",ahead true (oneOf [sign "\x7d",comma])],defect .missingValue⟩]
  | badPair => [
      ⟨[rule .operand,ahead false (sign ":")],defect .missingColon⟩,
      ⟨[rule .operand,sign ":",sign "*",rule .bitOr],defect .starredValue⟩,
      ⟨[rule .operand,sign ":",ahead true (oneOf [sign "\x7d",comma])],defect .missingValue⟩]
  | badArguments => [
      ⟨[rule .arguments,comma,sign "*"],defect .lateUnpacking⟩,
      ⟨[rule .operand,rule .clauses,comma,
        optional (oneOf [rule .arguments,sequence [rule .operand,rule .clauses]])],
        defect .bareGenerator⟩,
      ⟨[name,sign "=",rule .operand,rule .clauses],defect .maybeEquality⟩,
      ⟨[rule .arguments,rule .clauses],
        fun ns =>
          match ns.headD .absent with
          | .arguments placed _ _ => if placed ≤ 1 then .refused else .defect .bareGenerator
          | _ => .refused⟩,
      ⟨[rule .arguments,comma,rule .operand,rule .clauses],defect .bareGenerator⟩,
      ⟨[rule .arguments,comma,rule .arguments],
        fun ns =>
          match ns.headD .absent with
          | .arguments _ _ true => .defect .lateAfterUnpacking
          | _ => .defect .lateAfterName⟩]
  | badKeyword => [
      ⟨[oneOf [word "True",word "False",word "None"],sign "="],
        fun ns => .defect (.assignedTo (spelling (ns.headD .absent)))⟩,
      ⟨[name,sign "=",rule .operand,rule .clauses],defect .maybeEquality⟩,
      ⟨[ahead false (sequence [name,sign "="]),rule .operand,sign "="],
        defect .assignedArgument⟩]
  | badParameters => [
      ⟨[many (rule .plainParameter),rule .badParametersDefault,rule .plainParameter],
        defect .plainAfterDefault⟩,
      ⟨[many (rule .plainParameter),sign "(",parted (rule .parameter),optional comma,sign ")"],
        defect .bracketedParameters⟩,
      ⟨[sign "/",comma],defect .leadingSlash⟩,
      ⟨[oneOf [rule .placedOnly,rule .placedOnlyWithDefault],many (rule .anyParameter),sign "/"],
        defect .secondSlash⟩,
      ⟨[optional (oneOf [rule .placedOnly,rule .placedOnlyWithDefault]),many (rule .anyParameter),
        sign "*",oneOf [comma,rule .plainParameter],many (rule .anyParameter),sign "/"],
        defect .slashAfterStar⟩,
      ⟨[atLeastOne (rule .anyParameter),sign "/",sign "*"],defect .starAfterSlash⟩]
  | badParametersDefault => [
      only .placedOnlyWithDefault,
      ⟨[atLeastOne (rule .defaultParameter)],keep 0⟩]
  | badStarParameters => [
      ⟨[sign "*",
        oneOf [sign ":",sequence [comma,oneOf [sign ":",sign "**"]]]],defect .emptyStar⟩,
      ⟨[sign "*",rule .parameter,sign "="],defect .starDefault⟩,
      ⟨[sign "*",oneOf [rule .plainParameter,comma],many (rule .anyParameter),sign "*",
        oneOf [rule .plainParameter,comma]],defect .secondStar⟩]
  | badMapParameter => [
      ⟨[sign "**",rule .parameter,sign "="],defect .doubleStarDefault⟩,
      ⟨[sign "**",rule .parameter,comma,rule .parameter],defect .lateParameter⟩,
      ⟨[sign "**",rule .parameter,comma,oneOf [sign "*",sign "**",sign "/"]],
        defect .lateParameter⟩]
  | badDefault => [
      ⟨[sign "=",ahead true (oneOf [sign ")",comma])],defect .missingDefault⟩]

end Rule

end GuidedDecoding.Markup.Notation
