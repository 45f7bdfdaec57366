import GuidedDecoding.Decimal.Reading
import GuidedDecoding.Report.Benchmark
import GuidedDecoding.Report.Check
import GuidedDecoding.Report.Trace

/-!
The command line: three commands on an integer list. Options may stand anywhere after the command,
in long form with the value attached or following, or in short form; two hyphens end them, and the
last of several values counts. A line that cannot be understood exits with 2, a command that fails
with 1.
-/

set_option autoImplicit false

namespace GuidedDecoding.CommandLine

structure Flag where
  name : String
  letter : Option Char := none
  takesValue : Bool := true
  deriving DecidableEq, Repr

structure Words where
  options : List (String × String) := []
  operands : List String := []
  deriving DecidableEq, Repr

namespace Words

def addOptions (w : Words) (options : List (String × String)) : Words :=
  { w with options := options ++ w.options }

def addOperand (w : Words) (word : String) : Words := { w with operands := word :: w.operands }

def option? (w : Words) (name : String) : Option String := w.options.reverse.lookup name

end Words

/-- The letters of a word such as `-vn5`: flags by letter, up to one that takes the rest of the word
or the next word as its value. The answer says whether the next word is used up. -/
def letters? (flags : List Flag) (next : Option String) :
    List Char → Option (List (String × String) × Bool)
  | [] => some ([],false)
  | c :: cs =>
    match flags.find? fun f => f.letter == some c with
    | none => none
    | some f =>
      if !f.takesValue then (letters? flags next cs).map fun (os,used) => ((f.name,"") :: os,used)
      else if !cs.isEmpty then some ([(f.name,String.ofList cs)],false)
      else next.map fun value => ([(f.name,value)],true)

def optionWord? (flags : List Flag) (word : List Char) (next : Option String) :
    Option (List (String × String) × Bool) :=
  let name := String.ofList (word.takeWhile (· != '='))
  let attached := (word.dropWhile (· != '=')).tail?.map String.ofList
  match flags.find? fun f => f.name == name with
  | some f =>
    match f.takesValue, attached with
    | true, some value => some ([(f.name,value)],false)
    | true, none => next.map fun value => ([(f.name,value)],true)
    | false, none => some ([(f.name,"")],false)
    | false, some _ => none
  | none =>
    match word with
    | '-' :: '-' :: _ => none
    | _ :: cs => letters? flags next cs
    | [] => none

/-- Takes words apart. Without `interspersed`, everything from the first operand on is an
operand. -/
def split? (flags : List Flag) (interspersed : Bool) : List String → Option Words
  | [] => some {}
  | word :: rest =>
    if word = "--" then some { operands := rest }
    else
      match word.toList with
      | '-' :: c :: cs =>
        match optionWord? flags ('-' :: c :: cs) rest.head?, rest with
        | none, _ => none
        | some (os,true), _ :: rest' => (split? flags interspersed rest').map (·.addOptions os)
        | some (os,_), rest => (split? flags interspersed rest).map (·.addOptions os)
      | _ =>
        if interspersed then (split? flags interspersed rest).map (·.addOperand word)
        else some { operands := word :: rest }
termination_by words => words.length

def helpFlag : Flag := { name := "--help", takesValue := false }

def globalFlags : List Flag := [
  { name := "--version", letter := some 'v', takesValue := false },
  { name := "--verbose", takesValue := false },
  helpFlag]

def listFlags : List Flag := [
  { name := "--separator" },
  { name := "--min-value" },
  { name := "--max-value" },
  { name := "--min-count" },
  { name := "--max-count" },
  helpFlag]

def benchmarkFlags : List Flag := [
  { name := "--items", letter := some 'n' },
  { name := "--chunk-size", letter := some 'c' },
  { name := "--iterations", letter := some 'i' }] ++ listFlags

def Words.integer? (w : Words) (name : String) (default : Int) : Option Int :=
  match w.option? name with
  | none => some default
  | some s => Decimal.integer? s

def Words.list? (w : Words) : Option IntegerList := do
  let most ← match w.option? "--max-count" with
    | none => some none
    | some s => (Decimal.integer? s).map some
  return {
    separator := (w.option? "--separator").getD "  "
    least := ← w.integer? "--min-value" 0
    greatest := ← w.integer? "--max-value" 9
    fewest := ← w.integer? "--min-count" 0
    most := most }

inductive Command where
  | trace (l : IntegerList) (chunks : List String)
  | check (l : IntegerList) (input : String)
  | benchmark (b : Report.Benchmark)
  deriving DecidableEq, Repr

inductive Request where
  | misuse
  | help
  | version
  | run (c : Command)
  deriving DecidableEq, Repr

private def ofCommand? : Option Command → Request
  | some c => .run c
  | none => .misuse

def readCommand (flags : List Flag) (words : List String) (command? : Words → Option Command) :
    Request :=
  match split? flags true words with
  | none => .misuse
  | some w => if (w.option? "--help").isSome then .help else ofCommand? (command? w)

def traceCommand? (w : Words) : Option Command :=
  if w.operands.isEmpty then none else w.list?.map (.trace · w.operands)

def checkCommand? (w : Words) : Option Command :=
  match w.operands with
  | [input] => w.list?.map (.check · input)
  | _ => none

def benchmarkCommand? (w : Words) : Option Command :=
  if !w.operands.isEmpty then none
  else do
    return .benchmark {
      options := ← w.list?
      items := ← w.integer? "--items" 1000
      chunkSize := ← w.integer? "--chunk-size" 3
      iterations := ← w.integer? "--iterations" 10 }

def command? (name : String) : Option (List String → Request) :=
  match name with
  | "trace" => some fun words => readCommand listFlags words traceCommand?
  | "check" => some fun words => readCommand listFlags words checkCommand?
  | "benchmark" => some fun words => readCommand benchmarkFlags words benchmarkCommand?
  | _ => none

/-- What is wanted if no command has the name that the first word gives. The word may be a global
option that two hyphens precede; of these, help is still given. -/
def withoutCommand (words : List String) : Request :=
  match split? globalFlags false words with
  | none => .misuse
  | some w => if (w.option? "--help").isSome then .help else .misuse

def read (args : List String) : Request :=
  match split? globalFlags false args with
  | none => .misuse
  | some w =>
    let version := (w.option? "--version").isSome
    if (w.option? "--help").isSome then .help
    else
      match w.operands with
      | [] => if version then .version else .help
      | name :: words =>
        match command? name with
        | none => withoutCommand (name :: words)
        | some request => if version then .version else request words

structure Exit where
  code : Nat
  output : String
  deriving DecidableEq, Repr

/-- A command whose result says whether all went well. A failure is printed; if it cannot be,
because its message is broken markup, nothing more is. -/
def exitOf (p : Printing Bool) : Exit :=
  let guarded : Printing Bool :=
    tryCatch p fun e => do
      Printing.error (.text ("Command failed: " ++ e.message))
      return false
  match guarded.transcript with
  | (text,.ok true) => ⟨0,text⟩
  | (text,_) => ⟨1,text⟩

def Command.perform (w : Report.Stopwatch) : Command → Exit
  | .trace l chunks => exitOf (Report.trace l chunks)
  | .check l input => exitOf (Report.check l input)
  | .benchmark b => exitOf ((fun _ => true) <$> b.report w)

def usage : String :=
  "Usage: parse-guard [--version] [--verbose] trace|check|benchmark [OPTIONS] [WORDS]\n"

def run (args : List String) (w : Report.Stopwatch) : Exit :=
  match read args with
  | .misuse => ⟨2,usage⟩
  | .help => ⟨0,usage⟩
  | .version => ⟨0,"ParseGuard version 0.1.0\n"⟩
  | .run c => c.perform w

end GuidedDecoding.CommandLine
