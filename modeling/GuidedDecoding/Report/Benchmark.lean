import GuidedDecoding.Decimal.Fixed
import GuidedDecoding.IntegerList
import GuidedDecoding.Session.Journal
import GuidedDecoding.Text.Digit
import GuidedDecoding.Text.Grouped

set_option autoImplicit false

namespace GuidedDecoding.Report

structure Benchmark where
  options : IntegerList := {}
  items : Int := 1000
  chunkSize : Int := 3
  iterations : Int := 10
  deriving DecidableEq, Repr

structure Stopwatch where
  started : Float
  stopped : Float

namespace Stopwatch

def elapsed (w : Stopwatch) : Float := w.stopped - w.started

def milliseconds (w : Stopwatch) : Float := w.elapsed * 1000

def microsecondsPerStep (w : Stopwatch) (steps : Nat) : Float :=
  if steps = 0 then 0 else w.elapsed * 1e6 / Float.ofNat steps

/-- Mebibytes a second, or zero if no time has passed. A number of bytes beyond all floating-point
numbers has none. -/
def mebibytesPerSecond (w : Stopwatch) (bytes : Int) : Except Fault Float :=
  if w.elapsed > 0 then
    let count := Float.ofInt bytes
    if count.isInf then .error .tooLargeForFloat else .ok (count / w.elapsed / (1024 * 1024))
  else .ok 0

end Stopwatch

structure Measured where
  steps : Nat
  bytes : Int

namespace Benchmark

def chunks (b : Benchmark) (input : Bytes) : List Bytes := input.pieces b.chunkSize.toNat

/-- Feeds pieces until they end or the parse finishes; the number of steps. -/
def feedAll (s : Session) : List Bytes → Except Failure Nat
  | [] => .ok 0
  | data :: rest =>
    if s.isFinished then .ok 0
    else
      match s.feed (.bytes data) with
      | .error e => .error e
      | .ok (_,next) => (feedAll next rest).map (· + 1)

def parseOnce (g : Grammar) (chunks : List Bytes) : Except Failure Nat :=
  match Session.start g with
  | .error f => .error (.fault f)
  | .ok s => feedAll s chunks

def parseTimes (g : Grammar) (chunks : List Bytes) (steps : Nat) : Nat → Except Failure Nat
  | 0 => .ok steps
  | times + 1 =>
    match parseOnce g chunks with
    | .error e => .error e
    | .ok more => parseTimes g chunks (steps + more) times

def parseAll (b : Benchmark) (g : Grammar) (chunks : List Bytes) : Except Failure Nat :=
  parseTimes g chunks 0 b.iterations.toNat

def isWritable (n : Int) : Bool := n.natAbs < Nat.pow 10 Text.mostDigits

def figures (b : Benchmark) (w : Stopwatch) (m : Measured) (throughput : Float) :
    List (String × String) := [
  ("Iterations",toString b.iterations),
  ("Steps",Text.grouped m.steps),
  ("Bytes Parsed",Text.groupedInt m.bytes),
  ("Total Time",Decimal.fixed 1 w.milliseconds ++ " ms"),
  ("Time per Step",Decimal.fixed 2 (w.microsecondsPerStep m.steps) ++ " µs"),
  ("Throughput",Decimal.fixed 2 throughput ++ " MB/s")]

def table (figures : List (String × String)) : Layout.Table where
  title := "Benchmark Results"
  columns := [{ header := "Metric", width := some 25 },{ header := "Value", width := some 25 }]
  rows := figures.map fun (name,value) => [.plain name.toList,.plain value.toList]

def report (b : Benchmark) (w : Stopwatch) : Printing Measured := do
  Printing.header "ParseGuard - Benchmark"
  b.options.announce
  if b.chunkSize < 1 then Printing.raise (.chunkSizeNotPositive b.chunkSize)
  let g ← Printing.ofFaulty b.options.grammar
  let input ← Printing.ofFaulty (b.options.sample b.items)
  let chunks := b.chunks input
  let size := Text.grouped input.length
  let count := Text.grouped chunks.length
  Printing.info s!"Input: [bold]{size}[/bold] bytes in [bold]{count}[/bold] steps"
  let steps ← Printing.ofExcept (b.parseAll g chunks)
  let measured : Measured := ⟨steps,input.length * b.iterations⟩
  let throughput ← Printing.ofFaulty (w.mebibytesPerSecond measured.bytes)
  if !isWritable measured.bytes then Printing.raise .endlessNumber
  Printing.table (table (b.figures w measured throughput))
  return measured

def feedAllEvents (s : Session) : List Bytes → List Event
  | [] => []
  | data :: rest =>
    if s.isFinished then []
    else
      s.feedEvents (.bytes data) ++
        match s.feed (.bytes data) with
        | .error _ => []
        | .ok (_,next) => feedAllEvents next rest

def iterationEvents (g : Grammar) (chunks : List Bytes) : List Event :=
  Session.startEvents g ++
    match Session.start g with
    | .error _ => []
    | .ok s => feedAllEvents s chunks

def timesEvents (g : Grammar) (chunks : List Bytes) : Nat → List Event
  | 0 => []
  | times + 1 =>
    iterationEvents g chunks ++
      match parseOnce g chunks with
      | .error _ => []
      | .ok _ => timesEvents g chunks times

def events (b : Benchmark) : List Event :=
  if b.chunkSize < 1 then []
  else
    match b.options.grammar, b.options.sample b.items with
    | .ok g, .ok input => timesEvents g (b.chunks input) b.iterations.toNat
    | _, _ => []

end Benchmark

end GuidedDecoding.Report
