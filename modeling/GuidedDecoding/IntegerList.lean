import GuidedDecoding.Printing
import GuidedDecoding.Session

set_option autoImplicit false

namespace GuidedDecoding

/-- The options of an integer list. -/
structure IntegerList where
  separator : String := "  "
  least : Int := 0
  greatest : Int := 9
  fewest : Int := 0
  most : Option Int := none
  deriving DecidableEq, Repr

namespace IntegerList

def grammar (l : IntegerList) : Except Fault Grammar :=
  match Grammar.integers l.least l.greatest with
  | .error f => .error f
  | .ok number =>
    (Grammar.sequence .second (.literal (utf8 l.separator)) number).repeated l.fewest l.most

def write (l : IntegerList) (values : List Int) : Bytes :=
  values.flatMap fun v => utf8 l.separator ++ utf8 (toString v)

/-- The first `count` values of a cycle through the range. A range that ends before it begins is run
through backwards; one of no extent at all has no cycle. -/
def cycle (l : IntegerList) (count : Int) : Except Fault (List Int) :=
  let span := l.greatest - l.least + 1
  if 0 < count ∧ span = 0 then .error .emptySpan
  else .ok ((List.range count.toNat).map fun (i : Nat) => l.least + Int.fmod i span)

def sample (l : IntegerList) (count : Int) : Except Fault Bytes := (l.cycle count).map l.write

def announce (l : IntegerList) : Printing Unit := do
  let upper := (l.most.map toString).getD "∞"
  let separator := Markup.quotedBytes (utf8 l.separator)
  Printing.info s!"Separator: [bold]{separator}[/bold]"
  Printing.info s!"Values: [bold][{l.least}, {l.greatest}][/bold]"
  Printing.info s!"Items: [bold][{l.fewest}, {upper}][/bold]"
  Printing.separator

def startSession (l : IntegerList) : Printing Session := do
  let g ← Printing.ofFaulty l.grammar
  Printing.ofFaulty (Session.start g)

end IntegerList

def Session.warnUnconsumed (s : Session) : Printing Unit :=
  if s.isFinished && !s.remaining.isEmpty then
    let left := Markup.quotedBytes s.remaining
    Printing.warning s!"Parse finished with {s.remaining.length} unconsumed byte(s): {left}"
  else pure ()

def Session.describeFinish (s : Session) : String :=
  "output=" ++ s.output.render ++
    if s.remaining.isEmpty then "" else " unconsumed=" ++ Quoted.bytes s.remaining

end GuidedDecoding
