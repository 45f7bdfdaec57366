import GuidedDecoding.Chunk
import GuidedDecoding.Datum
import GuidedDecoding.Layout
import GuidedDecoding.Markup.Shown

set_option autoImplicit false

namespace GuidedDecoding

/-- A computation that prints. Its final state is the text printed, also after a failure. -/
abbrev Printing := ExceptT Failure (StateM String)

namespace Printing

variable {α : Type}

def transcript (p : Printing α) : String × Except Failure α :=
  let (result,text) := p.run.run ""
  (text,result)

def raise (f : Fault) : Printing α := throw (.fault f)

def ofExcept : Except Failure α → Printing α
  | .ok a => pure a
  | .error e => throw e

def ofFaulty : Except Fault α → Printing α
  | .ok a => pure a
  | .error f => raise f

def text (s : String) : Printing Unit := modify (· ++ s)

def drawing (d : Layout.Drawing) : Printing Unit := do
  ofFaulty (Markup.checkStyles d.styles)
  text (String.ofList (d.rows.flatMap fun row => row ++ ['\n']))

def shown (markup : String) : Printing Layout.Styled := do
  return (← ofFaulty (Markup.Shown.ofMarkup markup)).styled

def line (markup : String) : Printing Unit := do
  drawing (Layout.paragraph (← shown markup))

def blank : Printing Unit := line ""

def header (title : Datum) : Printing Unit := do
  blank
  line ("[bold cyan]" ++ title.shown ++ "[/bold cyan]")
  match title.length? with
  | none => raise (.withoutLength title.kind)
  | some length =>
    line (String.ofList (List.replicate length '='))
    blank

def success (message : Datum) : Printing Unit := line ("[green]✓[/green] " ++ message.shown)

def error (message : Datum) : Printing Unit := line ("[red]✗[/red] " ++ message.shown)

def warning (message : Datum) : Printing Unit := line ("[yellow]⚠[/yellow] " ++ message.shown)

def info (message : Datum) : Printing Unit := line ("[blue]ℹ[/blue] " ++ message.shown)

def separator : Printing Unit :=
  line ("[dim]" ++ String.ofList (List.replicate 70 '─') ++ "[/dim]")

def table (t : Layout.Table) : Printing Unit := do
  blank
  drawing t.render
  blank

inductive Status where
  | finished
  | incomplete
  | failed
  deriving DecidableEq, Repr

def Status.word : Status → String
  | .finished => "Finished"
  | .incomplete => "Incomplete"
  | .failed => "Error"

instance : Coe Status Datum := ⟨fun status => .text status.word⟩

/-- A status is looked up before it is shown, so it must be able to be a key. -/
def checkStatus (status : Datum) : Printing Unit :=
  if status.isKey then pure () else raise (.unhashable status.kind)

def escaped : Datum → Printing String
  | .text s => pure (Markup.escape s)
  | d => raise (.notText d.kind)

def isIncomplete : Datum → Bool
  | .text s => s == Status.incomplete.word
  | _ => false

def outcome (status detail : Datum) (required : Chunk) : Printing Unit := do
  checkStatus status
  let lead := "[bold]" ++ status.shown ++ "[/bold]\n" ++ (← escaped detail)
  let advice ←
    if !isIncomplete status then pure ""
    else if required.isVacant then pure "\n[dim]Stopping here is legal[/dim]"
    else do
      let data ← ofFaulty required.toBytes
      pure ("\nMust continue with: [yellow]" ++ Markup.quotedBytes data ++ "[/yellow]")
  drawing (Layout.panel "Outcome" (← shown (lead ++ advice)))

structure TraceStep where
  input : Option Chunk
  status : Option Datum
  required : Chunk := .bytes []
  detail : Datum := .text ""

private def part {α : Type} (name : String) : Option α → Printing α
  | some a => pure a
  | none => raise (.missingPart name)

private def statusCell (status : Datum) : Printing Layout.Styled := do
  checkStatus status
  match status with
  | .text s => return { text := Markup.Shown.visible s.toList, isStyled := true }
  | d => raise (.notPlainText d.kind)

private def traceRow (number : Nat) (step : TraceStep) : Printing (List Layout.Styled) := do
  let input ← ofFaulty (← part "input" step.input).toBytes
  let status ← statusCell (← part "status" step.status)
  let required ← ofFaulty step.required.toBytes
  return [.plain (toString number).toList,← shown (Markup.quotedBytes input),status,
    ← shown (Markup.quotedBytes required),← shown (Markup.escape step.detail.shown)]

def trace (steps : List TraceStep) : Printing Unit := do
  let cells ← steps.zipIdx.mapM fun (step,i) => traceRow (i + 1) step
  table {
    title := "Parse Trace"
    columns := [
      { header := "#", width := some 4 },
      { header := "Input" },
      { header := "Status", justify := .centre },
      { header := "Required Next" },
      { header := "Detail" }]
    rows := cells }

end Printing

end GuidedDecoding
