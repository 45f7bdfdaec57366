import GuidedDecoding.IntegerList
import GuidedDecoding.Session.Journal

set_option autoImplicit false

namespace GuidedDecoding.Walkthrough

def vocabulary : Vocabulary Bytes :=
  [" ","  ","  1","  2","1","2","3","12","x"].zipIdx.map fun (s,id) => (Int.ofNat id,utf8 s)

def bytesOf (id : Int) : Bytes := (vocabulary.find? id).getD []

def grammar : Except Fault Grammar :=
  IntegerList.grammar { least := 1, greatest := 3, fewest := 3, most := some 5 }

/-- The longest token, the one with the lowest id on a tie. -/
def sampled? (allowed : List Int) : Option Int :=
  allowed.foldl (fun best id =>
    match best with
    | none => some id
    | some b =>
      let shorter := (bytesOf b).length < (bytesOf id).length
      let lowerTie := (bytesOf b).length = (bytesOf id).length ∧ id < b
      if shorter ∨ lowerTie then some id else some b) none

def bytesLe (a b : Bytes) : Bool := decide (a ≤ b)

def showStep (s : Session) (allowed : List Int) : Printing Unit := do
  let tokens := (allowed.map bytesOf).mergeSort bytesLe
  let canStop := if s.canStop then "True" else "False"
  let shown := ", ".intercalate (tokens.map Quoted.bytes)
  Printing.text s!"Step {s.steps}:\n"
  Printing.text ("  required_next: " ++ Quoted.bytes s.required.bytes ++ "\n")
  Printing.text s!"  can_stop:      {canStop}\n"
  Printing.text ("  allowed:       [" ++ shown ++ "]\n")

def sample (s : Session) : (limit : Nat) → Printing Session
  | 0 => pure s
  | limit + 1 =>
    if s.isFinished then pure s
    else do
      let allowed ← Printing.ofFaulty (s.validIds vocabulary.chunks)
      showStep s allowed
      match sampled? allowed with
      | none => pure s
      | some id =>
        Printing.text ("  sampled:       " ++ Quoted.bytes (bytesOf id) ++ "\n\n")
        let (_,next) ← Printing.ofExcept (s.feed (.bytes (bytesOf id)))
        sample next limit

def ruler : String := String.ofList (List.replicate 60 '=') ++ "\n"

def mostTokens : Nat := 100

def report : Printing Nat := do
  Printing.text (ruler ++ "ParseGuard Demo: Separated Integer List\n" ++ ruler)
  let g ← Printing.ofFaulty grammar
  let session ← Printing.ofFaulty (Session.start g)
  Printing.text ("\nGrammar: " ++ g.render ++ "\n\n")
  let last ← sample session mostTokens
  Printing.text ruler
  if last.isFinished then Printing.text ("✓ Finished with output " ++ last.output.render ++ "\n")
  else Printing.text "✓ Stopped at a legal position\n"
  Printing.text ruler
  return 0

def sampleEvents (s : Session) : (limit : Nat) → List Event
  | 0 => []
  | limit + 1 =>
    if s.isFinished then []
    else
      s.filterEvents vocabulary.chunks ++
        match s.validIds vocabulary.chunks with
        | .error _ => []
        | .ok allowed =>
          match sampled? allowed with
          | none => []
          | some id =>
            s.feedEvents (.bytes (bytesOf id)) ++
              match s.feed (.bytes (bytesOf id)) with
              | .error _ => []
              | .ok (_,next) => sampleEvents next limit

def events : List Event :=
  match grammar with
  | .error _ => []
  | .ok g =>
    Session.startEvents g ++
      match Session.start g with
      | .error _ => []
      | .ok s => sampleEvents s mostTokens

end GuidedDecoding.Walkthrough
