import GuidedDecoding.CommandLine

set_option autoImplicit false

open GuidedDecoding

def secondsNow : IO Float := do
  return Float.ofNat (← IO.monoNanosNow) / 1e9

/-- The line is run once against the clock and once more to print with its readings. -/
def main (args : List String) : IO UInt32 := do
  let started ← secondsNow
  let first := CommandLine.run args ⟨started,started⟩
  let stopped ← if first.code = 0 then secondsNow else pure started
  let exit := CommandLine.run args ⟨started,stopped⟩
  IO.print exit.output
  return exit.code.toUInt32
