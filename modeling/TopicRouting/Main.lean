import TopicRouting.CommandLine

/-! The command line tool as a program. -/
open TopicRouting

def main (arguments : List String) : IO UInt32 := do
  match CommandLine.execute (arguments.map String.toList) with
  | .ok outcome =>
      IO.print (String.ofList outcome.output)
      return UInt32.ofNat outcome.code
  | .error e =>
      IO.eprintln (String.ofList e.message)
      return 1
