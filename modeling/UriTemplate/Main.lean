import UriTemplate.Command.Outcome

set_option autoImplicit false

open UriTemplate

def main (args : List String) : IO UInt32 := do
  match Command.runLine (args.map String.toList) with
  | .finished exit output errors =>
    IO.eprint (String.ofList errors)
    IO.print (String.ofList output)
    return exit.toUInt32
  | .escaped e =>
    IO.eprintln (String.ofList e.message)
    return 1
