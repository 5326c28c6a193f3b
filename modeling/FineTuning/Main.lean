import FineTuning.CommandLine.Run

/-!
# The program

Runs a command on the files of the system, and adds to the summary of a compilation how long it
took.
-/

namespace FineTuning.CommandLine

/-- Why the system has refused access to a file. -/
def AccessError.ofSystem (error : IO.Error) : AccessError :=
  let known? := match error with
    | .noFileOrDirectory _ code _ | .noSuchThing _ code _ | .permissionDenied _ code _
    | .inappropriateType _ code _ | .invalidArgument _ code _ => AccessError.ofCode? code.toNat
    | _ => none
  known?.getD (.other (toString error))

instance : FileAccess IO where
  read path := do
    try
      return .ok (← IO.FS.readFile path)
    catch error =>
      return .error (.ofSystem error)
  write path content := do
    try
      IO.FS.writeFile path content
      return .ok ()
    catch error =>
      return .error (.ofSystem error)

/-- The number `n / 10 ^ places` in decimal notation, without zeros at its end. -/
def fixedText (n places : Nat) : String :=
  let unit := Nat.pow 10 places
  let digits := (Nat.toDigits 10 (unit + n % unit)).drop 1
  let fraction := (digits.reverse.dropWhile (· == '0')).reverse
  (n / unit).repr ++ if fraction.isEmpty then "" else "." ++ String.ofList fraction

/-- A time given in nanoseconds, in the largest unit of which it is at least one. -/
def durationText (nanoseconds : Nat) : String :=
  if nanoseconds < 1000 then s!"{nanoseconds.repr}ns"
  else if nanoseconds < 1000000 then fixedText nanoseconds 3 ++ "µs"
  else if nanoseconds < 1000000000 then fixedText nanoseconds 6 ++ "ms"
  else fixedText nanoseconds 9 ++ "s"

end FineTuning.CommandLine

open FineTuning.CommandLine in
/-- Carries out what the arguments ask for, prints the outcome and ends with its status. -/
def main (args : List String) : IO UInt32 := do
  let start ← IO.monoNanosNow
  let outcome : Outcome ← run args
  let stop ← IO.monoNanosNow
  IO.print outcome.output
  IO.eprint outcome.errors
  match outcome.summary with
  | some summary => IO.eprintln s!"{summary} in {durationText (stop - start)}"
  | none => pure ()
  return outcome.status.toUInt32
