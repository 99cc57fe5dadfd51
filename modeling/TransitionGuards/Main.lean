import TransitionGuards.CommandLine

/-
  The program: reads the files and the standard input that a run asks for and
  prints what it answers.
-/

namespace TransitionGuards

/-- The text, or nothing where it cannot be read. -/
def attempt (read : IO String) : IO (Option String) :=
  try
    let text ← read
    pure (some text)
  catch _ => pure none

/-- Files and standard input. -/
def Sources.ofSystem : Sources IO where
  file path := attempt (IO.FS.readFile path)
  input := attempt (do (← IO.getStdin).readToEnd)

end TransitionGuards

open TransitionGuards in
def main (args : List String) : IO UInt32 := do
  let ending ← (Invocation.parse args).run Sources.ofSystem .nominal
  match ending with
  | .output text => IO.print text
  | .failure message => IO.eprintln ("Error: " ++ message)
  | .misuse => IO.eprintln "error: the arguments were not understood"
  pure ending.code.toUInt32
