import TransitionGuards.Text.Blank
import TransitionGuards.Text.CodePoint
import TransitionGuards.Text.Decimal

/-
  Where and why text is not in the language of guards, and how that is shown
  to whoever wrote the text: the line in question with a caret below the place.
-/

namespace TransitionGuards

structure Failure where
  /-- The text from the place of the failure on. -/
  rest : List Char
  /-- What was looked for there; nothing if several things might have stood
  there. -/
  expected : String
  deriving DecidableEq

/-- A manual guard that could not be read. -/
structure ParseError where
  expression : String
  reason : String
  deriving DecidableEq, Inhabited

def ParseError.message (e : ParseError) : String :=
  "parse error in guard '" ++ e.expression ++ "': " ++ e.reason

namespace Failure

def lines : List Char → List (List Char)
  | [] => [[]]
  | c :: rest =>
    if c = '\n' then [] :: lines rest
    else match lines rest with
      | line :: more => (c :: line) :: more
      | [] => [[c]]

def lastLine (s : List Char) : List Char := (s.reverse.takeWhile (· != '\n')).reverse

/-- The line of the failure and the column of the caret, both from zero on.
Columns count characters up to an ASCII character or the end of the text and
bytes up to any other character. The end of the text lies on the line of its
last character. -/
def place (whole : List Char) (f : Failure) : Nat × Nat :=
  let before := whole.take (whole.length - f.rest.length)
  match f.rest with
  | [] =>
    let before := before.dropLast
    (before.count '\n', (lastLine before).length + 1)
  | c :: _ =>
    let line := lastLine before
    (before.count '\n', if c.utf8Size = 1 then line.length else byteLength line)

def spaces (n : Nat) : List Char := List.replicate n ' '

/-- The failure shown in the text it occurred in: the text itself if it is one
line, otherwise the number of the line and the line. -/
def render (whole : List Char) (f : Failure) : String :=
  if whole.contains '\n' then
    let (line, column) := f.place whole
    let number := digits (line + 1)
    let gutter := spaces number.length
    "parse error at line " ++ String.ofList number ++ ", column " ++ String.ofList (digits (column + 1)) ++ "\n"
      ++ String.ofList gutter ++ " |\n"
      ++ String.ofList number ++ " | " ++ String.ofList (((lines whole)[line]?).getD []) ++ "\n"
      ++ String.ofList gutter ++ " | " ++ String.ofList (spaces column) ++ "^\n" ++ f.expected
  else
    String.ofList whole ++ "\n" ++ String.ofList (spaces (byteLength whole - byteLength f.rest)) ++ "^\n" ++ f.expected

end Failure

end TransitionGuards
