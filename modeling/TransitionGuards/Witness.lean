import TransitionGuards.Text.Decimal

/-
  Witnesses: a value for each of some named variables, kept in the order of
  the names, and their text `[x = 1, y = -2]`.
-/

namespace TransitionGuards

/-- Named values, sorted by name. -/
structure Witness where
  entries : List (String × Int64)
  deriving DecidableEq, Inhabited

namespace Witness

/-- The witness of the given entries, sorted by name. Entries of one name stay
in the order given. -/
def ofList (entries : List (String × Int64)) : Witness :=
  ⟨entries.mergeSort fun a b => decide (a.1 ≤ b.1)⟩

/-- The first value under the name. -/
def get? (w : Witness) (name : String) : Option Int64 :=
  (w.entries.find? fun e => e.1 == name).map (·.2)

def size (w : Witness) : Nat := w.entries.length

/-- One entry, `name = value`. -/
def entryChars (e : String × Int64) : List Char := e.1.toList ++ ' ' :: '=' :: ' ' :: decimal e.2.toInt

/-- The entries between brackets, with commas between them. -/
def chars (w : Witness) : List Char :=
  '[' :: ((w.entries.map entryChars).intersperse [',', ' ']).flatten ++ [']']

def text (w : Witness) : String := String.ofList w.chars

end Witness

end TransitionGuards
