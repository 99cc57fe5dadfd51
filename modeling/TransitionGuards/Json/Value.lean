/-
  JSON values: what a document means and what is written as one.
-/

namespace TransitionGuards

/-- A number. One that is written with a fraction or an exponent, or that is
too large for 64 bits, is a real number even when it is integral. -/
inductive Number where
  | integer (n : Int)
  | real (x : Float) (finite : x.isFinite = true)

/-- A JSON value. The members of an object stand in the order in which they
are written. -/
inductive Json where
  | null
  | bool (b : Bool)
  | number (n : Number)
  | string (s : String)
  | array (items : List Json)
  | object (members : List (String × Json))

instance : Inhabited Json := ⟨.null⟩

namespace Json

def ofInt64 (v : Int64) : Json := .number (.integer v.toInt)

def ofNat (n : Nat) : Json := .number (.integer n)

/-- A floating-point number as a value; one that is not finite is `null`. -/
def ofFloat (x : Float) : Json := if h : x.isFinite = true then .number (.real x h) else .null

def ofOption {α : Type} (f : α → Json) : Option α → Json
  | none => .null
  | some a => f a

/-- A list of values, each encoded by `f`. -/
def ofList {α : Type} (f : α → Json) (xs : List α) : Json := .array (xs.map f)

/-- One member for a value that is present, none for one that is not. -/
def member? {α : Type} (key : String) (f : α → Json) : Option α → List (String × Json)
  | none => []
  | some a => [(key, f a)]

/-- The value of the first member with the key, if the value is an object that
has one. -/
def get? (key : String) : Json → Option Json
  | .object members => (members.find? fun m => m.1 == key).map (·.2)
  | _ => none

def string? : Json → Option String
  | .string s => some s
  | _ => none

/-- Puts a member in at its place by key; a member with the same key is
replaced. -/
def insertMember (key : String) (value : Json) : List (String × Json) → List (String × Json)
  | [] => [(key, value)]
  | (k, v) :: rest =>
    if key < k then (key, value) :: (k, v) :: rest
    else if key = k then (key, value) :: rest
    else (k, v) :: insertMember key value rest

end Json

end TransitionGuards
