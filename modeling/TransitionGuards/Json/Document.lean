import TransitionGuards.Json.Value

/-
  JSON text as far as it could be read.

  A document is decoded from left to right and the first thing that is wrong
  with it, be it the text or the meaning, is what is reported. So reading the
  text does not fail: it yields a `Doc`, a tree that is cut off where the text
  goes wrong, with the fault at the cut. Decoding then walks the tree in
  order and meets a fault only if nothing before it was wrong.

  Some text is acceptable as long as nobody asks what it means: a number too
  large for a floating-point number, half of a surrogate pair, nesting beyond
  the limit. A member that is not asked for may hold such text, so an invalid
  part carries two faults, that of reading it and that of passing over it.
-/

namespace TransitionGuards

/-- What is wrong with a text that is not JSON: it ends too early, or it goes
on with something that cannot stand there. -/
inductive Fault where
  | ended
  | malformed
  deriving DecidableEq, Repr, Inhabited

mutual

/-- A value as it stands in a text. -/
inductive Doc where
  | null
  | bool (b : Bool)
  | number (n : Number)
  | string (s : String)
  | array (items : Items)
  | object (members : Members)
  | invalid (reading : Fault) (passing : Option Fault)

/-- The items of an array, up to its end or to the place where the text goes
wrong between two items. -/
inductive Items where
  | closed
  | cut (fault : Fault)
  | item (value : Doc) (rest : Items)

/-- The members of an object, likewise. A key that is not a string ends them;
what stands in its place is kept. -/
inductive Members where
  | closed
  | cut (fault : Fault)
  | badKey (key : Doc)
  | member (key value : Doc) (rest : Members)

end

namespace Doc

instance : Inhabited Doc := ⟨.null⟩

/-- A part that is wrong in any case. -/
def broken (fault : Fault) : Doc := .invalid fault (some fault)

mutual

/-- The first fault met when the value is passed over. -/
def passing : Doc → Option Fault
  | .invalid _ fault => fault
  | .array items => passingItems items
  | .object members => passingMembers members
  | _ => none

def passingItems : Items → Option Fault
  | .closed => none
  | .cut fault => some fault
  | .item value rest => (passing value).or (passingItems rest)

def passingMembers : Members → Option Fault
  | .closed => none
  | .cut fault => some fault
  | .badKey _ => some .malformed
  | .member key value rest => (passing key).or ((passing value).or (passingMembers rest))

end

mutual

/-- The value with at most `room` arrays and objects inside one another. What
lies deeper may only be passed over. -/
def limitNesting (room : Nat) : Doc → Doc
  | .array items =>
    match room with
    | 0 => .invalid .malformed (passingItems items)
    | room + 1 => .array (limitItems room items)
  | .object members =>
    match room with
    | 0 => .invalid .malformed (passingMembers members)
    | room + 1 => .object (limitMembers room members)
  | doc => doc

def limitItems (room : Nat) : Items → Items
  | .closed => .closed
  | .cut fault => .cut fault
  | .item value rest => .item (limitNesting room value) (limitItems room rest)

def limitMembers (room : Nat) : Members → Members
  | .closed => .closed
  | .cut fault => .cut fault
  | .badKey key => .badKey key
  | .member key value rest => .member key (limitNesting room value) (limitMembers room rest)

end

/-- How many arrays and objects may lie inside one another where a value is
read. -/
def maxNesting : Nat := 127

mutual

/-- The document that a value is, all of it well formed. -/
def ofJson : Json → Doc
  | .null => .null
  | .bool b => .bool b
  | .number n => .number n
  | .string s => .string s
  | .array items => .array (ofItems items)
  | .object members => .object (ofMembers members)

def ofItems : List Json → Items
  | [] => .closed
  | v :: rest => .item (ofJson v) (ofItems rest)

def ofMembers : List (String × Json) → Members
  | [] => .closed
  | (k, v) :: rest => .member (.string k) (ofJson v) (ofMembers rest)

end

def lastMember (key : String) : Members → Option Doc
  | .member (.string k) value rest => (lastMember key rest).or (if k = key then some value else none)
  | .member _ _ rest => lastMember key rest
  | _ => none

/-- The value under the key, if the document is an object that has one. -/
def get? (key : String) : Doc → Option Doc
  | .object members => lastMember key members
  | _ => none

end Doc

end TransitionGuards
