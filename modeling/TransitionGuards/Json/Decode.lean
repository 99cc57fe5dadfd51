import TransitionGuards.Json.Reader
import TransitionGuards.Text.Quoted

/-
  Decoding documents.

  A decoder is a function from `Doc`. It goes through the document in the order
  of the text and reports the first thing that is wrong, as a `DecodeError`.

  A record is described by its `Fields`. It is read from an object, whose
  members may stand in any order, or from an array that gives the values in
  the order of the description. A name out of a list (`decodeName`) is read
  from a string, or from an object with the name as its only key and `null`
  as its value.
-/

namespace TransitionGuards

inductive DecodeError where
  | fault (fault : Fault)
  | wrongType (found : Doc) (expected : String)
  | outOfRange (n : Int) (expected : String)
  | duplicateField (key : String)
  | missingField (key : String)
  | unknownField (key : String) (known : List String)
  | unknownName (name : String) (known : List String)
  | tooShort (length : Nat) (record : String) (fields : Nat)

namespace DecodeError

/-- A document as a complaint about its type names it. -/
def describe : Doc → String
  | .null | .invalid .. => "null"
  | .bool true => "boolean `true`"
  | .bool false => "boolean `false`"
  | .number (.integer n) => "integer `" ++ decimalText n ++ "`"
  | .number (.real x _) => "floating point `" ++ floatText x ++ "`"
  | .string s => "string " ++ quoted s
  | .array _ => "sequence"
  | .object _ => "map"

/-- The choice between the given names. -/
def alternatives : List String → String
  | [a, b] => "expected `" ++ a ++ "` or `" ++ b ++ "`"
  | names => "expected one of " ++ String.intercalate ", " (names.map fun n => "`" ++ n ++ "`")

/-- The complaint about the meaning of a document; a text that is not JSON has
none. -/
def message? : DecodeError → Option String
  | .fault _ => none
  | .wrongType found expected => some ("invalid type: " ++ describe found ++ ", expected " ++ expected)
  | .outOfRange n expected => some ("invalid value: integer `" ++ decimalText n ++ "`, expected " ++ expected)
  | .duplicateField key => some ("duplicate field `" ++ key ++ "`")
  | .missingField key => some ("missing field `" ++ key ++ "`")
  | .unknownField key known => some ("unknown field `" ++ key ++ "`, " ++ alternatives known)
  | .unknownName name known => some ("unknown variant `" ++ name ++ "`, " ++ alternatives known)
  | .tooShort length record fields =>
    some ("invalid length " ++ decimalText length ++ ", expected struct " ++ record ++ " with "
      ++ decimalText fields ++ " elements")

end DecodeError

/-- A decoder of `α`. -/
abbrev Decode (α : Type) := Doc → Except DecodeError α

/-- The complaint that something else than `expected` stands here, or the fault
if nothing can be read. -/
def mismatch {α : Type} (expected : String) : Decode α
  | .invalid fault _ => .error (.fault fault)
  | doc => .error (.wrongType doc expected)

/-- The value passed over: only its fault counts. -/
def passOver (doc : Doc) : Except DecodeError Unit :=
  match doc.passing with
  | some fault => .error (.fault fault)
  | none => .ok ()

/-! ## Plain values -/

def decodeString : Decode String
  | .string s => .ok s
  | doc => mismatch "a string" doc

def decodeBool : Decode Bool
  | .bool b => .ok b
  | doc => mismatch "a boolean" doc

def decodeInt64 : Decode Int64
  | .number (.integer n) => match int64? n with
    | some v => .ok v
    | none => .error (.outOfRange n "i64")
  | doc => mismatch "i64" doc

def decodeUInt64 : Decode UInt64
  | .number (.integer n) =>
    if 0 ≤ n ∧ n.toNat ≤ maxUInt64 then .ok n.toNat.toUInt64 else .error (.outOfRange n "u64")
  | doc => mismatch "u64" doc

/-- `null`, or a value. -/
def decodeOption {α : Type} (decode : Decode α) : Decode (Option α)
  | .null => .ok none
  | doc => (decode doc).map some

/-- The items decoded one after another. -/
def decodeItems {α : Type} (decode : Decode α) : Items → Except DecodeError (List α)
  | .closed => .ok []
  | .cut fault => .error (.fault fault)
  | .item value rest => do
    let a ← decode value
    let as ← decodeItems decode rest
    .ok (a :: as)

def decodeList {α : Type} (decode : Decode α) : Decode (List α)
  | .array items => decodeItems decode items
  | doc => mismatch "a sequence" doc

mutual

/-- Any value at all. An object has its members in the order of their keys, and
of several with one key the last. -/
def decodeJson : Doc → Except DecodeError Json
  | .null => .ok .null
  | .bool b => .ok (.bool b)
  | .number n => .ok (.number n)
  | .string s => .ok (.string s)
  | .array items => (decodeJsonItems items).map .array
  | .object members => (decodeJsonMembers [] members).map .object
  | .invalid fault _ => .error (.fault fault)

def decodeJsonItems : Items → Except DecodeError (List Json)
  | .closed => .ok []
  | .cut fault => .error (.fault fault)
  | .item value rest => do
    let v ← decodeJson value
    let vs ← decodeJsonItems rest
    .ok (v :: vs)

def decodeJsonMembers (before : List (String × Json)) : Members → Except DecodeError (List (String × Json))
  | .closed => .ok before
  | .cut fault => .error (.fault fault)
  | .badKey _ => .error (.fault .malformed)
  | .member (.string key) value rest => do
    let v ← decodeJson value
    decodeJsonMembers (Json.insertMember key v before) rest
  | .member (.invalid fault _) _ _ => .error (.fault fault)
  | .member _ _ _ => .error (.fault .malformed)

end

/-! ## Names -/

/-- The value that the name stands for. -/
def lookUpName {α : Type} (names : List (String × α)) (name : String) : Except DecodeError α :=
  match names.find? fun n => n.1 == name with
  | some (_, a) => .ok a
  | none => .error (.unknownName name (names.map (·.1)))

/-- Checks that nothing follows the only member of an object. -/
def onlyMember : Members → Except DecodeError Unit
  | .closed => .ok ()
  | .cut fault => .error (.fault fault)
  | _ => .error (.fault .malformed)

/-- One of the names in the list. -/
def decodeName {α : Type} (names : List (String × α)) : Decode α
  | .string name => lookUpName names name
  | .object (.member (.string name) value rest) => do
    let a ← lookUpName names name
    match value with
    | .null => onlyMember rest
    | value => mismatch "unit" value
    .ok a
  | .object (.member key _ _) => mismatch "variant identifier" key
  | .object (.badKey (.invalid fault _)) => .error (.fault fault)
  | .object (.badKey key) => mismatch "variant identifier" key
  | .object (.cut fault) => .error (.fault fault)
  | .invalid fault _ => .error (.fault fault)
  | _ => .error (.fault .malformed)

/-! ## Records -/

structure Field (α : Type) where
  key : String
  decode : Decode α
  /-- What an object without the field means. -/
  absent : Option α
  /-- What an array that ends before the field means. -/
  short : Option α

/-- A field that has to be there. -/
def Field.required {α : Type} (key : String) (decode : Decode α) : Field α := ⟨key, decode, none, none⟩

/-- A field with a default. -/
def Field.default {α : Type} (key : String) (decode : Decode α) (value : α) : Field α :=
  ⟨key, decode, some value, some value⟩

/-- A field that may be `null` or left out. -/
def Field.optional {α : Type} (key : String) (decode : Decode α) : Field (Option α) :=
  ⟨key, decodeOption decode, some none, some none⟩

/-- A field that may be `null` or be left out of an object, but not of an
array. -/
def Field.nullable {α : Type} (key : String) (decode : Decode α) : Field (Option α) :=
  ⟨key, decodeOption decode, some none, none⟩

/-- The fields of a record with values `τ`; `σ` is what is known of the values
while an object is read. -/
inductive Fields : Type → Type → Type 1 where
  | nil : Fields Unit Unit
  | cons {α σ τ : Type} (field : Field α) (rest : Fields σ τ) : Fields (Option α × σ) (α × τ)

namespace Fields

def keys {σ τ : Type} : Fields σ τ → List String
  | .nil => []
  | .cons field rest => field.key :: rest.keys

/-- Nothing is known yet. -/
def unknown {σ τ : Type} : Fields σ τ → σ
  | .nil => ()
  | .cons _ rest => (none, rest.unknown)

/-- Takes in the value under the key; `none` if no field has that key. A key
that comes again is an error, whatever its value. -/
def store {σ τ : Type} (key : String) (value : Doc) : Fields σ τ → σ → Except DecodeError (Option σ)
  | .nil, _ => .ok none
  | .cons field rest, (known, others) =>
    if field.key = key then
      match known with
      | some _ => .error (.duplicateField key)
      | none => (field.decode value).map fun a => some (some a, others)
    else (rest.store key value others).map fun s => s.map fun others => (known, others)

def finish {σ τ : Type} : Fields σ τ → σ → Except DecodeError τ
  | .nil, _ => .ok ()
  | .cons field rest, (known, others) =>
    match known.or field.absent with
    | none => .error (.missingField field.key)
    | some a => (rest.finish others).map fun as => (a, as)

/-- Reads the members of an object. Members with other keys are passed over,
or refused if `closed`. -/
def ofMembers {σ τ : Type} (fields : Fields σ τ) (closed : Bool) (known : σ) : Members → Except DecodeError τ
  | .closed => fields.finish known
  | .cut fault => .error (.fault fault)
  | .badKey _ => .error (.fault .malformed)
  | .member (.string key) value rest => do
    match ← fields.store key value known with
    | some known => fields.ofMembers closed known rest
    | none =>
      if closed then .error (.unknownField key fields.keys)
      else
        passOver value
        fields.ofMembers closed known rest
  | .member (.invalid fault _) _ _ => .error (.fault fault)
  | .member _ _ _ => .error (.fault .malformed)

/-- Reads the items of an array, of which `count` came before. -/
def ofItems {σ τ : Type} (record : String) (total count : Nat) : Fields σ τ → Items → Except DecodeError τ
  | .nil, .closed => .ok ()
  | .nil, .cut fault => .error (.fault fault)
  | .nil, .item _ _ => .error (.fault .malformed)
  | .cons field rest, .item value items => do
    let a ← field.decode value
    let as ← rest.ofItems record total (count + 1) items
    .ok (a, as)
  | .cons _ _, .cut fault => .error (.fault fault)
  | .cons field rest, .closed =>
    match field.short with
    | none => .error (.tooShort count record total)
    | some a => (rest.ofItems record total count .closed).map fun as => (a, as)

end Fields

/-- Reads a record with the given name and fields. -/
def decodeRecord {σ τ : Type} (record : String) (fields : Fields σ τ) (closed : Bool) : Decode τ
  | .object members => fields.ofMembers closed fields.unknown members
  | .array items => fields.ofItems record fields.keys.length 0 items
  | doc => mismatch ("struct " ++ record) doc

/-! ## Whole texts -/

/-- Decodes a text, behind whose value only white space may stand. -/
def Doc.Text.decode {α : Type} (text : Doc.Text) (decode : Decode α) : Except DecodeError α := do
  let a ← decode (text.root.limitNesting Doc.maxNesting)
  if text.trailing then .error (.fault .malformed) else .ok a

def decodeText {α : Type} (decode : Decode α) (text : String) : Except DecodeError α :=
  (Doc.ofText text).decode decode

end TransitionGuards
