import TransitionGuards.Json.Numeral
import TransitionGuards.Text.CodePoint

/-
  From text to `Doc`.

  The reader consumes the text from the left. Each function returns what it
  read and what is left, never longer than what it was given, which is why the
  recursion ends. After a fault nothing more is read: what a function returns
  then is behind the cut and never looked at.
-/

namespace TransitionGuards.Doc

/-- What is left of `s`. -/
abbrev Rest (s : List Char) := { r : List Char // r.length ≤ s.length }

def Rest.none (s : List Char) : Rest s := ⟨[], Nat.zero_le _⟩

theorem Rest.whole_le (s : List Char) : s.length ≤ s.length := Nat.le_refl _

/-- Whether JSON text may hold the character between two tokens. -/
def isSpace (c : Char) : Bool := c == ' ' || c == '\t' || c == '\n' || c == '\r'

def skipSpace (s : List Char) : List Char := s.dropWhile isSpace

theorem length_skipSpace_le (s : List Char) : (skipSpace s).length ≤ s.length :=
  (List.dropWhile_sublist _).length_le

/-! ## Words and strings -/

def readWord : List Char → List Char → Except Fault (List Char)
  | [], s => .ok s
  | _ :: _, [] => .error .ended
  | w :: word, c :: s => if w = c then readWord word s else .error .malformed

theorem length_readWord : ∀ {word s rest : List Char}, readWord word s = .ok rest → rest.length ≤ s.length
  | [], _, _, h => by cases h; exact Nat.le_refl _
  | _ :: _, [], _, h => by simp [readWord] at h
  | w :: word, c :: s, rest, h => by
    simp only [readWord] at h
    split at h
    · have := length_readWord h
      simp only [List.length_cons]
      omega
    · cases h

/-- The value of a hexadecimal digit. -/
def hexValue? (c : Char) : Option Nat :=
  let n := c.toNat
  if c.isDigit then some (n - 48)
  else if 97 ≤ n ∧ n ≤ 102 then some (n - 87)
  else if 65 ≤ n ∧ n ≤ 70 then some (n - 55)
  else none

/-- The UTF-16 unit that four hexadecimal digits spell. The text ends too early
if it has fewer than four bytes left, whatever they are. -/
def readUnit (s : List Char) : Except Fault (Nat × Rest s) :=
  match s with
  | a :: b :: c :: d :: rest =>
    match hexValue? a, hexValue? b, hexValue? c, hexValue? d with
    | some a, some b, some c, some d =>
      .ok (((a * 16 + b) * 16 + c) * 16 + d, ⟨rest, by simp only [List.length_cons]; omega⟩)
    | _, _, _, _ => .error .malformed
  | s => .error (if byteLength s < 4 then .ended else .malformed)

/-- Whether the unit is the first half of a surrogate pair. -/
def isHighSurrogate (n : Nat) : Bool := decide (0xD800 ≤ n) && decide (n ≤ 0xDBFF)

/-- Whether the unit is the second half of a surrogate pair. -/
def isLowSurrogate (n : Nat) : Bool := decide (0xDC00 ≤ n) && decide (n ≤ 0xDFFF)

/-- The character of the surrogate pair whose first half was `high`, or nothing
if no second half follows. An escape in the place of the second half is
consumed. -/
def readSecondHalf (high : Nat) (s : List Char) : Except Fault (Option Char × Rest s) :=
  match s with
  | '\\' :: 'u' :: rest =>
    match readUnit rest with
    | .error fault => .error fault
    | .ok (low, ⟨r, h⟩) =>
      .ok (if isLowSurrogate low then some (Char.ofNat (0x10000 + (high - 0xD800) * 0x400 + (low - 0xDC00))) else none,
        ⟨r, by simp only [List.length_cons]; omega⟩)
  | [] => .error .ended
  | ['\\'] => .error .ended
  | s => .ok (none, ⟨s, Rest.whole_le s⟩)

/-- The character whose escape goes on with the digits of a unit; nothing if it
is half a surrogate pair. -/
def readUnicode (s : List Char) : Except Fault (Option Char × Rest s) :=
  match readUnit s with
  | .error fault => .error fault
  | .ok (n, ⟨rest, h⟩) =>
    if isHighSurrogate n then
      match readSecondHalf n rest with
      | .error fault => .error fault
      | .ok (c, ⟨r, hr⟩) => .ok (c, ⟨r, Nat.le_trans hr h⟩)
    else .ok (if isLowSurrogate n then none else some (Char.ofNat n), ⟨rest, h⟩)

/-- The character that a letter behind a backslash stands for. -/
def escaped? : Char → Option Char
  | '"' => some '"'
  | '\\' => some '\\'
  | '/' => some '/'
  | 'b' => some (Char.ofNat 8)
  | 'f' => some (Char.ofNat 12)
  | 'n' => some '\n'
  | 'r' => some '\r'
  | 't' => some '\t'
  | _ => none

/-- The fault of a string that cannot be passed over; reading it may already
have failed at half a surrogate pair. -/
def brokenString (halved : Bool) (fault : Fault) : Doc :=
  .invalid (if halved then .malformed else fault) (some fault)

/-- The rest of a string behind its opening quote. `read` holds the characters
so far, the last one first, and `halved` says whether half a surrogate pair
stood among them. -/
def readString (halved : Bool) (read : List Char) (s : List Char) : Doc × Rest s :=
  match s with
  | [] => (brokenString halved .ended, Rest.none _)
  | '"' :: rest =>
    (if halved then .invalid .malformed none else .string (String.ofList read.reverse),
      ⟨rest, by simp only [List.length_cons]; omega⟩)
  | '\\' :: 'u' :: rest =>
    match readUnicode rest with
    | .error fault => (brokenString halved fault, Rest.none _)
    | .ok (c, ⟨rest₁, h₁⟩) =>
      let (doc, ⟨r, h⟩) := readString (halved || c.isNone) (c.getD ' ' :: read) rest₁
      (doc, ⟨r, by simp only [List.length_cons]; omega⟩)
  | ['\\'] => (brokenString halved .ended, Rest.none _)
  | '\\' :: c :: rest =>
    match escaped? c with
    | some d =>
      let (doc, ⟨r, h⟩) := readString halved (d :: read) rest
      (doc, ⟨r, by simp only [List.length_cons]; omega⟩)
    | none => (brokenString halved .malformed, Rest.none _)
  | c :: rest =>
    if c.toNat < 0x20 then (brokenString halved .malformed, Rest.none _)
    else
      let (doc, ⟨r, h⟩) := readString halved (c :: read) rest
      (doc, ⟨r, by simp only [List.length_cons]; omega⟩)
termination_by s.length
decreasing_by all_goals (simp only [List.length_cons] at *; omega)

/-! ## Values -/

/-- A word of three or four letters that stands for a value. -/
def readConstant (word : List Char) (value : Doc) (s : List Char) : Doc × Rest s :=
  match h : readWord word s with
  | .ok rest => (value, ⟨rest, length_readWord h⟩)
  | .error fault => (broken fault, Rest.none s)

/-- A number without its minus sign. One that is out of range may be passed
over; one that breaks off counts as malformed when it is passed over, even at
the end of the text. -/
def readNumber (negative : Bool) (s : List Char) : Doc × Rest s :=
  match h : Numeral.read s with
  | .ok (n, rest) =>
    (match n.value negative with
      | some value => .number value
      | none => .invalid .malformed none, ⟨rest, Numeral.length_read h⟩)
  | .error fault => (.invalid fault (some .malformed), Rest.none s)

mutual

/-- The value at the start of the text. -/
def readValue (s : List Char) : Doc × Rest s :=
  match h : skipSpace s with
  | [] => (broken .ended, Rest.none s)
  | c :: rest =>
    have hr : rest.length < s.length := by
      have := length_skipSpace_le s
      rw [h] at this
      simp only [List.length_cons] at this
      omega
    if c = '[' then
      let (items, ⟨r, hl⟩) := readItems rest
      (.array items, ⟨r, by omega⟩)
    else if c = '\x7b' then
      let (members, ⟨r, hl⟩) := readMembers rest
      (.object members, ⟨r, by omega⟩)
    else
      let (doc, ⟨r, hl⟩) :=
        if c = '"' then readString false [] rest |>.map id fun ⟨r, h⟩ => ⟨r, Nat.le_trans h (Nat.le_succ _)⟩
        else if c = 'n' then readConstant ['n', 'u', 'l', 'l'] .null (c :: rest)
        else if c = 't' then readConstant ['t', 'r', 'u', 'e'] (.bool true) (c :: rest)
        else if c = 'f' then readConstant ['f', 'a', 'l', 's', 'e'] (.bool false) (c :: rest)
        else if c = '-' then readNumber true rest |>.map id fun ⟨r, h⟩ => ⟨r, Nat.le_trans h (Nat.le_succ _)⟩
        else if c.isDigit then readNumber false (c :: rest)
        else (broken .malformed, Rest.none (c :: rest))
      (doc, ⟨r, by simp only [List.length_cons] at hl; omega⟩)
termination_by 4 * s.length + 0

def readItems (s : List Char) : Items × Rest s :=
  match h : skipSpace s with
  | ']' :: rest => (.closed, ⟨rest, by
      have := length_skipSpace_le s
      rw [h] at this
      simp only [List.length_cons] at this
      omega⟩)
  | [] => (.cut .ended, Rest.none s)
  | _ =>
    let (value, ⟨r₁, h₁⟩) := readValue s
    let (rest, ⟨r₂, h₂⟩) := readMoreItems r₁
    (.item value rest, ⟨r₂, by omega⟩)
termination_by 4 * s.length + 2

def readMoreItems (s : List Char) : Items × Rest s :=
  match h : skipSpace s with
  | [] => (.cut .ended, Rest.none s)
  | c :: rest =>
    have hr : rest.length < s.length := by
      have := length_skipSpace_le s
      rw [h] at this
      simp only [List.length_cons] at this
      omega
    if c = ']' then (.closed, ⟨rest, by omega⟩)
    else if c = ',' then
      let (value, ⟨r₁, h₁⟩) := readValue rest
      let (more, ⟨r₂, h₂⟩) := readMoreItems r₁
      (.item value more, ⟨r₂, by omega⟩)
    else (.cut .malformed, Rest.none s)
termination_by 4 * s.length + 1

def readMembers (s : List Char) : Members × Rest s :=
  match h : skipSpace s with
  | '\x7d' :: rest => (.closed, ⟨rest, by
      have := length_skipSpace_le s
      rw [h] at this
      simp only [List.length_cons] at this
      omega⟩)
  | [] => (.cut .ended, Rest.none s)
  | _ => readMember s
termination_by 4 * s.length + 2

def readMember (s : List Char) : Members × Rest s :=
  match h : skipSpace s with
  | [] => (.member (broken .ended) (broken .ended) .closed, Rest.none s)
  | c :: rest =>
    have hr : rest.length < s.length := by
      have := length_skipSpace_le s
      rw [h] at this
      simp only [List.length_cons] at this
      omega
    if c = '"' then
      let (key, ⟨r₁, h₁⟩) := readString false [] rest
      match h₂ : skipSpace r₁ with
      | ':' :: r₂ =>
        have hr₂ : r₂.length < r₁.length := by
          have := length_skipSpace_le r₁
          rw [h₂] at this
          simp only [List.length_cons] at this
          omega
        let (value, ⟨r₃, h₃⟩) := readValue r₂
        let (more, ⟨r₄, h₄⟩) := readMoreMembers r₃
        (.member key value more, ⟨r₄, by omega⟩)
      | [] => (.member key (broken .ended) .closed, Rest.none s)
      | _ => (.member key (broken .malformed) .closed, Rest.none s)
    else
      let (key, _) := readValue s
      (.badKey key, Rest.none s)
termination_by 4 * s.length + 1

def readMoreMembers (s : List Char) : Members × Rest s :=
  match h : skipSpace s with
  | [] => (.cut .ended, Rest.none s)
  | c :: rest =>
    have hr : rest.length < s.length := by
      have := length_skipSpace_le s
      rw [h] at this
      simp only [List.length_cons] at this
      omega
    if c = '\x7d' then (.closed, ⟨rest, by omega⟩)
    else if c = ',' then
      let (members, ⟨r, hl⟩) := readMember rest
      (members, ⟨r, by omega⟩)
    else (.cut .malformed, Rest.none s)
termination_by 4 * s.length + 0

end

/-! ## Whole texts -/

/-- A text as far as it could be read, and whether anything but white space
follows the value. -/
structure Text where
  root : Doc
  trailing : Bool

/-- Reads a text, however deep it is nested. -/
def ofText (text : String) : Text :=
  let (root, ⟨rest, _⟩) := readValue text.toList
  ⟨root, !(skipSpace rest).isEmpty⟩

end TransitionGuards.Doc
