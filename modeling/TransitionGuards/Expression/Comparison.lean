import TransitionGuards.Expression
import TransitionGuards.Expression.Failure
import TransitionGuards.Text.Alphanumeric

/-
  Reading a single comparison, `name comparator literal`, with blanks anywhere
  between and around the three. Integers stand behind any comparator; the words
  `true` and `false`, for one and zero, only behind `==` and `!=`.
-/

namespace TransitionGuards

/-- Whether a name may hold the character. -/
def isNameChar (c : Char) : Bool := isAlphanumeric c || c == '_'

/-- What reading yields: a value and what is left of the text, or a failure. -/
abbrev Reading (α : Type) := Except Failure (α × List Char)

def readName (s : List Char) : Reading (List Char) :=
  match s.takeWhile isNameChar with
  | [] => .error ⟨s, "expected variable name"⟩
  | name => .ok (name, s.dropWhile isNameChar)

/-- A comparator; of two that fit the longer one. -/
def readComparator : List Char → Reading Comparator
  | '=' :: '=' :: rest => .ok (.eq, rest)
  | '!' :: '=' :: rest => .ok (.ne, rest)
  | '>' :: '=' :: rest => .ok (.ge, rest)
  | '<' :: '=' :: rest => .ok (.le, rest)
  | '>' :: rest => .ok (.gt, rest)
  | '<' :: rest => .ok (.lt, rest)
  | s => .error ⟨s, "expected comparison operator"⟩

/-- An integer literal: an optional minus sign and digits. -/
def readInteger (s : List Char) : Reading Int64 :=
  let negative := s.head? == some '-'
  let unsigned := if negative then s.tail else s
  match unsigned.takeWhile Char.isDigit with
  | [] => .error ⟨unsigned, "expected integer literal"⟩
  | ds =>
    let n : Int := if negative then -(digitsValue ds : Int) else digitsValue ds
    match int64? n with
    | some v => .ok (v, unsigned.dropWhile Char.isDigit)
    | none =>
      .error ⟨s, "expected integer literal\nnumber too " ++ (if negative then "small" else "large")
        ++ " to fit in target type"⟩

/-- The text behind `word`, the case of ASCII letters put aside. -/
def readWordAnyCase : List Char → List Char → Option (List Char)
  | [], s => some s
  | _ :: _, [] => none
  | w :: word, c :: s => if c.toLower = w then readWordAnyCase word s else none

/-- A literal behind `==` or `!=`. What else might stand here is not said. -/
def readEqualityLiteral (s : List Char) : Reading Int64 :=
  match readInteger s with
  | .ok r => .ok r
  | .error _ =>
    match readWordAnyCase ['t', 'r', 'u', 'e'] s with
    | some rest => .ok (1, rest)
    | none =>
      match readWordAnyCase ['f', 'a', 'l', 's', 'e'] s with
      | some rest => .ok (0, rest)
      | none => .error ⟨s, ""⟩

def readLiteral (c : Comparator) (s : List Char) : Reading Int64 :=
  match c with
  | .eq | .ne => readEqualityLiteral s
  | _ => readInteger s

/-- A comparison with the blanks before and behind it. -/
def readComparison (s : List Char) : Reading Comparison :=
  match readName (skipBlanks s) with
  | .error f => .error f
  | .ok (name, s) =>
    match readComparator (skipBlanks s) with
    | .error f => .error f
    | .ok (comparator, s) =>
      match readLiteral comparator (skipBlanks s) with
      | .error f => .error f
      | .ok (value, s) => .ok (⟨String.ofList name, comparator, value⟩, skipBlanks s)

/-- The failure of text that goes on where it should end. -/
def Failure.leftOver (rest : List Char) : Failure := ⟨rest, ""⟩

def Comparison.read (s : List Char) : Except Failure Comparison :=
  match readComparison s with
  | .error f => .error f
  | .ok (c, []) => .ok c
  | .ok (_, rest) => .error (.leftOver rest)

def Comparison.parse (text : String) : Except ParseError Comparison :=
  match Comparison.read text.toList with
  | .ok c => .ok c
  | .error f => .error ⟨trimText text, f.render text.toList⟩

/-! ## Nothing is left over but a part of the text -/

theorem length_readName {s rest name : List Char} (h : readName s = .ok (name, rest)) :
    rest.length < s.length := by
  unfold readName at h
  split at h
  · cases h
  · next hne =>
    injection h with h
    injection h with _ h
    subst h
    have hs := congrArg List.length (List.takeWhile_append_dropWhile (p := isNameChar) (l := s))
    rw [List.length_append] at hs
    have : (s.takeWhile isNameChar).length ≠ 0 := fun h0 => hne (List.length_eq_zero_iff.1 h0)
    omega

theorem length_readComparator {s rest : List Char} {c : Comparator} (h : readComparator s = .ok (c, rest)) :
    rest.length ≤ s.length := by
  unfold readComparator at h
  split at h <;> cases h <;> simp only [List.length_cons] <;> omega

theorem length_readInteger {s rest : List Char} {v : Int64} (h : readInteger s = .ok (v, rest)) :
    rest.length ≤ s.length := by
  unfold readInteger at h
  dsimp only at h
  split at h
  · cases h
  · split at h
    · injection h with h
      injection h with _ h
      subst h
      refine Nat.le_trans (List.dropWhile_sublist _).length_le ?_
      split
      · simp
      · exact Nat.le_refl _
    · cases h

theorem length_readWordAnyCase : ∀ {word s rest : List Char},
    readWordAnyCase word s = some rest → rest.length ≤ s.length
  | [], _, _, h => by cases h; exact Nat.le_refl _
  | _ :: _, [], _, h => by simp [readWordAnyCase] at h
  | w :: word, c :: s, rest, h => by
    simp only [readWordAnyCase] at h
    split at h
    · have := length_readWordAnyCase h
      simp only [List.length_cons]
      omega
    · cases h

theorem length_readEqualityLiteral {s rest : List Char} {v : Int64}
    (h : readEqualityLiteral s = .ok (v, rest)) : rest.length ≤ s.length := by
  unfold readEqualityLiteral at h
  split at h
  · next hr =>
    injection h with h
    subst h
    exact length_readInteger hr
  · split at h
    · next hr =>
      injection h with h
      injection h with _ h
      subst h
      exact length_readWordAnyCase hr
    · split at h
      · next hr =>
        injection h with h
        injection h with _ h
        subst h
        exact length_readWordAnyCase hr
      · cases h

theorem length_readLiteral {c : Comparator} {s rest : List Char} {v : Int64}
    (h : readLiteral c s = .ok (v, rest)) : rest.length ≤ s.length := by
  unfold readLiteral at h
  split at h
  · exact length_readEqualityLiteral h
  · exact length_readEqualityLiteral h
  · exact length_readInteger h

theorem length_readComparison {s rest : List Char} {c : Comparison} (h : readComparison s = .ok (c, rest)) :
    rest.length < s.length := by
  unfold readComparison at h
  split at h
  · cases h
  · next s₁ h₁ =>
    split at h
    · cases h
    · next s₂ h₂ =>
      split at h
      · cases h
      · next s₃ h₃ =>
        injection h with h
        injection h with _ h
        subst h
        have l₁ := length_readName h₁
        have l₂ := length_readComparator h₂
        have l₃ := length_readLiteral h₃
        have b₀ := length_skipBlanks_le s
        have b₁ := length_skipBlanks_le s₁
        have b₂ := length_skipBlanks_le s₂
        have b₃ := length_skipBlanks_le s₃
        omega

end TransitionGuards
