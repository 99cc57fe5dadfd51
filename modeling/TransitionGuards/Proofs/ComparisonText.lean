import Mathlib
import TransitionGuards.Expression.Grammar
import TransitionGuards.Proofs.Blanks

/-
  Reading a comparison and the grammar of comparisons agree.

  What each of the readers of a name, a comparator, a number, a word and a
  literal takes from the text is derivable (`of_readName` and so on), and each
  takes the whole of what is derivable if the text behind it cannot go on
  (`readName_append` and so on). Together they say this of comparisons
  (`compared_of_readComparison`, `readComparison_of_compared`) and of texts that
  are comparisons as a whole (`Comparison.read_eq_ok_iff`).
-/

namespace TransitionGuards
open Grammar

variable {s t r u name : List Char} {v : Int64} {c : Comparator}

/-! ## Where a run of characters stops -/

/-- Whether the text does not begin with a character of the kind. -/
def Stops (p : Char → Bool) (s : List Char) : Prop := ∀ x ∈ s.head?, p x = false

theorem Stops.cons {p : Char → Bool} {x : Char} (h : p x = false) (s : List Char) : Stops p (x :: s) := by
  intro y hy
  rwa [← Option.some.inj hy]

/-- Blanks before a text change nothing if none of them is of the kind. -/
theorem Stops.of_skipBlanks {p : Char → Bool} (blanks : ∀ x, isBlank x = true → p x = false)
    (h : Stops p (skipBlanks s)) : Stops p s := by
  cases s with
  | nil => exact h
  | cons x s =>
    by_cases hx : isBlank x = true
    · exact .cons (blanks x hx) s
    · rwa [skipBlanks_cons (eq_false_of_ne_true hx)] at h

theorem takeWhile_append_of_stops {p : Char → Bool} (all : ∀ x ∈ u, p x = true) (stops : Stops p r) :
    (u ++ r).takeWhile p = u ∧ (u ++ r).dropWhile p = r := by
  rw [List.takeWhile_append_of_pos all, List.dropWhile_append_of_pos all]
  cases r with
  | nil => exact ⟨List.append_nil u, rfl⟩
  | cons x r =>
    have hx : ¬p x = true := ne_true_of_eq_false (stops x rfl)
    exact ⟨by rw [List.takeWhile_cons_of_neg hx, List.append_nil], List.dropWhile_cons_of_neg hx⟩

/-! ## Names -/

/-- The code points of the characters of comparators and separators and of the
opening parenthesis. -/
def markCodes : List Nat := [0x21, 0x26, 0x28, 0x3C, 0x3D, 0x3E, 0x7C]

theorem not_alphanumeric : ∀ n ∈ blankCodes ++ markCodes,
    (alphanumericRanges.any fun r => decide (r.1 ≤ n) && decide (n ≤ r.2)) = false := by
  decide +kernel

theorem isNameChar_of_isBlank (x : Char) (h : isBlank x = true) : isNameChar x = false := by
  have alphanumeric : isAlphanumeric x = false := not_alphanumeric _ (List.mem_append_left _ (mem_blankCodes h))
  have underscore : x ≠ '_' := forall_blank (p := (· ≠ '_')) (by decide) h
  simp [isNameChar, alphanumeric, underscore]

theorem isNameChar_of_mark {x : Char} (h : x.toNat ∈ markCodes) (underscore : x ≠ '_') : isNameChar x = false := by
  have alphanumeric : isAlphanumeric x = false := not_alphanumeric _ (List.mem_append_right _ h)
  simp [isNameChar, alphanumeric, underscore]

theorem of_readName (h : readName s = .ok (name, r)) :
    name ≠ [] ∧ (∀ x ∈ name, isNameChar x = true) ∧ s = name ++ r := by
  unfold readName at h
  split at h
  · cases h
  · next some =>
    cases h
    exact ⟨some, fun x hx => List.mem_takeWhile_imp hx, List.takeWhile_append_dropWhile.symm⟩

theorem readName_append (named : name ≠ []) (name_chars : ∀ x ∈ name, isNameChar x = true)
    (stops : Stops isNameChar r) : readName (name ++ r) = .ok (name, r) := by
  obtain ⟨taken, dropped⟩ := takeWhile_append_of_stops name_chars stops
  rw [readName, taken, dropped]
  cases name with
  | nil => exact absurd rfl named
  | cons x name => rfl

/-! ## Comparators -/

theorem of_readComparator (h : readComparator s = .ok (c, r)) : s = c.symbol.toList ++ r := by
  unfold readComparator at h
  split at h <;> cases h <;> rfl

theorem readComparator_append (c : Comparator) (stops : Stops (· == '=') r) :
    readComparator (c.symbol.toList ++ r) = .ok (c, r) := by
  have other : ∀ t, r ≠ '=' :: t := by
    rintro t rfl
    cases stops '=' rfl
  cases c with
  | eq | ne | ge | le => rfl
  | gt =>
    show readComparator ('>' :: r) = .ok (.gt, r)
    rw [readComparator]
    exact other
  | lt =>
    show readComparator ('<' :: r) = .ok (.lt, r)
    rw [readComparator]
    exact other

/-! ## Literals -/

/-- The integers that literals behind the comparator stand for, of 64 bits or
not. -/
inductive Grammar.Spelled (c : Comparator) : List Char → Int → Prop
  | unsigned {ds : List Char} (digits : isDigits ds = true) : Spelled c ds (digitsValue ds)
  | negative {ds : List Char} (digits : isDigits ds = true) : Spelled c ('-' :: ds) (-(digitsValue ds : Int))
  | yes {word : List Char} (equality : c = .eq ∨ c = .ne) (same : word.map Char.toLower = ['t', 'r', 'u', 'e']) :
      Spelled c word 1
  | no {word : List Char} (equality : c = .eq ∨ c = .ne)
      (same : word.map Char.toLower = ['f', 'a', 'l', 's', 'e']) : Spelled c word 0

theorem literal_iff_spelled : Literal c u v ↔ Spelled c u v.toInt := by
  constructor
  · intro literal
    cases literal with
    | number number =>
      cases number with
      | unsigned digits value => exact value ▸ .unsigned digits
      | negative digits value => exact value ▸ .negative digits
    | truth equality truth =>
      cases truth with
      | yes same => exact .yes equality same
      | no same => exact .no equality same
  · intro spelled
    generalize hn : v.toInt = n at spelled
    cases spelled with
    | unsigned digits => exact .number (.unsigned digits hn)
    | negative digits => exact .number (.negative digits hn)
    | yes equality same =>
      rw [Int64.toInt_inj.1 (hn.trans Int64.toInt_one.symm)]
      exact .truth equality (.yes same)
    | no equality same =>
      rw [Int64.toInt_inj.1 (hn.trans Int64.toInt_zero.symm)]
      exact .truth equality (.no same)

theorem int64?_eq_some_iff {n : Int} : int64? n = some v ↔ v.toInt = n := by
  have low := v.le_toInt
  have high := v.toInt_lt
  rw [int64?, Int64.toInt_minValue, Int64.toInt_maxValue]
  constructor
  · intro h
    split at h
    · next range =>
      cases h
      exact Int64.toInt_ofInt_of_le (by omega) (by omega)
    · cases h
  · rintro rfl
    rw [if_pos (by omega), Int64.ofInt_toInt]

theorem isDigits_iff : isDigits u = true ↔ u ≠ [] ∧ ∀ x ∈ u, x.isDigit = true := by
  simp [isDigits]

theorem of_readInteger (h : readInteger s = .ok (v, r)) : ∃ u, s = u ++ r ∧ Integer u v := by
  unfold readInteger at h
  dsimp only at h
  split at h
  · cases h
  · next nonempty =>
    split at h
    · next fits =>
      cases h
      have digits := isDigits_iff.2 ⟨nonempty, fun x hx => List.mem_takeWhile_imp hx⟩
      have value := int64?_eq_some_iff.1 fits
      by_cases sign : s.head? = some '-'
      · obtain ⟨t, rfl⟩ := List.head?_eq_some_iff.1 sign
        exact ⟨'-' :: t.takeWhile Char.isDigit, congrArg ('-' :: ·) List.takeWhile_append_dropWhile.symm,
          .negative digits value⟩
      · have sign : (s.head? == some '-') = false := beq_eq_false_iff_ne.2 sign
        rw [sign] at digits value ⊢
        exact ⟨s.takeWhile Char.isDigit, List.takeWhile_append_dropWhile.symm, .unsigned digits value⟩
    · cases h

theorem readInteger_append (number : Integer u v) (stops : Stops Char.isDigit r) :
    readInteger (u ++ r) = .ok (v, r) := by
  cases number with
  | unsigned digits value =>
    obtain ⟨nonempty, all⟩ := isDigits_iff.1 digits
    obtain ⟨x, ds, rfl⟩ := List.exists_cons_of_ne_nil nonempty
    obtain ⟨taken, dropped⟩ := takeWhile_append_of_stops all stops
    have sign : ((x :: ds ++ r).head? == some '-') = false := by
      apply beq_eq_false_iff_ne.2
      rintro h
      cases h
      cases all '-' (List.mem_cons_self ..)
    unfold readInteger
    simp only [sign, Bool.false_eq_true, if_false, taken, dropped, int64?_eq_some_iff.2 value]
  | @negative ds _ digits value =>
    obtain ⟨nonempty, all⟩ := isDigits_iff.1 digits
    obtain ⟨x, ds, rfl⟩ := List.exists_cons_of_ne_nil nonempty
    obtain ⟨taken, dropped⟩ := takeWhile_append_of_stops all stops
    have sign : (('-' :: (x :: ds ++ r)).head? == some '-') = true := rfl
    show readInteger ('-' :: (x :: ds ++ r)) = .ok (v, r)
    unfold readInteger
    simp only [sign, if_true, List.tail_cons, taken, dropped, int64?_eq_some_iff.2 value]

theorem readInteger_of_letter {x : Char} (sign : x ≠ '-') (letter : x.isDigit = false) (t : List Char) :
    ∃ f, readInteger (x :: t) = .error f := by
  have sign : ((x :: t).head? == some '-') = false := beq_eq_false_iff_ne.2 fun h => sign (Option.some.inj h)
  have none : (x :: t).takeWhile Char.isDigit = [] := List.takeWhile_cons_of_neg (ne_true_of_eq_false letter)
  unfold readInteger
  simp only [sign, Bool.false_eq_true, if_false, none]
  exact ⟨_, rfl⟩

theorem of_readWordAnyCase : ∀ {word s : List Char}, readWordAnyCase word s = some r →
    ∃ u, s = u ++ r ∧ u.map Char.toLower = word
  | [], s, h => by
    cases h
    exact ⟨[], rfl, rfl⟩
  | w :: word, x :: s, h => by
    rw [readWordAnyCase] at h
    split at h
    · next hx =>
      obtain ⟨u, rfl, rfl⟩ := of_readWordAnyCase h
      exact ⟨x :: u, rfl, by rw [List.map_cons, hx]⟩
    · cases h

theorem readWordAnyCase_append (r : List Char) : ∀ u : List Char,
    readWordAnyCase (u.map Char.toLower) (u ++ r) = some r
  | [] => rfl
  | x :: u => by rw [List.map_cons, List.cons_append, readWordAnyCase, if_pos rfl, readWordAnyCase_append r u]

theorem of_readEqualityLiteral (h : readEqualityLiteral s = .ok (v, r)) :
    ∃ u, s = u ++ r ∧ (Integer u v ∨ Truth u v) := by
  unfold readEqualityLiteral at h
  split at h
  · next hn =>
    cases h
    obtain ⟨u, rfl, number⟩ := of_readInteger hn
    exact ⟨u, rfl, .inl number⟩
  · split at h
    · next hw =>
      cases h
      obtain ⟨u, rfl, same⟩ := of_readWordAnyCase hw
      exact ⟨u, rfl, .inr (.yes same)⟩
    · split at h
      · next hw =>
        cases h
        obtain ⟨u, rfl, same⟩ := of_readWordAnyCase hw
        exact ⟨u, rfl, .inr (.no same)⟩
      · cases h

theorem of_readLiteral (h : readLiteral c s = .ok (v, r)) : ∃ u, s = u ++ r ∧ Literal c u v := by
  have number (h : readInteger s = .ok (v, r)) : ∃ u, s = u ++ r ∧ Literal c u v := by
    obtain ⟨u, hs, number⟩ := of_readInteger h
    exact ⟨u, hs, .number number⟩
  have either (equality : c = .eq ∨ c = .ne) (h : readEqualityLiteral s = .ok (v, r)) :
      ∃ u, s = u ++ r ∧ Literal c u v := by
    obtain ⟨u, hs, number | truth⟩ := of_readEqualityLiteral h
    · exact ⟨u, hs, .number number⟩
    · exact ⟨u, hs, .truth equality truth⟩
  cases c with
  | eq => exact either (.inl rfl) h
  | ne => exact either (.inr rfl) h
  | gt | ge | lt | le => exact number h

/-! ### What a literal begins with -/

/-- What a literal may begin with: a sign, a digit, or the first letter of a word. -/
def startsLiteral (x : Char) : Bool := x == '-' || x.isDigit || x.toLower == 't' || x.toLower == 'f'

theorem Truth.head {v : Int64} (truth : Truth u v) : ∃ x t, u = x :: t ∧ (x.toLower = 't' ∨ x.toLower = 'f') := by
  cases truth with
  | yes same | no same =>
    cases u with
    | nil => cases same
    | cons x t => exact ⟨x, t, rfl, by simp [(List.cons.inj same).1]⟩

theorem Grammar.Spelled.head {n : Int} (spelled : Spelled c u n) : ∃ x t, u = x :: t ∧ startsLiteral x = true := by
  have word {v : Int64} (truth : Truth u v) : ∃ x t, u = x :: t ∧ startsLiteral x = true := by
    obtain ⟨x, t, rfl, hx⟩ := Truth.head truth
    refine ⟨x, t, rfl, ?_⟩
    rcases hx with hx | hx <;> simp [startsLiteral, hx]
  cases spelled with
  | negative digits => exact ⟨'-', _, rfl, rfl⟩
  | unsigned digits =>
    obtain ⟨nonempty, all⟩ := isDigits_iff.1 digits
    obtain ⟨x, t, rfl⟩ := List.exists_cons_of_ne_nil nonempty
    exact ⟨x, t, rfl, by simp [startsLiteral, all x (List.mem_cons_self ..)]⟩
  | yes _ same => exact word (.yes same)
  | no _ same => exact word (.no same)

theorem Literal.head (literal : Literal c u v) : ∃ x t, u = x :: t ∧ startsLiteral x = true :=
  (literal_iff_spelled.1 literal).head

theorem startsLiteral_of_isBlank (x : Char) (h : isBlank x = true) : startsLiteral x = false :=
  forall_blank (p := fun x => startsLiteral x = false) (by decide) h

theorem isDigit_of_isBlank (x : Char) (h : isBlank x = true) : x.isDigit = false :=
  forall_blank (p := fun x => x.isDigit = false) (by decide) h

theorem toLower_of_isDigit {x : Char} (h : x.isDigit = true) : x.toLower = x := by
  simp only [Char.isDigit, Bool.and_eq_true, decide_eq_true_eq] at h
  rw [Char.toLower, dif_neg]
  rintro ⟨low, _⟩
  exact absurd (UInt32.le_trans low h.2) (by decide)

/-- What stands in a literal. -/
def isLiteralChar (x : Char) : Bool :=
  x == '-' || x.isDigit || decide (x.toLower ∈ ['t', 'r', 'u', 'e', 'f', 'a', 'l', 's'])

theorem Grammar.Spelled.chars {n : Int} (spelled : Spelled c u n) : ∀ x ∈ u, isLiteralChar x = true := by
  have digit {ds : List Char} (digits : isDigits ds = true) : ∀ x ∈ ds, isLiteralChar x = true := by
    intro x hx
    simp [isLiteralChar, (isDigits_iff.1 digits).2 x hx]
  have letter {word : List Char} (same : u.map Char.toLower = word)
      (letters : ∀ x ∈ word, x ∈ ['t', 'r', 'u', 'e', 'f', 'a', 'l', 's']) : ∀ x ∈ u, isLiteralChar x = true := by
    intro x hx
    rw [isLiteralChar, decide_eq_true (letters _ (same ▸ List.mem_map_of_mem hx)), Bool.or_true]
  cases spelled with
  | unsigned digits => exact digit digits
  | negative digits => exact List.forall_mem_cons.2 ⟨rfl, digit digits⟩
  | yes _ same | no _ same => exact letter same (by simp)

theorem Grammar.Spelled.not_blank {n : Int} (spelled : Spelled c u n) : ∀ x ∈ u, isBlank x = false := by
  intro x hx
  apply eq_false_of_ne_true
  intro blank
  have other := forall_blank (p := fun x => isLiteralChar x = false) (by decide) blank
  cases other.symm.trans (spelled.chars x hx)

theorem Literal.not_blank (literal : Literal c u v) : ∀ x ∈ u, isBlank x = false :=
  (literal_iff_spelled.1 literal).not_blank

/-! ### Reading what a literal is -/

theorem readInteger_of_truth (truth : Truth u v) (r : List Char) : ∃ f, readInteger (u ++ r) = .error f := by
  obtain ⟨x, t, rfl, hx⟩ := Truth.head truth
  apply readInteger_of_letter
  · rintro rfl
    exact absurd hx (by decide)
  · apply eq_false_of_ne_true
    intro digit
    rw [toLower_of_isDigit digit] at hx
    rcases hx with rfl | rfl <;> cases digit

theorem readEqualityLiteral_of_truth (truth : Truth u v) (r : List Char) :
    readEqualityLiteral (u ++ r) = .ok (v, r) := by
  obtain ⟨f, noNumber⟩ := readInteger_of_truth truth r
  rw [readEqualityLiteral, noNumber]
  cases truth with
  | yes same =>
    rw [← same, readWordAnyCase_append]
  | no same =>
    have notTrue : readWordAnyCase ['t', 'r', 'u', 'e'] (u ++ r) = none := by
      cases u with
      | nil => cases same
      | cons x t =>
        rw [List.cons_append, readWordAnyCase, if_neg]
        rw [(List.cons.inj same).1]
        decide
    rw [notTrue, ← same, readWordAnyCase_append]

theorem readLiteral_append (literal : Literal c u v) (stops : Stops Char.isDigit r) :
    readLiteral c (u ++ r) = .ok (v, r) := by
  cases literal with
  | number number =>
    have read := readInteger_append number stops
    cases c with
    | eq | ne => rw [readLiteral, readEqualityLiteral, read]
    | gt | ge | lt | le => exact read
  | truth equality truth =>
    rcases equality with rfl | rfl <;> exact readEqualityLiteral_of_truth truth r

/-! ## Comparisons -/

theorem readComparison_congr (h : skipBlanks s = skipBlanks t) : readComparison s = readComparison t := by
  rw [readComparison, readComparison, h]

/-- What is read is a comparison of the grammar. -/
theorem compared_of_readComparison {cmp : Comparison} (h : readComparison s = .ok (cmp, r)) :
    ∃ u, s = u ++ r ∧ Compared u cmp := by
  unfold readComparison at h
  split at h
  · cases h
  · next name s₁ h₁ =>
    split at h
    · cases h
    · next c s₂ h₂ =>
      split at h
      · cases h
      · next v s₃ h₃ =>
        cases h
        obtain ⟨named, name_chars, hs⟩ := of_readName h₁
        have hs₁ := of_readComparator h₂
        obtain ⟨literal, hs₂, value⟩ := of_readLiteral h₃
        -- what is skipped before each part, and behind the last, are the blanks of the grammar
        obtain ⟨b₁, blank₁, e₁⟩ := exists_blanks s
        obtain ⟨b₂, blank₂, e₂⟩ := exists_blanks s₁
        obtain ⟨b₃, blank₃, e₃⟩ := exists_blanks s₂
        obtain ⟨b₄, blank₄, e₄⟩ := exists_blanks s₃
        refine ⟨_, ?_, .of named name_chars value blank₁ blank₂ blank₃ blank₄⟩
        simp only [List.append_assoc]
        rw [← e₄, ← hs₂, ← e₃, ← hs₁, ← e₂, ← hs, ← e₁]

theorem stops_symbol (c : Comparator) (t : List Char) : Stops isNameChar (c.symbol.toList ++ t) := by
  cases c <;> exact .cons (isNameChar_of_mark (by decide) (by decide)) _

theorem skipBlanks_symbol (c : Comparator) (t : List Char) :
    skipBlanks (c.symbol.toList ++ t) = c.symbol.toList ++ t := by
  cases c <;> rfl

theorem skipBlanks_of_kind {p : Char → Bool} {x : Char} (blanks : ∀ x, isBlank x = true → p x = false)
    (hx : p x = true) (t : List Char) : skipBlanks (x :: t) = x :: t := by
  apply skipBlanks_cons
  apply eq_false_of_ne_true
  intro blank
  rw [blanks x blank] at hx
  cases hx

/-- A comparison of the grammar is read as a whole, and blanks behind it, if no
digit comes next. -/
theorem readComparison_of_compared {cmp : Comparison} (h : Compared u cmp)
    (hs : skipBlanks s = skipBlanks (u ++ r)) (stops : Stops Char.isDigit (skipBlanks r)) :
    readComparison s = .ok (cmp, skipBlanks r) := by
  cases h with
  | @of b₁ b₂ b₃ b₄ name literal c v named name_chars value blank₁ blank₂ blank₃ blank₄ =>
    obtain ⟨x, name, rfl⟩ := List.exists_cons_of_ne_nil named
    obtain ⟨y, literal, rfl, hy⟩ := Literal.head value
    -- what is left when the name, the comparator and the literal have been read
    let r₃ := b₄ ++ r
    let r₂ := b₃ ++ (y :: literal ++ r₃)
    let r₁ := b₂ ++ (c.symbol.toList ++ r₂)
    have first : skipBlanks s = x :: name ++ r₁ := by
      rw [hs]
      simp only [List.append_assoc]
      rw [skipBlanks_append blank₁]
      exact skipBlanks_of_kind isNameChar_of_isBlank (name_chars x (List.mem_cons_self ..)) _
    have second : skipBlanks r₁ = c.symbol.toList ++ r₂ := by
      rw [skipBlanks_append blank₂, skipBlanks_symbol]
    have third : skipBlanks r₂ = y :: literal ++ r₃ := by
      rw [skipBlanks_append blank₃]
      exact skipBlanks_of_kind startsLiteral_of_isBlank hy _
    have last : skipBlanks r₃ = skipBlanks r := skipBlanks_append blank₄ r
    have stops₁ : Stops isNameChar r₁ := .of_skipBlanks isNameChar_of_isBlank (second ▸ stops_symbol c r₂)
    have stops₂ : Stops (· == '=') r₂ := by
      apply Stops.of_skipBlanks fun x => forall_blank (p := fun x => (x == '=') = false) (by decide)
      rw [third]
      apply Stops.cons
      apply beq_eq_false_iff_ne.2
      rintro rfl
      cases hy
    have stops₃ : Stops Char.isDigit r₃ := .of_skipBlanks isDigit_of_isBlank (last ▸ stops)
    rw [readComparison, first, readName_append named name_chars stops₁]
    simp only [second, readComparator_append c stops₂, third, readLiteral_append value stops₃, last]

/-! ## Whole texts -/

theorem Comparison.read_eq_ok_iff {cmp : Comparison} : Comparison.read s = .ok cmp ↔ Compared s cmp := by
  constructor
  · intro h
    unfold Comparison.read at h
    split at h
    · cases h
    · next ok =>
      cases h
      obtain ⟨u, hs, compared⟩ := compared_of_readComparison ok
      rwa [hs, List.append_nil]
    · cases h
  · intro compared
    have whole : skipBlanks s = skipBlanks (s ++ []) := by rw [List.append_nil]
    have ok := readComparison_of_compared compared whole fun x hx => by cases hx
    simp only [Comparison.read, ok, skipBlanks, List.dropWhile_nil]

theorem Grammar.Compared.surround {b b' : List Char} {cmp : Comparison} (before : allBlank b = true)
    (after : allBlank b' = true) (h : Compared u cmp) : Compared (b ++ (u ++ b')) cmp := by
  obtain ⟨named, name_chars, value, blank₁, blank₂, blank₃, blank₄⟩ := h
  have first := (allBlank_append ..).trans (Bool.and_eq_true_iff.2 ⟨before, blank₁⟩)
  have last := (allBlank_append ..).trans (Bool.and_eq_true_iff.2 ⟨blank₄, after⟩)
  simpa only [List.append_assoc] using Compared.of named name_chars value first blank₂ blank₃ last

theorem Grammar.Compared.stripped {cmp : Comparison} (h : Compared u cmp) : trim u ≠ [] ∧ Compared (trim u) cmp := by
  obtain @⟨b₁, b₂, b₃, b₄, name, literal, c, v, named, name_chars, value, blank₁, blank₂, blank₃, blank₄⟩ := h
  let core := name ++ (b₂ ++ (c.symbol.toList ++ (b₃ ++ literal)))
  have trimmed : Trimmed core := by
    constructor
    · obtain ⟨x, name, rfl⟩ := List.exists_cons_of_ne_nil named
      exact skipBlanks_of_kind isNameChar_of_isBlank (name_chars x (List.mem_cons_self ..)) _
    · obtain ⟨y, t, rfl, _⟩ := Literal.head value
      obtain ⟨z, t', last⟩ := List.exists_cons_of_ne_nil (List.reverse_ne_nil_iff.2 (List.cons_ne_nil y t))
      have hz : z ∈ y :: t := List.mem_reverse.1 (last ▸ List.mem_cons_self ..)
      simp only [core, List.reverse_append, last, List.append_assoc, List.cons_append]
      exact skipBlanks_cons (Literal.not_blank value z hz) _
  have inner : trim (b₁ ++ (name ++ (b₂ ++ (c.symbol.toList ++ (b₃ ++ (literal ++ b₄)))))) = core := by
    simpa only [core, List.append_assoc] using trim_surround blank₁ blank₄ trimmed
  rw [inner]
  constructor
  · simp [core, named]
  · have nothing : allBlank [] = true := rfl
    simpa only [core, List.nil_append, List.append_nil] using
      Compared.of named name_chars value nothing blank₂ blank₃ nothing

theorem compared_trim_iff {cmp : Comparison} : Compared (trim s) cmp ↔ Compared s cmp := by
  refine ⟨fun h => ?_, fun h => h.stripped.2⟩
  obtain ⟨b, b', before, after, hs⟩ := exists_trim s
  rw [hs]
  exact h.surround before after

theorem Grammar.Compared.not_blank {cmp : Comparison} (h : Compared s cmp) : allBlank s = false := by
  apply eq_false_of_ne_true
  intro blank
  exact h.stripped.1 (trim_eq_nil blank)

end TransitionGuards
