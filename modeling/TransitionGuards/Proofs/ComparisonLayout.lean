import TransitionGuards.Proofs.ComparisonText

/-
  What a comparison is made of.

  A `Layout` is a text cut into a name, a comparator and a literal, with the blanks
  around them, together with the integer that the literal stands for, which may be
  beyond 64 bits. A text can be laid out in one way at most
  (`Layout.chars_injective`): each stretch ends where the next one has to begin, so
  from left to right none of them can be longer or shorter. A text is accepted as a
  comparison exactly if it can be laid out and the integer has 64 bits. One that
  has more is refused, since there is no other way to read the text.
-/

namespace TransitionGuards
open Grammar

/-- A name, a comparator and a literal, blanks before, between and behind them, and
the integer for which the literal stands. -/
structure Layout where
  before : List Char
  name : List Char
  afterName : List Char
  comparator : Comparator
  afterComparator : List Char
  literal : List Char
  behind : List Char
  value : Int
  blank_before : allBlank before = true
  named : name ≠ []
  name_chars : ∀ x ∈ name, isNameChar x = true
  blank_afterName : allBlank afterName = true
  blank_afterComparator : allBlank afterComparator = true
  spelled : Spelled comparator literal value
  blank_behind : allBlank behind = true

def Layout.chars (l : Layout) : List Char :=
  l.before ++ (l.name ++ (l.afterName ++ (l.comparator.symbol.toList ++ (l.afterComparator ++ (l.literal ++ l.behind)))))

/-- Whether the comparison is the one laid out. -/
structure Layout.Denotes (l : Layout) (c : Comparison) : Prop where
  name : c.name.toList = l.name
  comparator : c.comparator = l.comparator
  value : c.value.toInt = l.value

/-! ## Where the stretches end -/

section
variable {u v r s : List Char}

/-- Two runs of characters of one kind before something that cannot go on with them
are the same. -/
theorem append_inj_of_stops {p : Char → Bool} (hu : ∀ x ∈ u, p x = true) (hv : ∀ x ∈ v, p x = true)
    (hr : Stops p r) (hs : Stops p s) (h : u ++ r = v ++ s) : u = v ∧ r = s := by
  obtain ⟨taken, dropped⟩ := takeWhile_append_of_stops hu hr
  obtain ⟨taken', dropped'⟩ := takeWhile_append_of_stops hv hs
  rw [h] at taken dropped
  exact ⟨taken.symm.trans taken', dropped.symm.trans dropped'⟩

end

namespace Layout

theorem stops_name (l : Layout) (t : List Char) : Stops isBlank (l.name ++ t) := by
  obtain ⟨x, name, hn⟩ := List.exists_cons_of_ne_nil l.named
  have first : isNameChar x = true := l.name_chars x (hn ▸ List.mem_cons_self ..)
  rw [hn]
  apply Stops.cons
  apply eq_false_of_ne_true
  intro blank
  cases (isNameChar_of_isBlank x blank).symm.trans first

theorem stops_afterName (l : Layout) (t : List Char) :
    Stops isNameChar (l.afterName ++ (l.comparator.symbol.toList ++ t)) := by
  apply Stops.of_skipBlanks isNameChar_of_isBlank
  rw [skipBlanks_append l.blank_afterName, skipBlanks_symbol]
  exact stops_symbol l.comparator t

theorem stops_comparator (c : Comparator) (t : List Char) : Stops isBlank (c.symbol.toList ++ t) := by
  cases c <;> exact .cons rfl _

theorem stops_literal (l : Layout) (t : List Char) : Stops isBlank (l.literal ++ t) := by
  obtain ⟨x, literal, hl, _⟩ := l.spelled.head
  have first := l.spelled.not_blank x (hl ▸ List.mem_cons_self ..)
  rw [hl]
  exact .cons first _

theorem stops_afterComparator (l : Layout) (t : List Char) :
    Stops (· == '=') (l.afterComparator ++ (l.literal ++ t)) := by
  obtain ⟨x, literal, hl, hx⟩ := l.spelled.head
  apply Stops.of_skipBlanks fun x => forall_blank (p := fun x => (x == '=') = false) (by decide)
  rw [skipBlanks_append l.blank_afterComparator, hl, List.cons_append,
    skipBlanks_of_kind startsLiteral_of_isBlank hx]
  apply Stops.cons
  apply beq_eq_false_iff_ne.2
  rintro rfl
  cases hx

theorem stops_behind (l : Layout) : Stops (fun x => !isBlank x) l.behind := by
  intro x hx
  have blank := List.all_eq_true.1 l.blank_behind x (List.mem_of_mem_head? hx)
  exact congrArg (!·) blank

end Layout

/-! ## One layout -/

/-- The integer for which a literal stands, read off its first character. -/
def literalValue : List Char → Int
  | '-' :: ds => -(digitsValue ds : Int)
  | x :: t => if x.isDigit then digitsValue (x :: t) else if x.toLower = 't' then 1 else 0
  | [] => 0

theorem literalValue_of_word {x y : Char} {t w : List Char} (same : (x :: t).map Char.toLower = y :: w)
    (first : y ∈ ['t', 'f']) : literalValue (x :: t) = if y = 't' then 1 else 0 := by
  obtain ⟨rfl, -⟩ := List.cons.inj same
  have noDigit : x.isDigit = false := by
    apply eq_false_of_ne_true
    intro digit
    rw [toLower_of_isDigit digit] at first
    simp only [List.mem_cons, List.not_mem_nil, or_false] at first
    rcases first with rfl | rfl <;> cases digit
  have noSign : x ≠ '-' := by
    rintro rfl
    exact absurd first (by decide)
  rw [literalValue, noDigit]
  · rfl
  · exact noSign

theorem Grammar.Spelled.eq_literalValue {c : Comparator} {u : List Char} {n : Int} (h : Spelled c u n) :
    n = literalValue u := by
  cases h with
  | unsigned digits =>
    obtain ⟨nonempty, all⟩ := isDigits_iff.1 digits
    obtain ⟨x, t, rfl⟩ := List.exists_cons_of_ne_nil nonempty
    have first := all x (List.mem_cons_self ..)
    rw [literalValue, if_pos first]
    rintro rfl
    cases first
  | negative digits => rfl
  | yes _ same =>
    cases u with
    | nil => cases same
    | cons x t => exact (literalValue_of_word same (by simp)).symm
  | no _ same =>
    cases u with
    | nil => cases same
    | cons x t => exact (literalValue_of_word same (by simp)).symm

/-- A text can be laid out in one way only. -/
theorem Layout.chars_injective {l l' : Layout} (h : l.chars = l'.chars) : l = l' := by
  have blank {b : List Char} (hb : allBlank b = true) : ∀ x ∈ b, isBlank x = true := List.all_eq_true.1 hb
  -- part by part from the left: each part ends where its kind of characters does
  obtain ⟨before, h⟩ := append_inj_of_stops (blank l.blank_before) (blank l'.blank_before)
    (l.stops_name _) (l'.stops_name _) h
  obtain ⟨name, h⟩ := append_inj_of_stops l.name_chars l'.name_chars (l.stops_afterName _) (l'.stops_afterName _) h
  obtain ⟨afterName, h⟩ := append_inj_of_stops (blank l.blank_afterName) (blank l'.blank_afterName)
    (stops_comparator _ _) (stops_comparator _ _) h
  have read := readComparator_append l.comparator (l.stops_afterComparator l.behind)
  rw [h, readComparator_append l'.comparator (l'.stops_afterComparator l'.behind)] at read
  obtain ⟨comparator, h⟩ := Prod.mk.inj (Except.ok.inj read)
  obtain ⟨afterComparator, h⟩ := append_inj_of_stops (blank l'.blank_afterComparator) (blank l.blank_afterComparator)
    (l'.stops_literal _) (l.stops_literal _) h
  have solid (l : Layout) : ∀ x ∈ l.literal, (!isBlank x) = true := fun x hx => by rw [l.spelled.not_blank x hx]; rfl
  obtain ⟨literal, behind⟩ := append_inj_of_stops (solid l') (solid l) l'.stops_behind l.stops_behind h
  have value : l.value = l'.value := by
    rw [l.spelled.eq_literalValue, l'.spelled.eq_literalValue, literal]
  cases l
  cases l'
  simp only at before name afterName comparator afterComparator literal behind value
  subst before name afterName comparator afterComparator literal behind value
  rfl

/-! ## Accepted texts -/

/-- The comparisons of the grammar are the layouts whose integer has 64 bits. -/
theorem compared_iff_layout {s : List Char} {c : Comparison} :
    Compared s c ↔ ∃ l : Layout, l.chars = s ∧ l.Denotes c := by
  constructor
  · rintro @⟨b₁, b₂, b₃, b₄, name, literal, c, v, named, name_chars, value, blank₁, blank₂, blank₃, blank₄⟩
    let l : Layout := {
      before := b₁, name, afterName := b₂, comparator := c, afterComparator := b₃, literal, behind := b₄,
      value := v.toInt, blank_before := blank₁, named, name_chars, blank_afterName := blank₂,
      blank_afterComparator := blank₃, spelled := literal_iff_spelled.1 value, blank_behind := blank₄ }
    exact ⟨l, rfl, String.toList_ofList, rfl, rfl⟩
  · rintro ⟨l, rfl, name, comparator, value⟩
    obtain ⟨n, c, v⟩ := c
    simp only at name comparator value
    subst comparator
    have literal : Literal l.comparator l.literal v := literal_iff_spelled.2 (value ▸ l.spelled)
    have compared := Compared.of l.named l.name_chars literal l.blank_before l.blank_afterName
      l.blank_afterComparator l.blank_behind
    rwa [← name, String.ofList_toList, name] at compared

theorem Comparison.parse_eq_ok_iff {text : String} {c : Comparison} :
    Comparison.parse text = .ok c ↔ Compared text.toList c := by
  rw [← Comparison.read_eq_ok_iff, Comparison.parse]
  cases Comparison.read text.toList with
  | ok c' => simp only [Except.ok.injEq]
  | error f => exact iff_of_false nofun nofun

theorem Comparison.parse_eq_error {text : String} (none : ∀ c, ¬Compared text.toList c) :
    ∃ reason, Comparison.parse text = .error ⟨trimText text, reason⟩ := by
  rw [Comparison.parse]
  cases read : Comparison.read text.toList with
  | ok c => exact absurd (Comparison.read_eq_ok_iff.1 read) (none c)
  | error f => exact ⟨f.render text.toList, rfl⟩

/-- A text is accepted as a comparison exactly if it can be laid out as that
comparison, and there is one layout at most. A text whose literal stands for an
integer beyond 64 bits is refused, with the trimmed text in the refusal: the
integer is neither wrapped nor brought into range. -/
theorem Comparison.parse_exact (text : String) :
    (∀ c, Comparison.parse text = .ok c ↔ ∃ l : Layout, l.chars = text.toList ∧ l.Denotes c) ∧
    (∀ l l' : Layout, l.chars = text.toList → l'.chars = text.toList → l = l') ∧
    ∀ l : Layout, l.chars = text.toList → ¬(Int64.minValue.toInt ≤ l.value ∧ l.value ≤ Int64.maxValue.toInt) →
      ∃ reason, Comparison.parse text = .error ⟨trimText text, reason⟩ := by
  refine ⟨fun c => Comparison.parse_eq_ok_iff.trans compared_iff_layout, ?_, ?_⟩
  · exact fun l l' h h' => Layout.chars_injective (h.trans h'.symm)
  · intro l h beyond
    apply Comparison.parse_eq_error
    intro c compared
    obtain ⟨l', h', denotes⟩ := compared_iff_layout.1 compared
    obtain rfl := Layout.chars_injective (h.trans h'.symm)
    rw [← denotes.value, Int64.toInt_minValue, Int64.toInt_maxValue] at beyond
    have low := c.value.le_toInt
    have high := c.value.toInt_lt
    omega

/-- Blanks of several kinds, a name with a letter outside ASCII, and zeros before the
digits. -/
def paddedLayout : Layout where
  before := ['\t']
  name := ['ß', '_', '2']
  afterName := []
  comparator := .ge
  afterComparator := [Char.ofNat 0x2003, ' ']
  literal := ['-', '0', '0', '7']
  behind := ['\n']
  value := -7
  blank_before := by decide
  named := by decide
  name_chars := List.all_eq_true.1 (by decide +kernel)
  blank_afterName := by decide
  blank_afterComparator := by decide
  spelled := .negative (by decide)
  blank_behind := by decide

/-- The least integer too large for 64 bits. -/
def overlongLayout : Layout where
  before := []
  name := ['x']
  afterName := [' ']
  comparator := .ne
  afterComparator := []
  literal := "9223372036854775808".toList
  behind := []
  value := 9223372036854775808
  blank_before := by decide
  named := by decide
  name_chars := List.all_eq_true.1 (by decide +kernel)
  blank_afterName := by decide
  blank_afterComparator := by decide
  spelled := .unsigned (by decide)
  blank_behind := by decide

theorem Comparison.parse_exact_padded :
    Comparison.parse (String.ofList paddedLayout.chars) = .ok ⟨"ß_2", .ge, -7⟩ ∧
    (∀ l : Layout, l.chars = paddedLayout.chars → l = paddedLayout) ∧
    ∃ reason, Comparison.parse "x !=9223372036854775808" = .error ⟨"x !=9223372036854775808", reason⟩ := by
  have whole : paddedLayout.chars = (String.ofList paddedLayout.chars).toList := String.toList_ofList.symm
  obtain ⟨accepts, single, _⟩ := parse_exact (String.ofList paddedLayout.chars)
  obtain ⟨_, _, refuses⟩ := parse_exact "x !=9223372036854775808"
  have denotes : paddedLayout.Denotes ⟨"ß_2", .ge, -7⟩ := ⟨by decide, rfl, rfl⟩
  refine ⟨(accepts _).2 ⟨_, whole, denotes⟩, fun l h => single l _ (h.trans whole) whole, ?_⟩
  exact refuses overlongLayout (by decide) (by decide)

end TransitionGuards
