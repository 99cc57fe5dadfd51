import TransitionGuards.Proofs.LegacyPieces
import TransitionGuards.Proofs.Sentences

/-
  Blanks around guard text do not matter.

  Under legacy precedence the reader trims the text before anything else. Under
  standard precedence blanks belong to the sentence: those in front of it are
  skipped by the reader (`readStandard_of_sentence`), and those behind it can be
  taken off every derivation (`Grammar.Disjunction.before_blanks`), whichever
  part they stand in. So a text and the trimmed one are read as the same, or
  neither can be read (`readAlike_trimText`), and they compile alike
  (`Guard.compile_trimText`).
-/

namespace TransitionGuards

variable {s t u b : List Char} {m : Char} {e : Expression} {es : List Expression}

theorem toList_trimText (text : String) : (trimText text).toList = trim text.toList := String.toList_ofList

/-! ## Blanks behind a text -/

/-- Blanks behind a text that holds a mark stand behind the mark. -/
theorem append_mark_eq (after : allBlank b = true) (mark : isBlank m = false) (h : s ++ b = u ++ m :: t) :
    ∃ t', t = t' ++ b ∧ s = u ++ m :: t' := by
  have foreign := notMem_of_allBlank mark after
  obtain ⟨w, hu, hb⟩ | ⟨w, hs, ht⟩ := List.append_eq_append_iff.1 h
  · rw [hb] at foreign
    exact absurd (List.mem_append_right w (List.mem_cons_self ..)) foreign
  · cases w with
    | nil =>
      rw [List.nil_append] at ht
      exact absurd (ht ▸ List.mem_cons_self ..) foreign
    | cons x w =>
      obtain ⟨rfl, rfl⟩ := List.cons.inj ht
      exact ⟨w, rfl, hs⟩

namespace Grammar

theorem Primary.before_blanks (after : allBlank b = true) : Primary u e → s ++ b = u → Primary s e
  | .comparison compared, whole => by
    rw [← whole, ← compared_trim_iff, trim_append_right after] at compared
    exact .comparison (compared_trim_iff.1 compared)
  | @Primary.group b₁ v b₂ es before inner within, whole => by
    have split : s ++ b = (b₁ ++ '(' :: (v ++ b₂)) ++ ')' :: [] := by simpa using whole
    obtain ⟨t, none, rfl⟩ := append_mark_eq after rfl split
    obtain ⟨rfl, rfl⟩ := List.append_eq_nil_iff.1 none.symm
    simpa using Primary.group before inner within

theorem Conjunction.before_blanks (after : allBlank b = true) {u : List Char} {es : List Expression} :
    Conjunction u es → ∀ {s}, s ++ b = u → Conjunction s es
  | .one first, _, whole => .one (first.before_blanks after whole)
  | @Conjunction.more v between t _ _ first blank rest, s, whole => by
    have split : s ++ b = (v ++ (between ++ ['&'])) ++ '&' :: t := by simpa using whole
    obtain ⟨t', ht, rfl⟩ := append_mark_eq after rfl split
    simpa using Conjunction.more first blank (rest.before_blanks after ht.symm)

theorem Disjunction.before_blanks (after : allBlank b = true) {u : List Char} {es : List Expression} :
    Disjunction u es → ∀ {s}, s ++ b = u → Disjunction s es
  | .one first, _, whole => .one (first.before_blanks after whole)
  | @Disjunction.more v between t _ _ first blank rest, s, whole => by
    have split : s ++ b = (v ++ (between ++ ['|'])) ++ '|' :: t := by simpa using whole
    obtain ⟨t', ht, rfl⟩ := append_mark_eq after rfl split
    simpa using Disjunction.more first blank (rest.before_blanks after ht.symm)

end Grammar

namespace Expression
open Grammar

/-! ## Sentences -/

theorem sentence_skip_iff (same : skipBlanks s = skipBlanks t) : Sentence s e ↔ Sentence t e := by
  constructor
  · exact fun h => readStandard_eq_ok_iff.1 (readStandard_of_sentence same.symm h)
  · exact fun h => readStandard_eq_ok_iff.1 (readStandard_of_sentence same h)

theorem sentence_append_iff (after : allBlank b = true) : Sentence (s ++ b) e ↔ Sentence s e := by
  constructor
  · intro h
    generalize whole : s ++ b = u at h
    obtain @⟨u, b', es, disjunction, after'⟩ := h
    obtain ⟨w, rfl, hb⟩ | ⟨w, rfl, hb'⟩ := List.append_eq_append_iff.1 whole
    · rw [hb, allBlank_append, Bool.and_eq_true] at after
      simpa using Sentence.of (disjunction.before_blanks after.1 rfl) (b := []) rfl
    · rw [hb', allBlank_append, Bool.and_eq_true] at after'
      exact .of disjunction after'.1
  · rintro @⟨u, b', es, disjunction, after'⟩
    rw [List.append_assoc]
    exact .of disjunction (by rw [allBlank_append, after', after, Bool.and_self])

theorem sentence_trim_iff : Sentence (trim s) e ↔ Sentence s e := by
  obtain ⟨b, b', before, after, hs⟩ := exists_trim s
  have skipped : skipBlanks s = skipBlanks (trim s ++ b') := by
    rw [← skipBlanks_append before (trim s ++ b'), ← hs]
  rw [sentence_skip_iff skipped, sentence_append_iff after]

/-! ## Reading -/

/-- Whether two texts are read as the same expression, or each as one leaf that
could not be read. -/
def ReadAlike (e e' : Expression) : Prop := e = e' ∨ ∃ t r t' r', e = .unparsed t r ∧ e' = .unparsed t' r'

theorem readAlike_trimText (precedence : Precedence) (text : String) :
    ReadAlike (parse precedence (trimText text)) (parse precedence text) := by
  have blanks : allBlank (trimText text).toList = allBlank text.toList := by rw [toList_trimText, allBlank_trim]
  cases blank : allBlank text.toList with
  | true =>
    rw [blank] at blanks
    left
    simp [parse, blanks, blank]
  | false =>
    rw [blank] at blanks
    cases precedence with
    | legacy =>
      left
      rw [parse_legacy_eq blanks, parse_legacy_eq blank, toList_trimText, trim_trim]
    | standard =>
      have same {e : Expression} : Sentence (trimText text).toList e ↔ Sentence text.toList e := by
        rw [toList_trimText, sentence_trim_iff]
      -- one text is derivable if the other is; if neither is, the leaves differ in their reasons only
      obtain sentence | ⟨r, leaf⟩ := parse_standard_cases blank
      · exact .inl (parse_of_sentence blanks (same.2 sentence))
      · obtain sentence | ⟨r', leaf'⟩ := parse_standard_cases blanks
        · exact .inl (parse_of_sentence blank (same.1 sentence)).symm
        · exact .inr ⟨_, r', _, r, leaf', leaf⟩

end Expression

/-! ## Compiling -/

/-- Whether two compilations leave the same table, and both give the same or both
an error. -/
def Compile.Alike {α : Type} (c c' : Compile α) : Prop :=
  ∀ table, (c table).1.toOption = (c' table).1.toOption ∧ (c table).2 = (c' table).2

namespace Expression.ReadAlike
variable {e e' : Expression}

theorem compile_lenient (h : ReadAlike e e') : e.compile false = e'.compile false := by
  obtain rfl | ⟨t, r, t', r', rfl, rfl⟩ := h
  · rfl
  · funext table
    rfl

theorem compile {strict : Bool} (h : ReadAlike e e') : (e.compile strict).Alike (e'.compile strict) := by
  obtain rfl | ⟨t, r, t', r', rfl, rfl⟩ := h
  · exact fun table => ⟨rfl, rfl⟩
  · intro table
    cases strict <;> exact ⟨rfl, rfl⟩

end Expression.ReadAlike

namespace Guard

/-- No text is an exception: blank text is read as what constrains nothing. -/
theorem compile_manual (mode : CompileMode) (text : String) :
    (manual text).compile mode = (Expression.parse mode.precedence text).compile mode.strict := by
  funext table
  cases blank : allBlank text.toList <;> simp [compile, isVacuous, Expression.parse, Expression.compile, blank]

theorem compile_trimText_lenient (precedence : Precedence) (text : String) :
    (manual (trimText text)).compile ⟨precedence, false⟩ = (manual text).compile ⟨precedence, false⟩ := by
  rw [compile_manual, compile_manual]
  exact (Expression.readAlike_trimText precedence text).compile_lenient

theorem compile_trimText (mode : CompileMode) (text : String) :
    ((manual (trimText text)).compile mode).Alike ((manual text).compile mode) := by
  rw [compile_manual, compile_manual]
  exact (Expression.readAlike_trimText mode.precedence text).compile

end Guard

end TransitionGuards
