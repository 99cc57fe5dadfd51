import TransitionGuards.Proofs.Sentences

/-
  Reading what has been written out.

  The text of an expression is one that the grammar derives, and it denotes that
  expression (`sentence_chars`), provided that the expression is `Proper`: at
  least two parts in every conjunction and disjunction, comparisons of names as
  its leaves. That is what the grammar derives in the first place
  (`Grammar.Sentence.proper`), so a text that has been read can be written out
  and read again.
-/

namespace TransitionGuards
open Grammar

/-! ## Numbers -/

theorem digitValue_digitChar : ∀ d < 10, digitValue (digitChar d) = d := by decide

theorem isDigit_digitChar : ∀ d < 10, (digitChar d).isDigit = true := by decide

theorem digits_spec (n : Nat) : isDigits (digits n) = true ∧ digitsValue (digits n) = n := by
  rw [isDigits_iff, digits]
  split
  · next small =>
    have value := digitValue_digitChar n small
    exact ⟨by simp [isDigit_digitChar n small], by simp [digitsValue, value]⟩
  · -- the digits of a tenth, and the last one
    obtain ⟨run, value⟩ := digits_spec (n / 10)
    have small : n % 10 < 10 := Nat.mod_lt n (by omega)
    constructor
    · refine ⟨by simp, fun x hx => ?_⟩
      rcases List.mem_append.1 hx with hx | hx
      · exact (isDigits_iff.1 run).2 x hx
      · rw [List.mem_singleton.1 hx]
        exact isDigit_digitChar _ small
    · rw [digitsValue, List.foldl_append]
      show digitsValue (digits (n / 10)) * 10 + digitValue (digitChar (n % 10)) = n
      rw [value, digitValue_digitChar _ small]
      omega

theorem integer_decimal (v : Int64) : Grammar.Integer (decimal v.toInt) v := by
  generalize hn : v.toInt = n
  cases n with
  | ofNat n =>
    obtain ⟨run, value⟩ := digits_spec n
    show Grammar.Integer (digits n) v
    exact .unsigned run (by rw [value, hn]; rfl)
  | negSucc n =>
    obtain ⟨run, value⟩ := digits_spec (n + 1)
    show Grammar.Integer ('-' :: digits (n + 1)) v
    exact .negative run (by rw [value, hn]; rfl)

/-! ## Comparisons -/

/-- Whether the comparison is one of a name. -/
structure Comparison.Proper (c : Comparison) : Prop where
  named : c.name ≠ ""
  name_chars : ∀ x ∈ c.name.toList, isNameChar x = true

theorem compared_chars {c : Comparison} (h : c.Proper) : Compared c.chars c := by
  have named : c.name.toList ≠ [] := fun empty => h.named (String.toList_eq_nil_iff.1 empty)
  have nothing : allBlank [] = true := rfl
  have space : allBlank [' '] = true := rfl
  have compared := Compared.of named h.name_chars (.number (c := c.comparator) (integer_decimal c.value))
    nothing space space nothing
  simpa [Comparison.chars, String.ofList_toList] using compared

/-! ## Expressions -/

namespace Expression

/-- Whether every conjunction and disjunction has at least two parts, and every
leaf is a comparison of a name. -/
inductive Proper : Expression → Prop
  | compare {c : Comparison} (proper : c.Proper) : Proper (.compare c)
  | all {parts : List Expression} (two : 2 ≤ parts.length) (proper : ∀ e ∈ parts, Proper e) : Proper (.all parts)
  | any {parts : List Expression} (two : 2 ≤ parts.length) (proper : ∀ e ∈ parts, Proper e) : Proper (.any parts)

theorem allOf_eq {es : List Expression} (two : 2 ≤ es.length) : allOf es = .all es := by
  match es, two with
  | _ :: _ :: _, _ => rfl

theorem anyOf_eq {es : List Expression} (two : 2 ≤ es.length) : anyOf es = .any es := by
  match es, two with
  | _ :: _ :: _, _ => rfl

/-- Whether the text of the expression is a primary, also with blanks before
it. -/
def Readable (e : Expression) : Prop := ∀ b, allBlank b = true → Primary (b ++ e.chars) e

/-- Readable expressions with ` && ` between them are a conjunction. -/
theorem conjunction_of_readable {b : List Char} (blank : allBlank b = true) : ∀ {es : List Expression}, es ≠ [] →
    (∀ e ∈ es, e.Readable) →
    Conjunction (b ++ ((charsAll es).intersperse [' ', '&', '&', ' ']).flatten) es
  | [e], _, readable => by
    simpa [charsAll] using Conjunction.one (readable e (List.mem_singleton_self e) b blank)
  | e :: e' :: es, _, readable => by
    obtain ⟨first, others⟩ := List.forall_mem_cons.1 readable
    have rest := conjunction_of_readable (b := [' ']) rfl (List.cons_ne_nil e' es) others
    have := Conjunction.more (first b blank) (b := [' ']) rfl rest
    simpa [charsAll] using this

theorem disjunction_of_readable {b : List Char} (blank : allBlank b = true) : ∀ {es : List Expression}, es ≠ [] →
    (∀ e ∈ es, e.Readable) →
    Disjunction (b ++ ((charsAll es).intersperse [' ', '|', '|', ' ']).flatten) es
  | [e], _, readable => by
    simpa [charsAll, allOf] using Disjunction.one (.one (readable e (List.mem_singleton_self e) b blank))
  | e :: e' :: es, _, readable => by
    obtain ⟨first, others⟩ := List.forall_mem_cons.1 readable
    have rest := disjunction_of_readable (b := [' ']) rfl (List.cons_ne_nil e' es) others
    have := Disjunction.more (.one (first b blank)) (b := [' ']) rfl rest
    simpa [charsAll, allOf] using this

/-- What stands in parentheses can be read, blanks before it or not. -/
theorem readable_of_disjunction {e : Expression} {s : List Char} {es : List Expression} (inner : Disjunction s es)
    (written : e.chars = '(' :: (s ++ [')'])) (denoted : anyOf es = e) : e.Readable := by
  intro b blank
  have nothing : allBlank [] = true := rfl
  rw [written, ← denoted]
  exact .group blank inner nothing

theorem Proper.readable {e : Expression} (h : e.Proper) : e.Readable := by
  induction h with
  | @compare c proper =>
    exact readable_of_disjunction (.one (.one (.comparison (compared_chars proper)))) rfl rfl
  | @all parts two _ ih =>
    have nonempty : parts ≠ [] := by
      rintro rfl
      cases two
    apply readable_of_disjunction (.one (conjunction_of_readable (b := []) rfl nonempty ih)) rfl
    show allOf parts = _
    exact allOf_eq two
  | @any parts two _ ih =>
    have nonempty : parts ≠ [] := by
      rintro rfl
      cases two
    exact readable_of_disjunction (disjunction_of_readable (b := []) rfl nonempty ih) rfl (anyOf_eq two)

/-- The text of an expression denotes the expression. -/
theorem sentence_chars {e : Expression} (h : e.Proper) : Sentence e.chars e := by
  have primary := h.readable [] rfl
  simpa [allOf, anyOf] using Sentence.of (.one (.one primary)) (b := []) rfl

/-! ## What the grammar derives -/

theorem Proper.allOf {es : List Expression} (nonempty : es ≠ []) (h : ∀ e ∈ es, e.Proper) : (allOf es).Proper := by
  match es, nonempty with
  | [e], _ => exact h e (List.mem_singleton_self e)
  | _ :: _ :: _, _ => exact .all (by simp) h

theorem Proper.anyOf {es : List Expression} (nonempty : es ≠ []) (h : ∀ e ∈ es, e.Proper) : (anyOf es).Proper := by
  match es, nonempty with
  | [e], _ => exact h e (List.mem_singleton_self e)
  | _ :: _ :: _, _ => exact .any (by simp) h

end Expression

theorem Grammar.Compared.proper {s : List Char} {c : Comparison} : Compared s c → c.Proper
  | .of named name_chars _ _ _ _ _ => {
      named := fun empty => named (String.ofList_eq_empty_iff.1 empty)
      name_chars := by rwa [String.toList_ofList] }

mutual

theorem Grammar.Primary.proper {s : List Char} {e : Expression} : Primary s e → e.Proper
  | .comparison compared => .compare compared.proper
  | .group _ inner _ => .anyOf inner.proper.1 inner.proper.2

theorem Grammar.Conjunction.proper {s : List Char} {es : List Expression} : Conjunction s es → es ≠ [] ∧ ∀ e ∈ es, e.Proper
  | .one first => ⟨List.cons_ne_nil _ _, List.forall_mem_singleton.2 first.proper⟩
  | .more first _ rest => ⟨List.cons_ne_nil _ _, List.forall_mem_cons.2 ⟨first.proper, rest.proper.2⟩⟩

theorem Grammar.Disjunction.proper {s : List Char} {es : List Expression} : Disjunction s es → es ≠ [] ∧ ∀ e ∈ es, e.Proper
  | .one first => ⟨List.cons_ne_nil _ _, List.forall_mem_singleton.2 (.allOf first.proper.1 first.proper.2)⟩
  | .more first _ rest =>
    ⟨List.cons_ne_nil _ _, List.forall_mem_cons.2 ⟨.allOf first.proper.1 first.proper.2, rest.proper.2⟩⟩

end

/-- What a text of the grammar denotes is proper. -/
theorem Grammar.Sentence.proper {s : List Char} {e : Expression} : Sentence s e → e.Proper
  | .of disjunction _ => .anyOf disjunction.proper.1 disjunction.proper.2

/-! ## Reading what has been written out -/

namespace Expression

theorem Proper.chars_not_blank {e : Expression} (h : e.Proper) : allBlank e.chars = false := by
  cases h <;> rfl

theorem parse_text {e : Expression} (h : e.Proper) : parse .standard e.text = e := by
  have written : e.text.toList = e.chars := String.toList_ofList
  simp [parse, written, h.chars_not_blank, readStandard_eq_ok_iff.2 (sentence_chars h)]

theorem sentence_of_parse {text : String} (notBlank : allBlank text.toList = false)
    (whole : (parse .standard text).hasUnparsed = false) : Sentence text.toList (parse .standard text) := by
  rcases parse_standard_cases notBlank with sentence | ⟨reason, leaf⟩
  · exact sentence
  · rw [leaf] at whole
    cases whole

/-- Writing out and reading are inverse. A proper expression is read back from
its text, and a comparison of a name from its own. What has been read everywhere
is proper, so it is read back as well. -/
theorem parse_text_exact :
    (∀ e : Expression, e.Proper → parse .standard e.text = e) ∧
    (∀ text, allBlank text.toList = false → (parse .standard text).hasUnparsed = false →
      (parse .standard text).Proper ∧ parse .standard (parse .standard text).text = parse .standard text) ∧
    ∀ c : Comparison, c.Proper → Comparison.parse c.text = .ok c := by
  refine ⟨fun e => parse_text, fun text notBlank whole => ?_, fun c proper => ?_⟩
  · have proper := (sentence_of_parse notBlank whole).proper
    exact ⟨proper, parse_text proper⟩
  · have written : c.text.toList = c.chars := String.toList_ofList
    rw [Comparison.parse, written, Comparison.read_eq_ok_iff.2 (compared_chars proper)]

/-- A conjunction in a conjunction, with names that look like literals. -/
def nested : Expression :=
  .all [.all [.compare ⟨"true", .ge, Int64.minValue⟩, .compare ⟨"1", .ne, 0⟩], .compare ⟨"x", .lt, Int64.maxValue⟩]

theorem nested_proper : nested.Proper := by
  have leaf {name : String} {c : Comparator} {v : Int64} (named : name ≠ "")
      (name_chars : name.toList.all isNameChar = true) : (Expression.compare ⟨name, c, v⟩).Proper :=
    .compare ⟨named, List.all_eq_true.1 name_chars⟩
  refine .all (by decide) (List.forall_mem_cons.2 ⟨.all (by decide) ?_, List.forall_mem_singleton.2 ?_⟩)
  · refine List.forall_mem_cons.2 ⟨?_, List.forall_mem_singleton.2 ?_⟩
    · exact leaf (by decide) (by decide +kernel)
    · exact leaf (by decide) (by decide +kernel)
  · exact leaf (by decide) (by decide +kernel)

theorem parse_text_exact_nested :
    (nested.Proper ∧ parse .standard nested.text = nested) ∧
    (allBlank "((a==1))&&b<-2||c>3".toList = false ∧
      (parse .standard "((a==1))&&b<-2||c>3").hasUnparsed = false ∧
      parse .standard (parse .standard "((a==1))&&b<-2||c>3").text = parse .standard "((a==1))&&b<-2||c>3") ∧
    let least : Comparison := ⟨"_", .le, Int64.minValue⟩
    least.Proper ∧ Comparison.parse least.text = .ok least := by
  obtain ⟨writes, reads, compares⟩ := parse_text_exact
  have notBlank : allBlank "((a==1))&&b<-2||c>3".toList = false := by decide +kernel
  have whole : (parse .standard "((a==1))&&b<-2||c>3").hasUnparsed = false := by decide +kernel
  have proper : (Comparison.mk "_" .le Int64.minValue).Proper :=
    ⟨by decide, List.all_eq_true.1 (by decide +kernel)⟩
  exact ⟨⟨nested_proper, writes _ nested_proper⟩, ⟨notBlank, whole, (reads _ notBlank whole).2⟩, proper, compares _ proper⟩

end Expression

end TransitionGuards
