import TransitionGuards.Expression.Reader
import TransitionGuards.Proofs.ComparisonText

/-
  Reading under standard precedence and the grammar agree.

  The readers are seen through what they yield (`Reads`), a repetition through
  `Repeats`: items one after another, as many as there are. Whatever is read is
  derivable (`disjunction_of_reads`), by induction on the length of the text.
  Whatever is derivable is read (`complete_disjunction`), by induction on the
  derivation; there, any text may stand behind that begins with a character at
  which the reader has to stop (`Complete`).
-/

namespace TransitionGuards

namespace Expression
open Grammar

variable {s t r r' b u v : List Char} {e e' : Expression} {es es' : List Expression} {sep : Char}

/-! ## What is read -/

/-- Whether the result of a reader is `e` and what is left `r`. -/
def Reads {p : List Char → Prop} (result : Except Failure (Expression × { r : List Char // p r }))
    (e : Expression) (r : List Char) : Prop :=
  match result with
  | .ok (e', left) => e' = e ∧ left.1 = r
  | .error _ => False

section
variable {p : List Char → Prop} {result : Except Failure (Expression × { r : List Char // p r })}

theorem Reads.unique (h : Reads result e r) (h' : Reads result e' r') : e = e' ∧ r = r' := by
  cases result with
  | error f => cases h
  | ok read =>
    obtain ⟨rfl, rfl⟩ := h
    exact h'

theorem Reads.of_ok {left : { r : List Char // p r }} (h : result = .ok (e, left)) : Reads result e left.1 := by
  rw [h]
  exact ⟨rfl, rfl⟩

theorem not_reads {f : Failure} (h : result = .error f) : ¬Reads result e r := by
  rw [h]
  exact id

end

/-- A reader of single expressions. -/
abbrev ItemReader := (s : List Char) → Except Failure (Expression × Shorter s)

/-- Items read one after another with `sep` twice before each, as many as there
are. -/
inductive Repeats (sep : Char) (item : ItemReader) : List Char → List Expression → List Char → Prop
  | stop {s : List Char} (none : ∀ t, skipBlanks s = sep :: sep :: t → ∀ e r, ¬Reads (item t) e r) :
      Repeats sep item s [] s
  | next {s t r r' : List Char} {e : Expression} {es : List Expression}
      (separator : skipBlanks s = sep :: sep :: t) (first : Reads (item t) e r) (rest : Repeats sep item r es r') :
      Repeats sep item s (e :: es) r'

/-- An item, and others behind it. -/
inductive Items (sep : Char) (item : ItemReader) : List Char → List Expression → List Char → Prop
  | of {s r r' : List Char} {e : Expression} {es : List Expression} (first : Reads (item s) e r)
      (rest : Repeats sep item r es r') : Items sep item s (e :: es) r'

section
variable {item : ItemReader}

theorem Repeats.unique (h : Repeats sep item s es r) (h' : Repeats sep item s es' r') : es = es' ∧ r = r' := by
  induction h generalizing es' r' with
  | stop none =>
    cases h' with
    | stop _ => exact ⟨rfl, rfl⟩
    | next separator first _ => exact absurd first (none _ separator _ _)
  | next separator first _ ih =>
    cases h' with
    | stop none => exact absurd first (none _ separator _ _)
    | next separator' first' rest' =>
      rw [separator] at separator'
      cases separator'
      obtain ⟨rfl, rfl⟩ := first.unique first'
      obtain ⟨rfl, rfl⟩ := ih rest'
      exact ⟨rfl, rfl⟩

theorem Repeats.of_error {f : Failure} (separator : skipBlanks s = sep :: sep :: t) (failed : item t = .error f) :
    Repeats sep item s [] s := by
  refine .stop fun t' separator' e r read => ?_
  rw [separator] at separator'
  cases separator'
  exact not_reads failed read

theorem Repeats.of_ok {left : Shorter t} (separator : skipBlanks s = sep :: sep :: t)
    (read : item t = .ok (e, left)) (rest : Repeats sep item left.1 es r) : Repeats sep item s (e :: es) r :=
  .next separator (.of_ok read) rest

/-- A reader that reads an item and then as many more as there are. -/
theorem reads_iff_items {more : (r : List Char) → List Expression × Left r} {join : List Expression → Expression}
    {result : Except Failure (Expression × Shorter s)}
    (repeats : ∀ r, Repeats sep item r (more r).1 (more r).2.1)
    (error : ∀ f, item s = .error f → result = .error f)
    (ok : ∀ e r h, item s = .ok (e, ⟨r, h⟩) → ∃ h', result = .ok (join (e :: (more r).1), ⟨(more r).2.1, h'⟩)) :
    Reads result e r ↔ ∃ es, Items sep item s es r ∧ e = join es := by
  cases read : item s with
  | error f =>
    refine iff_of_false (not_reads (error f read)) ?_
    rintro ⟨_, ⟨first, _⟩, _⟩
    exact not_reads read first
  | ok pair =>
    obtain ⟨e₁, r₁, h⟩ := pair
    obtain ⟨h', hresult⟩ := ok e₁ r₁ h read
    have first : Reads (item s) e₁ r₁ := .of_ok read
    rw [hresult]
    constructor
    · rintro ⟨rfl, rfl⟩
      exact ⟨_, .of first (repeats r₁), rfl⟩
    · rintro ⟨_, ⟨first', rest'⟩, rfl⟩
      obtain ⟨rfl, rfl⟩ := first.unique first'
      obtain ⟨rfl, rfl⟩ := (repeats r₁).unique rest'
      exact ⟨rfl, rfl⟩

end

/-! ## The readers -/

theorem readComparison_paren (h : skipBlanks s = '(' :: t) : ∃ f, readComparison s = .error f := by
  have none : ('(' :: t).takeWhile isNameChar = [] :=
    List.takeWhile_cons_of_neg (ne_true_of_eq_false (isNameChar_of_mark (by decide) (by decide)))
  rw [readComparison, h, readName, none]
  exact ⟨_, rfl⟩

theorem reads_readPrimary_paren (h : skipBlanks s = '(' :: t) : Reads (readPrimary s) e r ↔
    ∃ r', Reads (readAny t) e r' ∧ skipBlanks r' = ')' :: r := by
  rw [readPrimary]
  split
  · next h' =>
    rw [h'] at h
    cases h
  · next c rest h' =>
    rw [h'] at h
    cases h
    rw [if_pos rfl]
    split
    · next e' r' hr' read =>
      -- what stands in parentheses counts only if the closing one comes next
      rw [read]
      split
      · next r₂ close =>
        constructor
        · rintro ⟨rfl, rfl⟩
          exact ⟨r', ⟨rfl, rfl⟩, close⟩
        · rintro ⟨_, ⟨rfl, rfl⟩, close'⟩
          rw [close] at close'
          cases close'
          exact ⟨rfl, rfl⟩
      · next noClose =>
        refine iff_of_false (not_reads rfl) ?_
        rintro ⟨_, ⟨rfl, rfl⟩, close⟩
        exact noClose _ close
    · next f failed =>
      refine iff_of_false (not_reads rfl) ?_
      rintro ⟨_, read, _⟩
      exact not_reads failed read

theorem reads_readPrimary_other (other : ∀ t, skipBlanks s ≠ '(' :: t) : Reads (readPrimary s) e r ↔
    ∃ cmp, readComparison s = .ok (cmp, r) ∧ e = .compare cmp := by
  have same : readComparison s = readComparison (skipBlanks s) := readComparison_congr (skipBlanks_skipBlanks s).symm
  rw [readPrimary]
  split
  · next h =>
    refine iff_of_false (not_reads rfl) ?_
    rintro ⟨_, read, _⟩
    rw [same, h] at read
    cases read
  · next c rest h =>
    have hc : c ≠ '(' := by
      rintro rfl
      exact other rest h
    rw [if_neg hc]
    rw [h] at same
    split
    · next cmp r' read =>
      constructor
      · rintro ⟨rfl, rfl⟩
        exact ⟨cmp, same.trans read, rfl⟩
      · rintro ⟨_, read', rfl⟩
        cases read.symm.trans (same.symm.trans read')
        exact ⟨rfl, rfl⟩
    · next f read =>
      refine iff_of_false (not_reads rfl) ?_
      rintro ⟨_, read', _⟩
      cases read.symm.trans (same.symm.trans read')

theorem reads_readPrimary_iff : Reads (readPrimary s) e r ↔
    (∃ t r', skipBlanks s = '(' :: t ∧ Reads (readAny t) e r' ∧ skipBlanks r' = ')' :: r) ∨
      ∃ cmp, readComparison s = .ok (cmp, r) ∧ e = .compare cmp := by
  by_cases paren : ∃ t, skipBlanks s = '(' :: t
  · obtain ⟨t, h⟩ := paren
    obtain ⟨f, failed⟩ := readComparison_paren h
    rw [reads_readPrimary_paren h]
    simp [h, failed]
  · rw [reads_readPrimary_other (not_exists.1 paren)]
    simp [not_exists.1 paren]

theorem length_lt_of_skipBlanks {c d : Char} (h : skipBlanks s = c :: d :: t) : t.length < s.length := by
  have := length_skipBlanks_le s
  rw [h] at this
  simp only [List.length_cons] at this
  omega

theorem repeats_readMoreAll (s : List Char) : Repeats '&' readPrimary s (readMoreAll s).1 (readMoreAll s).2.1 := by
  rw [readMoreAll]
  split
  · next rest separator =>
    dsimp only
    split
    · next f failed => exact .of_error separator failed
    · next e r hr read =>
      have shorter := Nat.lt_trans hr (length_lt_of_skipBlanks separator)
      exact .of_ok separator read (repeats_readMoreAll r)
  · next noSeparator => exact .stop fun t separator => absurd separator (noSeparator t)
termination_by s.length

theorem repeats_readMoreAny (s : List Char) : Repeats '|' readAll s (readMoreAny s).1 (readMoreAny s).2.1 := by
  rw [readMoreAny]
  split
  · next rest separator =>
    dsimp only
    split
    · next f failed => exact .of_error separator failed
    · next e r hr read =>
      have shorter := Nat.lt_trans hr (length_lt_of_skipBlanks separator)
      exact .of_ok separator read (repeats_readMoreAny r)
  · next noSeparator => exact .stop fun t separator => absurd separator (noSeparator t)
termination_by s.length

theorem reads_readAll_iff : Reads (readAll s) e r ↔ ∃ es, Items '&' readPrimary s es r ∧ e = allOf es := by
  apply reads_iff_items repeats_readMoreAll
  · intro f failed
    rw [readAll, failed]
  · intro e r h read
    rw [readAll, read]
    exact ⟨_, rfl⟩

theorem reads_readAny_iff : Reads (readAny s) e r ↔ ∃ es, Items '|' readAll s es r ∧ e = anyOf es := by
  apply reads_iff_items repeats_readMoreAny
  · intro f failed
    rw [readAny, failed]
  · intro e r h read
    rw [readAny, read]
    exact ⟨_, rfl⟩

/-! ## What is read is derivable -/

section
variable {item : ItemReader} {Item : List Char → Expression → Prop} {Many : List Char → List Expression → Prop}

theorem Repeats.derivable (one : ∀ u e, Item u e → Many u [e])
    (more : ∀ u b v e es, Item u e → allBlank b = true → Many v es → Many (u ++ (b ++ sep :: sep :: v)) (e :: es))
    (sound : ∀ t' e r, t'.length ≤ t.length → Reads (item t') e r → ∃ u, t' = u ++ r ∧ Item u e)
    (rest : Repeats sep item t es r) (first : Item u e) : ∃ w, t = w ++ r ∧ Many (u ++ w) (e :: es) := by
  induction rest generalizing u e with
  | stop none =>
    refine ⟨[], rfl, ?_⟩
    rw [List.append_nil]
    exact one u e first
  | @next s t r r' e' es separator second rest ih =>
    have shorter := length_lt_of_skipBlanks separator
    obtain ⟨v, rfl, derivable⟩ := sound _ _ _ (Nat.le_of_lt shorter) second
    obtain ⟨b, between, hs⟩ := exists_blanks s
    rw [List.length_append] at shorter
    obtain ⟨w, rfl, many⟩ := ih (fun t' e r ht => sound t' e r (by omega)) derivable
    refine ⟨b ++ sep :: sep :: (v ++ w), ?_, more u b _ e _ first between many⟩
    rw [hs, separator]
    simp

theorem Items.derivable (one : ∀ u e, Item u e → Many u [e])
    (more : ∀ u b v e es, Item u e → allBlank b = true → Many v es → Many (u ++ (b ++ sep :: sep :: v)) (e :: es))
    (sound : ∀ t e r, t.length ≤ s.length → Reads (item t) e r → ∃ u, t = u ++ r ∧ Item u e)
    (h : Items sep item s es r) : ∃ u, s = u ++ r ∧ Many u es := by
  obtain ⟨first, rest⟩ := h
  obtain ⟨u, rfl, derivable⟩ := sound _ _ _ (Nat.le_refl _) first
  rw [List.length_append] at sound
  obtain ⟨w, rfl, many⟩ := rest.derivable one more (fun t e r ht => sound t e r (by omega)) derivable
  exact ⟨u ++ w, (List.append_assoc ..).symm, many⟩

end

theorem primary_of_reads
    (inner : ∀ {t e r}, t.length < s.length → Reads (readAny t) e r →
      ∃ u, t = u ++ r ∧ ∃ es, Disjunction u es ∧ e = anyOf es)
    (h : Reads (readPrimary s) e r) : ∃ u, s = u ++ r ∧ Primary u e := by
  rw [reads_readPrimary_iff] at h
  obtain ⟨t, r', parenthesis, read, close⟩ | ⟨cmp, read, rfl⟩ := h
  · obtain ⟨b, before, hs⟩ := exists_blanks s
    obtain ⟨b', after, hr'⟩ := exists_blanks r'
    have shorter : t.length < s.length := by
      rw [hs, parenthesis]
      simp
      omega
    obtain ⟨u, rfl, es, disjunction, rfl⟩ := inner shorter read
    refine ⟨_, ?_, .group before disjunction after⟩
    rw [hs, parenthesis, hr', close]
    simp
  · obtain ⟨u, rfl, compared⟩ := compared_of_readComparison read
    exact ⟨u, rfl, .comparison compared⟩

theorem disjunction_of_reads {s r : List Char} {e : Expression} (h : Reads (readAny s) e r) :
    ∃ u, s = u ++ r ∧ ∃ es, Disjunction u es ∧ e = anyOf es := by
  -- a group is a disjunction in a shorter text, which is what the recursion is on
  have primary (t e r) (ht : t.length ≤ s.length) (h : Reads (readPrimary t) e r) :
      ∃ u, t = u ++ r ∧ Primary u e :=
    primary_of_reads (fun shorter => disjunction_of_reads) h
  have conjunction (t e r) (ht : t.length ≤ s.length) (h : Reads (readAll t) e r) :
      ∃ u, t = u ++ r ∧ ∃ es, Conjunction u es ∧ e = allOf es := by
    obtain ⟨es, items, rfl⟩ := reads_readAll_iff.1 h
    obtain ⟨u, ht, many⟩ := items.derivable @Conjunction.one @Conjunction.more fun t' e r shorter =>
      primary t' e r (Nat.le_trans shorter ht)
    exact ⟨u, ht, es, many, rfl⟩
  obtain ⟨es, items, rfl⟩ := reads_readAny_iff.1 h
  have one (u e) (first : ∃ es, Conjunction u es ∧ e = allOf es) : Disjunction u [e] := by
    obtain ⟨_, first, rfl⟩ := first
    exact .one first
  have more (u b v e ds) (first : ∃ es, Conjunction u es ∧ e = allOf es) (between : allBlank b = true)
      (rest : Disjunction v ds) : Disjunction (u ++ (b ++ '|' :: '|' :: v)) (e :: ds) := by
    obtain ⟨_, first, rfl⟩ := first
    exact .more first between rest
  obtain ⟨u, hs, many⟩ := items.derivable one more conjunction
  exact ⟨u, hs, es, many, rfl⟩
termination_by s.length

/-! ## What is derivable is read -/

/-- Whether a text is read as a whole, as `a`, up to blanks before and behind,
when nothing comes behind it or one of the characters `stop`. -/
def Complete {α : Type} (stop : List Char) (reads : List Char → α → List Char → Prop) (u : List Char) (a : α) : Prop :=
  ∀ s r, skipBlanks s = skipBlanks (u ++ r) → (∀ c ∈ (skipBlanks r).head?, c ∈ stop) →
    ∃ r', reads s a r' ∧ skipBlanks r' = skipBlanks r

section
variable {item : ItemReader} {stop : List Char}

theorem Complete.one (h : Complete (sep :: stop) (fun s => Reads (item s)) u e) (other : sep ∉ stop) :
    Complete stop (Items sep item) u [e] := by
  intro s r hs behind
  obtain ⟨r', first, hr'⟩ := h s r hs fun c hc => List.mem_cons_of_mem _ (behind c hc)
  refine ⟨r', .of first (.stop fun t separator => ?_), hr'⟩
  rw [hr'] at separator
  rw [separator] at behind
  exact absurd (behind sep rfl) other

theorem Complete.more (h : Complete (sep :: stop) (fun s => Reads (item s)) u e) (mark : isBlank sep = false)
    (between : allBlank b = true) (rest : Complete stop (Items sep item) v es) :
    Complete stop (Items sep item) (u ++ (b ++ sep :: sep :: v)) (e :: es) := by
  intro s r hs behind
  have separator : skipBlanks (b ++ sep :: sep :: (v ++ r)) = sep :: sep :: (v ++ r) := by
    rw [skipBlanks_append between, skipBlanks_cons mark]
  obtain ⟨r₁, first, hr₁⟩ := h s (b ++ sep :: sep :: (v ++ r)) (by simpa using hs) fun c hc => by
    rw [separator] at hc
    cases hc
    exact List.mem_cons_self ..
  obtain ⟨r₂, ⟨second, others⟩, hr₂⟩ := rest (v ++ r) r rfl behind
  exact ⟨r₂, .of first (.next (hr₁.trans separator) second others), hr₂⟩

end

theorem complete_comparison {cmp : Comparison} (compared : Compared u cmp) :
    Complete ['&', '|', ')'] (fun s => Reads (readPrimary s)) u (.compare cmp) := by
  intro s r hs behind
  have noDigit : ∀ c ∈ ['&', '|', ')'], c.isDigit = false := by simp
  have read := readComparison_of_compared compared hs fun c hc => noDigit c (behind c hc)
  exact ⟨skipBlanks r, reads_readPrimary_iff.2 (.inr ⟨cmp, read, rfl⟩), skipBlanks_skipBlanks r⟩

theorem complete_group {b' : List Char} (before : allBlank b = true) (after : allBlank b' = true)
    (inner : Complete [')'] (Items '|' readAll) u es) :
    Complete ['&', '|', ')'] (fun s => Reads (readPrimary s)) (b ++ '(' :: (u ++ (b' ++ [')']))) (anyOf es) := by
  intro s r hs _
  have opened : skipBlanks s = '(' :: (u ++ (b' ++ ')' :: r)) := by
    rw [hs, List.append_assoc, skipBlanks_append before]
    simp [skipBlanks_cons (c := '(') rfl]
  have closed : skipBlanks (b' ++ ')' :: r) = ')' :: r := by
    rw [skipBlanks_append after, skipBlanks_cons rfl]
  obtain ⟨r', items, hr'⟩ := inner (u ++ (b' ++ ')' :: r)) (b' ++ ')' :: r) rfl fun c hc => by
    rw [closed] at hc
    cases hc
    exact List.mem_cons_self ..
  have read : Reads (readAny (u ++ (b' ++ ')' :: r))) (anyOf es) r' := reads_readAny_iff.2 ⟨es, items, rfl⟩
  exact ⟨r, reads_readPrimary_iff.2 (.inl ⟨_, r', opened, read, hr'.trans closed⟩), rfl⟩

theorem complete_all (h : Complete ['|', ')'] (Items '&' readPrimary) u es) :
    Complete ['|', ')'] (fun s => Reads (readAll s)) u (allOf es) := by
  intro s r hs behind
  obtain ⟨r', items, hr'⟩ := h s r hs behind
  exact ⟨r', reads_readAll_iff.2 ⟨es, items, rfl⟩, hr'⟩

mutual

theorem complete_primary {u : List Char} {e : Expression} :
    Primary u e → Complete ['&', '|', ')'] (fun s => Reads (readPrimary s)) u e
  | .comparison compared => complete_comparison compared
  | .group before inner after => complete_group before after (complete_disjunction inner)

theorem complete_conjunction {u : List Char} {es : List Expression} :
    Conjunction u es → Complete ['|', ')'] (Items '&' readPrimary) u es
  | .one first => (complete_primary first).one (by decide)
  | .more first between rest => (complete_primary first).more rfl between (complete_conjunction rest)

theorem complete_disjunction {u : List Char} {es : List Expression} :
    Disjunction u es → Complete [')'] (Items '|' readAll) u es
  | .one first => (complete_all (complete_conjunction first)).one (by decide)
  | .more first between rest =>
    (complete_all (complete_conjunction first)).more rfl between (complete_disjunction rest)

end

/-! ## Whole texts -/

/-- A text of the grammar is read, whatever blanks it begins with. -/
theorem readStandard_of_sentence (same : skipBlanks s = skipBlanks t) (h : Sentence t e) : readStandard s = .ok e := by
  obtain @⟨u, b, es, disjunction, after⟩ := h
  have blank := skipBlanks_eq_nil_iff.2 after
  obtain ⟨r', items, hr'⟩ := complete_disjunction disjunction s b same fun c hc => by
    rw [blank] at hc
    cases hc
  have read : Reads (readAny s) (anyOf es) r' := reads_readAny_iff.2 ⟨es, items, rfl⟩
  unfold readStandard
  split
  · next failed => exact absurd read (not_reads failed)
  · next e' r hr ok =>
    rw [ok] at read
    obtain ⟨rfl, rfl⟩ := read
    simp only [hr'.trans blank]

/-- The texts that are read are those of the grammar, and they are read as what
they denote. -/
theorem readStandard_eq_ok_iff : readStandard s = .ok e ↔ Sentence s e := by
  refine ⟨fun h => ?_, readStandard_of_sentence rfl⟩
  unfold readStandard at h
  split at h
  · cases h
  · next e' r hr read =>
    split at h
    · next blank =>
      cases h
      obtain ⟨u, hs, es, disjunction, rfl⟩ := disjunction_of_reads (.of_ok read)
      rw [hs]
      exact .of disjunction (skipBlanks_eq_nil_iff.1 blank)
    · cases h

theorem parse_of_sentence {text : String} (notBlank : allBlank text.toList = false) (h : Sentence text.toList e) :
    parse .standard text = e := by
  simp [parse, notBlank, readStandard_eq_ok_iff.2 h]

/-- Under standard precedence a text that is not blank is what the grammar says, or
else a single leaf with the trimmed text. -/
theorem parse_standard_cases {text : String} (notBlank : allBlank text.toList = false) :
    Sentence text.toList (parse .standard text) ∨
      ∃ reason, parse .standard text = .unparsed (trimText text) reason := by
  cases read : readStandard text.toList with
  | ok e =>
    have sentence := readStandard_eq_ok_iff.1 read
    exact .inl (parse_of_sentence notBlank sentence ▸ sentence)
  | error f => exact .inr ⟨f.render text.toList, by simp [parse, notBlank, read]⟩

/-! ## Leaves that could not be read -/

theorem hasUnparsed_allOf (es : List Expression) : (allOf es).hasUnparsed = anyUnparsed es := by
  unfold allOf
  split <;> simp [hasUnparsed, anyUnparsed]

theorem hasUnparsed_anyOf (es : List Expression) : (anyOf es).hasUnparsed = anyUnparsed es := by
  unfold anyOf
  split <;> simp [hasUnparsed, anyUnparsed]

mutual

theorem hasUnparsed_primary {u : List Char} {e : Expression} : Primary u e → e.hasUnparsed = false
  | .comparison _ => rfl
  | .group _ inner _ => (hasUnparsed_anyOf _).trans (anyUnparsed_disjunction inner)

theorem anyUnparsed_conjunction {u : List Char} {es : List Expression} : Conjunction u es → anyUnparsed es = false
  | .one first => by rw [anyUnparsed, hasUnparsed_primary first]; rfl
  | .more first _ rest => by rw [anyUnparsed, hasUnparsed_primary first, anyUnparsed_conjunction rest]; rfl

theorem anyUnparsed_disjunction {u : List Char} {es : List Expression} : Disjunction u es → anyUnparsed es = false
  | .one first => by rw [anyUnparsed, hasUnparsed_allOf, anyUnparsed_conjunction first]; rfl
  | .more first _ rest => by
    rw [anyUnparsed, hasUnparsed_allOf, anyUnparsed_conjunction first, anyUnparsed_disjunction rest]; rfl

end

/-- What a text of the grammar denotes has been read everywhere. -/
theorem hasUnparsed_sentence : Sentence s e → e.hasUnparsed = false
  | .of disjunction _ => (hasUnparsed_anyOf _).trans (anyUnparsed_disjunction disjunction)

/-- Under standard precedence a text that is not blank has been read everywhere
exactly if the grammar derives it. Then it is what it denotes; if not, it is one
leaf with the trimmed text. -/
theorem parse_standard_exact (text : String) (notBlank : allBlank text.toList = false) :
    ((parse .standard text).hasUnparsed = false ↔ ∃ e, Sentence text.toList e) ∧
    (∀ e, Sentence text.toList e → parse .standard text = e) ∧
    ((¬∃ e, Sentence text.toList e) → ∃ reason, parse .standard text = .unparsed (trimText text) reason) := by
  have derived {e} : Sentence text.toList e → parse .standard text = e := parse_of_sentence notBlank
  have other (underivable : ¬∃ e, Sentence text.toList e) :
      ∃ reason, parse .standard text = .unparsed (trimText text) reason := by
    rcases parse_standard_cases notBlank with sentence | leaf
    · exact absurd ⟨_, sentence⟩ underivable
    · exact leaf
  refine ⟨⟨fun whole => ?_, ?_⟩, fun e => derived, other⟩
  · by_contra underivable
    obtain ⟨reason, leaf⟩ := other underivable
    rw [leaf] at whole
    cases whole
  · rintro ⟨e, sentence⟩
    rw [derived sentence]
    exact hasUnparsed_sentence sentence

/-- A group under a conjunction is derivable, a separator with nothing behind it
is not. -/
theorem parse_standard_exact_nested :
    (∃ e, Sentence "(a == 1 || b >= -2) && c != TRUE".toList e ∧
      e.text = "(((a == 1) || (b >= -2)) && (c != 1))") ∧
    ¬∃ e, Sentence "a == 1 && ".toList e := by
  constructor
  · obtain ⟨derivable, denotes, _⟩ := parse_standard_exact "(a == 1 || b >= -2) && c != TRUE" (by decide +kernel)
    obtain ⟨e, sentence⟩ := derivable.1 (by decide +kernel)
    have written : (parse .standard "(a == 1 || b >= -2) && c != TRUE").text =
        "(((a == 1) || (b >= -2)) && (c != 1))" := by
      decide +kernel
    exact ⟨e, sentence, denotes e sentence ▸ written⟩
  · obtain ⟨derivable, _⟩ := parse_standard_exact "a == 1 && " (by decide +kernel)
    rw [← derivable]
    decide +kernel

end Expression

end TransitionGuards
