import TransitionGuards.Proofs.LegacyPieces
import TransitionGuards.Proofs.Sentences
import TransitionGuards.Proofs.Strictness

/-
  What the two precedences have in common.

  Cutting a text at the pairs of one character and every piece at the pairs of
  another gives the same pieces, in the same order, whichever character comes first
  (`flatMap_splitAtPairs_comm`). Blanks at the ends of a text end up at the ends of
  its first and last piece (`map_trim_splitAtPairs`).

  Without parentheses, the grammar of standard precedence is nothing but cutting at
  `||` and then at `&&` into comparisons (`sentence_iff_rows`), as legacy precedence
  is cutting at `&&` and then at `||`. So both read a text everywhere or neither
  does, and they read it as the same comparisons, grouped one way or the other.
-/

namespace TransitionGuards

namespace Expression
open Grammar

variable {c d : Char} {s p b : List Char} {pieces : List (List Char)}

/-! ## Cutting at two separators -/

theorem splitAtPairs_pair (c : Char) (s : List Char) : splitAtPairs c (c :: c :: s) = [] :: splitAtPairs c s :=
  splitAtPairs_append s (p := []) rfl

theorem exists_splitAtPairs (c : Char) (s : List Char) : ∃ p pieces, splitAtPairs c s = p :: pieces ∧ p <+: s := by
  have cut := cut_splitAtPairs c s
  generalize splitAtPairs c s = pieces at cut
  cases cut with
  | whole none => exact ⟨s, [], rfl, List.prefix_refl s⟩
  | pair first rest => exact ⟨_, _, rfl, List.prefix_append ..⟩

/-- A character that begins no pair is put in front of the first piece, and of the
first piece of that. -/
theorem flatMap_splitAtPairs_cons {x : Char} (hc : ¬(x = c ∧ s.head? = some c)) (hd : ¬(x = d ∧ s.head? = some d)) :
    (splitAtPairs c (x :: s)).flatMap (splitAtPairs d) =
      ((splitAtPairs c s).flatMap (splitAtPairs d)).modifyHead (x :: ·) := by
  obtain ⟨p, pieces, split, t, rfl⟩ := exists_splitAtPairs c s
  obtain ⟨q, more, split', _⟩ := exists_splitAtPairs d p
  have other : ¬(x = d ∧ p.head? = some d) := by
    rintro ⟨hx, hp⟩
    cases p with
    | nil => cases hp
    | cons y p => exact hd ⟨hx, hp⟩
  rw [splitAtPairs_cons hc split, split, List.flatMap_cons, List.flatMap_cons, splitAtPairs_cons other split', split']
  rfl

/-- A pair is found also in the pieces at another character. -/
theorem flatMap_splitAtPairs_pair (other : c ≠ d) (s : List Char) :
    (splitAtPairs d (c :: c :: s)).flatMap (splitAtPairs c) = [] :: (splitAtPairs d s).flatMap (splitAtPairs c) := by
  obtain ⟨p, pieces, split, _⟩ := exists_splitAtPairs d s
  have second := splitAtPairs_cons (x := c) (fun h => other h.1) split
  rw [splitAtPairs_cons (fun h => other h.1) second, split, List.flatMap_cons, List.flatMap_cons, splitAtPairs_pair]
  rfl

/-- The order of cutting makes no difference to the pieces. -/
theorem flatMap_splitAtPairs_comm (other : c ≠ d) : ∀ s : List Char,
    (splitAtPairs c s).flatMap (splitAtPairs d) = (splitAtPairs d s).flatMap (splitAtPairs c)
  | [] => rfl
  | [x] => rfl
  | x :: y :: s => by
    -- the text begins with a pair of `c`, with one of `d`, or with neither
    by_cases hc : x = c ∧ y = c
    · rw [hc.1, hc.2, splitAtPairs_pair, List.flatMap_cons, flatMap_splitAtPairs_pair other,
        flatMap_splitAtPairs_comm other s]
      rfl
    · by_cases hd : x = d ∧ y = d
      · rw [hd.1, hd.2, splitAtPairs_pair, List.flatMap_cons, flatMap_splitAtPairs_pair other.symm,
          ← flatMap_splitAtPairs_comm other s]
        rfl
      · have hc : ¬(x = c ∧ (y :: s).head? = some c) := by simpa using hc
        have hd : ¬(x = d ∧ (y :: s).head? = some d) := by simpa using hd
        rw [flatMap_splitAtPairs_cons hc hd, flatMap_splitAtPairs_cons hd hc, flatMap_splitAtPairs_comm other (y :: s)]

/-! ## Blanks around the text -/

theorem hasPair_of_notMem (h : c ∉ s) : hasPair c s = false := by
  apply eq_false_of_ne_true
  intro pair
  exact h (((hasPair_iff s).1 pair).subset (List.mem_cons_self ..))

theorem hasPair_append_singleton : ∀ {p : List Char}, c ∉ p → hasPair c (p ++ [c]) = false
  | [], _ => rfl
  | x :: p, h => by
    have first : x ≠ c := fun hx => h (hx ▸ List.mem_cons_self ..)
    rw [List.cons_append, hasPair_cons, decide_eq_false fun h => first h.1, Bool.false_or]
    exact hasPair_append_singleton fun hp => h (List.mem_cons_of_mem _ hp)

theorem hasPair_append_left (none : c ∉ b) (s : List Char) : hasPair c (b ++ s) = hasPair c s := by
  induction b with
  | nil => rfl
  | cons x b ih =>
    obtain ⟨first, rest⟩ := not_or.1 (List.mem_cons.not.1 none)
    rw [List.cons_append, hasPair_cons, decide_eq_false fun h => first h.1.symm, Bool.false_or, ih rest]

theorem hasPair_append_right (none : c ∉ b) : ∀ s : List Char, hasPair c (s ++ b) = hasPair c s
  | [] => hasPair_of_notMem none
  | x :: s => by
    have head : (s ++ b).head? = some c ↔ s.head? = some c := by
      cases s with
      | nil => exact iff_of_false (fun hb => none (List.mem_of_mem_head? hb)) nofun
      | cons y s => exact Iff.rfl
    rw [List.cons_append, hasPair_cons, hasPair_cons, hasPair_append_right none s]
    simp only [head]

theorem Cut.behind (none : c ∉ b) (blank : allBlank b = true) (cut : Cut c s pieces) :
    ∃ pieces', Cut c (s ++ b) pieces' ∧ pieces'.map trim = pieces.map trim := by
  induction cut with
  | @whole s whole =>
    exact ⟨[s ++ b], .whole ((hasPair_append_right none s).trans whole), by simp [trim_append_right blank]⟩
  | @pair p s pieces first rest ih =>
    obtain ⟨pieces', cut, same⟩ := ih
    refine ⟨p :: pieces', ?_, by simp [same]⟩
    rw [List.append_assoc]
    exact .pair first cut

theorem Cut.before (none : c ∉ b) (blank : allBlank b = true) (cut : Cut c s pieces) :
    ∃ pieces', Cut c (b ++ s) pieces' ∧ pieces'.map trim = pieces.map trim := by
  cases cut with
  | whole whole =>
    exact ⟨[b ++ s], .whole ((hasPair_append_left none s).trans whole), by simp [trim_append_left blank]⟩
  | @pair p s pieces first rest =>
    refine ⟨(b ++ p) :: pieces, ?_, by simp [trim_append_left blank]⟩
    rw [← List.append_assoc]
    refine .pair ?_ rest
    rwa [List.append_assoc, hasPair_append_left none]

/-- Up to blanks at their ends, the pieces of a text are those of the trimmed
text. -/
theorem map_trim_splitAtPairs (mark : isBlank c = false) (s : List Char) :
    (splitAtPairs c (trim s)).map trim = (splitAtPairs c s).map trim := by
  obtain ⟨b, b', blank, blank', hs⟩ := exists_trim s
  obtain ⟨inner, cut, same⟩ := (cut_splitAtPairs c (trim s)).behind (notMem_of_allBlank mark blank') blank'
  obtain ⟨outer, cut', same'⟩ := cut.before (notMem_of_allBlank mark blank) blank
  rw [← hs] at cut'
  calc (splitAtPairs c (trim s)).map trim
    _ = inner.map trim := same.symm
    _ = outer.map trim := same'.symm
    _ = (splitAtPairs c s).map trim := by rw [cut_iff.1 cut']

theorem map_splitAtPairs_trim {α : Type} {f : List Char → α} (same : ∀ p, f (trim p) = f p) (mark : isBlank c = false)
    (s : List Char) : (splitAtPairs c (trim s)).map f = (splitAtPairs c s).map f := by
  have trimmed := congrArg (List.map f) (map_trim_splitAtPairs mark s)
  simpa only [List.map_map, Function.comp_def, same] using trimmed

theorem forall₂_splitAtPairs_trim {α : Type} {R : List Char → α → Prop} (same : ∀ p a, R (trim p) a ↔ R p a)
    (mark : isBlank c = false) (s : List Char) (as : List α) :
    List.Forall₂ R (splitAtPairs c (trim s)) as ↔ List.Forall₂ R (splitAtPairs c s) as := by
  have trimmed (pieces : List (List Char)) : List.Forall₂ R (pieces.map trim) as ↔ List.Forall₂ R pieces as := by
    simp only [List.forall₂_map_left_iff, same]
  rw [← trimmed, map_trim_splitAtPairs mark, trimmed]

/-! ## Lists related part by part -/

theorem exists_forall₂_iff {α β : Type} {R : α → β → Prop} {as : List α} :
    (∃ bs, List.Forall₂ R as bs) ↔ ∀ a ∈ as, ∃ b, R a b := by
  induction as with
  | nil => simp
  | cons a as ih =>
    rw [List.forall_mem_cons, ← ih]
    constructor
    · rintro ⟨_, _ | ⟨first, rest⟩⟩
      exact ⟨⟨_, first⟩, _, rest⟩
    · rintro ⟨⟨_, first⟩, _, rest⟩
      exact ⟨_, .cons first rest⟩

theorem forall₂_flatMap_iff {α β γ : Type} {R : β → γ → Prop} {f : α → List β} {as : List α} {cs : List γ} :
    List.Forall₂ R (as.flatMap f) cs ↔
      ∃ parts, List.Forall₂ (fun a part => List.Forall₂ R (f a) part) as parts ∧ parts.flatten = cs := by
  constructor
  · intro h
    induction as generalizing cs with
    | nil =>
      cases h
      exact ⟨[], .nil, rfl⟩
    | cons a as ih =>
      have first := List.forall₂_take_append cs (f a) (as.flatMap f) h.flip
      have rest := List.forall₂_drop_append cs (f a) (as.flatMap f) h.flip
      obtain ⟨parts, related, joined⟩ := ih rest.flip
      refine ⟨cs.take (f a).length :: parts, .cons first.flip related, ?_⟩
      rw [List.flatten_cons, joined, List.take_append_drop]
  · rintro ⟨parts, related, rfl⟩
    exact List.rel_flatten (List.forall₂_map_left_iff.2 related)

/-! ## Comparisons one after another -/

/-- Whether the text is the comparisons one after another, with a pair of `c`
between each and the next. -/
def Cells (c : Char) (s : List Char) (cs : List Comparison) : Prop := List.Forall₂ Compared (splitAtPairs c s) cs

/-- Whether the text is the rows one after another, with a pair of `c` between each
and the next, and in each row with a pair of `d` between the comparisons. -/
def Rows (c d : Char) (s : List Char) (rows : List (List Comparison)) : Prop :=
  List.Forall₂ (Cells d) (splitAtPairs c s) rows

section
variable {cs : List Comparison} {rows columns : List (List Comparison)}

theorem cells_trim_iff (mark : isBlank c = false) : Cells c (trim s) cs ↔ Cells c s cs :=
  forall₂_splitAtPairs_trim (fun _ _ => compared_trim_iff) mark s cs

theorem rows_trim_iff (mark : isBlank c = false) (mark' : isBlank d = false) :
    Rows c d (trim s) rows ↔ Rows c d s rows :=
  forall₂_splitAtPairs_trim (fun _ _ => cells_trim_iff mark') mark s rows

theorem Cells.behind (mark : isBlank c = false) (blank : allBlank b = true) (h : Cells c s cs) :
    Cells c (s ++ b) cs := by
  rwa [← cells_trim_iff mark, trim_append_right blank, cells_trim_iff mark]

theorem Rows.behind (mark : isBlank c = false) (mark' : isBlank d = false) (blank : allBlank b = true)
    (h : Rows c d s rows) : Rows c d (s ++ b) rows := by
  rwa [← rows_trim_iff mark mark', trim_append_right blank, rows_trim_iff mark mark']

/-- The comparisons of the rows are what the pieces at both separators are. -/
theorem exists_rows_iff : (∃ rows, Rows c d s rows ∧ rows.flatten = cs) ↔
    List.Forall₂ Compared ((splitAtPairs c s).flatMap (splitAtPairs d)) cs :=
  forall₂_flatMap_iff.symm

/-- Rows at one separator are columns at the other, of the same comparisons in the
same order. -/
theorem Rows.exists_columns (other : c ≠ d) (h : Rows c d s rows) :
    ∃ columns, Rows d c s columns ∧ columns.flatten = rows.flatten := by
  rw [exists_rows_iff, ← flatMap_splitAtPairs_comm other, ← exists_rows_iff]
  exact ⟨rows, h, rfl⟩

theorem Rows.one (h : Rows c d s rows) (none : hasPair c s = false) : rows = [rows.flatten] := by
  rw [Rows, splitAtPairs_of_not_hasPair none] at h
  cases h with
  | cons _ rest =>
    cases rest
    simp

theorem Rows.single {f : List Comparison → Expression} (alone : ∀ cmp, f [cmp] = .compare cmp) (h : Rows c d s rows)
    (none : hasPair d s = false) : rows.map f = rows.flatten.map .compare := by
  have whole : ∀ p ∈ splitAtPairs c s, splitAtPairs d p = [p] := fun p hp =>
    splitAtPairs_of_not_hasPair (hasPair_of_part ((cut_splitAtPairs c s).part p hp) none)
  rw [Rows] at h
  generalize splitAtPairs c s = pieces at h whole
  induction h with
  | nil => rfl
  | @cons p row _ _ first _ ih =>
    obtain ⟨whole_first, whole_rest⟩ := List.forall_mem_cons.1 whole
    rw [Cells, whole_first] at first
    cases first with
    | cons _ rest =>
      cases rest
      rw [List.map_cons, ih whole_rest, alone]
      rfl

/-! ## Sentences without parentheses -/

theorem notMem_of_compared {cmp : Comparison} {x : Char} (separator : x = '&' ∨ x = '|') (h : Compared s cmp) :
    x ∉ s := by
  obtain @⟨b₁, b₂, b₃, b₄, name, literal, c, v, _, name_chars, value, blank₁, blank₂, blank₃, blank₄⟩ := h
  have blank {b : List Char} (blank : allBlank b = true) : x ∉ b := by
    apply notMem_of_allBlank _ blank
    rcases separator with rfl | rfl <;> rfl
  have named : x ∉ name := by
    intro hx
    have other : isNameChar x = false := by
      rcases separator with rfl | rfl <;> exact isNameChar_of_mark (by decide) (by decide)
    cases other.symm.trans (name_chars x hx)
  have symbol : x ∉ c.symbol.toList := by
    rcases separator with rfl | rfl <;> cases c <;> decide
  have literal : x ∉ literal := by
    intro hx
    have other : isLiteralChar x = false := by
      rcases separator with rfl | rfl <;> decide
    cases other.symm.trans ((literal_iff_spelled.1 value).chars x hx)
  simp only [List.mem_append, not_or]
  exact ⟨blank blank₁, named, blank blank₂, symbol, blank blank₃, literal, blank blank₄⟩

theorem Cut.mem {x : Char} (cut : Cut c s pieces) (other : x ≠ c) (hx : x ∈ s) : ∃ p ∈ pieces, x ∈ p := by
  induction cut with
  | @whole s _ => exact ⟨s, List.mem_singleton_self _, hx⟩
  | @pair p s pieces _ _ ih =>
    simp only [List.mem_append, List.mem_cons, other, false_or] at hx
    rcases hx with hx | hx
    · exact ⟨p, List.mem_cons_self .., hx⟩
    · obtain ⟨q, hq, mem⟩ := ih hx
      exact ⟨q, List.mem_cons_of_mem _ hq, mem⟩

theorem Cells.notMem (h : Cells '&' s cs) : '|' ∉ s := by
  intro hx
  obtain ⟨p, hp, mem⟩ := (cut_splitAtPairs '&' s).mem (by decide) hx
  obtain ⟨cmp, compared⟩ := exists_forall₂_iff.1 ⟨cs, h⟩ p hp
  exact notMem_of_compared (.inr rfl) compared mem

theorem compared_of_primary {e : Expression} (h : Primary s e) (noGroup : '(' ∉ s) :
    ∃ cmp, Compared s cmp ∧ e = .compare cmp := by
  cases h with
  | comparison compared => exact ⟨_, compared, rfl⟩
  | group => simp at noGroup

theorem cells_of_conjunction {s : List Char} {es : List Expression} (h : Conjunction s es) (noGroup : '(' ∉ s) :
    ∃ cs, Cells '&' s cs ∧ es = cs.map .compare := by
  match h with
  | .one first =>
    obtain ⟨cmp, compared, rfl⟩ := compared_of_primary first noGroup
    refine ⟨[cmp], ?_, rfl⟩
    rw [Cells, splitAtPairs_of_not_hasPair (hasPair_of_notMem (notMem_of_compared (.inl rfl) compared))]
    exact .cons compared .nil
  | .more (s := s) (b := b) (t := t) first between rest =>
    simp only [List.mem_append, List.mem_cons, not_or] at noGroup
    obtain ⟨noGroup_first, _, _, _, noGroup_rest⟩ := noGroup
    obtain ⟨cmp, compared, rfl⟩ := compared_of_primary first noGroup_first
    obtain ⟨cs, cells, rfl⟩ := cells_of_conjunction rest noGroup_rest
    -- the blanks before the separator belong to the first piece
    have compared : Compared (s ++ b) cmp := Grammar.Compared.surround (b := []) rfl between compared
    refine ⟨cmp :: cs, ?_, rfl⟩
    rw [← List.append_assoc, Cells,
      splitAtPairs_append t (hasPair_append_singleton (notMem_of_compared (.inl rfl) compared))]
    exact .cons compared cells

def allCompared (cs : List Comparison) : Expression := allOf (cs.map .compare)

theorem rows_of_disjunction {s : List Char} {es : List Expression} (h : Disjunction s es) (noGroup : '(' ∉ s) :
    ∃ rows, Rows '|' '&' s rows ∧ es = rows.map allCompared := by
  match h with
  | .one first =>
    obtain ⟨cs, cells, rfl⟩ := cells_of_conjunction first noGroup
    refine ⟨[cs], ?_, rfl⟩
    rw [Rows, splitAtPairs_of_not_hasPair (hasPair_of_notMem cells.notMem)]
    exact .cons cells .nil
  | .more (s := s) (b := b) (t := t) first between rest =>
    simp only [List.mem_append, List.mem_cons, not_or] at noGroup
    obtain ⟨noGroup_first, _, _, _, noGroup_rest⟩ := noGroup
    obtain ⟨cs, cells, rfl⟩ := cells_of_conjunction first noGroup_first
    obtain ⟨rows, related, rfl⟩ := rows_of_disjunction rest noGroup_rest
    -- blanks before a separator go with the row in front of it
    have cells : Cells '&' (s ++ b) cs := cells.behind rfl between
    refine ⟨cs :: rows, ?_, rfl⟩
    rw [← List.append_assoc, Rows, splitAtPairs_append t (hasPair_append_singleton cells.notMem)]
    exact .cons cells related

/-- What derives many things one after another with pairs between them derives the
pieces of a text. -/
theorem Cut.derives {α : Type} {Item : List Char → α → Prop} {Many : List Char → List Expression → Prop}
    {f : α → Expression} {as : List α} (one : ∀ {p a}, Item p a → Many p [f a])
    (more : ∀ {p s a es}, Item p a → Many s es → Many (p ++ c :: c :: s) (f a :: es)) (cut : Cut c s pieces)
    (items : List.Forall₂ Item pieces as) : Many s (as.map f) := by
  induction cut generalizing as with
  | whole none =>
    cases items with
    | cons first rest =>
      cases rest
      exact one first
  | pair _ _ ih =>
    cases items with
    | cons first rest => exact more first (ih rest)

theorem conjunction_of_cells (h : Cells '&' s cs) : Conjunction s (cs.map .compare) :=
  (cut_splitAtPairs '&' s).derives (fun first => .one (.comparison first))
    (fun first rest => .more (b := []) (.comparison first) rfl rest) h

theorem disjunction_of_rows (h : Rows '|' '&' s rows) : Disjunction s (rows.map allCompared) :=
  (cut_splitAtPairs '|' s).derives (fun first => .one (conjunction_of_cells first))
    (fun first rest => .more (b := []) (conjunction_of_cells first) rfl rest) h

/-- Without parentheses the grammar is cutting twice. -/
theorem sentence_iff_rows {e : Expression} (noGroup : '(' ∉ s) :
    Sentence s e ↔ ∃ rows, Rows '|' '&' s rows ∧ e = anyOf (rows.map allCompared) := by
  constructor
  · intro sentence
    cases sentence with
    | of disjunction after =>
      obtain ⟨rows, related, rfl⟩ := rows_of_disjunction disjunction fun hp => noGroup (List.mem_append_left _ hp)
      exact ⟨rows, related.behind rfl rfl after, rfl⟩
  · rintro ⟨rows, related, rfl⟩
    have sentence := Sentence.of (b := []) (disjunction_of_rows related) rfl
    rwa [List.append_nil] at sentence

/-! ## The two readings -/

def anyCompared (cs : List Comparison) : Expression := anyOf (cs.map .compare)

theorem parse_standard_of_rows {text : String} (notBlank : allBlank text.toList = false) (noGroup : '(' ∉ text.toList)
    (h : Rows '|' '&' text.toList rows) : parse .standard text = anyOf (rows.map allCompared) :=
  parse_of_sentence notBlank ((sentence_iff_rows noGroup).2 ⟨rows, h, rfl⟩)

theorem hasUnparsed_standard_iff {text : String} (notBlank : allBlank text.toList = false)
    (noGroup : '(' ∉ text.toList) :
    (parse .standard text).hasUnparsed = false ↔ ∃ rows, Rows '|' '&' text.toList rows := by
  constructor
  · intro whole
    obtain sentence | ⟨reason, leaf⟩ := parse_standard_cases notBlank
    · obtain ⟨rows, related, _⟩ := (sentence_iff_rows noGroup).1 sentence
      exact ⟨rows, related⟩
    · rw [leaf] at whole
      cases whole
  · rintro ⟨rows, related⟩
    have sentence := (sentence_iff_rows noGroup).2 ⟨rows, related, rfl⟩
    rw [parse_of_sentence notBlank sentence]
    exact hasUnparsed_sentence sentence

theorem legacyAny_eq (p : List Char) : legacyAny p = anyOf ((splitAtPairs '|' p).map legacyLeaf) := by
  rw [legacyAny, map_splitAtPairs_trim legacyLeaf_trim rfl]

/-- Blanks around the operands do not matter under legacy precedence. -/
theorem parse_legacy_eq_untrimmed {text : String} (notBlank : allBlank text.toList = false) :
    parse .legacy text = allOf ((splitAtPairs '&' text.toList).map legacyAny) := by
  have trimmed (p : List Char) : legacyAny (trim p) = legacyAny p := by
    rw [legacyAny, legacyAny, trim_trim]
  rw [parse_legacy_eq notBlank, map_splitAtPairs_trim trimmed rfl]

theorem legacyAny_of_cells (h : Cells '|' p cs) : legacyAny p = anyCompared cs := by
  have leaves : (splitAtPairs '|' p).map legacyLeaf = cs.map .compare := by
    rw [← List.forall₂_eq_eq_eq, List.forall₂_map_left_iff, List.forall₂_map_right_iff]
    exact h.imp fun q cmp => (leaf_legacyLeaf q).of_compared
  rw [legacyAny_eq, leaves, anyCompared]

theorem parse_legacy_of_columns {text : String} (notBlank : allBlank text.toList = false)
    (h : Rows '&' '|' text.toList columns) : parse .legacy text = allOf (columns.map anyCompared) := by
  have disjunctions : (splitAtPairs '&' text.toList).map legacyAny = columns.map anyCompared := by
    rw [← List.forall₂_eq_eq_eq, List.forall₂_map_left_iff, List.forall₂_map_right_iff]
    exact h.imp fun p cs => legacyAny_of_cells
  rw [parse_legacy_eq_untrimmed notBlank, disjunctions]

theorem hasUnparsed_legacyLeaf_iff : (legacyLeaf p).hasUnparsed = false ↔ ∃ cmp, Compared p cmp := by
  have leaf := leaf_legacyLeaf p
  constructor
  · intro whole
    generalize legacyLeaf p = e at leaf whole
    cases leaf with
    | comparison compared => exact ⟨_, compared⟩
    | blank | other => cases whole
  · rintro ⟨cmp, compared⟩
    rw [leaf.of_compared compared]
    rfl

theorem hasUnparsed_legacy_iff {text : String} (notBlank : allBlank text.toList = false) :
    (parse .legacy text).hasUnparsed = false ↔ ∃ columns, Rows '&' '|' text.toList columns := by
  rw [parse_legacy_eq_untrimmed notBlank, hasUnparsed_allOf, anyUnparsed_eq]
  simp only [Rows, Cells, exists_forall₂_iff, List.any_map, List.any_eq_false, Function.comp_apply, Bool.not_eq_true,
    legacyAny_eq, hasUnparsed_anyOf, anyUnparsed_eq, hasUnparsed_legacyLeaf_iff]

/-- On text without parentheses the two precedences read everything or neither does.
What they read then is the same comparisons in the same order: a disjunction of the
conjunctions between pairs of `|` under standard precedence, a conjunction of the
disjunctions between pairs of `&` under legacy precedence. With one separator only
it is the same expression. -/
theorem parse_precedences (text : String) (notBlank : allBlank text.toList = false) (noGroup : '(' ∉ text.toList) :
    ((parse .standard text).hasUnparsed = false ↔ (parse .legacy text).hasUnparsed = false) ∧
    ((parse .standard text).hasUnparsed = false → ∃ rows columns,
      Rows '|' '&' text.toList rows ∧ Rows '&' '|' text.toList columns ∧
      parse .standard text = anyOf (rows.map fun cs => allOf (cs.map .compare)) ∧
      parse .legacy text = allOf (columns.map fun cs => anyOf (cs.map .compare)) ∧
      rows.flatten = columns.flatten ∧
      (hasPair '&' text.toList = false ∨ hasPair '|' text.toList = false →
        parse .standard text = parse .legacy text)) := by
  rw [hasUnparsed_standard_iff notBlank noGroup, hasUnparsed_legacy_iff notBlank]
  constructor
  · constructor
    · rintro ⟨rows, related⟩
      obtain ⟨columns, related, _⟩ := related.exists_columns (by decide)
      exact ⟨columns, related⟩
    · rintro ⟨columns, related⟩
      obtain ⟨rows, related, _⟩ := related.exists_columns (by decide)
      exact ⟨rows, related⟩
  · rintro ⟨rows, related⟩
    obtain ⟨columns, related', same⟩ := related.exists_columns (by decide)
    have standard := parse_standard_of_rows notBlank noGroup related
    have legacy := parse_legacy_of_columns notBlank related'
    refine ⟨rows, columns, related, related', standard, legacy, same.symm, ?_⟩
    rintro (noAnd | noOr)
    · -- one column, and the rows are its comparisons
      calc parse .standard text
        _ = anyOf (rows.map allCompared) := standard
        _ = anyCompared rows.flatten := congrArg anyOf (related.single (fun _ => rfl) noAnd)
        _ = allOf ([columns.flatten].map anyCompared) := by rw [same]; rfl
        _ = parse .legacy text := by rw [← related'.one noAnd, legacy]
    · -- one row, and the columns are its comparisons
      calc parse .standard text
        _ = anyOf ([rows.flatten].map allCompared) := by rw [standard, ← related.one noOr]
        _ = allCompared columns.flatten := by rw [same]; rfl
        _ = allOf (columns.map anyCompared) := congrArg allOf (related'.single (fun _ => rfl) noOr).symm
        _ = parse .legacy text := legacy.symm

/-- With both separators the readings differ, though in how they group the same
comparisons only; with one of them they are the same. -/
theorem parse_precedences_mixed :
    let mixed := "a == 1 || b == 2 && c == 3"
    ((parse .standard mixed).text = "((a == 1) || ((b == 2) && (c == 3)))" ∧
      (parse .legacy mixed).text = "(((a == 1) || (b == 2)) && (c == 3))") ∧
    (∃ rows columns, Rows '|' '&' mixed.toList rows ∧ Rows '&' '|' mixed.toList columns ∧
      rows.flatten = columns.flatten) ∧
    parse .standard "a == 1 && b == 2" = parse .legacy "a == 1 && b == 2" := by
  refine ⟨⟨by decide +kernel, by decide +kernel⟩, ?_, ?_⟩
  · obtain ⟨_, whole⟩ := parse_precedences "a == 1 || b == 2 && c == 3" (by decide +kernel) (by decide +kernel)
    obtain ⟨rows, columns, related, related', _, _, same, _⟩ := whole (by decide +kernel)
    exact ⟨rows, columns, related, related', same⟩
  · obtain ⟨_, whole⟩ := parse_precedences "a == 1 && b == 2" (by decide +kernel) (by decide +kernel)
    obtain ⟨rows, columns, _, _, _, _, _, alike⟩ := whole (by decide +kernel)
    exact alike (.inr (by decide +kernel))

end

end Expression

end TransitionGuards
