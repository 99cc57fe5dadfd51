import TransitionGuards.Proofs.Compilation
import TransitionGuards.Proofs.ComparisonText

/-
  Reading under legacy precedence is cutting twice.

  Cutting at the pairs of a character finds them from left to right (`Cut`,
  `cut_iff`), so no piece has one any more, nor has a part of it. The reader,
  which looks for both separators again in every piece, therefore stops after
  two levels (`readLegacy_eq`), and what stands on one side of a separator does
  not matter to the other.
-/

namespace TransitionGuards

namespace Expression
open Grammar

variable {c : Char} {s p q : List Char} {pieces : List (List Char)} {σ : Valuation}

/-! ## Pairs -/

theorem hasPair_cons (c x : Char) (s : List Char) :
    hasPair c (x :: s) = (decide (x = c ∧ s.head? = some c) || hasPair c s) := by
  cases s with
  | nil => simp [hasPair]
  | cons y s => simp [hasPair]

theorem hasPair_iff : ∀ s : List Char, hasPair c s = true ↔ [c, c] <:+: s
  | [] => by simp [hasPair]
  | x :: s => by
    rw [hasPair_cons, Bool.or_eq_true, decide_eq_true_eq, List.infix_cons_iff, hasPair_iff s]
    refine or_congr_left ?_
    cases s <;> simp [eq_comm]

theorem hasPair_of_part (part : p <:+: s) (none : hasPair c s = false) : hasPair c p = false := by
  apply eq_false_of_ne_true
  intro pair
  rw [(hasPair_iff s).2 (((hasPair_iff p).1 pair).trans part)] at none
  cases none

/-! ## Cutting -/

/-- The text cut at the pairs of `c`, found from left to right. In `p` followed
by `c` there is no pair yet, so the one behind `p` is the first. -/
inductive Cut (c : Char) : List Char → List (List Char) → Prop
  | whole {s : List Char} (none : hasPair c s = false) : Cut c s [s]
  | pair {p s : List Char} {pieces : List (List Char)} (first : hasPair c (p ++ [c]) = false)
      (rest : Cut c s pieces) : Cut c (p ++ c :: c :: s) (p :: pieces)

theorem splitAtPairs_cons {x : Char} {s : List Char} (other : ¬(x = c ∧ s.head? = some c))
    (split : splitAtPairs c s = p :: pieces) : splitAtPairs c (x :: s) = (x :: p) :: pieces := by
  cases s with
  | nil =>
    cases split
    rfl
  | cons y s =>
    have other : ¬(x = c ∧ y = c) := by simpa using other
    rw [splitAtPairs, if_neg other, split]

theorem splitAtPairs_of_not_hasPair : ∀ {s : List Char}, hasPair c s = false → splitAtPairs c s = [s]
  | [], _ => rfl
  | x :: s, h => by
    rw [hasPair_cons, Bool.or_eq_false_iff, decide_eq_false_iff_not] at h
    exact splitAtPairs_cons h.1 (splitAtPairs_of_not_hasPair h.2)

theorem splitAtPairs_append (s : List Char) : ∀ {p : List Char}, hasPair c (p ++ [c]) = false →
    splitAtPairs c (p ++ c :: c :: s) = p :: splitAtPairs c s
  | [], _ => by rw [List.nil_append, splitAtPairs, if_pos ⟨rfl, rfl⟩]
  | x :: p, first => by
    rw [List.cons_append, hasPair_cons, Bool.or_eq_false_iff, decide_eq_false_iff_not] at first
    refine splitAtPairs_cons ?_ (splitAtPairs_append s first.2)
    cases p with
    | nil => exact first.1
    | cons y p => exact first.1

theorem cut_splitAtPairs (c : Char) (s : List Char) : Cut c s (splitAtPairs c s) := by
  fun_induction splitAtPairs c s with
  | case1 => exact .whole rfl
  | case2 x => exact .whole rfl
  | case3 x y rest pair ih =>
    obtain ⟨rfl, rfl⟩ := pair
    exact .pair (p := []) rfl ih
  | case4 x y rest other piece more split ih =>
    rw [split] at ih
    generalize hs : y :: rest = s at ih
    -- `x` makes no pair with what follows, so it goes to the front of the first piece
    have before {t : List Char} (ht : t.head? = some y) : decide (x = c ∧ t.head? = some c) = false := by
      rw [ht]
      simpa using other
    cases ih with
    | whole none =>
      apply Cut.whole
      rw [← hs, hasPair_cons, before rfl, hs, none]
      rfl
    | pair first rest =>
      refine .pair (p := x :: piece) ?_ rest
      have head : (piece ++ [c]).head? = some y := by
        cases piece <;> exact congrArg some (List.cons.inj hs).1.symm
      rw [List.cons_append, hasPair_cons, before head, first]
      rfl
  | case5 x y rest other split ih =>
    rw [split] at ih
    generalize y :: rest = s at ih
    cases ih

/-- There is one way to cut. -/
theorem cut_iff : Cut c s pieces ↔ pieces = splitAtPairs c s := by
  constructor
  · intro cut
    induction cut with
    | whole none => exact (splitAtPairs_of_not_hasPair none).symm
    | pair first rest ih => rw [splitAtPairs_append _ first, ih]
  · rintro rfl
    exact cut_splitAtPairs c s

theorem Cut.ne_nil (h : Cut c s pieces) : pieces ≠ [] := by
  cases h <;> exact List.cons_ne_nil _ _

theorem Cut.part (h : Cut c s pieces) : ∀ p ∈ pieces, p <:+: s := by
  induction h with
  | whole none => exact List.forall_mem_singleton.2 (List.infix_refl _)
  | @pair p s pieces first rest ih =>
    refine List.forall_mem_cons.2 ⟨(List.prefix_append ..).isInfix, fun q hq => ?_⟩
    have tail : s <:+ p ++ c :: c :: s := ⟨p ++ [c, c], by simp⟩
    exact (ih q hq).trans tail.isInfix

theorem Cut.not_hasPair (h : Cut c s pieces) : ∀ p ∈ pieces, hasPair c p = false := by
  induction h with
  | whole none => exact List.forall_mem_singleton.2 none
  | pair first rest ih =>
    exact List.forall_mem_cons.2 ⟨hasPair_of_part (List.prefix_append ..).isInfix first, ih⟩

/-! ## Two levels -/

/-- What stands between separators, as a leaf. -/
def legacyLeaf (piece : List Char) : Expression :=
  if allBlank piece then .unparsed "" "empty operand" else legacyComparison (String.ofList (trim piece))

theorem legacyLeaf_trim (piece : List Char) : legacyLeaf (trim piece) = legacyLeaf piece := by
  rw [legacyLeaf, allBlank_trim, trim_trim, legacyLeaf]

/-- The disjunction of the pieces between `||`. -/
def legacyAny (piece : List Char) : Expression := anyOf ((splitAtPairs '|' (trim piece)).map legacyLeaf)

theorem readOperand_leaf (noAnd : hasPair '&' p = false) (noOr : hasPair '|' p = false) :
    readOperand p = legacyLeaf p := by
  rw [readOperand, legacyLeaf]
  refine ite_congr rfl (fun _ => rfl) fun _ => ?_
  rw [readLegacy, hasPair_of_part (trim_part p) noAnd, hasPair_of_part (trim_part p) noOr]
  rfl

theorem readLegacy_any (notBlank : allBlank p = false) (noAnd : hasPair '&' (trim p) = false) :
    readLegacy p = legacyAny p := by
  have cut := cut_splitAtPairs '|' (trim p)
  rw [readLegacy, noAnd, legacyAny, if_neg Bool.false_ne_true, List.attach_map_val]
  cases noOr : hasPair '|' (trim p) with
  | true =>
    have leaves : (splitAtPairs '|' (trim p)).map readOperand = (splitAtPairs '|' (trim p)).map legacyLeaf :=
      List.map_congr_left fun q hq =>
        readOperand_leaf (hasPair_of_part (cut.part q hq) noAnd) (cut.not_hasPair q hq)
    rw [if_pos rfl, leaves]
  | false =>
    have single : legacyComparison (String.ofList (trim p)) = legacyLeaf (trim p) := by
      rw [legacyLeaf_trim, legacyLeaf, notBlank]
      rfl
    rw [if_neg Bool.false_ne_true, splitAtPairs_of_not_hasPair noOr, single]
    rfl

theorem readOperand_any (noAnd : hasPair '&' p = false) : readOperand p = legacyAny p := by
  rw [readOperand]
  split
  · next blank =>
    rw [legacyAny, trim_eq_nil blank]
    rfl
  · next notBlank =>
    exact readLegacy_any (eq_false_of_ne_true notBlank) (hasPair_of_part (trim_part p) noAnd)

/-- The conjunction of the disjunctions, and nothing deeper. -/
theorem readLegacy_eq (notBlank : allBlank s = false) :
    readLegacy s = allOf ((splitAtPairs '&' (trim s)).map legacyAny) := by
  have cut := cut_splitAtPairs '&' (trim s)
  cases noAnd : hasPair '&' (trim s) with
  | true =>
    have disjunctions : (splitAtPairs '&' (trim s)).map readOperand = (splitAtPairs '&' (trim s)).map legacyAny :=
      List.map_congr_left fun p hp => readOperand_any (cut.not_hasPair p hp)
    rw [readLegacy, noAnd, if_pos rfl, List.attach_map_val, disjunctions]
  | false =>
    rw [readLegacy_any notBlank noAnd, splitAtPairs_of_not_hasPair noAnd]
    show legacyAny s = legacyAny (trim s)
    rw [legacyAny, legacyAny, trim_trim]

/-! ## Leaves -/

/-- What a piece between separators becomes. -/
inductive Leaf : List Char → Expression → Prop
  | blank {p : List Char} (blank : allBlank p = true) : Leaf p (.unparsed "" "empty operand")
  | comparison {p : List Char} {cmp : Comparison} (compared : Compared p cmp) : Leaf p (.compare cmp)
  | other {p : List Char} (reason : String) (notBlank : allBlank p = false) (none : ∀ cmp, ¬Compared p cmp) :
      Leaf p (.unparsed (String.ofList (trim p)) reason)

theorem leaf_legacyLeaf (p : List Char) : Leaf p (legacyLeaf p) := by
  cases blank : allBlank p with
  | true =>
    rw [legacyLeaf, if_pos blank]
    exact .blank blank
  | false =>
    simp only [legacyLeaf, blank, legacyComparison, Comparison.parse, String.toList_ofList]
    cases read : Comparison.read (trim p) with
    | ok cmp => exact .comparison (compared_trim_iff.1 (Comparison.read_eq_ok_iff.1 read))
    | error f =>
      refine .other _ blank fun cmp compared => ?_
      cases read.symm.trans (Comparison.read_eq_ok_iff.2 (compared_trim_iff.2 compared))

/-- Whether the piece constrains nothing, or is a comparison that holds. -/
def Admits (σ : Valuation) (piece : List Char) : Prop :=
  allBlank piece = true ∨ (∀ cmp, ¬Compared piece cmp) ∨ ∃ cmp, Compared piece cmp ∧ cmp.holds σ = true

theorem compared_unique {cmp cmp' : Comparison} (h : Compared p cmp) (h' : Compared p cmp') : cmp = cmp' := by
  have read := (Comparison.read_eq_ok_iff.2 h).symm.trans (Comparison.read_eq_ok_iff.2 h')
  exact Except.ok.inj read

theorem Leaf.of_compared {e : Expression} {cmp : Comparison} (leaf : Leaf p e) (compared : Compared p cmp) :
    e = .compare cmp := by
  cases leaf with
  | blank blank => cases compared.not_blank.symm.trans blank
  | other reason notBlank none => exact absurd compared (none cmp)
  | comparison compared' => rw [compared_unique compared compared']

theorem Leaf.holds {e : Expression} (leaf : Leaf p e) : e.holds σ = true ↔ Admits σ p := by
  cases leaf with
  | blank blank => exact iff_of_true rfl (.inl blank)
  | other reason notBlank none => exact iff_of_true rfl (.inr (.inl none))
  | @comparison cmp compared =>
    constructor
    · exact fun holds => .inr (.inr ⟨cmp, compared, holds⟩)
    · rintro (blank | none | ⟨cmp', compared', holds⟩)
      · cases compared.not_blank.symm.trans blank
      · exact absurd compared (none cmp)
      · rwa [compared_unique compared compared']

/-! ## Meaning -/

theorem holds_allOf (es : List Expression) : (allOf es).holds σ = es.all (holds σ) := by
  unfold allOf
  split
  · simp
  · rw [holds, holdsAll_eq]

theorem holds_anyOf (es : List Expression) : (anyOf es).holds σ = es.any (holds σ) := by
  unfold anyOf
  split
  · simp
  · rw [holds, holdsAny_eq]

theorem holds_legacyAny : (legacyAny p).holds σ = true ↔ ∃ q ∈ splitAtPairs '|' (trim p), Admits σ q := by
  rw [legacyAny, holds_anyOf, List.any_map, List.any_eq_true]
  exact exists_congr fun q => and_congr_right fun _ => (leaf_legacyLeaf q).holds

theorem parse_legacy_eq {text : String} (notBlank : allBlank text.toList = false) :
    parse .legacy text = allOf ((splitAtPairs '&' (trim text.toList)).map legacyAny) := by
  rw [← readLegacy_eq notBlank]
  simp [parse, notBlank]

/-- For blank text too: its one piece constrains nothing. -/
theorem holds_parse_legacy (text : String) : (parse .legacy text).holds σ = true ↔
    ∀ p ∈ splitAtPairs '&' (trim text.toList), ∃ q ∈ splitAtPairs '|' (trim p), Admits σ q := by
  cases blank : allBlank text.toList with
  | true =>
    have empty : parse .legacy text = .empty := by
      simp [parse, blank]
    rw [empty, trim_eq_nil blank]
    refine iff_of_true rfl (List.forall_mem_singleton.2 ?_)
    exact ⟨[], List.mem_singleton_self _, .inl rfl⟩
  | false =>
    rw [parse_legacy_eq blank, holds_allOf, List.all_map, List.all_eq_true]
    exact forall₂_congr fun p _ => holds_legacyAny

/-- Under legacy precedence a text that is not blank is the conjunction of its
pieces between `&&`, each the disjunction of its pieces between `||`, each a leaf.
Compiled without strictness, any text holds exactly if every piece between `&&`
has a piece between `||` that constrains nothing or is a comparison that holds. -/
theorem parse_legacy_exact (text : String) :
    (allBlank text.toList = false → parse .legacy text =
      allOf ((splitAtPairs '&' (trim text.toList)).map fun p =>
        anyOf ((splitAtPairs '|' (trim p)).map legacyLeaf))) ∧
    (∀ q, Leaf q (legacyLeaf q)) ∧
    ∀ σ table, ∃ f table', (Guard.manual text).compile ⟨.legacy, false⟩ table = (.ok f, table') ∧
      (f.eval (table'.lookup σ) = some true ↔
        ∀ p ∈ splitAtPairs '&' (trim text.toList), ∃ q ∈ splitAtPairs '|' (trim p), Admits σ q) := by
  refine ⟨parse_legacy_eq, leaf_legacyLeaf, fun σ table => ?_⟩
  obtain ⟨f, table', compiled, evaluates⟩ := Guard.compile_evaluates .legacy (.manual text) σ table
  refine ⟨f, table', compiled, ?_⟩
  rw [evaluates, Option.some.injEq]
  exact holds_parse_legacy text

/-- Three of a kind leave one of them to the piece behind, which is no comparison
then; the pieces before and behind are as they were. -/
theorem parse_legacy_exact_threeOfAKind :
    parse .legacy " x > 1 &&& y == 2 ||| z < 3 && " =
      .all [.compare ⟨"x", .gt, 1⟩, .any [legacyLeaf "& y == 2 ".toList, legacyLeaf "| z < 3".toList],
        .unparsed "" "empty operand"] := by
  have operands : splitAtPairs '&' (trim " x > 1 &&& y == 2 ||| z < 3 && ".toList) =
      ["x > 1 ".toList, "& y == 2 ||| z < 3 ".toList, []] := by
    decide +kernel
  have first : splitAtPairs '|' (trim "x > 1 ".toList) = ["x > 1".toList] := by
    decide +kernel
  have second : splitAtPairs '|' (trim "& y == 2 ||| z < 3 ".toList) = ["& y == 2 ".toList, "| z < 3".toList] := by
    decide +kernel
  have last : splitAtPairs '|' (trim []) = [[]] := rfl
  have comparison : Comparison.read "x > 1".toList = .ok ⟨"x", .gt, 1⟩ := by
    decide +kernel
  have x : legacyLeaf "x > 1".toList = .compare ⟨"x", .gt, 1⟩ :=
    (leaf_legacyLeaf _).of_compared (Comparison.read_eq_ok_iff.1 comparison)
  rw [(parse_legacy_exact " x > 1 &&& y == 2 ||| z < 3 && ").1 (by decide +kernel), operands]
  simp only [List.map_cons, List.map_nil, first, second, last, x]
  rfl

end Expression

end TransitionGuards
