import TransitionGuards.Text.Blank
import Mathlib.Data.List.TakeWhile

/-
  Blanks at the beginning and at both ends of texts.

  A text is some blanks and what is left without them (`exists_blanks`), and
  only the latter matters where blanks are skipped. Likewise it is what trimming
  leaves, between blanks (`exists_trim`), and that alone (`trim_surround`).
  There are finitely many blanks, so a property that none of them has is checked
  one by one (`forall_blank`).
-/

namespace TransitionGuards
variable {b s t : List Char} {c : Char}

/-- The code points of the blanks. -/
def blankCodes : List Nat :=
  [0x09, 0x0A, 0x0B, 0x0C, 0x0D, 0x20, 0x85, 0xA0, 0x1680, 0x2000, 0x2001, 0x2002, 0x2003, 0x2004, 0x2005, 0x2006,
   0x2007, 0x2008, 0x2009, 0x200A, 0x2028, 0x2029, 0x202F, 0x205F, 0x3000]

theorem mem_blankCodes (h : isBlank c = true) : c.toNat ∈ blankCodes := by
  simp only [isBlank, Bool.or_eq_true, Bool.and_eq_true, decide_eq_true_eq, beq_iff_eq] at h
  simp only [blankCodes, List.mem_cons, List.not_mem_nil, or_false]
  omega

theorem forall_blank {p : Char → Prop} (h : ∀ n ∈ blankCodes, p (Char.ofNat n)) (hc : isBlank c = true) : p c := by
  rw [← Char.ofNat_toNat c]
  exact h _ (mem_blankCodes hc)

theorem notMem_of_allBlank (mark : isBlank c = false) (blank : allBlank b = true) : c ∉ b := by
  intro hc
  cases mark.symm.trans (List.all_eq_true.1 blank c hc)

/-! ## Skipping blanks -/

theorem exists_blanks (s : List Char) : ∃ b, allBlank b = true ∧ s = b ++ skipBlanks s := by
  refine ⟨s.takeWhile isBlank, ?_, List.takeWhile_append_dropWhile.symm⟩
  rw [allBlank, List.all_eq_true]
  exact fun c hc => List.mem_takeWhile_imp hc

theorem skipBlanks_append (h : allBlank b = true) (s : List Char) : skipBlanks (b ++ s) = skipBlanks s :=
  List.dropWhile_append_of_pos (List.all_eq_true.1 h)

theorem skipBlanks_cons (h : isBlank c = false) (s : List Char) : skipBlanks (c :: s) = c :: s :=
  List.dropWhile_cons_of_neg (ne_true_of_eq_false h)

theorem isBlank_of_skipBlanks (h : skipBlanks s = c :: t) : isBlank c = false := by
  have first := List.head?_dropWhile_not isBlank s
  rw [← skipBlanks, h] at first
  exact first

theorem skipBlanks_skipBlanks (s : List Char) : skipBlanks (skipBlanks s) = skipBlanks s := by
  cases h : skipBlanks s with
  | nil => rfl
  | cons c t => exact skipBlanks_cons (isBlank_of_skipBlanks h) t

theorem skipBlanks_eq_nil_iff : skipBlanks s = [] ↔ allBlank s = true := by
  rw [skipBlanks, List.dropWhile_eq_nil_iff, allBlank, List.all_eq_true]

/-! ## Trimming -/

theorem allBlank_append (s t : List Char) : allBlank (s ++ t) = (allBlank s && allBlank t) := List.all_append

/-- Whether the text neither begins nor ends with a blank. -/
structure Trimmed (s : List Char) : Prop where
  front : skipBlanks s = s
  back : skipBlanks s.reverse = s.reverse

theorem trim_surround {b' : List Char} (before : allBlank b = true) (after : allBlank b' = true) (h : Trimmed s) :
    trim (b ++ (s ++ b')) = s := by
  have front : skipBlanks (b ++ (s ++ b')) = skipBlanks (s ++ b') := skipBlanks_append before _
  cases s with
  | nil =>
    rw [List.nil_append, skipBlanks_eq_nil_iff.2 after] at front
    rw [trim, List.nil_append, front]
    rfl
  | cons c s =>
    have first : skipBlanks (c :: s ++ b') = c :: s ++ b' := skipBlanks_cons (isBlank_of_skipBlanks h.front) _
    have reversed : allBlank b'.reverse = true := by
      rwa [allBlank, List.all_reverse]
    rw [trim, front, first, List.reverse_append, skipBlanks_append reversed, h.back, List.reverse_reverse]

theorem exists_trim (s : List Char) :
    ∃ b b', allBlank b = true ∧ allBlank b' = true ∧ s = b ++ (trim s ++ b') := by
  obtain ⟨b, before, hs⟩ := exists_blanks s
  obtain ⟨b', after, hr⟩ := exists_blanks (skipBlanks s).reverse
  refine ⟨b, b'.reverse, before, by rwa [allBlank, List.all_reverse], ?_⟩
  rw [trim, ← List.reverse_append, ← hr, List.reverse_reverse]
  exact hs

theorem trimmed_trim (s : List Char) : Trimmed (trim s) where
  front := by
    obtain ⟨b', _, hr⟩ := exists_blanks (skipBlanks s).reverse
    have hs : skipBlanks s = trim s ++ b'.reverse := by
      rw [trim, ← List.reverse_append, ← hr, List.reverse_reverse]
    cases ht : trim s with
    | nil => rfl
    | cons c t =>
      rw [ht] at hs
      exact skipBlanks_cons (isBlank_of_skipBlanks hs) t
  back := by rw [trim, List.reverse_reverse, skipBlanks_skipBlanks]

/-- Blanks around a text go with those that it begins and ends with. -/
theorem trim_append {b' : List Char} (before : allBlank b = true) (after : allBlank b' = true) (s : List Char) :
    trim (b ++ (s ++ b')) = trim s := by
  obtain ⟨front, back, blank_front, blank_back, hs⟩ := exists_trim s
  have whole : b ++ (s ++ b') = (b ++ front) ++ (trim s ++ (back ++ b')) := by
    simpa only [List.append_assoc] using congrArg (fun t => b ++ (t ++ b')) hs
  rw [whole]
  apply trim_surround _ _ (trimmed_trim s)
  · rw [allBlank_append, before, blank_front, Bool.and_self]
  · rw [allBlank_append, blank_back, after, Bool.and_self]

theorem trim_append_left (before : allBlank b = true) (s : List Char) : trim (b ++ s) = trim s := by
  have nothing : allBlank [] = true := rfl
  have same := trim_append before nothing s
  rwa [List.append_nil] at same

theorem trim_append_right (after : allBlank b = true) (s : List Char) : trim (s ++ b) = trim s :=
  trim_append (b := []) rfl after s

theorem trim_trim (s : List Char) : trim (trim s) = trim s := by
  have nothing : allBlank [] = true := rfl
  have h := trim_surround nothing nothing (trimmed_trim s)
  rwa [List.nil_append, List.append_nil] at h

theorem allBlank_trim (s : List Char) : allBlank (trim s) = allBlank s := by
  obtain ⟨b, b', before, after, hs⟩ := exists_trim s
  have whole := congrArg allBlank hs
  rw [allBlank_append, allBlank_append, before, after, Bool.true_and, Bool.and_true] at whole
  exact whole.symm

theorem trim_eq_nil (h : allBlank s = true) : trim s = [] := by
  rw [trim, skipBlanks_eq_nil_iff.2 h]
  rfl

theorem trim_part (s : List Char) : trim s <:+: s := by
  obtain ⟨b, b', _, _, hs⟩ := exists_trim s
  exact ⟨b, b', by rw [List.append_assoc, ← hs]⟩

end TransitionGuards
