import Mathlib.Data.List.Basic
import Mathlib.Data.List.Induction

/-
  Lists without repeats: what is left when repeats are erased, members sorted by
  a key, looking up an entry by a key that no other entry has, predicates that no two
  members satisfy, a map from the members to their places, and the order in which two
  members stand, which sorting keeps where it may.
-/

namespace TransitionGuards

/-- Erasing repeats leaves each value once: a value kept is erased from the
rest. -/
theorem nodup_eraseDups {α : Type} [BEq α] [LawfulBEq α] (l : List α) : l.eraseDups.Nodup := by
  match l with
  | [] => exact List.nodup_nil
  | a :: rest =>
    have shorter := List.length_filter_le (fun b => !b == a) rest
    have ih := nodup_eraseDups (rest.filter fun b => !b == a)
    simpa [List.eraseDups_cons, List.mem_eraseDups] using ih
termination_by l.length
decreasing_by simpa using Nat.lt_succ_of_le shorter

theorem eraseDups_concat {α : Type} [BEq α] [LawfulBEq α] (l : List α) (a : α) :
    (l ++ [a]).eraseDups = if l.contains a then l.eraseDups else l.eraseDups ++ [a] := by
  rw [List.eraseDups_append]
  by_cases old : a ∈ l
  · have none : [a].removeAll l = [] := by simp [List.removeAll, old]
    simp [none, old]
  · have one : [a].removeAll l = [a] := by simp [List.removeAll, old]
    have single : [a].eraseDups = [a] := rfl
    simp [one, single, old]

theorem pairwise_idxOf_eraseDups {α : Type} [BEq α] [LawfulBEq α] (l : List α) :
    l.eraseDups.Pairwise fun a b => l.idxOf a < l.idxOf b := by
  induction l using List.reverseRecOn with
  | nil => exact .nil
  | append_singleton l c ih =>
    -- a value at the end moves no value that is there already
    have kept : l.eraseDups.Pairwise fun a b => (l ++ [c]).idxOf a < (l ++ [c]).idxOf b := by
      refine ih.imp_of_mem fun {a b} ha hb before => ?_
      rw [List.idxOf_append, List.idxOf_append, if_pos (List.mem_eraseDups.1 ha), if_pos (List.mem_eraseDups.1 hb)]
      exact before
    rw [eraseDups_concat]
    split
    · exact kept
    · next new =>
      have new : c ∉ l := by simpa using new
      rw [List.pairwise_append]
      refine ⟨kept, List.pairwise_singleton .., fun a ha b hb => ?_⟩
      have ha : a ∈ l := List.mem_eraseDups.1 ha
      rw [List.mem_singleton.1 hb, List.idxOf_append, List.idxOf_append, if_pos ha, if_neg new]
      exact Nat.lt_add_left _ (List.idxOf_lt_length_iff.2 ha)

/-- Members sorted by their keys are the same members, whatever the order of the
keys. -/
theorem perm_flatMap_filter {α κ : Type} [BEq κ] [LawfulBEq κ] (k : α → κ) : ∀ {keys : List κ} {l : List α},
    keys.Nodup → (∀ a ∈ l, k a ∈ keys) → (keys.flatMap fun key => l.filter fun a => k a == key).Perm l
  | [], l, _, covered => by
    rw [List.eq_nil_iff_forall_not_mem.2 fun a ha => List.not_mem_nil (covered a ha)]
    exact .refl _
  | key :: rest, l, distinct, covered => by
    obtain ⟨new, distinct⟩ := List.nodup_cons.1 distinct
    let others := l.filter fun a => !(k a == key)
    have covered' : ∀ a ∈ others, k a ∈ rest := by
      intro a ha
      obtain ⟨ha, other⟩ := List.mem_filter.1 ha
      have other : k a ≠ key := by simpa using other
      exact (List.mem_cons.1 (covered a ha)).resolve_left other
    -- members with one of the later keys are all among the others
    have same : (rest.flatMap fun key' => l.filter fun a => k a == key') =
        rest.flatMap fun key' => others.filter fun a => k a == key' := by
      apply List.flatMap_congr
      intro key' h
      rw [List.filter_filter]
      apply List.filter_congr
      intro a _
      have different : key' ≠ key := fun e => new (e ▸ h)
      by_cases hk : k a = key' <;> simp [hk, different]
    rw [List.flatMap_cons, same]
    exact ((perm_flatMap_filter k distinct covered').append_left _).trans (List.filter_append_perm _ l)

theorem find?_of_nodup {α β : Type} {k : α → β} {p : α → Bool} {e : α} (hp : ∀ d, p d = true ↔ k d = k e) :
    ∀ {l : List α}, (l.map k).Nodup → e ∈ l → l.find? p = some e
  | d :: l, distinct, he => by
    rw [List.map_cons, List.nodup_cons] at distinct
    rcases List.mem_cons.1 he with rfl | he
    · exact List.find?_cons_of_pos ((hp e).2 rfl)
    · have other : ¬p d = true := by
        intro h
        apply distinct.1
        rw [(hp d).1 h]
        exact List.mem_map_of_mem he
      rw [List.find?_cons_of_neg other]
      exact find?_of_nodup hp distinct.2 he

theorem countP_eq_one {α : Type} {p : α → Bool} {l : List α}
    (exclusive : l.Pairwise fun a b => ¬(p a = true ∧ p b = true)) (some : ∃ a ∈ l, p a = true) :
    l.countP p = 1 := by
  induction exclusive with
  | nil => simp at some
  | @cons a l others _ ih =>
    by_cases ha : p a = true
    · have none : l.countP p = 0 := List.countP_eq_zero.2 fun b hb hp => others b hb ⟨ha, hp⟩
      rw [List.countP_cons_of_pos ha, none]
    · rw [List.countP_cons_of_neg ha]
      apply ih
      obtain ⟨b, hb, hp⟩ := some
      rcases List.mem_cons.1 hb with rfl | hb
      · exact absurd hp ha
      · exact ⟨b, hb, hp⟩

/-! ## The place of a member -/

theorem idxOf?_eq_some_iff_getElem? {α : Type} [BEq α] [LawfulBEq α] {l : List α} {a : α} {i : Nat}
    (distinct : l.Nodup) : l.idxOf? a = some i ↔ l[i]? = some a := by
  have stands (j : Nat) (found : l.idxOf? a = some j) : l[j]? = some a := by
    obtain ⟨inside, here, _⟩ := List.idxOf?_eq_some_iff.1 found
    rw [List.getElem?_eq_getElem inside, here]
  refine ⟨stands i, fun here => ?_⟩
  cases found : l.idxOf? a with
  | none => exact absurd (List.mem_of_getElem? here) (List.idxOf?_eq_none_iff.1 found)
  | some j =>
    have inside : j < l.length := (List.getElem?_eq_some_iff.1 (stands j found)).1
    rw [(List.getElem?_inj inside distinct).1 ((stands j found).trans here.symm)]

theorem idxOf?_concat {α : Type} [BEq α] [LawfulBEq α] {a : α} (b : α) : ∀ {l : List α}, a ∉ l →
    (l ++ [a]).idxOf? b = if a == b then some l.length else l.idxOf? b
  | [], _ => by simp [List.idxOf?_cons]
  | c :: l, new => by
    obtain ⟨different, new⟩ := not_or.1 (mt List.mem_cons.2 new)
    rw [List.cons_append, List.idxOf?_cons, List.idxOf?_cons, idxOf?_concat b new]
    by_cases hb : a = b
    · subst hb
      simp [Ne.symm different]
    · simp [hb]

/-- A map that finds the members of a list by their places goes on to do so when a
new member is entered with the next place. -/
theorem getElem?_insert_place {α β : Type} [BEq α] [LawfulBEq α] [Hashable α] {m : Std.HashMap α β} {f : Nat → β}
    {l : List α} {a : α} (found : ∀ b, m[b]? = (l.idxOf? b).map f) (new : a ∉ l) (b : α) :
    (m.insert a (f l.length))[b]? = ((l ++ [a]).idxOf? b).map f := by
  rw [Std.HashMap.getElem?_insert, idxOf?_concat b new, found]
  split <;> rfl

/-! ## The order of two members -/

theorem pair_sublist_or {α : Type} {a b : α} (different : a ≠ b) : ∀ {l : List α}, a ∈ l → b ∈ l →
    [a, b].Sublist l ∨ [b, a].Sublist l
  | c :: l, ha, hb => by
    rcases List.mem_cons.1 ha with rfl | ha'
    · have hb' : b ∈ l := (List.mem_cons.1 hb).resolve_left different.symm
      exact .inl ((List.singleton_sublist.2 hb').cons_cons a)
    · rcases List.mem_cons.1 hb with rfl | hb'
      · exact .inr ((List.singleton_sublist.2 ha').cons_cons b)
      · exact (pair_sublist_or different ha' hb').imp (·.cons c) (·.cons c)

theorem not_pair_sublist_swap {α : Type} {a b : α} : ∀ {l : List α}, l.Nodup → [a, b].Sublist l →
    ¬[b, a].Sublist l
  | c :: l, distinct, hab, hba => by
    obtain ⟨new, distinct⟩ := List.nodup_cons.1 distinct
    cases hab with
    | cons _ hab =>
      cases hba with
      | cons _ hba => exact not_pair_sublist_swap distinct hab hba
      | cons_cons _ _ => exact new (hab.subset (List.mem_cons_of_mem _ (List.mem_singleton_self _)))
    | cons_cons _ hb =>
      cases hba with
      | cons _ hba => exact new (hba.subset (List.mem_cons_of_mem _ (List.mem_singleton_self _)))
      | cons_cons _ _ => exact new (hb.subset (List.mem_singleton_self _))

/-- Sorting leaves those that may stand either way in the order in which they
stood. -/
theorem pairwise_mergeSort_stable {α : Type} {le : α → α → Bool} {r : α → α → Prop} {l : List α}
    (trans : ∀ a b c, le a b = true → le b c = true → le a c = true) (total : ∀ a b, (le a b || le b a) = true)
    (distinct : l.Nodup) (ordered : l.Pairwise r) :
    (l.mergeSort le).Pairwise fun a b => le a b = true ∧ (le b a = true → r a b) := by
  have distinct' : (l.mergeSort le).Nodup := (List.mergeSort_perm l le).nodup_iff.2 distinct
  rw [List.pairwise_iff_forall_sublist]
  intro a b hab
  refine ⟨List.pairwise_iff_forall_sublist.1 (List.pairwise_mergeSort trans total l) hab, fun hba => ?_⟩
  have member : ∀ c ∈ [a, b], c ∈ l := fun c hc => List.mem_mergeSort.1 (hab.subset hc)
  have different : a ≠ b := by
    have := hab.nodup distinct'
    simpa using this
  rcases pair_sublist_or different (member a (by simp)) (member b (by simp)) with h | h
  · exact List.pairwise_iff_forall_sublist.1 ordered h
  · exact absurd (List.pair_sublist_mergeSort trans total hba h) (not_pair_sublist_swap distinct' hab)

end TransitionGuards
