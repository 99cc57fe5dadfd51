import TransitionGuards.Search
import TransitionGuards.Proofs.Distinct

/-
  Assignments, in two forms.

  Choices in the order in which they were made are a list; looking up a variable
  finds the choice made first. An assignment that is changed in place is a map
  ordered by the variables. Removing what was entered for a new variable gives the
  map back (`Choices.erase_insert`), and a map lists just what looking up finds in it
  (`Choices.get?_toList`).
-/

namespace TransitionGuards

/-! ## Lists of choices -/

namespace Assignment
variable {s : Assignment} {x : VarId} {v : Int64}

theorem get?_cons (x : VarId) (v : Int64) (s : Assignment) (y : VarId) :
    get? ((x, v) :: s) y = if x = y then some v else s.get? y := by
  by_cases h : x = y <;> simp [get?, h]

theorem get?_append (s t : Assignment) (x : VarId) : get? (s ++ t) x = (s.get? x).or (t.get? x) := by
  rw [get?, List.find?_append, Option.map_or]
  rfl

theorem get?_of_notMem (h : x ∉ s.map (·.1)) : s.get? x = none := by
  have none : s.find? (fun e => decide (e.1 = x)) = none := by
    rw [List.find?_eq_none]
    intro e he same
    exact h (of_decide_eq_true same ▸ List.mem_map_of_mem he)
  rw [get?, none]
  rfl

theorem get?_of_mem (distinct : (s.map (·.1)).Nodup) (h : (x, v) ∈ s) : s.get? x = some v := by
  rw [get?, find?_of_nodup (k := (·.1)) (fun d => decide_eq_true_iff) distinct h]
  rfl

theorem mem_of_get? (h : s.get? x = some v) : (x, v) ∈ s := by
  obtain ⟨e, he, rfl⟩ := Option.map_eq_some_iff.1 h
  have hx : e.1 = x := by simpa using List.find?_some he
  exact hx ▸ List.mem_of_find?_eq_some he

theorem eq_nil_of_get? (h : ∀ x, s.get? x = none) : s = [] := by
  cases s with
  | nil => rfl
  | cons e s =>
    have first := h e.1
    rw [get?_cons, if_pos rfl] at first
    cases first

end Assignment

/-! ## Maps -/

instance : Ord VarId := ⟨compareOn VarId.index⟩

instance : Std.TransOrd VarId := inferInstanceAs (Std.TransCmp (compareOn VarId.index))

instance : Std.LawfulEqOrd VarId where
  eq_of_compare {x y} h := by
    have same : x.index = y.index := Nat.compare_eq_eq.1 h
    cases x
    exact congrArg VarId.mk same

/-- Values for some variables, ordered by the places of the variables. -/
abbrev Choices := Std.ExtTreeMap VarId Int64

namespace Choices
variable {assigned : Choices} {x : VarId} {v : Int64}

theorem getElem?_insert (assigned : Choices) (x : VarId) (v : Int64) (y : VarId) :
    (assigned.insert x v)[y]? = if x = y then some v else assigned[y]? := by
  rw [Std.ExtTreeMap.getElem?_insert]
  simp only [Std.LawfulEqCmp.compare_eq_iff_eq]

theorem erase_insert (new : assigned[x]? = none) : (assigned.insert x v).erase x = assigned := by
  apply Std.ExtTreeMap.ext_getElem?
  intro y
  rw [Std.ExtTreeMap.getElem?_erase, getElem?_insert]
  simp only [Std.LawfulEqCmp.compare_eq_iff_eq]
  by_cases h : x = y
  · rw [if_pos h, ← h, new]
  · rw [if_neg h, if_neg h]

theorem get?_toList (assigned : Choices) (x : VarId) : Assignment.get? assigned.toList x = assigned[x]? := by
  have distinct : (assigned.toList.map (·.1)).Nodup := by
    apply List.pairwise_map.2
    refine assigned.distinct_keys_toList.imp fun {a b} different same => ?_
    exact different (Std.LawfulEqCmp.compare_eq_iff_eq.2 same)
  apply Option.ext
  intro v
  rw [← Std.ExtTreeMap.mem_toList_iff_getElem?_eq_some]
  exact ⟨Assignment.mem_of_get?, Assignment.get?_of_mem distinct⟩

/-- The map with the choices entered, one after another. -/
def enter (assigned : Choices) (choices : Assignment) : Choices := choices.foldl (fun m e => m.insert e.1 e.2) assigned

theorem getElem?_enter {choices : Assignment} (distinct : (choices.map (·.1)).Nodup) (assigned : Choices)
    (y : VarId) : (enter assigned choices)[y]? = (choices.get? y).or assigned[y]? := by
  induction choices generalizing assigned with
  | nil => rfl
  | cons e choices ih =>
    obtain ⟨new, distinct⟩ := List.nodup_cons.1 distinct
    show (enter (assigned.insert e.1 e.2) choices)[y]? = _
    rw [ih distinct, getElem?_insert, Assignment.get?_cons]
    by_cases h : e.1 = y
    · rw [if_pos h, if_pos h, Assignment.get?_of_notMem (h ▸ new)]
      rfl
    · rw [if_neg h, if_neg h]

theorem mem_of_getElem?_enter {choices : Assignment} (distinct : (choices.map (·.1)).Nodup)
    (h : (enter assigned choices)[x]? = some v) : assigned[x]? = some v ∨ (x, v) ∈ choices := by
  rw [getElem?_enter distinct, Option.or_eq_some_iff] at h
  rcases h with h | ⟨_, h⟩
  · exact .inr (Assignment.mem_of_get? h)
  · exact .inl h

/-! Choices for variables that have no value yet. -/

section New
variable {choices : Assignment} (distinct : (choices.map (·.1)).Nodup) (new : ∀ e ∈ choices, assigned[e.1]? = none)
include distinct new

theorem get?_toList_enter (y : VarId) :
    Assignment.get? (enter assigned choices).toList y = Assignment.get? (assigned.toList ++ choices) y := by
  rw [get?_toList, getElem?_enter distinct, Assignment.get?_append, get?_toList]
  cases hy : choices.get? y with
  | none => exact Option.or_none.symm
  | some v =>
    rw [new _ (Assignment.mem_of_get? hy)]
    rfl

theorem keeps_enter (h : assigned[x]? = some v) : (enter assigned choices)[x]? = some v := by
  rw [← get?_toList, get?_toList_enter distinct new, Assignment.get?_append, get?_toList, h]
  rfl

end New

end Choices

end TransitionGuards
