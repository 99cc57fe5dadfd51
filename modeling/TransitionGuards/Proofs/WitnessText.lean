import TransitionGuards.Proofs.Printing
import TransitionGuards.Proofs.WitnessOrder

/-
  Reading the text of a witness back.

  The text between the brackets is taken apart at every `, `, and each piece at its
  first ` = `. No name has the first character of a mark in it, and no number has a
  comma, so a mark is found just where it was put (`dropInfix?_append`): the pieces are
  the entries, and an entry gives its name and its value back (`entryOf?_entryChars`).
  Hence the text of a witness determines it (`readEntries?_text`). The entries that it
  was made from are determined up to their order, as the order of the names leaves
  only one list of them (`ofList_eq_iff`).
-/

namespace TransitionGuards

/-! ## Marks -/

/-- A mark is found where it was put if its first character is not in the text before. -/
theorem dropInfix?_append {m : Char} {before : List Char} (new : m ∉ before) (mark behind : List Char) :
    (before ++ (m :: mark) ++ behind).dropInfix? (m :: mark) = some (before, behind) := by
  refine List.dropInfix?_eq_some_iff.2 ⟨⟨_, rfl, BEq.rfl⟩, fun p i s split same => ?_⟩
  obtain rfl := eq_of_beq same
  rw [List.append_assoc, List.append_assoc] at split
  rcases List.append_eq_append_iff.1 split with ⟨t, rfl, _⟩ | ⟨t, rfl, h⟩
  · rw [List.length_append]
    exact Nat.le_add_right ..
  · -- a mark that began earlier would begin inside `before`
    cases t with
    | nil => rw [List.append_nil]
    | cons x t =>
      obtain rfl : m = x := (List.cons.inj h).1
      exact absurd (List.mem_append_right p (List.mem_cons_self ..)) new

theorem eq_of_dropInfix? {mark s before behind : List Char}
    (found : s.dropInfix? mark = some (before, behind)) : s = before ++ mark ++ behind := by
  obtain ⟨⟨i, split, same⟩, _⟩ := List.dropInfix?_eq_some_iff.1 found
  rw [split, eq_of_beq same]

theorem dropInfix?_eq_none {m : Char} {s : List Char} (new : m ∉ s) (mark : List Char) :
    s.dropInfix? (m :: mark) = none := by
  refine Option.eq_none_iff_forall_ne_some.2 fun (before, behind) found => new ?_
  rw [eq_of_dropInfix? found]
  exact List.mem_append_left _ (List.mem_append_right _ (List.mem_cons_self ..))

theorem length_lt_of_dropInfix? {m : Char} {mark s before behind : List Char}
    (found : s.dropInfix? (m :: mark) = some (before, behind)) : behind.length < s.length := by
  rw [eq_of_dropInfix? found, List.length_append, List.length_append, List.length_cons]
  omega

namespace Witness

/-! ## Taking the text apart -/

/-- The pieces of a text between the marks `, `. -/
def pieces (s : List Char) : List (List Char) :=
  match found : s.dropInfix? [',', ' '] with
  | none => [s]
  | some (piece, rest) =>
    have : rest.length < s.length := length_lt_of_dropInfix? found
    piece :: pieces rest
termination_by s.length

/-- The entry that a piece is: what stands before its first ` = `, and the number behind. -/
def entryOf? (s : List Char) : Option (String × Int64) := do
  let (name, number) ← s.dropInfix? [' ', '=', ' ']
  let v ← (signedDecimal? number).bind int64?
  return (String.ofList name, v)

/-- The entries between the brackets of a text. -/
def readEntries? (text : String) : Option (List (String × Int64)) := do
  let opened ← text.toList.dropPrefix? ['[']
  let inner ← opened.dropSuffix? [']']
  if inner.isEmpty then return [] else (pieces inner).mapM entryOf?

theorem pieces_of_notMem {s : List Char} (new : ',' ∉ s) : pieces s = [s] := by
  rw [pieces]
  split
  · rfl
  · next found =>
    rw [dropInfix?_eq_none new] at found
    cases found

theorem pieces_append {s : List Char} (new : ',' ∉ s) (t : List Char) :
    pieces (s ++ [',', ' '] ++ t) = s :: pieces t := by
  rw [pieces]
  split
  · next found =>
    rw [dropInfix?_append new] at found
    cases found
  · next found =>
    rw [dropInfix?_append new] at found
    cases found
    rfl

/-- What is put together with marks comes apart again. -/
theorem pieces_intersperse : ∀ {parts : List (List Char)}, parts ≠ [] → (∀ s ∈ parts, ',' ∉ s) →
    pieces (parts.intersperse [',', ' ']).flatten = parts
  | [s], _, new => by
    show pieces (s ++ []) = [s]
    rw [List.append_nil, pieces_of_notMem (new s (List.mem_cons_self ..))]
  | s :: t :: parts, _, new => by
    obtain ⟨first, new⟩ := List.forall_mem_cons.1 new
    rw [List.intersperse_cons_cons, List.flatten_cons, List.flatten_cons, ← List.append_assoc, pieces_append first,
      pieces_intersperse (List.cons_ne_nil t parts) new]

/-! ## Entries -/

theorem signedDecimal?_of_integer {u : List Char} {v : Int64} (number : Grammar.Integer u v) :
    signedDecimal? u = some v.toInt := by
  cases number with
  | unsigned digits value =>
    obtain ⟨_, all⟩ := isDigits_iff.1 digits
    unfold signedDecimal?
    split
    · cases all '-' (List.mem_cons_self ..)
    · cases all '+' (List.mem_cons_self ..)
    · rw [if_pos digits, value]
  | negative digits value => rw [signedDecimal?, if_pos digits, value]

theorem comma_notMem_decimal (v : Int64) : ',' ∉ decimal v.toInt := by
  intro comma
  have spelled : Grammar.Spelled .eq (decimal v.toInt) v.toInt := literal_iff_spelled.1 (.number (integer_decimal v))
  cases spelled.chars _ comma

theorem isNameChar_comma : isNameChar ',' = false := by decide +kernel

section Entry
variable {e : String × Int64} (named : ∀ x ∈ e.1.toList, isNameChar x = true)
include named

theorem notMem_name {x : Char} (other : isNameChar x = false) : x ∉ e.1.toList := by
  intro hx
  cases other.symm.trans (named x hx)

theorem comma_notMem_entryChars : ',' ∉ entryChars e := by
  rw [entryChars, List.mem_append]
  rintro (comma | comma)
  · exact notMem_name named isNameChar_comma comma
  · simp only [List.mem_cons, Char.reduceEq, false_or] at comma
    exact comma_notMem_decimal e.2 comma

theorem entryOf?_entryChars : entryOf? (entryChars e) = some e := by
  have blank : ' ' ∉ e.1.toList := notMem_name named (isNameChar_of_isBlank ' ' (by decide))
  have cut : (entryChars e).dropInfix? [' ', '=', ' '] = some (e.1.toList, decimal e.2.toInt) := by
    rw [← dropInfix?_append blank ['=', ' '] (decimal e.2.toInt), List.append_assoc]
    rfl
  have value : int64? e.2.toInt = some e.2 := int64?_eq_some_iff.2 rfl
  rw [entryOf?, cut]
  simp [signedDecimal?_of_integer (integer_decimal e.2), value]

end Entry

/-! ## Whole texts -/

variable {w : Witness} {es fs : List (String × Int64)}

theorem mapM_entryOf? (named : ∀ e ∈ es, ∀ x ∈ e.1.toList, isNameChar x = true) :
    (es.map entryChars).mapM entryOf? = some es := by
  induction es with
  | nil => rfl
  | cons e es ih =>
    obtain ⟨first, named⟩ := List.forall_mem_cons.1 named
    rw [List.map_cons, List.mapM_cons, entryOf?_entryChars first, ih named]
    rfl

/-- The text of a witness gives its entries back, in their order. -/
theorem readEntries?_text (named : ∀ e ∈ w.entries, ∀ x ∈ e.1.toList, isNameChar x = true) :
    readEntries? w.text = some w.entries := by
  obtain ⟨entries⟩ := w
  let inner := ((entries.map entryChars).intersperse [',', ' ']).flatten
  have opened : (text ⟨entries⟩).toList.dropPrefix? ['['] = some (inner ++ [']']) := by
    rw [text, String.toList_ofList]
    show (['['] ++ (inner ++ [']'])).dropPrefix? ['['] = _
    exact List.dropPrefix?_append_of_beq _ BEq.rfl
  have closed : (inner ++ [']']).dropSuffix? [']'] = some inner :=
    List.dropSuffix?_eq_some_iff.2 ⟨_, rfl, BEq.rfl⟩
  rw [readEntries?, opened]
  show ((inner ++ [']']).dropSuffix? [']'] >>= _) = _
  rw [closed]
  show (if inner.isEmpty then some [] else (pieces inner).mapM entryOf?) = some entries
  -- no entries and a single empty entry would look alike, so the two cases part here
  cases entries with
  | nil => rfl
  | cons e entries =>
    have apart : pieces inner = (e :: entries).map entryChars := by
      refine pieces_intersperse (List.map_eq_nil_iff.not.2 (List.cons_ne_nil e entries)) fun s hs => ?_
      obtain ⟨d, hd, rfl⟩ := List.mem_map.1 hs
      exact comma_notMem_entryChars (named d hd)
    have nonempty : inner ≠ [] := by
      intro none
      rw [none, pieces_of_notMem List.not_mem_nil] at apart
      have first : [] = entryChars e := (List.cons.inj apart).1
      simp [entryChars] at first
    rw [List.isEmpty_eq_false_iff.2 nonempty, apart]
    exact mapM_entryOf? named

/-- The names settle the order of the entries. -/
theorem ofList_eq_iff (distinct : (es.map (·.1)).Nodup) : ofList es = ofList fs ↔ es.Perm fs := by
  have perm (l : List (String × Int64)) : (ofList l).entries.Perm l := List.mergeSort_perm _ _
  constructor
  · intro same
    exact (perm es).symm.trans (same ▸ perm fs)
  · intro h
    have distinct' : (fs.map (·.1)).Nodup := (h.map _).nodup_iff.1 distinct
    have same : (ofList es).entries = (ofList fs).entries :=
      List.Perm.eq_of_pairwise (fun a b _ _ hab hba => absurd hab hba.asymm) (sorted_ofList distinct)
        (sorted_ofList distinct') ((perm es).trans (h.trans (perm fs).symm))
    exact congrArg mk same

/-- The text determines the witness, for entries with names of name characters, no two
of one list with the same name. Two lists of such entries have one text just when they
have one witness, and that just when one is the other in another order; and the text,
taken apart at its marks, gives the entries in the order of their names. -/
theorem text_determines (es fs : List (String × Int64))
    (named : ∀ e ∈ es ++ fs, ∀ x ∈ e.1.toList, isNameChar x = true) (distinct : (es.map (·.1)).Nodup) :
    ((ofList es).text = (ofList fs).text ↔ ofList es = ofList fs) ∧ (ofList es = ofList fs ↔ es.Perm fs) ∧
    readEntries? (ofList es).text = some (ofList es).entries ∧
    (ofList es).entries.Perm es ∧ (ofList es).entries.Pairwise (·.1 < ·.1) := by
  have read (l : List (String × Int64)) (listed : ∀ e ∈ l, e ∈ es ++ fs) :
      readEntries? (ofList l).text = some (ofList l).entries :=
    readEntries?_text fun e he => named e (listed e (mem_ofList.1 he))
  have left := read es fun e he => List.mem_append_left fs he
  have right := read fs fun e he => List.mem_append_right es he
  refine ⟨⟨fun same => ?_, fun same => congrArg text same⟩, ofList_eq_iff distinct, left,
    List.mergeSort_perm _ _, sorted_ofList distinct⟩
  rw [same, right] at left
  exact congrArg mk (Option.some.inj left).symm

/-- The extremes and another negative value, in two orders; no entries at all. -/
theorem text_determines_extremes :
    let es := [("y", Int64.maxValue), ("field_x", Int64.minValue), ("x_2", -1)]
    let fs := [("x_2", -1), ("y", Int64.maxValue), ("field_x", Int64.minValue)]
    let text := "[field_x = -9223372036854775808, x_2 = -1, y = 9223372036854775807]"
    (ofList es).text = text ∧ (ofList fs).text = text ∧ ofList es = ofList fs ∧ es.Perm fs ∧
    readEntries? text = some [("field_x", Int64.minValue), ("x_2", -1), ("y", Int64.maxValue)] ∧
    (ofList []).text = "[]" ∧ readEntries? "[]" = some [] := by
  intro es fs text
  have name_chars : ∀ e ∈ es ++ fs, e.1.toList.all isNameChar = true := by decide +kernel
  have named (e : String × Int64) (he : e ∈ es ++ fs) : ∀ x ∈ e.1.toList, isNameChar x = true :=
    List.all_eq_true.1 (name_chars e he)
  have distinct : (es.map (·.1)).Nodup := by decide
  let sorted : Witness := ⟨[("field_x", Int64.minValue), ("x_2", -1), ("y", Int64.maxValue)]⟩
  have first : ofList es = sorted := by simp [ofList, es, sorted, List.mergeSort]
  have second : ofList fs = sorted := by simp [ofList, fs, sorted, List.mergeSort]
  have written : sorted.text = text := by
    have least : decimal Int64.minValue.toInt = "-9223372036854775808".toList := by
      show '-' :: digits 9223372036854775808 = _
      simp [digits, digitChar]
    have negative : decimal (Int64.toInt (-1)) = "-1".toList := by
      show '-' :: digits 1 = _
      simp [digits, digitChar]
    have greatest : decimal Int64.maxValue.toInt = "9223372036854775807".toList := by
      show digits 9223372036854775807 = _
      simp [digits, digitChar]
    simp only [sorted, Witness.text, chars, List.map_cons, List.map_nil, entryChars, least, negative, greatest]
    decide +kernel
  obtain ⟨same, perm, read, _, _⟩ := text_determines es fs named distinct
  have one := same.1 (by rw [first, second])
  rw [first, written] at read
  have nothing : ofList [] = ⟨[]⟩ := congrArg mk List.mergeSort_nil
  have brackets : (ofList []).text = "[]" := by rw [nothing]; rfl
  obtain ⟨_, _, empty, _, _⟩ := text_determines [] [] (List.forall_mem_nil _) List.nodup_nil
  rw [brackets, nothing] at empty
  exact ⟨first ▸ written, second ▸ written, one, perm.1 one, read, brackets, empty⟩

end Witness

end TransitionGuards
