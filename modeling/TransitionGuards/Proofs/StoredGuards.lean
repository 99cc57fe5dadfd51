import TransitionGuards.Machine.EdgeGuard
import TransitionGuards.Proofs.SurroundingBlanks
import TransitionGuards.Proofs.WireDocuments

/-
  The shapes in which editors have stored guards agree.

  A text says the same as a plain condition, as an object of type `manual` and as
  a guard of its own, although only the last keeps the blanks around it. Field
  conditions come back from an object of type `protocol` as they were decoded, as
  they do from the list beside the switch (`EdgeData.guard_of_storesConditions`).
  Whatever is stored, the guard states a condition or is the one that always
  holds.
-/

namespace TransitionGuards

/-! ## Guards of one source -/

namespace Guard
variable {g : Guard} {text : String} {cs : List FieldCondition}

theorem ofText?_eq_none (blank : allBlank text.toList = true) : ofText? text = none := if_pos blank

theorem ofText?_eq_some (notBlank : allBlank text.toList = false) : ofText? text = some (.manual (trimText text)) :=
  if_neg (ne_true_of_eq_false notBlank)

theorem ofConditions?_eq_some (nonempty : cs ≠ []) : ofConditions? cs = some (.protocol cs) := by
  cases cs with
  | nil => exact absurd rfl nonempty
  | cons c cs => rfl

theorem not_isVacuous_of_ofText? (h : ofText? text = some g) : g.isVacuous = false := by
  cases blank : allBlank text.toList with
  | true =>
    rw [ofText?_eq_none blank] at h
    cases h
  | false =>
    rw [ofText?_eq_some blank] at h
    cases h
    rw [isVacuous, toList_trimText, allBlank_trim, blank]

theorem not_isVacuous_of_ofConditions? (h : ofConditions? cs = some g) : g.isVacuous = false := by
  cases cs with
  | nil => cases h
  | cons c cs =>
    cases h
    rfl

/-- What is made of a text compiles as the text does; the two fail with different
messages. -/
theorem compile_ofText? (precedence : Precedence) (text : String) :
    ((ofText? text).getD .alwaysTrue).compile ⟨precedence, false⟩ = (manual text).compile ⟨precedence, false⟩ ∧
    (((ofText? text).getD .alwaysTrue).compile ⟨precedence, true⟩).Alike ((manual text).compile ⟨precedence, true⟩) := by
  cases blank : allBlank text.toList with
  | true =>
    have vacuous (mode : CompileMode) : alwaysTrue.compile mode = (manual text).compile mode := by
      funext table
      simp [compile, isVacuous, blank]
    rw [ofText?_eq_none blank, Option.getD_none, vacuous, vacuous]
    exact ⟨rfl, fun table => ⟨rfl, rfl⟩⟩
  | false =>
    rw [ofText?_eq_some blank, Option.getD_some]
    exact ⟨compile_trimText_lenient precedence text, compile_trimText ⟨precedence, true⟩ text⟩

end Guard

/-- Whether the condition was decoded from a document. -/
def FieldCondition.IsDecoded (c : FieldCondition) : Prop := ∃ doc : Doc, doc.Fits ∧ decodeFieldCondition doc = .ok c

theorem FieldCondition.isDecoded_of_decodeText {text : String} {cs : List FieldCondition}
    (h : decodeText (decodeList decodeFieldCondition) text = .ok cs) : ∀ c ∈ cs, c.IsDecoded := by
  obtain ⟨doc, fits, decoded⟩ := exists_fits_of_decodeText h
  exact exists_of_decodeList fits decoded

namespace EdgeData
variable {d : EdgeData} {v w : Json} {g : Guard} {text : String} {cs : List FieldCondition}

/-! ## Shapes -/

/-- Whether a list of field conditions is switched on, and not empty. -/
def ListsConditions (d : EdgeData) : Prop :=
  d.useProtocolConditions = some true ∧ ∃ cs, d.protocolConditions = some cs ∧ cs ≠ []

/-- Whether the condition is the text, or an object of type `manual` that holds it. -/
def StoresText (d : EdgeData) (text : String) : Prop :=
  d.condition = some (.string text) ∨
    ∃ v, d.condition = some v ∧ v.get? "type" = some (.string "manual") ∧ v.get? "text" = some (.string text)

/-- Whether the condition is an object of type `protocol` that holds the field
conditions, the members of objects in any order. -/
def StoresConditions (d : EdgeData) (cs : List FieldCondition) : Prop :=
  ∃ v w, d.condition = some v ∧ v.get? "type" = some (.string "protocol") ∧ v.get? "conditions" = some w ∧
    w.Alike (.ofList FieldCondition.toJson cs)

/-! ## The guard of each shape -/

theorem typedGuard?_manual (kind : v.get? "type" = some (.string "manual")) (holds : v.get? "text" = some (.string text)) :
    typedGuard? v = Guard.ofText? text := by
  simp [typedGuard?, kind, holds, Json.string?]

theorem typedGuard?_protocol (kind : v.get? "type" = some (.string "protocol")) (holds : v.get? "conditions" = some w) :
    typedGuard? v = Guard.ofConditions? (storedConditions w) := by
  simp [typedGuard?, kind, holds, Json.string?]

theorem typedGuard?_other (other : ∀ ms, v ≠ .object ms) : typedGuard? v = none := by
  cases v with
  | object ms => exact absurd rfl (other ms)
  | _ => rfl

theorem listedGuard?_eq_none (h : ¬d.ListsConditions) : d.listedGuard? = none := by
  unfold listedGuard?
  split
  · next on =>
    cases listed : d.protocolConditions with
    | none => rfl
    | some cs =>
      cases cs with
      | nil => rfl
      | cons c cs => exact absurd ⟨on, _, listed, List.cons_ne_nil c cs⟩ h
  · rfl

theorem listedGuard?_eq_some (on : d.useProtocolConditions = some true) (listed : d.protocolConditions = some cs)
    (nonempty : cs ≠ []) : d.listedGuard? = some (.protocol cs) := by
  rw [listedGuard?, if_pos on, listed, Option.bind_some, Guard.ofConditions?_eq_some nonempty]

theorem storedConditions_eq (decoded : ∀ c ∈ cs, c.IsDecoded) (stored : w.Alike (.ofList FieldCondition.toJson cs)) :
    storedConditions w = cs := by
  have each : ∀ c ∈ cs, ReadAs decodeFieldCondition c.toJson c := by
    intro c hc
    obtain ⟨doc, fits, read⟩ := decoded c hc
    exact FieldCondition.rereads.again fits read
  rw [storedConditions, ReadAs.list each w stored]

theorem guard_of_storesText (stored : d.StoresText text) (unlisted : ¬d.ListsConditions) :
    d.guard = (Guard.ofText? text).getD .alwaysTrue := by
  have unlisted := listedGuard?_eq_none unlisted
  obtain plain | ⟨v, typed, kind, holds⟩ := stored
  · simp [guard, plain, unlisted, typedGuard?_other, Json.string?]
  · -- an object that has members is no text
    have object : v.string? = none := by
      cases v with
      | object ms => rfl
      | _ => cases kind
    simp [guard, typed, unlisted, typedGuard?_manual kind holds, object]

theorem guard_of_storesConditions (nonempty : cs ≠ []) (decoded : ∀ c ∈ cs, c.IsDecoded)
    (stored : d.StoresConditions cs) : d.guard = .protocol cs := by
  obtain ⟨v, w, typed, kind, holds, alike⟩ := stored
  rw [guard, typed, Option.bind_some, typedGuard?_protocol kind holds, storedConditions_eq decoded alike,
    Guard.ofConditions?_eq_some nonempty]
  rfl

theorem guard_of_listed (nonempty : cs ≠ []) (on : d.useProtocolConditions = some true)
    (listed : d.protocolConditions = some cs) (other : ∀ ms, d.condition ≠ some (.object ms)) :
    d.guard = .protocol cs := by
  have untyped : d.condition.bind typedGuard? = none := by
    cases stored : d.condition with
    | none => rfl
    | some v => exact typedGuard?_other fun ms same => other ms (stored.trans (congrArg some same))
  rw [guard, untyped, listedGuard?_eq_some on listed nonempty]
  rfl

/-! ## Vacuous guards -/

theorem not_isVacuous_of_typedGuard? (h : typedGuard? v = some g) : g.isVacuous = false := by
  unfold typedGuard? at h
  split at h
  · obtain ⟨w, _, h⟩ := Option.bind_eq_some_iff.1 h
    exact Guard.not_isVacuous_of_ofConditions? h
  · obtain ⟨text, _, h⟩ := Option.bind_eq_some_iff.1 h
    exact Guard.not_isVacuous_of_ofText? h
  · cases h

theorem not_isVacuous_of_listedGuard? (h : d.listedGuard? = some g) : g.isVacuous = false := by
  unfold listedGuard? at h
  split at h
  · obtain ⟨cs, _, h⟩ := Option.bind_eq_some_iff.1 h
    exact Guard.not_isVacuous_of_ofConditions? h
  · cases h

theorem guard_alwaysTrue_or (d : EdgeData) : d.guard = .alwaysTrue ∨ d.guard.isVacuous = false := by
  unfold guard
  generalize sources : Option.or _ _ = source
  cases source with
  | none => exact .inl rfl
  | some g =>
    right
    rw [Option.or_eq_some_iff, Option.or_eq_some_iff] at sources
    obtain typed | ⟨_, listed | ⟨_, plain⟩⟩ := sources
    · obtain ⟨v, _, h⟩ := Option.bind_eq_some_iff.1 typed
      exact not_isVacuous_of_typedGuard? h
    · exact not_isVacuous_of_listedGuard? listed
    · obtain ⟨text, _, h⟩ := Option.bind_eq_some_iff.1 plain
      exact Guard.not_isVacuous_of_ofText? h

/-- Where no list of conditions is switched on, a text that is stored in any shape
compiles as the guard of that text does: without strictness to the same formula
and table, and with it alike, an error where that is one. Decoded conditions make
the same guard from an object, whatever stands beside it, and from the list, if the
condition is no object. The guard of any transition is the one that always holds,
or states a condition. -/
theorem guard_of_every_shape (d : EdgeData) :
    (∀ text, d.StoresText text → ¬d.ListsConditions → ∀ precedence,
      d.guard.compile ⟨precedence, false⟩ = (Guard.manual text).compile ⟨precedence, false⟩ ∧
      (d.guard.compile ⟨precedence, true⟩).Alike ((Guard.manual text).compile ⟨precedence, true⟩)) ∧
    (∀ cs, cs ≠ [] → (∀ c ∈ cs, c.IsDecoded) →
      (d.StoresConditions cs → d.guard = .protocol cs) ∧
      (d.useProtocolConditions = some true → d.protocolConditions = some cs →
        (∀ ms, d.condition ≠ some (.object ms)) → d.guard = .protocol cs)) ∧
    (d.guard = .alwaysTrue ∨ d.guard.isVacuous = false) := by
  refine ⟨fun text stored unlisted precedence => ?_, fun cs nonempty decoded => ?_, guard_alwaysTrue_or d⟩
  · rw [guard_of_storesText stored unlisted]
    exact Guard.compile_ofText? precedence text
  · exact ⟨guard_of_storesConditions nonempty decoded, guard_of_listed nonempty⟩

/-- A text in both its shapes, beside a list that holds no condition or is not
switched on. -/
def textual : EdgeData × EdgeData :=
  (⟨none, some (.string " x > 1 || y"), none, some true, some []⟩,
    ⟨none, some (.object [("text", .string " x > 1 || y"), ("type", .string "manual")]), none, none,
      some [.of "x" .eq (.bool true)]⟩)

/-- Conditions in both their shapes, the object beside a list of others. -/
def protocolled (cs : List FieldCondition) : EdgeData × EdgeData :=
  (⟨none, some (.object [("conditions", .ofList FieldCondition.toJson cs), ("type", .string "protocol")]), none, some true,
      some [.of "x" .eq (.bool true)]⟩,
    ⟨none, some (.string "x > 1"), none, some true, some cs⟩)

/-- Conditions as they come in a document, one on an integer beyond the signed
ones. -/
def largeCondition : String := "[[\"n\", \"gt\", 18446744073709551615]]"

theorem guard_of_every_shape_agreeing :
    textual.1.guard.compile ⟨.legacy, false⟩ .empty = textual.2.guard.compile ⟨.legacy, false⟩ .empty ∧
    (textual.1.guard.compile ⟨.standard, true⟩ .empty).1.toOption =
      (textual.2.guard.compile ⟨.standard, true⟩ .empty).1.toOption ∧
    ∃ cs, decodeText (decodeList decodeFieldCondition) largeCondition = .ok cs ∧
      (protocolled cs).1.guard = .protocol cs ∧ (protocolled cs).2.guard = .protocol cs := by
  have plain : textual.1.StoresText " x > 1 || y" := .inl rfl
  have typed : textual.2.StoresText " x > 1 || y" := .inr ⟨_, rfl, rfl, rfl⟩
  have empty : ¬textual.1.ListsConditions := by
    rintro ⟨_, cs, listed, nonempty⟩
    cases listed
    exact nonempty rfl
  have unswitched : ¬textual.2.ListsConditions := by
    rintro ⟨on, _⟩
    cases on
  have both (precedence : Precedence) := (guard_of_every_shape textual.1).1 _ plain empty precedence
  have both' (precedence : Precedence) := (guard_of_every_shape textual.2).1 _ typed unswitched precedence
  refine ⟨?_, ?_, ?_⟩
  · rw [(both .legacy).1, (both' .legacy).1]
  · exact ((both .standard).2 .empty).1.trans ((both' .standard).2 .empty).1.symm
  · have one : ((decodeText (decodeList decodeFieldCondition) largeCondition).map (·.length)).toOption = some 1 := by
      decide +kernel
    cases read : decodeText (decodeList decodeFieldCondition) largeCondition with
    | error e =>
      rw [read] at one
      cases one
    | ok cs =>
      rw [read] at one
      have nonempty : cs ≠ [] := by
        rintro rfl
        cases one
      have decoded := FieldCondition.isDecoded_of_decodeText read
      have object := ((guard_of_every_shape (protocolled cs).1).2.1 cs nonempty decoded).1
      have listed := ((guard_of_every_shape (protocolled cs).2).2.1 cs nonempty decoded).2
      exact ⟨cs, rfl, object ⟨_, _, rfl, rfl, rfl, .refl _⟩, listed rfl rfl fun _ => nofun⟩

end EdgeData

end TransitionGuards
