import TransitionGuards.Config.Document
import TransitionGuards.Machine.Document
import TransitionGuards.Proofs.Records
import TransitionGuards.Request

/-
  Documents that are read, written and read again.

  The types of documents one after another, each from those of its parts. Only
  the values of conditions and the guards are no plain records. A condition
  value is written as it stood there, but for an integer beyond the signed ones,
  which has become a floating-point number. A guard does not keep the fields
  that do not belong to its type: what is written states the guard, not the
  record that it was read from.
-/

namespace TransitionGuards

/-! ## Guards -/

namespace ConditionValue
variable {doc : Doc} {v : Json}

theorem isFinite_of_large {n : Int} (fits : (Number.integer n).Fits) (large : int64? n = none) :
    (Float.ofInt n).isFinite = true := by
  have beyond : 2 ^ 63 ≤ n := by
    by_contra small
    have range : -2 ^ 63 ≤ n := fits.1
    have whole := (int64?_eq_some_iff (v := Int64.ofInt n)).2 (Int64.toInt_ofInt_of_le range (by omega))
    rw [large] at whole
    cases whole
  obtain ⟨m, rfl⟩ := Int.eq_ofNat_of_zero_le (Int.le_trans (by decide) beyond)
  have upper : (m : Int) < 2 ^ 64 := fits.2
  exact FiniteNumbers.isFinite_ofNat (by omega) (by omega)

/-- A condition value is written as it stood there, or it is a floating-point
number. -/
theorem toJson_ofJson (fits : doc.Fits) (decoded : decodeJson doc = .ok v) :
    (ofJson v).toJson = v ∨ ∃ x finite, ofJson v = .float x ∧ (ofJson v).toJson = .number (.real x finite) := by
  cases v with
  | null | bool _ | string _ | array _ | object _ => exact .inl rfl
  | number n =>
    cases n with
    | real x finite => exact .inr ⟨x, finite, rfl, dif_pos finite⟩
    | integer n =>
      cases small : int64? n with
      | some k =>
        left
        rw [ofJson, small]
        show Json.number (.integer k.toInt) = _
        rw [int64?_eq_some_iff.1 small]
      | none =>
        -- too large for a signed integer, it is kept as a floating-point number, which has to be finite
        have fits : (Number.integer n).Fits := by
          cases doc with
          | number m =>
            cases decoded
            exact fits
          | array _ | object _ =>
            obtain ⟨_, _, other⟩ := exists_of_map_ok decoded
            cases other
          | _ => cases decoded
        have finite := isFinite_of_large fits small
        right
        rw [ofJson, small]
        exact ⟨_, finite, rfl, dif_pos finite⟩

theorem rereads : Rereads decodeConditionValue toJson where
  again {doc} {a} fits decoded := by
    obtain ⟨v, value, rfl⟩ := exists_of_map_ok decoded
    obtain same | ⟨x, finite, real, written⟩ := toJson_ofJson fits value
    · rw [same]
      exact (Rereads.json.again fits value).map ofJson
    · rw [written, real]
      exact .of_isPlain trivial rfl
  present {doc} {a} fits decoded present := by
    obtain ⟨v, value, rfl⟩ := exists_of_map_ok decoded
    obtain same | ⟨x, finite, _, written⟩ := toJson_ofJson fits value
    · rw [same]
      exact Rereads.json.present fits value present
    · rw [written]
      exact nofun

end ConditionValue

theorem Comparator.rereads : Rereads decodeComparator fun c => .string c.name :=
  .name fun c => by cases c <;> rfl

theorem FieldCondition.rereads : Rereads decodeFieldCondition FieldCondition.toJson :=
  .record (.cons (Field.rereads_required _ .string) (.cons (Field.rereads_required _ Comparator.rereads)
    (.cons (Field.rereads_optional _ ConditionValue.rereads) (.cons (Field.rereads_member? _ .string) .nil))))
    (by decide) fun t => by simp [FieldCondition.toJson]

def GuardKind.name : GuardKind → String
  | .protocol => "protocol"
  | .manual => "manual"
  | .alwaysTrue => "always_true"

theorem GuardKind.rereads : Rereads (decodeName GuardKind.names) fun k => .string k.name :=
  .name fun k => by cases k <;> rfl

namespace Guard

/-- The record of the guard, with the fields of its type only. -/
def parts : Guard → GuardKind × Option (List FieldCondition) × Option String × Unit
  | .protocol conditions => (.protocol, some conditions, none, ())
  | .manual text => (.manual, none, some text, ())
  | .alwaysTrue => (.alwaysTrue, none, none, ())

theorem ofParts_parts (g : Guard) : ofParts g.parts.1 g.parts.2.1 g.parts.2.2.1 = g := by
  cases g <;> rfl

def members (t : GuardKind × Option (List FieldCondition) × Option String × Unit) : List (String × Json) :=
  [("type", .string t.1.name)] ++ (Json.member? "protocolConditions" (.ofList FieldCondition.toJson) t.2.1 ++
    (Json.member? "manualExpression" .string t.2.2.1 ++ []))

theorem toJson_eq (g : Guard) : g.toJson = .object (members g.parts) := by
  cases g <;> rfl

theorem rereads_fields : Guard.fields.Rereads members :=
  .cons (Field.rereads_required _ GuardKind.rereads) (.cons (Field.rereads_member? _ FieldCondition.rereads.list)
    (.cons (Field.rereads_member? _ .string) .nil))

/-- A field of the type that was missing counts as empty, and an empty one can be
read, too. -/
theorem gives_parts {kind : GuardKind} {conditions : Option (List FieldCondition)} {text : Option String}
    (gives : Guard.fields.Gives (kind, conditions, text, ())) :
    Guard.fields.Gives (ofParts kind conditions text).parts := by
  have left {α : Type} {key : String} {decode : Decode α} : (Field.optional key decode).Gives none := .inr (.inl rfl)
  cases kind with
  | alwaysTrue => exact ⟨gives.1, left, left, trivial⟩
  | manual => exact ⟨gives.1, left, .inl ⟨.string (text.getD ""), trivial, rfl⟩, trivial⟩
  | protocol =>
    cases conditions with
    | none => exact ⟨gives.1, .inl ⟨.array .closed, trivial, rfl⟩, left, trivial⟩
    | some conditions => exact ⟨gives.1, gives.2.1, left, trivial⟩

theorem rereads : Rereads decodeGuard toJson where
  again {doc} {g} fits decoded := by
    obtain ⟨⟨kind, conditions, text, _⟩, record, rfl⟩ := exists_of_map_ok decoded
    have reading := rereads_fields.reading (gives_parts (Fields.gives_of_decodeRecord fits record))
    have again := (readAs_of_reading (by decide) "RawGuard" false reading).map
      fun t => ofParts t.1 t.2.1 t.2.2.1
    rw [← toJson_eq, ofParts_parts] at again
    exact again
  present {doc} {g} _ _ _ := by cases g <;> exact nofun

end Guard

/-! ## Variables and machines -/

theorem VariableKind.rereads : Rereads decodeVariableKind fun k => .string k.name :=
  .name fun k => by cases k <;> rfl

theorem Variable.rereads : Rereads decodeVariable Variable.toJson :=
  .record (.cons (Field.rereads_required _ .string) (.cons (Field.rereads_required _ VariableKind.rereads)
    (.cons (Field.rereads_member? _ .int64) (.cons (Field.rereads_member? _ .int64)
      (.cons (Field.rereads_member? _ (.list .string)) (.cons (Field.rereads_member? _ .json) .nil))))))
    (by decide) fun t => by simp [Variable.toJson]

theorem NodeKind.rereads : Rereads decodeNodeKind fun k => .string k.name :=
  .name fun k => by cases k <;> rfl

theorem NodeData.rereads : Rereads decodeNodeData NodeData.toJson :=
  .record (.cons (Field.rereads_optional _ .string) (.cons (Field.rereads_optional _ NodeKind.rereads) .nil))
    (by decide) fun _ => rfl

theorem Node.rereads : Rereads decodeNode Node.toJson :=
  .record (.cons (Field.rereads_required _ .string) (.cons (Field.rereads_optional _ NodeData.rereads) .nil))
    (by decide) fun _ => rfl

theorem EdgeData.rereads : Rereads decodeEdgeData EdgeData.toJson :=
  .record (.cons (Field.rereads_optional _ .string) (.cons (Field.rereads_optional _ .json)
    (.cons (Field.rereads_optional _ .json) (.cons (Field.rereads_optional _ .bool)
      (.cons (Field.rereads_optional _ FieldCondition.rereads.list) .nil)))))
    (by decide) fun _ => rfl

theorem Edge.rereads : Rereads decodeEdge Edge.toJson :=
  .record (.cons (Field.rereads_required _ .string) (.cons (Field.rereads_required _ .string)
    (.cons (Field.rereads_required _ .string) (.cons (Field.rereads_optional _ EdgeData.rereads) .nil))))
    (by decide) fun _ => rfl

theorem Machine.rereads : Rereads decodeMachine Machine.toJson :=
  have none {α : Type} {decode : Decode α} : decodeList decode (.array .closed) = .ok [] := rfl
  .record (.cons (Field.rereads_default _ Node.rereads.list none trivial)
    (.cons (Field.rereads_default _ Edge.rereads.list none trivial)
      (.cons (Field.rereads_default _ Variable.rereads.list none trivial) .nil)))
    (by decide) fun _ => rfl

/-! ## Requests and settings -/

theorem PairRequest.rereads : Rereads decodePairRequest PairRequest.toJson :=
  .record (.cons (Field.rereads_required _ Guard.rereads) (.cons (Field.rereads_required _ Guard.rereads) .nil))
    (by decide) fun _ => rfl

theorem CompletenessRequest.rereads : Rereads decodeCompletenessRequest CompletenessRequest.toJson :=
  have label : decodeString (.string "") = .ok "" := rfl
  .record (.cons (Field.rereads_required _ Guard.rereads.list)
    (.cons (Field.rereads_default _ .string label trivial)
      (.cons (Field.rereads_default _ .string label trivial)
        (.cons (Field.rereads_optional _ Variable.rereads.list) .nil))))
    (by decide) fun _ => rfl

theorem BackendKind.rereads : Rereads decodeBackendKind fun k => .string k.name :=
  .name fun k => by cases k <;> rfl

theorem Precedence.rereads : Rereads decodePrecedence fun p => .string p.name :=
  .name fun p => by cases p <;> rfl

theorem Config.rereads : Rereads decodeConfig Config.toJson :=
  have builtin : decodeBackendKind (.string "builtin") = .ok Config.default.backend := rfl
  have legacy : decodePrecedence (.string "legacy") = .ok Config.default.precedence := rfl
  have lenient : decodeBool (.bool false) = .ok Config.default.strict := rfl
  have noTimeout : decodeOption decodeUInt64 .null = .ok Config.default.timeoutMs := rfl
  have budget : decodeOption decodeUInt64 (.number (.integer 1000000)) = .ok Config.default.maxDecisions := rfl
  have fits : (Doc.number (.integer 1000000)).Fits := ⟨by decide, by decide⟩
  .record (.cons (Field.rereads_default _ BackendKind.rereads builtin trivial)
    (.cons (Field.rereads_default _ Precedence.rereads legacy trivial)
      (.cons (Field.rereads_default _ .bool lenient trivial)
        (.cons (Field.rereads_default _ (.option .uint64) noTimeout trivial)
          (.cons (Field.rereads_default _ (.option .uint64) budget fits) .nil)))))
    (by decide) fun _ => rfl

/-! ## The whole -/

theorem Rereads.decodeText {α : Type} {decode : Decode α} {encode : α → Json} (h : Rereads decode encode)
    {text : String} {a : α} (decoded : TransitionGuards.decodeText decode text = .ok a) :
    ReadAs decode (encode a) a := by
  obtain ⟨doc, fits, decoded⟩ := exists_fits_of_decodeText decoded
  exact h.again fits decoded

/-- Requests, machines and settings that were decoded from a text are encoded to
values that decode to the same again, also if the members of objects are put in
another order. -/
theorem decode_toJson (text : String) :
    (∀ r, decodeText decodePairRequest text = .ok r →
      ∀ v : Json, v.Alike r.toJson → decodePairRequest (.ofJson v) = .ok r) ∧
    (∀ r, decodeText decodeCompletenessRequest text = .ok r →
      ∀ v : Json, v.Alike r.toJson → decodeCompletenessRequest (.ofJson v) = .ok r) ∧
    (∀ m, decodeText decodeMachine text = .ok m →
      ∀ v : Json, v.Alike m.toJson → decodeMachine (.ofJson v) = .ok m) ∧
    ∀ c, decodeText decodeConfig text = .ok c →
      ∀ v : Json, v.Alike c.toJson → decodeConfig (.ofJson v) = .ok c :=
  ⟨fun _ => PairRequest.rereads.decodeText, fun _ => CompletenessRequest.rereads.decodeText,
    fun _ => Machine.rereads.decodeText, fun _ => Config.rereads.decodeText⟩

/-- A text for each type of documents, with records that are arrays, a text that
is missing, members out of order or given twice, and an integer beyond the
signed ones. -/
def samples : String × String × String × String :=
  ("[[\"manual\", []], \x7b\"type\": \"protocol\", \"protocolConditions\": [[\"n\", \"gt\", 18446744073709551615]]\x7d]",
   "\x7b\"variables\": [[\"e\", \"enum\", null, 7, [\"a\"], \x7b\"z\": 1, \"y\": null, \"z\": []\x7d]], \"guards\": []\x7d",
   "[[], [[\"e\", \"s\", \"t\", \x7b\"condition\": \x7b\"b\": 1, \"a\": []\x7d, \"action\": null\x7d]]]",
   "\x7b\"max_decisions\": null, \"timeout_ms\": 18446744073709551615\x7d")

theorem decode_toJson_samples :
    (∃ r, decodeText decodePairRequest samples.1 = .ok r ∧ decodePairRequest (.ofJson r.toJson) = .ok r) ∧
    (∃ r, decodeText decodeCompletenessRequest samples.2.1 = .ok r ∧
      decodeCompletenessRequest (.ofJson r.toJson) = .ok r) ∧
    (∃ m, decodeText decodeMachine samples.2.2.1 = .ok m ∧ decodeMachine (.ofJson m.toJson) = .ok m) ∧
    ∃ c, decodeText decodeConfig samples.2.2.2 = .ok c ∧ decodeConfig (.ofJson c.toJson) = .ok c := by
  have pair : (decodeText decodePairRequest samples.1).toBool = true := by decide +kernel
  have completeness : (decodeText decodeCompletenessRequest samples.2.1).toBool = true := by decide +kernel
  have machine : (decodeText decodeMachine samples.2.2.1).toBool = true := by decide +kernel
  have config : (decodeText decodeConfig samples.2.2.2).toBool = true := by decide +kernel
  obtain ⟨r, pair⟩ := exists_of_toBool pair
  obtain ⟨r', completeness⟩ := exists_of_toBool completeness
  obtain ⟨m, machine⟩ := exists_of_toBool machine
  obtain ⟨c, config⟩ := exists_of_toBool config
  exact ⟨⟨r, pair, (decode_toJson _).1 r pair _ (.refl _)⟩,
    ⟨r', completeness, (decode_toJson _).2.1 r' completeness _ (.refl _)⟩,
    ⟨m, machine, (decode_toJson _).2.2.1 m machine _ (.refl _)⟩,
    ⟨c, config, (decode_toJson _).2.2.2 c config _ (.refl _)⟩⟩

end TransitionGuards
