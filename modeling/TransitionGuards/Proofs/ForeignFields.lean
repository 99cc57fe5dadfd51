import TransitionGuards.Guard.Document
import TransitionGuards.Proofs.Records

/-
  Members of a guard object that do not belong to its type.

  The fields of a record are decoded before the type of the guard is looked at.
  So a member under the key of another type has no part in the guard, but it is
  read: with a value that its field cannot have, the guard is not decoded.

  This holds of records in general. A member more, under the key of a field that
  was left out, is taken in at the place of that field (`Place`), and what stands
  at the other places stays as it was (`Place.ofMembers_inserted`).
-/

namespace TransitionGuards

theorem Doc.lastMember_eq_none {key : String} {k value : Doc} {rest : Members}
    (h : lastMember key (.member k value rest) = none) : lastMember key rest = none ∧ k ≠ .string key := by
  cases k with
  | string k =>
    rw [lastMember, Option.or_eq_none_iff] at h
    refine ⟨h.1, fun same => ?_⟩
    cases same
    rw [if_pos rfl] at h
    cases h.2
  | _ => exact ⟨h, nofun⟩

/-- The members with one more among them. -/
inductive Members.Inserted (key : String) (value : Doc) : Members → Members → Prop
  | here {members : Members} : Inserted key value members (.member (.string key) value members)
  | later {k v : Doc} {members members' : Members} (more : Inserted key value members members') :
      Inserted key value (.member k v members) (.member k v members')

namespace Fields
variable {α σ τ : Type} {field : Field α} {fields : Fields σ τ} {a : α} {known known' : σ} {t : τ} {key : String}
  {value : Doc}

/-! ## The place of a field -/

/-- Where the field stands among others, the first with its key. -/
inductive Place {α : Type} (field : Field α) : {σ τ : Type} → Fields σ τ → Type 1
  | here {σ τ : Type} {rest : Fields σ τ} : Place field (.cons field rest)
  | later {β σ τ : Type} {other : Field β} {rest : Fields σ τ} (place : Place field rest)
      (distinct : other.key ≠ field.key) : Place field (.cons other rest)

namespace Place

/-- Whether no value is known of the field. -/
def Free : {σ τ : Type} → {fields : Fields σ τ} → Place field fields → σ → Prop
  | _, _, _, .here, (known, _) => known = none
  | _, _, _, .later place _, (_, others) => place.Free others

/-- The value put in among what is known. -/
def put (a : α) : {σ τ : Type} → {fields : Fields σ τ} → Place field fields → σ → σ
  | _, _, _, .here, (_, others) => (some a, others)
  | _, _, _, .later place _, (known, others) => (known, place.put a others)

/-- The value put into the record. -/
def give (a : α) : {σ τ : Type} → {fields : Fields σ τ} → Place field fields → τ → τ
  | _, _, _, .here, (_, as) => (a, as)
  | _, _, _, .later place _, (b, as) => (b, place.give a as)

variable (place : Place field fields)

theorem free_unknown : place.Free fields.unknown := by
  induction place with
  | here => rfl
  | later place _ ih => exact ih

theorem store_own (value : Doc) (free : place.Free known) :
    fields.store field.key value known = (field.decode value).map fun a => some (place.put a known) := by
  induction place with
  | here =>
    obtain ⟨_, others⟩ := known
    cases free
    rw [store, if_pos rfl]
    rfl
  | later place distinct ih =>
    obtain ⟨b, others⟩ := known
    rw [store_cons distinct, ih free]
    cases field.decode value <;> rfl

/-- A member of another field is taken in alike, whatever stands at the place. -/
theorem store_put (other : key ≠ field.key) (known : σ) :
    fields.store key value (place.put a known) = (fields.store key value known).map (·.map (place.put a)) := by
  induction place with
  | @here _ _ rest =>
    obtain ⟨b, others⟩ := known
    rw [put, store_cons (Ne.symm other), store_cons (Ne.symm other)]
    cases rest.store key value others with
    | error e => rfl
    | ok stored => cases stored <;> rfl
  | @later _ _ _ first rest place _ ih =>
    obtain ⟨b, others⟩ := known
    -- a field of the same key takes the member in before the place is reached
    by_cases own : first.key = key
    · rw [put, store.eq_def, store.eq_def]
      simp only [if_pos own]
      cases b with
      | some _ => rfl
      | none => cases first.decode value <;> rfl
    · rw [put, store_cons own, store_cons own, ih]
      cases rest.store key value others with
      | error e => rfl
      | ok stored => cases stored <;> rfl

theorem free_of_store (other : key ≠ field.key) (free : place.Free known)
    (h : fields.store key value known = .ok (some known')) : place.Free known' := by
  induction place with
  | here =>
    obtain ⟨_, own, _⟩ | ⟨_, _, _, rfl⟩ := store_cases h
    · exact absurd own.symm other
    · exact free
  | later place _ ih =>
    obtain ⟨_, _, _, _, rfl⟩ | ⟨_, _, taken, rfl⟩ := store_cases h
    · exact free
    · exact ih free taken

theorem finish_put (free : place.Free known) (h : fields.finish known = .ok t) :
    fields.finish (place.put a known) = .ok (place.give a t) := by
  induction place with
  | here =>
    obtain ⟨_, others⟩ := known
    -- the record was complete without the field, so there is a value for when it is missing
    cases free
    rw [finish, Option.none_or] at h
    split at h
    · cases h
    · obtain ⟨as, more, h⟩ := exists_of_map_ok h
      cases h
      rw [put, finish, Option.some_or, more]
      rfl
  | later place _ ih =>
    obtain ⟨b, others⟩ := known
    rw [finish] at h
    split at h
    · cases h
    · next b found =>
      obtain ⟨as, more, h⟩ := exists_of_map_ok h
      cases h
      rw [put, finish, found, ih free more]
      rfl

/-! ## A member more -/

variable {closed : Bool} {k : Doc}

theorem free_of_step (other : k ≠ .string field.key) (free : place.Free known)
    (step : fields.Step closed known k value known') : place.Free known' := by
  cases step with
  | stored taken => exact place.free_of_store (ne_of_apply_ne Doc.string other) free taken
  | passed _ _ _ => exact free

theorem step_put (other : k ≠ .string field.key) (step : fields.Step closed known k value known') :
    fields.Step closed (place.put a known) k value (place.put a known') := by
  cases step with
  | stored taken =>
    refine .stored ?_
    rw [place.store_put (ne_of_apply_ne Doc.string other), taken]
    rfl
  | passed left foreign passable =>
    refine .passed left ?_ passable
    rw [place.store_put (ne_of_apply_ne Doc.string other), foreign]
    rfl

/-- Members of an object without the key, which are read with a value for it or
without. -/
theorem ofMembers_put : ∀ {members : Members} {known : σ}, place.Free known →
    Doc.lastMember field.key members = none → fields.ofMembers closed known members = .ok t →
      fields.ofMembers closed (place.put a known) members = .ok (place.give a t)
  | .closed, known, free, _, h => place.finish_put free h
  | .cut _, _, _, _, h | .badKey _, _, _, _, h => nomatch h
  | .member k value rest, known, free, absent, h => by
    obtain ⟨absent, other⟩ := Doc.lastMember_eq_none absent
    obtain ⟨known', step⟩ := exists_step h
    rw [step.ofMembers_eq] at h
    rw [(place.step_put other step).ofMembers_eq]
    exact ofMembers_put (place.free_of_step other free step) absent h

theorem ofMembers_inserted {members members' : Members} (inserted : members.Inserted field.key value members')
    (free : place.Free known) (absent : Doc.lastMember field.key members = none)
    (h : fields.ofMembers closed known members = .ok t) :
    fields.ofMembers closed known members' = (field.decode value).map fun a => place.give a t := by
  induction inserted generalizing known with
  | here =>
    rw [ofMembers, place.store_own value free]
    cases field.decode value with
    | error e => rfl
    | ok a => exact ofMembers_put place free absent h
  | later more ih =>
    obtain ⟨absent, other⟩ := Doc.lastMember_eq_none absent
    obtain ⟨known', step⟩ := exists_step h
    rw [step.ofMembers_eq] at h ⊢
    exact ih (place.free_of_step other free step) absent h

end Place

end Fields

/-! ## Guards -/

namespace Guard

def conditionsPlace : Fields.Place (.optional "protocolConditions" (decodeList decodeFieldCondition)) Guard.fields :=
  .later .here (by decide)

def textPlace : Fields.Place (.optional "manualExpression" decodeString) Guard.fields :=
  .later (.later .here (by decide)) (by decide)

end Guard

/-- A guard object with a member more that does not belong to its type is the same
guard, if the value is one that the member's field can have. Otherwise the object is
refused, with what is wrong with the value. -/
theorem decodeGuard_foreign_field (members members' : Members) (value : Doc) (g : Guard)
    (decoded : decodeGuard (.object members) = .ok g) :
    ((∀ cs, g ≠ .protocol cs) → Doc.lastMember "protocolConditions" members = none →
      members.Inserted "protocolConditions" value members' →
        decodeGuard (.object members') = (decodeOption (decodeList decodeFieldCondition) value).map fun _ => g) ∧
    ((∀ text, g ≠ .manual text) → Doc.lastMember "manualExpression" members = none →
      members.Inserted "manualExpression" value members' →
        decodeGuard (.object members') = (decodeOption decodeString value).map fun _ => g) := by
  obtain ⟨⟨kind, conditions, text, _⟩, record, rfl⟩ := exists_of_map_ok decoded
  constructor
  · intro other absent inserted
    have read : decodeRecord "RawGuard" Guard.fields false (.object members') =
        (decodeOption (decodeList decodeFieldCondition) value).map (Guard.conditionsPlace.give · _) :=
      Guard.conditionsPlace.ofMembers_inserted inserted Guard.conditionsPlace.free_unknown absent record
    rw [decodeGuard, read]
    -- the value is read and then dropped: a guard of another type has no use for it
    cases kind with
    | protocol => exact absurd rfl (other _)
    | manual | alwaysTrue => cases decodeOption (decodeList decodeFieldCondition) value <;> rfl
  · intro other absent inserted
    have read : decodeRecord "RawGuard" Guard.fields false (.object members') =
        (decodeOption decodeString value).map (Guard.textPlace.give · _) :=
      Guard.textPlace.ofMembers_inserted inserted Guard.textPlace.free_unknown absent record
    rw [decodeGuard, read]
    cases kind with
    | manual => exact absurd rfl (other _)
    | protocol | alwaysTrue => cases decodeOption decodeString value <;> rfl

/-- No conditions before a manual guard, and a text behind the guard that always
holds. -/
theorem decodeGuard_foreign_field_ignored :
    decodeGuard (.ofJson (.object [("protocolConditions", .array []), ("type", .string "manual"),
      ("manualExpression", .string "x > 1")])) = .ok (.manual "x > 1") ∧
    decodeGuard (.ofJson (.object [("type", .string "always_true"), ("manualExpression", .string "x > 1")])) =
      .ok .alwaysTrue := by
  let manual := Doc.ofMembers [("type", .string "manual"), ("manualExpression", .string "x > 1")]
  let always := Doc.ofMembers [("type", .string "always_true")]
  constructor
  · exact (decodeGuard_foreign_field manual _ (.array .closed) _ rfl).1 (fun _ => nofun) rfl .here
  · exact (decodeGuard_foreign_field always _ (.string "x > 1") _ rfl).2 (fun _ => nofun) rfl (.later .here)

/-- With an integer for the text, or a text for the conditions, the guard that always
holds is no guard any more. -/
theorem decodeGuard_foreign_integer :
    decodeGuard (.ofJson (.object [("type", .string "always_true")])) = .ok .alwaysTrue ∧
    decodeGuard (.ofJson (.object [("type", .string "always_true"), ("manualExpression", .number (.integer 5))])) =
      .error (.wrongType (.number (.integer 5)) "a string") ∧
    decodeGuard (.ofJson (.object [("type", .string "always_true"), ("protocolConditions", .string "x > 1")])) =
      .error (.wrongType (.string "x > 1") "a sequence") :=
  ⟨rfl, rfl, rfl⟩

end TransitionGuards
