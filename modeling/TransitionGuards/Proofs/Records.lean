import TransitionGuards.Proofs.Rereading

/-
  Records that are read, written and read again.

  The decoder of a record takes the members of an object one after another
  (`Fields.Step`). A field gives a value that was decoded or that stands for nothing
  (`Field.Gives`), and members state a value if the field is read from them as
  that value (`Field.States`). `Fields.Reading` is where the decoder of a record
  stands between two members of an object: some values are known, and the
  members to come state the others. A step takes one of these members, whichever
  comes next, to a known value (`Fields.Reading.store`), so the members of a
  whole record lead to that record again in any order (`Rereads.record`).
-/

namespace TransitionGuards

/-! ## Fields -/

namespace Field
variable {α : Type}

/-- Whether a record that was decoded may have the value in the field. -/
def Gives (field : Field α) (a : α) : Prop :=
  (∃ doc : Doc, doc.Fits ∧ field.decode doc = .ok a) ∨ field.absent = some a ∨ field.short = some a

/-- Whether the members state the value: one member that is read as it, or none
where that means the value. -/
inductive States (field : Field α) (a : α) : List (String × Json) → Prop
  | member {v : Json} (read : ReadAs field.decode v a) : States field a [(field.key, v)]
  | left (absent : field.absent = some a) : States field a []

/-- Whether every value that the field gives is stated by what is written for
it. -/
def Rereads (field : Field α) (write : α → List (String × Json)) : Prop := ∀ a, field.Gives a → field.States a (write a)

variable {decode : Decode α} {encode : α → Json}

theorem rereads_required (key : String) (h : TransitionGuards.Rereads decode encode) :
    (Field.required key decode).Rereads fun a => [(key, encode a)] := by
  intro a gives
  obtain ⟨doc, fits, decoded⟩ | absent | short := gives
  · exact .member (h.again fits decoded)
  · cases absent
  · cases short

theorem rereads_default (key : String) (h : TransitionGuards.Rereads decode encode) {value : α} {doc : Doc}
    (decoded : decode doc = .ok value) (fits : doc.Fits) :
    (Field.default key decode value).Rereads fun a => [(key, encode a)] := by
  intro a gives
  obtain ⟨doc, fits, decoded⟩ | absent | short := gives
  · exact .member (h.again fits decoded)
  · cases absent
    exact .member (h.again fits decoded)
  · cases short
    exact .member (h.again fits decoded)

theorem rereads_optional (key : String) (h : TransitionGuards.Rereads decode encode) :
    (Field.optional key decode).Rereads fun a => [(key, .ofOption encode a)] := by
  intro a gives
  obtain ⟨doc, fits, decoded⟩ | absent | short := gives
  · exact .member (h.option.again fits decoded)
  · cases absent
    exact .member .nothing
  · cases short
    exact .member .nothing

theorem rereads_member? (key : String) (h : TransitionGuards.Rereads decode encode) :
    (Field.optional key decode).Rereads (Json.member? key encode) := by
  intro a gives
  cases a with
  | none => exact .left rfl
  | some a =>
    obtain ⟨doc, fits, decoded⟩ | absent | short := gives
    · exact .member (h.option.again fits decoded)
    · cases absent
    · cases short

end Field

namespace Fields
variable {σ τ : Type} {fields : Fields σ τ} {known : σ} {t : τ}

/-- Whether a record that was decoded may have the values. -/
def Gives : {σ τ : Type} → Fields σ τ → τ → Prop
  | _, _, .nil, _ => True
  | _, _, .cons field rest, (a, as) => field.Gives a ∧ rest.Gives as

/-- Whether all values that the fields give are stated by what is written. -/
inductive Rereads : {σ τ : Type} → Fields σ τ → (τ → List (String × Json)) → Prop
  | nil : Rereads .nil fun _ => []
  | cons {α σ τ : Type} {field : Field α} {rest : Fields σ τ} {write : α → List (String × Json)}
      {writes : τ → List (String × Json)} (first : field.Rereads write) (more : Rereads rest writes) :
      Rereads (.cons field rest) fun t => write t.1 ++ writes t.2

/-! ## Members one after another -/

section
variable {α : Type} {field : Field α} {rest : Fields σ τ} {key : String} {value : Doc} {others : σ}

theorem store_cons (other : field.key ≠ key) (a : Option α) (others : σ) :
    (Fields.cons field rest).store key value (a, others) =
      (rest.store key value others).map (·.map fun others => (a, others)) := by
  rw [store.eq_def]
  exact if_neg other

/-- A member is taken in by the first field, of which nothing was known, or by one
behind it. -/
theorem store_cases {a : Option α} {known' : Option α × σ}
    (h : (Fields.cons field rest).store key value (a, others) = .ok (some known')) :
    (∃ b, field.key = key ∧ a = none ∧ field.decode value = .ok b ∧ known' = (some b, others)) ∨
      ∃ others', field.key ≠ key ∧ rest.store key value others = .ok (some others') ∧ known' = (a, others') := by
  by_cases own : field.key = key
  · rw [store.eq_def] at h
    simp only [if_pos own] at h
    cases a with
    | some _ => cases h
    | none =>
      obtain ⟨b, decoded, h⟩ := exists_of_map_ok h
      cases h
      exact .inl ⟨b, own, rfl, decoded, rfl⟩
  · rw [store_cons own] at h
    obtain ⟨stored, taken, h⟩ := exists_of_map_ok h
    obtain ⟨others', rfl, rfl⟩ := Option.map_eq_some_iff.1 h
    exact .inr ⟨others', own, taken, rfl⟩

end

/-- What is known once a member of an object has been read: its value is taken in,
or it is passed over where no field has its key. -/
inductive Step {σ τ : Type} (fields : Fields σ τ) (closed : Bool) (known : σ) : Doc → Doc → σ → Prop
  | stored {key : String} {value : Doc} {known' : σ} (taken : fields.store key value known = .ok (some known')) :
      Step fields closed known (.string key) value known'
  | passed {key : String} {value : Doc} (left : closed = false) (foreign : fields.store key value known = .ok none)
      (passable : passOver value = .ok ()) : Step fields closed known (.string key) value known

section
variable {closed : Bool} {key value : Doc} {known' : σ} {rest : Members}

theorem Step.ofMembers_eq (step : fields.Step closed known key value known') (rest : Members) :
    fields.ofMembers closed known (.member key value rest) = fields.ofMembers closed known' rest := by
  cases step with
  | stored taken =>
    rw [ofMembers, taken]
    rfl
  | passed left foreign passable =>
    rw [ofMembers, foreign, left]
    show (passOver value >>= fun _ => _) = _
    rw [passable]
    rfl

/-- A record that is read is read from a member and from those behind it. -/
theorem exists_step (h : fields.ofMembers closed known (.member key value rest) = .ok t) :
    ∃ known', fields.Step closed known key value known' := by
  cases key with
  | string key =>
    rw [ofMembers] at h
    obtain ⟨stored, taken, h⟩ := exists_of_bind_ok h
    cases stored with
    | some known' => exact ⟨known', .stored taken⟩
    | none =>
      cases closed with
      | true => cases h
      | false =>
        obtain ⟨_, passable, _⟩ := exists_of_bind_ok h
        exact ⟨known, .passed rfl taken passable⟩
  | _ => cases h

end

/-! ## What is decoded -/

/-- Whether the values known so far are given by their fields. -/
def Known : {σ τ : Type} → Fields σ τ → σ → Prop
  | _, _, .nil, _ => True
  | _, _, .cons field rest, (known, others) => (∀ a, known = some a → field.Gives a) ∧ rest.Known others

theorem known_unknown : ∀ {σ τ : Type} (fields : Fields σ τ), fields.Known fields.unknown
  | _, _, .nil => trivial
  | _, _, .cons _ rest => ⟨nofun, known_unknown rest⟩

theorem Known.store : ∀ {σ τ : Type} {fields : Fields σ τ} {known known' : σ} {key : String} {value : Doc},
    fields.Known known → value.Fits → fields.store key value known = .ok (some known') → fields.Known known'
  | _, _, .nil, _, _, _, _, _, _, h => nomatch h
  | _, _, .cons field rest, (known, others), known', key, value, given, fits, h => by
    obtain ⟨a, _, rfl, decoded, rfl⟩ | ⟨others', _, taken, rfl⟩ := store_cases h
    · refine ⟨fun b hb => ?_, given.2⟩
      cases hb
      exact .inl ⟨value, fits, decoded⟩
    · exact ⟨given.1, given.2.store fits taken⟩

theorem Known.finish : ∀ {σ τ : Type} {fields : Fields σ τ} {known : σ} {t : τ},
    fields.Known known → fields.finish known = .ok t → fields.Gives t
  | _, _, .nil, _, _, _, _ => trivial
  | _, _, .cons field rest, (known, others), t, given, h => by
    rw [Fields.finish] at h
    split at h
    · cases h
    · next a found =>
      obtain ⟨as, more, h⟩ := exists_of_map_ok h
      cases h
      refine ⟨?_, given.2.finish more⟩
      cases known with
      | none => exact .inr (.inl found)
      | some b => exact given.1 a found

theorem gives_of_ofMembers {closed : Bool} : ∀ {members : Members} {known : σ}, fields.Known known → members.Fits →
    fields.ofMembers closed known members = .ok t → fields.Gives t
  | .closed, _, given, _, h => given.finish h
  | .cut _, _, _, _, h | .badKey _, _, _, _, h => nomatch h
  | .member key value rest, known, given, fits, h => by
    obtain ⟨known', step⟩ := exists_step h
    rw [step.ofMembers_eq] at h
    cases step with
    | stored taken => exact gives_of_ofMembers (given.store fits.1 taken) fits.2 h
    | passed _ _ _ => exact gives_of_ofMembers given fits.2 h

theorem gives_of_ofItems {record : String} {total : Nat} : ∀ {σ τ : Type} {fields : Fields σ τ} {items : Items} {t : τ}
    {count : Nat}, items.Fits → fields.ofItems record total count items = .ok t → fields.Gives t
  | _, _, .nil, _, _, _, _, _ => trivial
  | _, _, .cons field rest, .item value items, t, count, fits, h => by
    rw [Fields.ofItems] at h
    obtain ⟨a, first, h⟩ := exists_of_bind_ok h
    obtain ⟨as, more, h⟩ := exists_of_bind_ok h
    cases h
    exact ⟨.inl ⟨value, fits.1, first⟩, gives_of_ofItems fits.2 more⟩
  | _, _, .cons _ _, .cut _, _, _, _, h => nomatch h
  | _, _, .cons field rest, .closed, t, count, fits, h => by
    rw [Fields.ofItems] at h
    split at h
    · cases h
    · next a short =>
      obtain ⟨as, more, h⟩ := exists_of_map_ok h
      cases h
      exact ⟨.inr (.inr short), gives_of_ofItems fits more⟩

theorem gives_of_decodeRecord {record : String} {closed : Bool} {doc : Doc} (fits : doc.Fits)
    (h : decodeRecord record fields closed doc = .ok t) : fields.Gives t := by
  cases doc with
  | object members => exact gives_of_ofMembers (known_unknown fields) fits h
  | array items => exact gives_of_ofItems fits h
  | _ => cases h

/-! ## What is written -/

/-- Whether the decoder, with these values known and these members to come, is
on its way to the record: the members state the values that are not known. -/
inductive Reading : {σ τ : Type} → Fields σ τ → σ → τ → List (String × Json) → Prop
  | nil : Reading .nil () () []
  | held {α σ τ : Type} {field : Field α} {rest : Fields σ τ} {others : σ} {a : α} {as : τ}
      {members : List (String × Json)} (more : Reading rest others as members) :
      Reading (.cons field rest) (some a, others) (a, as) members
  | due {α σ τ : Type} {field : Field α} {rest : Fields σ τ} {others : σ} {a : α} {as : τ}
      {own members : List (String × Json)} (states : field.States a own) (more : Reading rest others as members) :
      Reading (.cons field rest) (none, others) (a, as) (own ++ members)

/-- Before the first member, all that is written is still to come. -/
theorem Rereads.reading {write : τ → List (String × Json)} (h : fields.Rereads write) :
    ∀ {t : τ}, fields.Gives t → fields.Reading fields.unknown t (write t) := by
  induction h with
  | nil => exact fun _ => .nil
  | cons first more ih => exact fun gives => .due (first _ gives.1) (ih gives.2)

theorem Reading.mem_keys {members : List (String × Json)} (h : fields.Reading known t members) :
    ∀ m ∈ members, m.1 ∈ fields.keys := by
  induction h with
  | nil => exact nofun
  | held more ih => exact fun m hm => List.mem_cons_of_mem _ (ih m hm)
  | due states more ih =>
    intro m hm
    obtain own | later := List.mem_append.1 hm
    · cases states with
      | member _ => exact List.mem_singleton.1 own ▸ List.mem_cons_self ..
      | left _ => cases own
    · exact List.mem_cons_of_mem _ (ih m later)

/-- Any of the members is taken in, and the record to come stays the same. -/
theorem Reading.store {key : String} {u v : Json} {members : List (String × Json)}
    (h : fields.Reading known t members) (distinct : fields.keys.Nodup) (next : (key, v) ∈ members)
    (alike : u.Alike v) :
    ∃ known' rest, fields.store key (.ofJson u) known = .ok (some known') ∧ fields.Reading known' t rest ∧
      members.Perm ((key, v) :: rest) := by
  induction h with
  | nil => cases next
  | @held α σ τ field rest others a as members more ih =>
    obtain ⟨new, distinct⟩ := List.nodup_cons.1 distinct
    have other : field.key ≠ key := fun same => new (same ▸ more.mem_keys _ next)
    obtain ⟨others', left, stored, more', perm⟩ := ih distinct next
    exact ⟨(some a, others'), left, by rw [store_cons other, stored]; rfl, .held more', perm⟩
  | @due α σ τ field rest others a as own members states more ih =>
    obtain ⟨new, distinct⟩ := List.nodup_cons.1 distinct
    obtain next | next := List.mem_append.1 next
    · cases states with
      | left absent => cases next
      | member read =>
        cases List.mem_singleton.1 next
        exact ⟨(some a, others), members, by rw [Fields.store, if_pos rfl, read u alike]; rfl, .held more, .refl _⟩
    · -- the member is one of a later field
      have other : field.key ≠ key := fun same => new (same ▸ more.mem_keys _ next)
      obtain ⟨others', left, stored, more', perm⟩ := ih distinct next
      refine ⟨(none, others'), own ++ left, by rw [store_cons other, stored]; rfl, .due states more', ?_⟩
      exact (perm.append_left own).trans List.perm_middle

theorem Reading.finish (h : fields.Reading known t []) : fields.finish known = .ok t := by
  generalize none : [] = members at h
  induction h with
  | nil => rfl
  | held more ih =>
    rw [Fields.finish, Option.some_or, ih none]
    rfl
  | due states more ih =>
    obtain ⟨own, later⟩ := List.append_eq_nil_iff.1 none.symm
    cases states with
    | member _ => cases own
    | left absent =>
      rw [Fields.finish, absent, ih later.symm]
      rfl

/-- The members that are to come lead to the record, in any order. -/
theorem Reading.ofMembers {closed : Bool} (distinct : fields.keys.Nodup) :
    ∀ {ms ns members : List (String × Json)} {known : σ}, Json.AlikeMembers ms ns → ns.Perm members →
      fields.Reading known t members → fields.ofMembers closed known (Doc.ofMembers ms) = .ok t
  | [], _, _, _, alike, order, h => by
    cases alike
    rw [order.nil_eq.symm] at h
    exact h.finish
  | (key, u) :: rest, _, members, known, alike, order, h => by
    cases alike with
    | cons first more =>
      obtain ⟨known', left, stored, h, perm⟩ := h.store distinct (order.mem_iff.1 (List.mem_cons_self ..)) first
      rw [Doc.ofMembers, (Step.stored stored).ofMembers_eq]
      exact Reading.ofMembers distinct more (order.trans perm).cons_inv h

end Fields

theorem readAs_of_reading {σ τ : Type} {fields : Fields σ τ} (distinct : fields.keys.Nodup) (record : String)
    (closed : Bool) {t : τ} {members : List (String × Json)} (h : fields.Reading fields.unknown t members) :
    ReadAs (decodeRecord record fields closed) (.object members) t := by
  intro u alike
  cases alike with
  | object alike order => exact h.ofMembers distinct alike order

/-- A record whose members are what is written for its fields is read again. -/
theorem Rereads.record {α σ τ : Type} {fields : Fields σ τ} {write : τ → List (String × Json)}
    (rereads : fields.Rereads write) (distinct : fields.keys.Nodup) {record : String} {closed : Bool} {f : τ → α}
    {encode : α → Json} (written : ∀ t, encode (f t) = .object (write t)) :
    Rereads (fun doc => (decodeRecord record fields closed doc).map f) encode where
  again {doc} {a} fits decoded := by
    obtain ⟨t, value, rfl⟩ := exists_of_map_ok decoded
    have reading := rereads.reading (Fields.gives_of_decodeRecord fits value)
    rw [written]
    exact (readAs_of_reading distinct record closed reading).map f
  present {doc} {a} _ decoded _ := by
    obtain ⟨t, value, rfl⟩ := exists_of_map_ok decoded
    rw [written]
    exact nofun

end TransitionGuards
