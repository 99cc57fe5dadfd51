import TransitionGuards.Proofs.ComparisonText
import TransitionGuards.Proofs.NumberRange

/-
  Reading what was written.

  `Rereads decode encode` says of a decoder and an encoder that a value which
  was decoded from a document is encoded to one that decodes to it again, in
  whatever order the members of objects are put (`Json.Alike`). It is shown for
  plain values and for free ones, whose objects are kept in the order of their
  keys, and passes on to optional values and lists.
-/

namespace TransitionGuards

/-! ## The order of members -/

namespace Json

mutual

/-- Whether the values differ in nothing but the order in which the members of
objects stand. -/
inductive Alike : Json → Json → Prop
  | null : Alike .null .null
  | bool (b : Bool) : Alike (.bool b) (.bool b)
  | number (n : Number) : Alike (.number n) (.number n)
  | string (s : String) : Alike (.string s) (.string s)
  | array {us vs : List Json} (items : AlikeItems us vs) : Alike (.array us) (.array vs)
  | object {ms ns ns' : List (String × Json)} (members : AlikeMembers ms ns) (order : ns.Perm ns') :
      Alike (.object ms) (.object ns')

inductive AlikeItems : List Json → List Json → Prop
  | nil : AlikeItems [] []
  | cons {u v : Json} {us vs : List Json} (first : Alike u v) (more : AlikeItems us vs) :
      AlikeItems (u :: us) (v :: vs)

inductive AlikeMembers : List (String × Json) → List (String × Json) → Prop
  | nil : AlikeMembers [] []
  | cons {key : String} {u v : Json} {ms ns : List (String × Json)} (first : Alike u v) (more : AlikeMembers ms ns) :
      AlikeMembers ((key, u) :: ms) ((key, v) :: ns)

end

mutual

theorem Alike.refl : ∀ v : Json, v.Alike v
  | .null => .null
  | .bool b => .bool b
  | .number n => .number n
  | .string s => .string s
  | .array items => .array (alikeItems_refl items)
  | .object members => .object (alikeMembers_refl members) (.refl _)

theorem alikeItems_refl : ∀ items : List Json, AlikeItems items items
  | [] => .nil
  | v :: rest => .cons (.refl v) (alikeItems_refl rest)

theorem alikeMembers_refl : ∀ members : List (String × Json), AlikeMembers members members
  | [] => .nil
  | (_, v) :: rest => .cons (.refl v) (alikeMembers_refl rest)

end

/-- Neither an array nor an object. -/
def IsPlain : Json → Prop
  | .array _ | .object _ => False
  | _ => True

theorem Alike.eq_of_isPlain {u v : Json} (h : u.Alike v) (plain : v.IsPlain) : u = v := by
  cases h with
  | array _ | object _ _ => cases plain
  | _ => rfl

theorem Alike.ne_null {u v : Json} (h : u.Alike v) (present : v ≠ .null) : u ≠ .null := by
  rintro rfl
  cases h
  exact present rfl

end Json

theorem Doc.ofJson_ne_null {v : Json} (h : v ≠ .null) : Doc.ofJson v ≠ .null := by
  cases v with
  | null => exact absurd rfl h
  | _ => exact nofun

theorem decodeOption_of_ne_null {α : Type} {decode : Decode α} {doc : Doc} (present : doc ≠ .null) :
    decodeOption decode doc = (decode doc).map some := by
  cases doc with
  | null => exact absurd rfl present
  | _ => rfl

/-! ## Values -/

/-- Whether the value is read as `a`, whatever the order of members. -/
def ReadAs {α : Type} (decode : Decode α) (v : Json) (a : α) : Prop :=
  ∀ u : Json, u.Alike v → decode (.ofJson u) = .ok a

/-- Whether a value that was decoded is encoded to one that is read as the same,
and to `null` only if it was decoded from `null`. -/
structure Rereads {α : Type} (decode : Decode α) (encode : α → Json) : Prop where
  again {doc : Doc} {a : α} : doc.Fits → decode doc = .ok a → ReadAs decode (encode a) a
  present {doc : Doc} {a : α} : doc.Fits → decode doc = .ok a → doc ≠ .null → encode a ≠ .null

section
variable {α : Type} {decode : Decode α} {encode : α → Json}

theorem ReadAs.of_isPlain {v : Json} {a : α} (plain : v.IsPlain) (h : decode (.ofJson v) = .ok a) : ReadAs decode v a :=
  fun _ alike => alike.eq_of_isPlain plain ▸ h

theorem ReadAs.map {β : Type} {v : Json} {a : α} (h : ReadAs decode v a) (f : α → β) :
    ReadAs (fun doc => (decode doc).map f) v (f a) :=
  fun u alike => congrArg (Except.map f) (h u alike)

theorem ReadAs.some {v : Json} {a : α} (h : ReadAs decode v a) (present : v ≠ .null) :
    ReadAs (decodeOption decode) v (some a) := by
  intro u alike
  rw [decodeOption_of_ne_null (Doc.ofJson_ne_null (alike.ne_null present)), h u alike]
  rfl

theorem ReadAs.nothing : ReadAs (decodeOption decode) .null none := .of_isPlain trivial rfl

theorem ReadAs.items : ∀ {as : List α}, (∀ a ∈ as, ReadAs decode (encode a) a) → ∀ us,
    Json.AlikeItems us (as.map encode) → decodeItems decode (Doc.ofItems us) = .ok as
  | [], _, _, alike => by
    cases alike
    rfl
  | a :: as, read, _, alike => by
    obtain ⟨first, more⟩ := List.forall_mem_cons.1 read
    cases alike with
    | cons alike others =>
      rw [Doc.ofItems, decodeItems, first _ alike, ReadAs.items more _ others]
      rfl

theorem ReadAs.list {as : List α} (read : ∀ a ∈ as, ReadAs decode (encode a) a) :
    ReadAs (decodeList decode) (.ofList encode as) as := by
  intro u alike
  cases alike with
  | array alike => exact ReadAs.items read _ alike

theorem exists_of_decodeItems : ∀ {items : Items} {as : List α}, items.Fits → decodeItems decode items = .ok as →
    ∀ a ∈ as, ∃ doc : Doc, doc.Fits ∧ decode doc = .ok a
  | .closed, _, _, h => by
    cases h
    exact nofun
  | .cut _, _, _, h => nomatch h
  | .item value rest, _, fits, h => by
    rw [decodeItems] at h
    obtain ⟨a, first, h⟩ := exists_of_bind_ok h
    obtain ⟨as, more, h⟩ := exists_of_bind_ok h
    cases h
    exact List.forall_mem_cons.2 ⟨⟨value, fits.1, first⟩, exists_of_decodeItems fits.2 more⟩

theorem exists_of_decodeList {doc : Doc} {as : List α} (fits : doc.Fits) (h : decodeList decode doc = .ok as) :
    ∀ a ∈ as, ∃ doc : Doc, doc.Fits ∧ decode doc = .ok a := by
  cases doc with
  | array items => exact exists_of_decodeItems fits h
  | _ => cases h

namespace Rereads

/-- A decoder and an encoder that fit on all values, wherever these come from. -/
theorem of_total (again : ∀ a, decode (.ofJson (encode a)) = .ok a) (plain : ∀ a, (encode a).IsPlain)
    (present : ∀ a, encode a ≠ .null) : Rereads decode encode where
  again _ _ := .of_isPlain (plain _) (again _)
  present _ _ _ := present _

theorem string : Rereads decodeString .string := of_total (fun _ => rfl) (fun _ => trivial) fun _ => nofun

theorem bool : Rereads decodeBool .bool := of_total (fun _ => rfl) (fun _ => trivial) fun _ => nofun

theorem int64 : Rereads decodeInt64 .ofInt64 := by
  refine of_total (fun v => ?_) (fun _ => trivial) fun _ => nofun
  have whole : int64? v.toInt = some v := int64?_eq_some_iff.2 rfl
  rw [Json.ofInt64, Doc.ofJson, decodeInt64, whole]

theorem uint64 : Rereads decodeUInt64 fun n => .ofNat n.toNat := by
  refine of_total (fun n => ?_) (fun _ => trivial) fun _ => nofun
  have range : n.toNat ≤ maxUInt64 := Nat.le_of_lt_succ n.toNat_lt
  rw [Json.ofNat, Doc.ofJson, decodeUInt64, if_pos ⟨Int.natCast_nonneg _, range⟩]
  exact congrArg Except.ok n.ofNat_toNat

/-- A name is read again if it stands in the list for the value. -/
theorem name {names : List (String × α)} {name : α → String} (listed : ∀ a, lookUpName names (name a) = .ok a) :
    Rereads (decodeName names) fun a => .string (name a) :=
  of_total listed (fun _ => trivial) fun _ => nofun

theorem option (h : Rereads decode encode) : Rereads (decodeOption decode) (.ofOption encode) where
  again {doc} {a} fits decoded := by
    by_cases null : doc = .null
    · subst null
      cases decoded
      exact .nothing
    · rw [decodeOption_of_ne_null null] at decoded
      obtain ⟨b, value, rfl⟩ := exists_of_map_ok decoded
      exact (h.again fits value).some (h.present fits value null)
  present {doc} {a} fits decoded present := by
    rw [decodeOption_of_ne_null present] at decoded
    obtain ⟨b, value, rfl⟩ := exists_of_map_ok decoded
    exact h.present fits value present

theorem list (h : Rereads decode encode) : Rereads (decodeList decode) (.ofList encode) where
  again {doc} {as} fits decoded := by
    refine .list fun a ha => ?_
    obtain ⟨doc, fits, decoded⟩ := exists_of_decodeList fits decoded a ha
    exact h.again fits decoded
  present _ _ _ := nofun

end Rereads

end

/-! ## Free values -/

namespace Json

mutual

/-- Whether the members of all objects stand in the order of their keys, each
key once. -/
def Sorted : Json → Prop
  | .array items => SortedItems items
  | .object members => members.Pairwise (·.1 < ·.1) ∧ SortedMembers members
  | _ => True

def SortedItems : List Json → Prop
  | [] => True
  | v :: rest => v.Sorted ∧ SortedItems rest

def SortedMembers : List (String × Json) → Prop
  | [] => True
  | m :: rest => m.2.Sorted ∧ SortedMembers rest

end

theorem sortedMembers_iff : ∀ {members : List (String × Json)}, SortedMembers members ↔ ∀ m ∈ members, m.2.Sorted
  | [] => by simp [SortedMembers]
  | m :: rest => by rw [SortedMembers, sortedMembers_iff, List.forall_mem_cons]

variable {key : String} {value : Json}

theorem mem_insertMember {m : String × Json} :
    ∀ {members : List (String × Json)}, m ∈ insertMember key value members → m = (key, value) ∨ m ∈ members
  | [], h => .inl (List.mem_singleton.1 h)
  | (k, v) :: rest, h => by
    rw [insertMember] at h
    split at h
    · exact List.mem_cons.1 h
    split at h
    · exact (List.mem_cons.1 h).imp_right (List.mem_cons_of_mem _)
    · obtain rfl | h := List.mem_cons.1 h
      · exact .inr (List.mem_cons_self ..)
      · exact (mem_insertMember h).imp_right (List.mem_cons_of_mem _)

theorem pairwise_insertMember : ∀ {members : List (String × Json)},
    members.Pairwise (·.1 < ·.1) → (insertMember key value members).Pairwise (·.1 < ·.1)
  | [], _ => List.pairwise_singleton ..
  | (k, v) :: rest, h => by
    obtain ⟨least, sorted⟩ := List.pairwise_cons.1 h
    rw [insertMember]
    -- the new member goes before the first, replaces it, or goes on
    split
    · next before =>
      refine List.pairwise_cons.2 ⟨List.forall_mem_cons.2 ⟨before, fun m hm => ?_⟩, h⟩
      exact String.lt_trans before (least m hm)
    split
    · next same =>
      subst same
      exact List.pairwise_cons.2 ⟨least, sorted⟩
    · next notBefore other =>
      refine List.pairwise_cons.2 ⟨fun m hm => ?_, pairwise_insertMember sorted⟩
      obtain rfl | hm := mem_insertMember hm
      · exact (lt_trichotomy key k).resolve_left notBefore |>.resolve_left other
      · exact least m hm

theorem perm_insertMember : ∀ {members : List (String × Json)}, (∀ m ∈ members, m.1 ≠ key) →
    (insertMember key value members).Perm ((key, value) :: members)
  | [], _ => .refl _
  | (k, v) :: rest, new => by
    obtain ⟨other, new⟩ := List.forall_mem_cons.1 new
    rw [insertMember, if_neg (Ne.symm other)]
    split
    · exact .refl _
    · exact ((perm_insertMember new).cons _).trans (.swap ..)

end Json

mutual

/-- A free value is kept with its objects in order. -/
theorem sorted_of_decodeJson : ∀ {doc : Doc} {v : Json}, decodeJson doc = .ok v → v.Sorted
  | .null, _, h | .bool _, _, h | .number _, _, h | .string _, _, h => by
    cases h
    trivial
  | .array items, _, h => by
    obtain ⟨vs, decoded, rfl⟩ := exists_of_map_ok h
    exact sorted_of_decodeJsonItems decoded
  | .object members, _, h => by
    obtain ⟨vs, decoded, rfl⟩ := exists_of_map_ok h
    exact sorted_of_decodeJsonMembers ⟨List.Pairwise.nil, trivial⟩ decoded
  | .invalid .., _, h => nomatch h

theorem sorted_of_decodeJsonItems : ∀ {items : Items} {vs : List Json}, decodeJsonItems items = .ok vs →
    Json.SortedItems vs
  | .closed, _, h => by
    cases h
    trivial
  | .cut _, _, h => nomatch h
  | .item value rest, _, h => by
    rw [decodeJsonItems] at h
    obtain ⟨v, first, h⟩ := exists_of_bind_ok h
    obtain ⟨vs, more, h⟩ := exists_of_bind_ok h
    cases h
    exact ⟨sorted_of_decodeJson first, sorted_of_decodeJsonItems more⟩

theorem sorted_of_decodeJsonMembers : ∀ {members : Members} {before ms : List (String × Json)},
    (Json.object before).Sorted → decodeJsonMembers before members = .ok ms → (Json.object ms).Sorted
  | .closed, _, _, sorted, h => by
    cases h
    exact sorted
  | .cut _, _, _, _, h | .badKey _, _, _, _, h => nomatch h
  | .member key value rest, before, ms, sorted, h => by
    cases key with
    | string k =>
      rw [decodeJsonMembers] at h
      obtain ⟨v, first, h⟩ := exists_of_bind_ok h
      refine sorted_of_decodeJsonMembers ⟨Json.pairwise_insertMember sorted.1, ?_⟩ h
      rw [Json.sortedMembers_iff]
      intro m hm
      obtain rfl | hm := Json.mem_insertMember hm
      · exact sorted_of_decodeJson first
      · exact Json.sortedMembers_iff.1 sorted.2 m hm
    | _ => cases h

end

mutual

/-- Reading puts the members of objects in order, wherever they stood. -/
theorem decodeJson_of_alike : ∀ {u v : Json}, u.Alike v → v.Sorted → decodeJson (.ofJson u) = .ok v
  | .null, _, alike, _ | .bool _, _, alike, _ | .number _, _, alike, _ | .string _, _, alike, _ => by
    cases alike
    rfl
  | .array us, _, alike, sorted => by
    cases alike with
    | array items =>
      rw [Doc.ofJson, decodeJson, decodeJsonItems_of_alike items sorted]
      rfl
  | .object ms, _, alike, sorted => by
    cases alike with
    | @object _ ns ns' members order =>
      have values : ∀ n ∈ ns, n.2.Sorted := fun n hn => Json.sortedMembers_iff.1 sorted.2 n (order.mem_iff.1 hn)
      have distinct : (ns.map (·.1)).Nodup := by
        rw [(order.map _).nodup_iff]
        exact List.pairwise_map.2 (sorted.1.imp fun less => ne_of_lt less)
      obtain ⟨after, decoded, pairwise, perm⟩ := decodeJsonMembers_of_alike members values List.Pairwise.nil distinct
      -- there is only one way to put the members in order
      have same : after = ns' := by
        refine (perm.trans order).eq_of_pairwise (fun a b _ _ less greater => ?_) pairwise sorted.1
        exact absurd greater (lt_asymm less)
      rw [Doc.ofJson, decodeJson, decoded, same]
      rfl

theorem decodeJsonItems_of_alike : ∀ {us vs : List Json}, Json.AlikeItems us vs → Json.SortedItems vs →
    decodeJsonItems (Doc.ofItems us) = .ok vs
  | [], _, alike, _ => by
    cases alike
    rfl
  | u :: rest, _, alike, sorted => by
    cases alike with
    | cons first more =>
      rw [Doc.ofItems, decodeJsonItems, decodeJson_of_alike first sorted.1, decodeJsonItems_of_alike more sorted.2]
      rfl

theorem decodeJsonMembers_of_alike : ∀ {ms ns before : List (String × Json)}, Json.AlikeMembers ms ns →
    (∀ n ∈ ns, n.2.Sorted) → before.Pairwise (·.1 < ·.1) → ((before ++ ns).map (·.1)).Nodup →
      ∃ after, decodeJsonMembers before (Doc.ofMembers ms) = .ok after ∧ after.Pairwise (·.1 < ·.1) ∧
        after.Perm (before ++ ns)
  | [], _, before, alike, _, pairwise, _ => by
    cases alike
    exact ⟨before, rfl, pairwise, by rw [List.append_nil]⟩
  | (key, u) :: rest, _, before, alike, values, pairwise, distinct => by
    cases alike with
    | @cons _ _ v _ ns first more =>
      have new : ∀ m ∈ before, m.1 ≠ key := by
        rw [List.map_append, List.nodup_append] at distinct
        exact fun m hm => distinct.2.2 _ (List.mem_map_of_mem hm) _ (List.mem_cons_self ..)
      have moved : (Json.insertMember key v before ++ ns).Perm (before ++ (key, v) :: ns) :=
        ((Json.perm_insertMember new).append_right ns).trans List.perm_middle.symm
      obtain ⟨value, values⟩ := List.forall_mem_cons.1 values
      obtain ⟨after, decoded, pairwise, perm⟩ := decodeJsonMembers_of_alike more values
        (Json.pairwise_insertMember pairwise) ((moved.map _).nodup_iff.2 distinct)
      refine ⟨after, ?_, pairwise, perm.trans moved⟩
      rw [Doc.ofMembers, decodeJsonMembers, decodeJson_of_alike first value]
      exact decoded

end

theorem Rereads.json : Rereads decodeJson id where
  again _ decoded _ alike := decodeJson_of_alike alike (sorted_of_decodeJson decoded)
  present {doc} {v} _ decoded present := by
    rintro rfl
    cases doc with
    | null => exact present rfl
    | array items =>
      obtain ⟨_, _, h⟩ := exists_of_map_ok decoded
      cases h
    | object members =>
      obtain ⟨_, _, h⟩ := exists_of_map_ok decoded
      cases h
    | _ => cases decoded

end TransitionGuards
