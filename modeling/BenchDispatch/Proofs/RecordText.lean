import BenchDispatch.Record.Codec
import BenchDispatch.Proofs.JsonText
import BenchDispatch.Proofs.Timestamp

/-! Records read back from the text they are written as. A codec is faithful when the JSON it
writes for every value is plain and reads back as the value; a faithful codec reads every value
back from its text. Strings, timestamps, durations, states and the detail tags are faithful, lists
of faithful items are, and so is each record whose fields are: the names of its fields are
distinct, so each field is found once by name, and an optional field left out reads as absent. -/

set_option autoImplicit false

namespace BenchDispatch

open Json JsonCodec

theorem mapM_eq_some_map {α β : Type} {f : α → Option β} {g : α → β} {l : List α}
    (each : ∀ x ∈ l, f x = some (g x)) : l.mapM f = some (l.map g) := by
  induction l with
  | nil => rfl
  | cons x l ih =>
    rw [List.mapM_cons, each x List.mem_cons_self, ih fun y member => each y (List.mem_cons_of_mem x member)]
    rfl

namespace JsonCodec

/-! ## Fields by name -/

theorem membersNamed_objectOf_cons (key name : String) (value : Option Value)
    (members : List (String × Option Value)) :
    Value.membersNamed (((key, value) :: members).filterMap fun (name, value) => value.map (name, ·)) name =
      (if key = name then value.toList else []) ++
        Value.membersNamed (members.filterMap fun (name, value) => value.map (name, ·)) name := by
  cases value <;> by_cases same : key = name <;> simp [Value.membersNamed, same]

theorem membersNamed_objectOf_absent {members : List (String × Option Value)} {name : String}
    (absent : name ∉ members.map Prod.fst) :
    Value.membersNamed (members.filterMap fun (name, value) => value.map (name, ·)) name = [] := by
  induction members with
  | nil => rfl
  | cons head others ih =>
    simp only [List.map_cons, List.mem_cons, not_or] at absent
    rw [membersNamed_objectOf_cons, if_neg (Ne.symm absent.1), ih absent.2, List.nil_append]

/-- Among members whose names are distinct, a name finds its own member's value when it is present
and nothing when it is not. -/
theorem membersNamed_objectOf {members : List (String × Option Value)} (distinct : (members.map Prod.fst).Nodup)
    {name : String} {value : Option Value} (member : (name, value) ∈ members) :
    Value.membersNamed (members.filterMap fun (name, value) => value.map (name, ·)) name = value.toList := by
  induction members with
  | nil => contradiction
  | cons head others ih =>
    obtain ⟨headName, headValue⟩ := head
    simp only [List.map_cons, List.nodup_cons] at distinct
    obtain ⟨fresh, distinct⟩ := distinct
    rw [membersNamed_objectOf_cons]
    rcases List.mem_cons.1 member with same | later
    · -- the member itself, whose name no later member has
      obtain ⟨rfl, rfl⟩ := Prod.mk.inj same
      rw [if_pos rfl, membersNamed_objectOf_absent fresh, List.append_nil]
    · have differs : headName ≠ name := by
        rintro rfl
        exact fresh (List.mem_map_of_mem (f := Prod.fst) later)
      rw [if_neg differs, ih distinct later, List.nil_append]

/-- An object of optional members with distinct names gives each field the member's value, or
none when it is left out. -/
theorem fieldValues?_objectOf {names : List String} {members : List (String × Option Value)}
    (keys : members.map Prod.fst = names) (distinct : names.Nodup) :
    fieldValues? names (objectOf members) = some (members.map Prod.snd) := by
  subst keys
  simp only [fieldValues?, objectOf, List.mapM_map]
  refine mapM_eq_some_map fun member isMember => ?_
  simp only [Function.comp, membersNamed_objectOf distinct isMember]
  cases member.2 <;> rfl

theorem objectOf_some (members : List (String × Value)) :
    objectOf (members.map fun member => (member.1, some member.2)) = .object members := by
  have present : ((fun (name, value) => Option.map (name, ·) value) ∘ fun member : String × Value =>
      (member.1, some member.2)) = some := by
    funext member
    rfl
  simp only [objectOf, List.filterMap_map, present, List.filterMap_some]

theorem fieldValues?_object {names : List String} {members : List (String × Value)}
    (keys : members.map Prod.fst = names) (distinct : names.Nodup) :
    fieldValues? names (.object members) = some (members.map fun member => some member.2) := by
  rw [← objectOf_some, fieldValues?_objectOf (by rw [List.map_map]; exact keys) distinct, List.map_map]
  rfl

/-! ## Objects -/

theorem mem_objectOf {members : List (String × Option Value)} {member : String × Value}
    (isMember : member ∈ (members.filterMap fun (name, value) => value.map (name, ·))) :
    ∃ value, (member.1, value) ∈ members ∧ member.2 ∈ value := by
  obtain ⟨⟨name, value⟩, source, present⟩ := List.mem_filterMap.1 isMember
  cases value with
  | none => contradiction
  | some value =>
    obtain rfl := Option.some.inj present
    exact ⟨some value, source, rfl⟩

theorem plain_objectOf {members : List (String × Option Value)}
    (plain : ∀ member ∈ members, ∀ v ∈ member.2, v.Plain) : (objectOf members).Plain :=
  .object fun _ isMember =>
    let ⟨_, source, present⟩ := mem_objectOf isMember
    plain _ source _ present

/-! ## Faithful codecs -/

/-- A codec whose every value reads back from its JSON, which is plain. -/
structure Faithful (α : Type) [JsonCodec α] : Prop where
  plain : ∀ v : α, (toJson v).Plain
  readsBack : ∀ v : α, ofJson? (toJson v) = some v

variable {α : Type} [JsonCodec α]

/-- An optional field whose JSON is never `null` reads back, present or left out. -/
theorem Faithful.omittable_map (faithful : Faithful α) (notNull : ∀ v : α, toJson v ≠ .null)
    (o : Option α) : omittable (o.map toJson) = some o := by
  cases o with
  | none => rfl
  | some v =>
    rw [Option.map_some]
    unfold omittable
    split
    case h_1 _ absent => cases absent
    case h_2 _ isNull => exact absurd (Option.some.inj isNull) (notNull v)
    case h_3 _ _ _ given =>
      rw [← Option.some.inj given, faithful.readsBack, Option.map_some]

/-- A list reads back item by item. -/
theorem Faithful.list (faithful : Faithful α) : Faithful (List α) where
  plain items := .array fun item member => by
    obtain ⟨v, -, rfl⟩ := List.mem_map.1 member
    exact faithful.plain v
  readsBack items := by
    show (items.map toJson).mapM ofJson? = some items
    rw [List.mapM_map, mapM_eq_some_map (f := ofJson? ∘ toJson) (g := id) fun v _ => faithful.readsBack v,
      List.map_id]

/-- A faithful codec reads every value back from its text. -/
theorem Faithful.decode?_encode (faithful : Faithful α) (v : α) : decode? (encode v) = some v := by
  rw [decode?, encode, (faithful.plain v).parse?_render, Option.bind_some, faithful.readsBack]

end JsonCodec

/-! ## The codecs of fields -/

theorem faithful_string : Faithful String where
  plain := .string
  readsBack _ := rfl

theorem faithful_instant : Faithful Instant where
  plain t := .string t.render
  readsBack t := (Option.bind_some _ _).trans (Instant.parse?_render t)

/-- Each state is the one state with its tag. -/
theorem BuildState.ofTag?_tag (state : BuildState) : BuildState.ofTag? state.tag = some state := by
  cases state <;> simp [BuildState.ofTag?, BuildState.all, BuildState.tag]

theorem faithful_buildState : Faithful BuildState where
  plain state := .string state.tag
  readsBack state := BuildState.ofTag?_tag state

/-- Durations are written as their count, which is below the word bound and so reads back. -/
theorem faithful_uint64 : Faithful UInt64 where
  plain n := .natural n.toNat
  readsBack n := by
    show (Number.ofNat n.toNat).natural?.bind _ = some n
    have fits : n.toNat < wordBound := UInt64.toNat_lt n
    rw [natural?_ofNat, Option.bind_some, if_pos fits]
    exact congrArg some UInt64.ofNat_toNat

theorem faithful_compression : Faithful Compression where
  plain _ := .string "gzip"
  readsBack compression := by cases compression; rfl

theorem faithful_textEncoding : Faithful TextEncoding where
  plain _ := .string "base64"
  readsBack encoding := by cases encoding; rfl

/-! ## The records

Each record is written as an object of its fields under distinct names, so reading it back finds
each field once and reads the field's own value back. -/

theorem faithful_pushSummary : Faithful PushSummary where
  plain s := by
    unfold instJsonCodecPushSummary
    exact .object (by simp [faithful_string.plain, faithful_instant.plain])
  readsBack s := by
    unfold instJsonCodecPushSummary
    dsimp only
    rw [fieldValues?_object]
    case keys => rfl
    case distinct => decide
    simp only [List.map_cons, List.map_nil, some_bind, required, faithful_string.readsBack, faithful_instant.readsBack]
    rfl

theorem faithful_buildRequest : Faithful BuildRequest where
  plain r := by
    unfold instJsonCodecBuildRequest
    exact .object (by simp [faithful_string.plain, faithful_instant.plain])
  readsBack r := by
    unfold instJsonCodecBuildRequest
    dsimp only
    rw [fieldValues?_object]
    case keys => rfl
    case distinct => decide
    simp only [List.map_cons, List.map_nil, some_bind, required, faithful_string.readsBack, faithful_instant.readsBack]
    rfl

theorem faithful_buildStatistics : Faithful BuildStatistics where
  plain s := by
    unfold instJsonCodecBuildStatistics
    exact .object (by simp [faithful_uint64.plain])
  readsBack s := by
    unfold instJsonCodecBuildStatistics
    dsimp only
    rw [fieldValues?_object]
    case keys => rfl
    case distinct => decide
    simp only [List.map_cons, List.map_nil, some_bind, required, faithful_uint64.readsBack]
    rfl

theorem faithful_buildDetail : Faithful BuildDetail where
  plain d := by
    unfold instJsonCodecBuildDetail
    exact plain_objectOf (by simp [faithful_string.plain, faithful_compression.plain, faithful_textEncoding.plain])
  readsBack d := by
    unfold instJsonCodecBuildDetail
    dsimp only
    rw [fieldValues?_objectOf]
    case keys => rfl
    case distinct => decide
    simp only [List.map_cons, List.map_nil, some_bind, required, faithful_string.readsBack,
      faithful_compression.omittable_map (fun _ => nofun), faithful_textEncoding.omittable_map (fun _ => nofun)]
    rfl

theorem faithful_buildResponse : Faithful BuildResponse where
  plain r := by
    unfold instJsonCodecBuildResponse
    exact plain_objectOf (by
      simp [faithful_string.plain, faithful_instant.plain, faithful_buildState.plain, faithful_buildRequest.plain,
        faithful_buildStatistics.plain, faithful_buildDetail.list.plain])
  readsBack r := by
    unfold instJsonCodecBuildResponse
    dsimp only
    rw [fieldValues?_objectOf]
    case keys => rfl
    case distinct => decide
    simp only [List.map_cons, List.map_nil, some_bind, required, faithful_string.readsBack, faithful_instant.readsBack,
      faithful_buildState.readsBack, faithful_buildRequest.readsBack,
      faithful_buildStatistics.omittable_map (fun _ => nofun), faithful_buildDetail.list.omittable_map (fun _ => nofun)]
    rfl

/-! ## Round trips -/

/-- What the codec of a record promises: every value reads back from its text, and so the text of
whatever a text reads as is a normal form, which reading it and writing again keep. -/
structure RoundTrips (α : Type) [JsonCodec α] : Prop where
  decode?_encode : ∀ v : α, decode? (encode v) = some v
  normalForm : ∀ (text : String) (v : α), decode? text = some v →
    (decode? (encode v) : Option α).map encode = some (encode v)

theorem JsonCodec.Faithful.roundTrips {α : Type} [JsonCodec α] (faithful : Faithful α) : RoundTrips α where
  decode?_encode := faithful.decode?_encode
  normalForm _ v _ := by rw [faithful.decode?_encode v, Option.map_some]

/-- Every record, state, build id and target reads back from the text it is written as, and the
text of what any text reads as is a normal form. -/
theorem records_read_back_from_their_text :
    RoundTrips PushSummary ∧ RoundTrips BuildRequest ∧ RoundTrips BuildResponse ∧ RoundTrips BuildStatistics ∧
      RoundTrips BuildDetail ∧ RoundTrips BuildState ∧ RoundTrips BuildId ∧ RoundTrips BuildTarget :=
  ⟨faithful_pushSummary.roundTrips, faithful_buildRequest.roundTrips, faithful_buildResponse.roundTrips,
    faithful_buildStatistics.roundTrips, faithful_buildDetail.roundTrips, faithful_buildState.roundTrips,
    faithful_string.roundTrips, faithful_string.roundTrips⟩

end BenchDispatch
