import BrokerPool.Proofs.Json.Decoders
import BrokerPool.Proofs.Message.Transit

/-!
# Messages to be published, as texts

A text is accepted as a message exactly if it is JSON that tells of one. What it tells does not
depend on the order in which it does so, on what else it says, or on whether it says "null" or
nothing.

Results:
* `parse_ok_iff`: a text is accepted exactly if it tells of a message.
* `parse_print`: the text of a message is accepted as that message.
* `accepts_exactly_what_is_told`: both, and what does not matter to a text.
-/

namespace BrokerPool.Message.Outbound

open Json

/-- The message of a text. -/
def parse (s : String) : Except Json.Error Outbound := (Document.ofString s).decode (decode .text)

/-- The text of a message. -/
def print (m : Outbound) : String := m.toJson.print

/-! ## What is told -/

/-- The names under which something is told about a message, in the order of an array. -/
def names : List String := ["payload", "routing_key", "content_type", "headers"]

/-- What is told about a message. To leave out a text is to say "null", and to leave out the headers
    is to say that there are none. -/
structure Told (look : String → Option Tree) (m : Outbound) : Prop where
  payload : look "payload" = some (Value.string m.payload).toTree
  routingKey : (look "routing_key").getD .null = (Value.ofText? m.routingKey).toTree
  contentType : (look "content_type").getD .null = (Value.ofText? m.contentType).toTree
  headers : ∃ pairs, (look "headers").getD (.object .done) = (Value.texts pairs).toTree ∧
    m.headers = Keyed.ofList pairs

/-- A text, null, or nothing at all. -/
def OptionalText (t? : Option Tree) : Prop :=
  t? = none ∨ t? = some .null ∨ ∃ s, t? = some (.string (some s))

/-- What is told is enough for a message and fits. -/
structure Fits (look : String → Option Tree) : Prop where
  payload : ∃ s, look "payload" = some (.string (some s))
  routingKey : OptionalText (look "routing_key")
  contentType : OptionalText (look "content_type")
  headers : look "headers" = none ∨ ∃ pairs, look "headers" = some (Value.texts pairs).toTree

/-- The same is told, be it in words or by leaving it out. -/
structure SameTold (look other : String → Option Tree) : Prop where
  payload : look "payload" = other "payload"
  routingKey : (look "routing_key").getD .null = (other "routing_key").getD .null
  contentType : (look "content_type").getD .null = (other "content_type").getD .null
  headers : (look "headers").getD (.object .done) = (other "headers").getD (.object .done)

section Told

variable {look other : String → Option Tree} {m : Outbound}

theorem SameTold.symm (h : SameTold look other) : SameTold other look :=
  ⟨h.payload.symm, h.routingKey.symm, h.contentType.symm, h.headers.symm⟩

theorem SameTold.told (h : SameTold look other) (told : Told look m) : Told other m where
  payload := h.payload ▸ told.payload
  routingKey := h.routingKey ▸ told.routingKey
  contentType := h.contentType ▸ told.contentType
  headers := h.headers ▸ told.headers

/-- Nothing is told but under the names. -/
theorem SameTold.of_names (h : ∀ n ∈ names, other n = look n) : SameTold look other := by
  simp only [names, List.forall_mem_cons] at h
  obtain ⟨payload, routingKey, contentType, headers, -⟩ := h
  constructor
  case payload => exact payload.symm
  case routingKey => rw [routingKey]
  case contentType => rw [contentType]
  case headers => rw [headers]

theorem optionalText_iff {t? : Option Tree} :
    OptionalText t? ↔ ∃ s, t?.getD .null = (Value.ofText? s).toTree := by
  constructor
  · rintro (rfl | rfl | ⟨s, rfl⟩)
    · exact ⟨none, rfl⟩
    · exact ⟨none, rfl⟩
    · exact ⟨some s, rfl⟩
  · rintro ⟨s, h⟩
    cases t? with
    | none => exact .inl rfl
    | some t =>
      obtain rfl : t = _ := h
      cases s with
      | none => exact .inr (.inl rfl)
      | some s => exact .inr (.inr ⟨s, rfl⟩)

theorem fits_iff : Fits look ↔ ∃ m, Told look m := by
  constructor
  · rintro ⟨⟨payload, hp⟩, hr, hc, hh⟩
    obtain ⟨routingKey, hr⟩ := optionalText_iff.mp hr
    obtain ⟨contentType, hc⟩ := optionalText_iff.mp hc
    have headers : ∃ pairs, (look "headers").getD (.object .done) =
        (Value.texts pairs).toTree := by
      rcases hh with hh | ⟨pairs, hh⟩
      · exact ⟨[], by rw [hh]; rfl⟩
      · exact ⟨pairs, by rw [hh]; rfl⟩
    obtain ⟨pairs, hh⟩ := headers
    exact ⟨⟨payload, routingKey, contentType, Keyed.ofList pairs⟩, hp, hr, hc, pairs, hh, rfl⟩
  · rintro ⟨m, hp, hr, hc, pairs, hh, -⟩
    refine ⟨⟨_, hp⟩, optionalText_iff.mpr ⟨_, hr⟩, optionalText_iff.mpr ⟨_, hc⟩, ?_⟩
    cases hl : look "headers" with
    | none => exact .inl rfl
    | some t =>
      rw [hl] at hh
      exact .inr ⟨pairs, congrArg some hh⟩

end Told

/-! ## Reading -/

theorem table : Table decodeFields where
  attentive := by
    simp only [decodeFields, List.forall_mem_cons]
    refine ⟨fun _ => Field.sets_needed.attentive attentive_textAs,
      fun _ => Field.sets_given.attentive attentive_optional_text,
      fun _ => Field.sets_given.attentive attentive_optional_text,
      fun _ => Field.sets_given.attentive attentive_mapOf_text, ?_⟩
    exact List.forall_mem_nil _
  names := by decide
  commute := by
    simp only [decodeFields, List.pairwise_cons, List.forall_mem_cons, List.not_mem_nil,
      false_imp_iff, implies_true, List.Pairwise.nil, and_true]
    refine ⟨⟨?_, ?_, ?_⟩, ⟨?_, ?_⟩, ?_⟩
    iterate 3 exact Field.sets_needed.commutes Field.sets_given fun _ _ _ => rfl
    iterate 3 exact Field.sets_given.commutes Field.sets_given fun _ _ _ => rfl

/-- A message is put together from what is told about it. -/
theorem assemble_iff {look : String → Option Tree} {m : Outbound} :
    assemble look decodeFields { payload := "" } = some m ↔ Told look m := by
  have null : optional text .null = .ok none := rfl
  have nothing : mapOf text (.object .done) = .ok [] := rfl
  constructor
  · intro h
    obtain ⟨_, payload, hp, ok, h⟩ := assemble_needed_iff.mp h
    obtain rfl := text_ok_iff.mp ok
    obtain ⟨routingKey, hr, h⟩ := (assemble_given_iff null rfl).mp h
    obtain ⟨contentType, hc, h⟩ := (assemble_given_iff null rfl).mp h
    obtain ⟨headers, hh, h⟩ := (assemble_given_iff nothing rfl).mp h
    obtain rfl := Option.some.inj h
    exact ⟨hp, optional_text_ok_iff.mp hr, optional_text_ok_iff.mp hc, mapOf_text_ok_iff.mp hh⟩
  · rintro ⟨hp, hr, hc, hh⟩
    refine assemble_needed_iff.mpr ⟨_, _, hp, rfl, ?_⟩
    refine (assemble_given_iff null rfl).mpr ⟨_, optional_text_ok_iff.mpr hr, ?_⟩
    refine (assemble_given_iff null rfl).mpr ⟨_, optional_text_ok_iff.mpr hc, ?_⟩
    exact (assemble_given_iff nothing rfl).mpr ⟨_, mapOf_text_ok_iff.mpr hh, rfl⟩

/-- A text is accepted exactly if it tells of a message. -/
theorem parse_ok_iff {s : String} {m : Outbound} :
    parse s = .ok m ↔ ∃ t look, JsonText s t ∧ Gives names t look ∧ Told look m := by
  simp only [← assemble_iff]
  exact decode_record_ok_iff table

/-- Texts that tell the same are read alike. -/
theorem parse_congr {s s' : String} {t t' : Tree} {look other : String → Option Tree}
    (text : JsonText s t) (text' : JsonText s' t') (gives : Gives names t look)
    (gives' : Gives names t' other) (same : SameTold look other) {m : Outbound}
    (h : parse s = .ok m) : parse s' = .ok m := by
  obtain ⟨t₁, look₁, text₁, gives₁, told⟩ := parse_ok_iff.mp h
  obtain rfl := text.unique text₁
  obtain rfl := gives.unique gives₁
  exact parse_ok_iff.mpr ⟨t', other, text', gives', same.told told⟩

/-! ## Writing -/

/-- The members of a message's text. -/
def members (m : Outbound) : List (String × Value) := [
  ("payload", .string m.payload),
  ("routing_key", .ofText? m.routingKey),
  ("content_type", .ofText? m.contentType),
  ("headers", .texts m.headers)]

theorem toJson_eq {m : Outbound} (ordered : m.headers.Ordered) :
    m.toJson = .ofMembers m.members := by
  rw [toJson, members, ofMembers_texts ordered]

theorem members_names (m : Outbound) : m.members.map (·.1) = names := rfl

theorem members_keys (m : Outbound) : (m.members.map (·.1)).Nodup := by
  rw [members_names]
  decide

theorem members_prints (m : Outbound) : ∀ e ∈ m.members, e.2.Prints := by
  simp only [members, List.forall_mem_cons]
  refine ⟨prints_string _, prints_ofText? _, prints_ofText? _, prints_texts _, ?_⟩
  exact List.forall_mem_nil _

/-- What the text of a message tells. -/
theorem told_members {m : Outbound} (ordered : m.headers.Ordered) :
    Told (fun n => (m.members.lookup n).map Value.toTree) m where
  payload := rfl
  routingKey := rfl
  contentType := rfl
  headers := ⟨m.headers, rfl, ordered.ofList_eq.symm⟩

/-- An object with the members of a message is accepted as that message. -/
theorem parse_object {m : Outbound} (ordered : m.headers.Ordered) {ms : List (String × Value)}
    (perm : ms.Perm m.members) : parse (Value.object ms).print = .ok m := by
  have prints : (Value.object ms).Prints :=
    prints_object fun e he => m.members_prints e (perm.mem_iff.mp he)
  exact parse_ok_iff.mpr ⟨_, _, prints.jsonText, gives_object perm m.members_keys names,
    told_members ordered⟩

/-- The text of a message is accepted as that message. -/
theorem parse_print {m : Outbound} (ordered : m.headers.Ordered) : parse m.print = .ok m := by
  rw [print, toJson_eq ordered]
  exact parse_object ordered (Keyed.ofList_perm m.members_keys)

theorem headers_ordered_of_parse {s : String} {m : Outbound} (h : parse s = .ok m) :
    m.headers.Ordered := by
  obtain ⟨_, _, _, _, told⟩ := parse_ok_iff.mp h
  obtain ⟨pairs, -, headers⟩ := told.headers
  exact headers ▸ Keyed.ordered_ofList pairs

/-- Which texts are accepted and what is read from them, and that a message is told by its text,
    whichever order its members have there. Headers are a map, so they are in the order of their
    keys. -/
theorem accepts_exactly_what_is_told :
    (∀ m : Outbound, m.headers.Ordered → parse m.print = .ok m ∧
      ∀ ms, ms.Perm m.members → parse (Value.object ms).print = .ok m) ∧
    (∀ s, (∃ m, parse s = .ok m) ↔ ∃ t look, JsonText s t ∧ Gives names t look ∧ Fits look) ∧
    (∀ s m, parse s = .ok m ↔ ∃ t look, JsonText s t ∧ Gives names t look ∧ Told look m) ∧
    -- Leaving out is saying "null", or that there are no headers; an array is as good as an object.
    (∀ s s' t t' look other, JsonText s t → JsonText s' t' → Gives names t look →
      Gives names t' other → SameTold look other →
      ∀ m, parse s = .ok m ↔ parse s' = .ok m) ∧
    -- Neither the order of the members nor a member with another name matters.
    (∀ s s' members members', JsonText s (.object members) → JsonText s' (.object members') →
      (∀ e ∈ members.entries, e.1.isSome) → (∀ e ∈ members'.entries, e.1.isSome) →
      (members.named names).Perm (members'.named names) →
      ∀ m, parse s = .ok m ↔ parse s' = .ok m) ∧
    (∀ s m, parse s = .ok m → parse m.print = .ok m) := by
  refine ⟨fun m ordered => ⟨parse_print ordered, fun ms => parse_object ordered⟩, fun s => ?_,
    fun s m => parse_ok_iff, ?alike, ?members,
    fun s m h => parse_print (headers_ordered_of_parse h)⟩
  · simp only [parse_ok_iff, fits_iff]
    constructor
    · rintro ⟨m, t, look, text, gives, told⟩
      exact ⟨t, look, text, gives, m, told⟩
    · rintro ⟨t, look, text, gives, m, told⟩
      exact ⟨m, t, look, text, gives, told⟩
  case alike =>
    intro s s' t t' look other text text' gives gives' same m
    exact ⟨parse_congr text text' gives gives' same, parse_congr text' text gives' gives same.symm⟩
  case members =>
    have half {s s' : String} {members members' : Members} (text : JsonText s (.object members))
        (text' : JsonText s' (.object members')) (readable : ∀ e ∈ members'.entries, e.1.isSome)
        (perm : (members.named names).Perm (members'.named names)) {m : Outbound}
        (h : parse s = .ok m) : parse s' = .ok m := by
      obtain ⟨t, look, text₁, gives, told⟩ := parse_ok_iff.mp h
      obtain rfl := text.unique text₁
      obtain ⟨other, gives', same⟩ := gives.of_perm readable perm
      exact parse_congr text text' gives gives' (.of_names same) h
    intro s s' members members' text text' readable readable' perm m
    exact ⟨half text text' readable' perm, half text' text readable perm.symm⟩

theorem accepts_exactly_what_is_told_punctuated :
    punctuated.headers.Ordered ∧ parse punctuated.print = .ok punctuated :=
  ⟨Keyed.ordered_ofList _,
    (accepts_exactly_what_is_told.1 punctuated (Keyed.ordered_ofList _)).1⟩

end BrokerPool.Message.Outbound
