import BrokerPool.Proofs.Json.Assembly
import BrokerPool.Proofs.Json.Printing

/-!
# What decoders accept

A decoder is told by the trees that it accepts, and by what it makes of them. A text is accepted if
it is JSON for such a tree.

Results:
* `text_ok_iff`, `optional_text_ok_iff`, `mapOf_text_ok_iff`: the trees of texts.
* `Accepts`: what a decoder accepts, with one lemma for each decoder of other values.
* `decode_ok_iff`: a text is decoded exactly if it is JSON for a tree that is.
* `decode_record_ok_iff`: a record is decoded from a text that gives what is needed for it.
* `gives_object`: what a printed object gives.
* `assemble_given_iff`, `assemble_over_iff`, `assemble_needed_iff`: how one field takes part in a
  record.
-/

namespace BrokerPool.Json

/-- A decoder that accepts nothing that is broken. -/
def Attentive {α : Type} (decode : Decoder α) : Prop :=
  ∀ t a, decode t = .ok a → t.skipFlaw? = none

/-! ## Values -/

mutual

theorem Value.toTree_sound : ∀ v : Value, v.toTree.skipFlaw? = none
  | .null | .bool _ | .number _ | .string _ => rfl
  | .array items => Items.ofValues_sound items
  | .object members => Members.ofList_sound members

theorem Items.ofValues_sound : ∀ vs : List Value, (Items.ofValues vs).skipFlaw? = none
  | [] => rfl
  | v :: vs => by
    rw [Items.ofValues, Items.skipFlaw?, v.toTree_sound, Items.ofValues_sound vs, Option.or_none]

theorem Members.ofList_sound : ∀ ms : List (String × Value), (Members.ofList ms).skipFlaw? = none
  | [] => rfl
  | (_, v) :: ms => by
    rw [Members.ofList, Members.skipFlaw?, v.toTree_sound, Members.ofList_sound ms, Option.or_none]

end

/-- An object whose members are texts. -/
def Value.texts (pairs : List (String × String)) : Value :=
  .object (pairs.map fun (k, v) => (k, .string v))

theorem entries_ofList (ms : List (String × Value)) :
    (Members.ofList ms).entries = ms.map fun m => (some m.1, m.2.toTree) := by
  induction ms with
  | nil => rfl
  | cons m ms ih => rw [Members.ofList, Members.entries, ih, List.map_cons]

/-- What a printed object gives, whichever order its members have. -/
theorem gives_object {ms pairs : List (String × Value)} (perm : ms.Perm pairs)
    (keys : (pairs.map (·.1)).Nodup) (names : List String) :
    Gives names (Value.object ms).toTree fun n => (pairs.lookup n).map Value.toTree := by
  replace keys : (ms.map (·.1)).Nodup := (perm.map _).nodup_iff.mpr keys
  have found (n : String) : (Members.ofList ms).entries.lookup (some n) =
      (pairs.lookup n).map Value.toTree := by
    rw [← Keyed.lookup_perm perm keys, entries_ofList]
    clear perm keys
    induction ms with
    | nil => rfl
    | cons m ms ih =>
      obtain ⟨k, v⟩ := m
      by_cases same : n = k
      · simp [same]
      · have other : (some n == some k) = false := by simp [same]
        rw [List.map_cons, List.lookup_cons, other, List.lookup_cons,
          beq_eq_false_iff_ne.mpr same]
        exact ih
  simp only [← found]
  refine .object _ ?_ fun n _ => ?_
  · rw [entries_ofList, List.forall_mem_map]
    exact fun _ _ => rfl
  · have distinct : ((Members.ofList ms).entries.map (·.1)).Nodup := by
      rw [entries_ofList, List.map_map]
      have : (ms.map (·.1)).map some = ms.map fun m => some m.1 := List.map_map
      exact this ▸ keys.map fun _ _ => Option.some.inj
    exact List.nodup_iff_count_le_one.mp distinct _

theorem prints_texts (pairs : List (String × String)) : (Value.texts pairs).Prints :=
  prints_object <| List.forall_mem_map.mpr fun _ _ => prints_string _

/-- Texts in the order of their keys, as an object. -/
theorem ofMembers_texts {l : Keyed String} (ordered : l.Ordered) :
    Value.ofMembers (l.map fun (k, v) => (k, .string v)) = Value.texts l :=
  congrArg Value.object (ordered.map Value.string).ofList_eq

/-! ## Texts -/

theorem textAs_ok_iff {expected s : String} {t : Tree} :
    textAs expected t = .ok s ↔ t = (Value.string s).toTree := by
  unfold textAs
  constructor
  · intro h
    split at h
    · rw [Value.toTree, Except.ok.inj h]
    · exact absurd h (refuse_not_ok _ _ _)
  · rintro rfl
    rfl

theorem text_ok_iff {s : String} {t : Tree} : text t = .ok s ↔ t = (Value.string s).toTree :=
  textAs_ok_iff

/-- A text that is read further. -/
theorem textAs_bind_ok_iff {α : Type} {expected : String} {next : String → Except Error α}
    {t : Tree} {a : α} : (textAs expected t >>= next) = .ok a ↔
      ∃ s, t = (Value.string s).toTree ∧ next s = .ok a := by
  constructor
  · intro h
    cases ht : textAs expected t with
    | error e => simp [ht, bind, Except.bind] at h
    | ok s =>
      rw [ht] at h
      exact ⟨s, textAs_ok_iff.mp ht, h⟩
  · rintro ⟨s, rfl, h⟩
    exact h

/-- Null stands for a text that is not there. -/
theorem optional_text_ok_iff {s : Option String} {t : Tree} :
    optional text t = .ok s ↔ t = (Value.ofText? s).toTree := by
  constructor
  · intro h
    unfold optional at h
    split at h
    · rw [← Except.ok.inj h]
      rfl
    · cases hs : text t with
      | error e => simp [hs, Except.map] at h
      | ok a =>
        rw [hs] at h
        rw [← Except.ok.inj h]
        exact text_ok_iff.mp hs
  · rintro rfl
    cases s <;> rfl

theorem visit_text_ok_iff {members : Members} {before l : Keyed String} :
    mapOf.visit text before members = .ok l ↔ ∃ pairs : List (String × String),
      members = Members.ofList (pairs.map fun (k, v) => (k, .string v)) ∧
      l = pairs.foldl (fun acc (k, v) => Keyed.put k v acc) before := by
  constructor
  · intro h
    fun_induction mapOf.visit text before members with
    | case1 before => exact ⟨[], rfl, (Except.ok.inj h).symm⟩
    | case2 | case4 => cases h
    | case3 before key value rest ih =>
      obtain ⟨v, hv, h⟩ := of_mapError_bind h
      obtain ⟨pairs, rfl, rfl⟩ := ih v h
      exact ⟨(key, v) :: pairs, by rw [text_ok_iff.mp hv]; rfl, rfl⟩
  · rintro ⟨pairs, rfl, rfl⟩
    induction pairs generalizing before with
    | nil => rfl
    | cons pair pairs ih => exact ih

/-- A map of texts. The last of several members with one key counts. -/
theorem mapOf_text_ok_iff {t : Tree} {l : Keyed String} :
    mapOf text t = .ok l ↔ ∃ pairs, t = (Value.texts pairs).toTree ∧ l = Keyed.ofList pairs := by
  constructor
  · intro h
    unfold mapOf at h
    split at h
    · obtain ⟨pairs, rfl, rfl⟩ := visit_text_ok_iff.mp h
      exact ⟨pairs, rfl, rfl⟩
    · exact absurd h (refuse_not_ok _ _ _)
  · rintro ⟨pairs, rfl, rfl⟩
    exact visit_text_ok_iff.mpr ⟨pairs, rfl, rfl⟩

theorem attentive_textAs {expected : String} : Attentive (textAs expected) := fun _ s h =>
  textAs_ok_iff.mp h ▸ (Value.string s).toTree_sound

theorem attentive_mapOf_text : Attentive (mapOf text) := fun _ _ h => by
  obtain ⟨pairs, rfl, -⟩ := mapOf_text_ok_iff.mp h
  exact Value.toTree_sound _

/-! ## Other values -/

/-- A tree that stands for a value, which is written in one way only. -/
def Written {α : Type} (write : α → Value) (t : Tree) (a : α) : Prop := t = (write a).toTree

/-- A tree that stands for a value, or null for none. -/
inductive Nullable {α : Type} (shown : Tree → α → Prop) : Tree → Option α → Prop
  | null : Nullable shown .null none
  | some {t : Tree} {a : α} (h : shown t a) : Nullable shown t (some a)

/-- A choice by its name, which may stand alone or be the name of null. -/
inductive Chosen (name : String) : Tree → Prop
  | alone : Chosen name (.string (some name))
  | member : Chosen name (.object (.cons (some name) .null .done))

/-- A decoder accepts just the trees that stand for a value. -/
def Accepts {α : Type} (decode : Decoder α) (shown : Tree → α → Prop) : Prop :=
  ∀ t a, decode t = .ok a ↔ shown t a

section Accepts

variable {α : Type} {decode : Decoder α} {shown : Tree → α → Prop}

theorem accepts_textAs (expected : String) : Accepts (textAs expected) (Written .string) :=
  fun _ _ => textAs_ok_iff

theorem accepts_boolean : Accepts boolean (Written .bool) := by
  intro t b
  constructor
  · intro h
    unfold boolean at h
    split at h
    · rw [← Except.ok.inj h]
      rfl
    · exact absurd h (refuse_not_ok _ _ _)
  · rintro rfl
    rfl

theorem accepts_word16 : Accepts word16 (Written fun n => .nat n.toNat) := by
  intro t n
  constructor
  · intro h
    unfold word16 at h
    split at h
    · rename_i i
      split at h
      · rename_i range
        have same : ((UInt16.ofNat i.toNat).toNat : ℤ) = i := by
          have small : i.toNat < UInt16.size := by
            change i.toNat < 65536
            omega
          rw [UInt16.toNat_ofNat_of_lt' small, Int.toNat_of_nonneg range.1]
        rw [← Except.ok.inj h, Written, Value.nat, same]
        rfl
      · cases h
    · exact absurd h (refuse_not_ok _ _ _)
  · rintro rfl
    have range : n.toNat ≤ 65535 := Nat.le_of_lt_succ n.toNat_lt
    have inside : (0 : ℤ) ≤ n.toNat ∧ (n.toNat : ℤ) ≤ 65535 := by omega
    simp only [Value.nat, Value.toTree, word16, if_pos inside, Int.toNat_natCast,
      UInt16.ofNat_toNat]

theorem choice_ok_iff {choices : List (String × α)} {name : String} {a : α} :
    choice choices name = .ok a ↔ choices.lookup name = some a := by
  unfold choice
  cases choices.lookup name <;> simp

theorem unit_ok_iff {t : Tree} : unit t = .ok () ↔ t = .null := by
  constructor
  · intro h
    unfold unit at h
    split at h
    · rfl
    · exact absurd h (refuse_not_ok _ _ _)
  · rintro rfl
    rfl

/-- What is chosen over a value, if the value is null. -/
theorem of_chosen_member {choices : List (String × α)} {name : String} {value : Tree}
    {next : α → Except Error α} {a : α}
    (h : (choice choices name >>= fun b => unit value >>= fun _ => next b) = .ok a) :
    value = .null ∧ ∃ b, choices.lookup name = some b ∧ next b = .ok a := by
  cases hc : choice choices name with
  | error e => simp [hc, bind, Except.bind] at h
  | ok b =>
    cases hu : unit value with
    | error e => simp [hc, hu, bind, Except.bind] at h
    | ok _ =>
      rw [hc, hu] at h
      exact ⟨unit_ok_iff.mp hu, b, choice_ok_iff.mp hc, h⟩

theorem of_oneOf_object {medium : Medium} {choices : List (String × α)} {members : Members} {a : α}
    (h : oneOf medium choices (.object members) = .ok a) :
    ∃ name, choices.lookup name = some a ∧ members = .cons (some name) .null .done := by
  cases members with
  | done | broken => cases medium <;> cases h
  | cons key value rest =>
    cases key with
    | none => cases medium <;> cases h
    | some name =>
      cases medium with
      | text =>
        obtain ⟨rfl, b, found, h⟩ := of_chosen_member h
        cases rest with
        | done =>
          obtain rfl := Except.ok.inj h
          exact ⟨name, found, rfl⟩
        | cons | broken => cases h
      | value =>
        cases rest with
        | done =>
          obtain ⟨rfl, b, found, h⟩ := of_chosen_member h
          obtain rfl := Except.ok.inj h
          exact ⟨name, found, rfl⟩
        | cons | broken => cases h

theorem accepts_oneOf (medium : Medium) (choices : List (String × α)) : Accepts
    (oneOf medium choices) fun t a => ∃ name, choices.lookup name = some a ∧ Chosen name t := by
  intro t a
  constructor
  · intro h
    cases t with
    | string s =>
      cases s with
      | none => cases h
      | some name => exact ⟨name, choice_ok_iff.mp h, .alone⟩
    | object members =>
      obtain ⟨name, found, rfl⟩ := of_oneOf_object h
      exact ⟨name, found, .member⟩
    | null | bool | array => cases medium <;> cases h
    | number n => cases medium <;> cases n <;> cases h
    | broken read skipped => cases medium <;> cases read <;> cases h
  · rintro ⟨name, found, chosen⟩
    have ok := choice_ok_iff.mpr found
    cases chosen with
    | alone => exact ok
    | member => cases medium <;> simp only [oneOf, ok] <;> rfl

/-- Null is told apart from every value. -/
theorem Accepts.optional (accepts : Accepts decode shown) (some_ : ∀ a, ¬ shown .null a) :
    Accepts (Json.optional decode) (Nullable shown) := by
  intro t a?
  constructor
  · intro h
    unfold Json.optional at h
    split at h
    · rw [← Except.ok.inj h]
      exact .null
    · cases hd : decode t with
      | error e => simp [hd, Except.map] at h
      | ok a =>
        rw [hd] at h
        rw [← Except.ok.inj h]
        exact .some ((accepts t a).mp hd)
  · rintro (_ | ⟨h⟩)
    · rfl
    · have there : t ≠ .null := by
        rintro rfl
        exact some_ _ h
      have ok := (accepts t _).mpr h
      unfold Json.optional
      split
      · exact absurd rfl there
      · rw [ok]
        rfl

theorem accepts_optional_textAs (expected : String) :
    Accepts (Json.optional (textAs expected)) (Nullable (Written .string)) :=
  (accepts_textAs expected).optional fun _ h => by cases h

/-! ### Nothing of it is broken -/

theorem Written.sound {write : α → Value} {t : Tree} {a : α} (h : Written write t a) :
    t.skipFlaw? = none :=
  h ▸ (write a).toTree_sound

theorem Chosen.sound {name : String} {t : Tree} (h : Chosen name t) : t.skipFlaw? = none := by
  cases h <;> rfl

theorem Nullable.sound (each : ∀ t a, shown t a → t.skipFlaw? = none) {t : Tree} {a? : Option α}
    (h : Nullable shown t a?) : t.skipFlaw? = none := by
  cases h with
  | null => rfl
  | some h => exact each t _ h

theorem Accepts.attentive (accepts : Accepts decode shown)
    (sound : ∀ t a, shown t a → t.skipFlaw? = none) : Attentive decode :=
  fun t a h => sound t a ((accepts t a).mp h)

theorem attentive_optional_text {expected : String} : Attentive (optional (textAs expected)) :=
  (accepts_optional_textAs expected).attentive fun _ _ => Nullable.sound fun _ _ => Written.sound

end Accepts

/-! ## Records -/

section Records

variable {σ α : Type} {fields : List (Field σ)} {name : String} {decode : Decoder α}
  {set : α → σ → σ}

/-- A field that changes a record with `set`, by what its decoder makes of a tree. -/
structure Field.Sets (f : Field σ) (decode : Decoder α) (set : α → σ → σ) : Prop where
  decode_eq : ∀ t, f.decode t = (decode t).map set

theorem Field.sets_given : (Field.given name decode set).Sets decode set := ⟨fun _ => rfl⟩

theorem Field.sets_needed : (Field.needed name decode set).Sets decode set := ⟨fun _ => rfl⟩

theorem Field.Sets.takes_iff {f : Field σ} (h : f.Sets decode set) {t : Tree} :
    f.Takes t ↔ ∃ a, decode t = .ok a := by
  rw [Field.Takes, h.decode_eq]
  cases decode t <;> simp [Except.map]

theorem Field.Sets.update_eq {f : Field σ} (h : f.Sets decode set) {t : Tree} {a : α}
    (ha : decode t = .ok a) : f.update t = set a :=
  Field.update_of_ok (by rw [h.decode_eq, ha]; rfl)

theorem Field.Sets.attentive {f : Field σ} (h : f.Sets decode set) (all : Attentive decode)
    {t : Tree} (takes : f.Takes t) : t.skipFlaw? = none := by
  obtain ⟨a, ha⟩ := h.takes_iff.mp takes
  exact all t a ha

theorem Field.Sets.commutes {β : Type} {decode' : Decoder β} {set' : β → σ → σ} {f g : Field σ}
    (hf : f.Sets decode set) (hg : g.Sets decode' set')
    (h : ∀ a b s, set a (set' b s) = set' b (set a s)) : f.Commutes g := by
  intro t t' ht ht' s
  obtain ⟨a, ha⟩ := hf.takes_iff.mp ht
  obtain ⟨b, hb⟩ := hg.takes_iff.mp ht'
  rw [hf.update_eq ha, hg.update_eq hb]
  exact h a b s

section Assemble

variable {look : String → Option Tree} {s s' : σ}

theorem assemble_needed_iff :
    assemble look (.needed name decode set :: fields) s = some s' ↔
      ∃ t a, look name = some t ∧ decode t = .ok a ∧ assemble look fields (set a s) = some s' := by
  rw [assemble]
  cases hl : look name with
  | none => simp [Field.needed, hl]
  | some t => cases hd : decode t <;> simp [Field.needed, hl, hd, Except.map]

/-- A field that is left out counts as if it was given what changes nothing. -/
theorem assemble_given_iff {default : Tree} {d : α} (hd : decode default = .ok d)
    (same : set d s = s) :
    assemble look (.given name decode set :: fields) s = some s' ↔
      ∃ a, decode ((look name).getD default) = .ok a ∧
        assemble look fields (set a s) = some s' := by
  rw [assemble]
  cases hl : look name with
  | none => simp [Field.given, hl, hd, same]
  | some t => cases ht : decode t <;> simp [Field.given, hl, ht, Except.map]

/-- A field that is left out keeps the value it has. -/
theorem assemble_over_iff {shown : Tree → α → Prop} (accepts : Accepts decode shown) {get : σ → α}
    (same : ∀ s, set (get s) s = s) :
    assemble look (.given name decode set :: fields) s = some s' ↔
      ∃ a?, Option.Rel shown (look name) a? ∧
        assemble look fields (set (a?.getD (get s)) s) = some s' := by
  rw [assemble]
  constructor
  · intro h
    cases hl : look name with
    | none =>
      refine ⟨none, .none, ?_⟩
      rw [Option.getD_none, same]
      simpa [Field.given, hl] using h
    | some t =>
      cases hd : decode t with
      | error e => simp [Field.given, hl, hd, Except.map] at h
      | ok a =>
        refine ⟨some a, .some ((accepts t a).mp hd), ?_⟩
        simpa [Field.given, hl, hd, Except.map] using h
  · rintro ⟨a?, given, h⟩
    cases hl : look name with
    | none =>
      rw [hl] at given
      cases given
      rw [Option.getD_none, same] at h
      simpa [Field.given, hl] using h
    | some t =>
      rw [hl] at given
      cases given with
      | some shown =>
        simpa [Field.given, hl, (accepts t _).mpr shown, Except.map] using h

end Assemble

end Records

/-! ## Whole texts -/

/-- A text that is JSON for a tree is decoded like the tree. -/
theorem decode_of_jsonText {α : Type} {s : String} {t : Tree} (text : JsonText s t)
    (decode : Decoder α) : (Document.ofString s).decode decode = decode t := by
  rw [ofString_of_jsonText text, Document.decode]
  cases decode t <;> rfl

/-- A text is decoded exactly if it is JSON for a tree that is. -/
theorem decode_ok_iff {α : Type} {decode : Decoder α} (attentive : Attentive decode) {s : String}
    {a : α} :
    (Document.ofString s).decode decode = .ok a ↔ ∃ t, JsonText s t ∧ decode t = .ok a := by
  constructor
  · intro h
    cases hd : decode (Document.ofString s).root with
    | error e => simp [Document.decode, hd, bind, Except.bind] at h
    | ok a' =>
      simp only [Document.decode, hd, bind, Except.bind] at h
      split at h
      · cases h
      · rename_i whole
        obtain rfl := Except.ok.inj h
        have whole : Document.ofString s = ⟨(Document.ofString s).root, false⟩ := by
          rw [← Bool.eq_false_iff.mpr whole]
        exact ⟨_, jsonText_of_ofString whole (attentive _ _ hd), hd⟩
  · rintro ⟨t, text, hd⟩
    rw [decode_of_jsonText text, hd]

/-- A record is decoded from a text exactly if the text gives what is needed for it. -/
theorem decode_record_ok_iff {σ : Type} {fields : List (Field σ)} (table : Table fields)
    {medium : Medium} {name s : String} {start a : σ} :
    (Document.ofString s).decode (record medium name fields start) = .ok a ↔
      ∃ t look, JsonText s t ∧ Gives (fields.map (·.name)) t look ∧
        assemble look fields start = some a := by
  have attentive : Attentive (record medium name fields start) :=
    fun _ _ h => ((record_ok_iff table).mp h).1
  rw [decode_ok_iff attentive]
  constructor
  · rintro ⟨t, text, h⟩
    obtain ⟨-, look, gives, assembled⟩ := (record_ok_iff table).mp h
    exact ⟨t, look, text, gives, assembled⟩
  · rintro ⟨t, look, text, gives, assembled⟩
    exact ⟨t, text, (record_ok_iff table).mpr ⟨text.sound, look, gives, assembled⟩⟩

end BrokerPool.Json
