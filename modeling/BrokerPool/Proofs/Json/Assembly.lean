import BrokerPool.Proofs.Json.Records
import Mathlib.Data.List.Nodup
import Mathlib.Data.List.Pairwise
import Mathlib.Data.List.Perm.Basic

/-!
# What is asked of a record

A record is an object or an array. Either gives trees under the names of fields, and the record is
put together from these trees field by field. An object may give them in any order and may have
members that nobody asks for; an array gives them in the order of the fields.

Results:
* `Gives`: the trees that an object or an array gives.
* `assemble`: a record from the trees given.
* `record_ok_iff`: a record is decoded exactly if its trees are given and taken.
* `Gives.of_perm`: the order of members does not matter, and neither do others.
-/

namespace BrokerPool.Json

/-! ## What is given -/

/-- The members of an object. -/
def Members.entries : Members → List (Option String × Tree)
  | .done => []
  | .cons key value rest => (key, value) :: rest.entries
  | .broken _ _ => []

/-- The items of an array. -/
def Items.trees : Items → List Tree
  | .done => []
  | .cons item rest => item :: rest.trees
  | .broken _ => []

/-- The trees that are given under some names. In an object every key must be readable, and nothing
    may be given twice under one of the names; an array gives trees under the names from the first
    on, and may not have more items than there are names. -/
inductive Gives (names : List String) : Tree → (String → Option Tree) → Prop
  | object (members : Members) (readable : ∀ e ∈ members.entries, e.1.isSome)
    (once : ∀ n ∈ names, (members.entries.map (·.1)).count (some n) ≤ 1) :
    Gives names (.object members) fun name => members.entries.lookup (some name)
  | array (items : Items) (fits : items.trees.length ≤ names.length) :
    Gives names (.array items) fun name => (names.zip items.trees).lookup name

theorem Gives.unique {names : List String} {t : Tree} {look look' : String → Option Tree}
    (h : Gives names t look) (h' : Gives names t look') : look = look' := by
  cases h <;> cases h' <;> rfl

variable {σ : Type}

/-- A record from the trees given under the names of its fields. -/
def assemble (look : String → Option Tree) : List (Field σ) → σ → Option σ
  | [], s => some s
  | f :: fields, s =>
    match look f.name with
    | none => if f.required then none else assemble look fields s
    | some t =>
      match f.decode t with
      | .ok update => assemble look fields (update s)
      | .error _ => none

/-! ## Fields -/

/-- What a field makes of a tree. -/
def Field.update (f : Field σ) (t : Tree) : σ → σ :=
  match f.decode t with
  | .ok update => update
  | .error _ => id

def Field.Takes (f : Field σ) (t : Tree) : Prop := ∃ update, f.decode t = .ok update

theorem Field.update_of_ok {f : Field σ} {t : Tree} {update : σ → σ}
    (h : f.decode t = .ok update) : f.update t = update := by
  rw [Field.update, h]

/-- It does not matter which of two fields changes the record first. -/
def Field.Commutes (f g : Field σ) : Prop := ∀ t t', f.Takes t → g.Takes t' →
  ∀ s, f.update t (g.update t' s) = g.update t' (f.update t s)

instance : Std.Symm (Field.Commutes (σ := σ)) :=
  ⟨fun _ _ h t t' ht ht' s => (h t' t ht' ht s).symm⟩

/-- The fields of a record. A field that takes a tree has looked at all of it. -/
structure Table (fields : List (Field σ)) : Prop where
  attentive : ∀ f ∈ fields, ∀ t, f.Takes t → t.skipFlaw? = none
  names : (fields.map (·.name)).Nodup
  commute : fields.Pairwise Field.Commutes

section Assemble

variable {look look' : String → Option Tree} {fields : List (Field σ)} {start s : σ}

/-- The fields that are given, with what they are given. -/
def given (look : String → Option Tree) (fields : List (Field σ)) : List (Field σ × Tree) :=
  fields.filterMap fun f => (look f.name).map (f, ·)

theorem mem_given {e : Field σ × Tree} :
    e ∈ given look fields ↔ e.1 ∈ fields ∧ look e.1.name = some e.2 := by
  obtain ⟨f, t⟩ := e
  simp only [given, List.mem_filterMap, Option.map_eq_some_iff, Prod.mk.injEq]
  constructor
  · rintro ⟨f', hf, t', ht, rfl, rfl⟩
    exact ⟨hf, ht⟩
  · rintro ⟨hf, ht⟩
    exact ⟨f, hf, t, ht, rfl, rfl⟩

/-- A record is assembled if what is required is given and what is given is taken. -/
theorem assemble_eq_some : assemble look fields start = some s ↔
    (∀ f ∈ fields, f.required → (look f.name).isSome) ∧ (∀ e ∈ given look fields, e.1.Takes e.2) ∧
      (given look fields).foldl (fun s e => e.1.update e.2 s) start = s := by
  induction fields generalizing start with
  | nil => simp [assemble, given]
  | cons f fields ih =>
    rw [assemble]
    cases hl : look f.name with
    | none =>
      have rest : given look (f :: fields) = given look fields := by simp [given, hl]
      cases hr : f.required <;> simp [hl, hr, rest, ih]
    | some t =>
      have rest : given look (f :: fields) = (f, t) :: given look fields := by simp [given, hl]
      cases hd : f.decode t with
      | error e => simp [rest, Field.Takes, hd]
      | ok update =>
        have takes : f.Takes t := ⟨update, hd⟩
        simp only [hd, ih, rest, List.forall_mem_cons, List.foldl_cons, Field.update_of_ok hd, hl,
          takes, true_and, Option.isSome_some, imp_true_iff]

theorem assemble_congr (h : ∀ f ∈ fields, look f.name = look' f.name) :
    assemble look fields start = assemble look' fields start := by
  induction fields generalizing start with
  | nil => rfl
  | cons f fields ih =>
    rw [List.forall_mem_cons] at h
    simp only [assemble, h.1, ih h.2]

/-- A record to which nothing is given. -/
theorem assemble_nothing (h : ∀ f ∈ fields, look f.name = none) :
    assemble look fields start = if fields.any (·.required) then none else some start := by
  induction fields with
  | nil => rfl
  | cons f fields ih =>
    rw [List.forall_mem_cons] at h
    rw [assemble, h.1, List.any_cons]
    cases f.required with
    | true => rfl
    | false => simpa using ih h.2

end Assemble

/-! ## Objects -/

section Objects

variable {fields : List (Field σ)} {start s : σ}

/-- The fields that the members of an object give, in the order of the members. -/
def known (fields : List (Field σ)) (entries : List (Option String × Tree)) :
    List (Field σ × Tree) :=
  entries.filterMap fun e => e.1.bind fun key => (fields.find? (·.name == key)).map (·, e.2)

/-- What visiting the members of an object gives, and when it succeeds. -/
theorem visitMembers_ok_iff (attentive : ∀ f ∈ fields, ∀ t, f.Takes t → t.skipFlaw? = none)
    (members : Members) {seen seen' : List String} :
    visitMembers fields seen start members = .ok (s, seen') ↔
      members.skipFlaw? = none ∧ (∀ e ∈ members.entries, e.1.isSome) ∧
      (((known fields members.entries).map (·.1.name)).reverse ++ seen = seen' ∧
        ((known fields members.entries).map (·.1.name)).Nodup ∧
        ∀ e ∈ known fields members.entries, e.1.name ∉ seen) ∧
      (∀ e ∈ known fields members.entries, e.1.Takes e.2) ∧
      (known fields members.entries).foldl (fun s e => e.1.update e.2 s) start = s := by
  fun_induction visitMembers fields seen start members with
  | case1 seen record => simp [Members.skipFlaw?, Members.entries, known, and_comm]
  | case2 seen record read skipped => simp [Members.skipFlaw?]
  | case3 seen record value rest => simp [Members.entries]
  | case4 seen record key value rest unknown flaw hf => simp [Members.skipFlaw?, hf]
  | case5 seen record key value rest unknown sound ih =>
    have same : known fields (Members.cons (some key) value rest).entries =
        known fields rest.entries := by simp [known, Members.entries, unknown]
    rw [ih, same]
    simp [Members.skipFlaw?, Members.entries, sound]
  | case6 seen record key value rest field found twice =>
    have first : known fields (Members.cons (some key) value rest).entries =
        (field, value) :: known fields rest.entries := by simp [known, Members.entries, found]
    obtain rfl : field.name = key := by simpa using List.find?_some found
    have before : field.name ∈ seen := by simpa using twice
    simp [first, before]
  | case7 seen record key value rest field found fresh ih =>
    have first : known fields (Members.cons (some key) value rest).entries =
        (field, value) :: known fields rest.entries := by simp [known, Members.entries, found]
    obtain rfl : field.name = key := by simpa using List.find?_some found
    have new : field.name ∉ seen := by simpa using fresh
    cases hd : field.decode value with
    | error e =>
      have refused : ¬ field.Takes value := by
        rintro ⟨update, he⟩
        simp [hd] at he
      simp [first, refused, Except.mapError, bind, Except.bind]
    | ok update =>
      have takes : field.Takes value := ⟨update, hd⟩
      have sound := attentive field (List.mem_of_find?_eq_some found) value takes
      change visitMembers fields (field.name :: seen) (update record) rest = _ ↔ _
      have apart : (∀ e ∈ known fields rest.entries, e.1.name ∉ field.name :: seen) ↔
          field.name ∉ (known fields rest.entries).map (·.1.name) ∧
            ∀ e ∈ known fields rest.entries, e.1.name ∉ seen := by
        simp only [List.mem_cons, not_or, List.mem_map, not_exists, not_and]
        exact ⟨fun h => ⟨fun e he same => (h e he).1 same, fun e he => (h e he).2⟩,
          fun h e he => ⟨fun same => h.1 e he same, h.2 e he⟩⟩
      rw [ih update, first, apart]
      simp only [Members.skipFlaw?, Members.entries, sound, Option.none_or, List.forall_mem_cons,
        List.map_cons, List.reverse_cons, List.append_assoc, List.cons_append, List.nil_append,
        List.nodup_cons, List.foldl_cons, Field.update_of_ok hd, takes, new, Option.isSome_some,
        true_and, not_false_eq_true]
      tauto

/-- A name belongs to one field at most. -/
theorem find?_name_eq_some (names : (fields.map (·.name)).Nodup) {key : String} {f : Field σ} :
    fields.find? (·.name == key) = some f ↔ f ∈ fields ∧ f.name = key := by
  constructor
  · intro h
    exact ⟨List.mem_of_find?_eq_some h, by simpa using List.find?_some h⟩
  · rintro ⟨hf, rfl⟩
    cases hg : fields.find? (·.name == f.name) with
    | none => simpa using List.find?_eq_none.mp hg f hf
    | some g =>
      have same : g.name = f.name := by simpa using List.find?_some hg
      rw [List.inj_on_of_nodup_map names (List.mem_of_find?_eq_some hg) hf same]

theorem mem_known (names : (fields.map (·.name)).Nodup) {entries : List (Option String × Tree)}
    {e : Field σ × Tree} :
    e ∈ known fields entries ↔ e.1 ∈ fields ∧ (some e.1.name, e.2) ∈ entries := by
  obtain ⟨f, t⟩ := e
  simp only [known, List.mem_filterMap, Option.bind_eq_some_iff, Option.map_eq_some_iff,
    Prod.mk.injEq, find?_name_eq_some names]
  constructor
  · rintro ⟨⟨key, value⟩, he, key, rfl, f, ⟨hf, rfl⟩, rfl, rfl⟩
    exact ⟨hf, he⟩
  · rintro ⟨hf, he⟩
    exact ⟨_, he, f.name, rfl, f, ⟨hf, rfl⟩, rfl, rfl⟩

theorem count_known (names : (fields.map (·.name)).Nodup)
    (entries : List (Option String × Tree)) {f : Field σ} (hf : f ∈ fields) :
    ((known fields entries).map (·.1.name)).count f.name =
      (entries.map (·.1)).count (some f.name) := by
  induction entries with
  | nil => rfl
  | cons e entries ih =>
    obtain ⟨_ | key, value⟩ := e
    · simpa [known] using ih
    · cases hg : fields.find? (·.name == key) with
      | none =>
        have other : key ≠ f.name := fun he =>
          by simpa [he] using List.find?_eq_none.mp hg f hf
        have rest : known fields ((some key, value) :: entries) = known fields entries := by
          simp [known, hg]
        simp [rest, ih, other]
      | some g =>
        have rest : known fields ((some key, value) :: entries) =
            (g, value) :: known fields entries := by simp [known, hg]
        obtain ⟨-, rfl⟩ := (find?_name_eq_some names).mp hg
        simp [rest, ih, List.count_cons]

/-- The fields known are different if no field is given twice. -/
theorem nodup_known (names : (fields.map (·.name)).Nodup)
    (entries : List (Option String × Tree)) : ((known fields entries).map (·.1.name)).Nodup ↔
      ∀ f ∈ fields, (entries.map (·.1)).count (some f.name) ≤ 1 := by
  rw [List.nodup_iff_count_le_one]
  constructor
  · intro h f hf
    rw [← count_known names entries hf]
    exact h f.name
  · intro h n
    by_cases hn : n ∈ (known fields entries).map (·.1.name)
    · obtain ⟨e, he, rfl⟩ := List.mem_map.mp hn
      have hf := ((mem_known names).mp he).1
      rw [count_known names entries hf]
      exact h e.1 hf
    · rw [List.count_eq_zero.mpr hn]
      exact Nat.zero_le 1

/-- What an object gives to the fields of a table, in the order of the fields. -/
theorem known_perm_given (names : (fields.map (·.name)).Nodup) {members : Members}
    (once : ∀ f ∈ fields, (members.entries.map (·.1)).count (some f.name) ≤ 1) :
    (known fields members.entries).Perm
      (given (fun name => members.entries.lookup (some name)) fields) := by
  have nodup : (given (fun name => members.entries.lookup (some name)) fields).Nodup := by
    refine List.Nodup.filterMap (fun f g e hf hg => ?_) names.of_map
    obtain ⟨t, -, rfl⟩ := Option.map_eq_some_iff.mp hf
    obtain ⟨t', -, he⟩ := Option.map_eq_some_iff.mp hg
    exact (congrArg Prod.fst he).symm
  have nodup' : (known fields members.entries).Nodup :=
    ((nodup_known names members.entries).mpr once).of_map
  refine (List.perm_ext_iff_of_nodup nodup' nodup).mpr fun e => ?_
  rw [mem_known names, mem_given]
  exact and_congr_right fun hf => (Keyed.lookup_eq_some_of_count (once e.1 hf)).symm

/-- The order in which fields are given does not matter. -/
theorem Table.foldl_perm (table : Table fields) {l l' : List (Field σ × Tree)} (h : l.Perm l')
    (mem : ∀ e ∈ l, e.1 ∈ fields) (takes : ∀ e ∈ l, e.1.Takes e.2)
    (names : (l.map (·.1.name)).Nodup) :
    l.foldl (fun s e => e.1.update e.2 s) start = l'.foldl (fun s e => e.1.update e.2 s) start := by
  refine h.foldl_eq' (fun e he e' he' s => ?_) start
  by_cases same : e.1 = e'.1
  · have : e = e' := List.inj_on_of_nodup_map names he he' (by rw [same])
    rw [this]
  · exact table.commute.forall (mem e' he') (mem e he) (Ne.symm same) _ _ (takes e' he')
      (takes e he) s

theorem mem_known_names (names : (fields.map (·.name)).Nodup) {members : Members}
    (once : ∀ f ∈ fields, (members.entries.map (·.1)).count (some f.name) ≤ 1) {f : Field σ}
    (hf : f ∈ fields) : f.name ∈ (known fields members.entries).map (·.1.name) ↔
      (members.entries.lookup (some f.name)).isSome := by
  rw [(known_perm_given names once).map (·.1.name) |>.mem_iff, List.mem_map,
    Option.isSome_iff_exists]
  constructor
  · rintro ⟨⟨g, t⟩, he, hn⟩
    exact ⟨t, hn ▸ (mem_given.mp he).2⟩
  · rintro ⟨t, ht⟩
    exact ⟨(f, t), mem_given.mpr ⟨hf, ht⟩, rfl⟩

/-- An object is decoded exactly if its members can be visited, and nothing required is missing. -/
theorem record_object_visited {medium : Medium} {name : String} {members : Members} :
    record medium name fields start (.object members) = .ok s ↔
      ∃ seen, visitMembers fields [] start members = .ok (s, seen) ∧
        ∀ f ∈ fields, f.required → f.name ∈ seen := by
  cases hv : visitMembers fields [] start members with
  | error e => simp [record, hv, bind, Except.bind]
  | ok visited =>
    obtain ⟨s', seen⟩ := visited
    have complete : fields.find? (fun f => f.required && !seen.contains f.name) = none ↔
        ∀ f ∈ fields, f.required → f.name ∈ seen := by
      simp [List.find?_eq_none]
    simp only [record, hv, bind, Except.bind, Except.ok.injEq, Prod.mk.injEq]
    cases hf : fields.find? (fun f => f.required && !seen.contains f.name) with
    | some f =>
      refine ⟨by simp, ?_⟩
      rintro ⟨_, ⟨-, rfl⟩, all⟩
      rw [complete.mpr all] at hf
      cases hf
    | none =>
      refine ⟨fun h => ⟨seen, ⟨Except.ok.inj h, rfl⟩, complete.mp hf⟩, ?_⟩
      rintro ⟨_, ⟨rfl, -⟩, -⟩
      rfl

/-- An object is decoded exactly if it gives every field once at most, and a record can be assembled
    from what it gives. -/
theorem record_object_iff (table : Table fields) {medium : Medium} {name : String}
    {members : Members} : record medium name fields start (.object members) = .ok s ↔
      members.skipFlaw? = none ∧ ∃ look, Gives (fields.map (·.name)) (.object members) look ∧
        assemble look fields start = some s := by
  rw [record_object_visited]
  constructor
  · rintro ⟨seen, visited, all⟩
    obtain ⟨sound, readable, ⟨rfl, names, -⟩, takes, rfl⟩ :=
      (visitMembers_ok_iff table.attentive members).mp visited
    have once := (nodup_known table.names members.entries).mp names
    have perm := known_perm_given table.names once
    refine ⟨sound, _, .object members readable (List.forall_mem_map.mpr once),
      assemble_eq_some.mpr ⟨?_, ?_, ?_⟩⟩
    · intro f hf required
      rw [← mem_known_names table.names once hf]
      simpa using all f hf required
    · exact fun e he => takes e (perm.mem_iff.mpr he)
    · exact (table.foldl_perm perm (fun e he => ((mem_known table.names).mp he).1) takes
        names).symm
  · rintro ⟨sound, look, gives, assembled⟩
    cases gives with
    | object _ readable once =>
      rw [List.forall_mem_map] at once
      obtain ⟨required, takes, folded⟩ := assemble_eq_some.mp assembled
      have perm := known_perm_given table.names once
      have names := (nodup_known table.names members.entries).mpr once
      have takes' : ∀ e ∈ known fields members.entries, e.1.Takes e.2 :=
        fun e he => takes e (perm.mem_iff.mp he)
      rw [← table.foldl_perm perm (fun e he => ((mem_known table.names).mp he).1) takes' names]
        at folded
      refine ⟨_, (visitMembers_ok_iff table.attentive members).mpr
        ⟨sound, readable, ⟨rfl, names, fun _ _ => List.not_mem_nil⟩, takes', folded⟩, ?_⟩
      intro f hf hr
      have here := (mem_known_names table.names once hf).mpr (required f hf hr)
      simpa using here

end Objects

/-! ## Arrays -/

section Arrays

variable {fields : List (Field σ)} {start s : σ}

/-- The items of an array, under the names of the fields. -/
def Items.look (fields : List (Field σ)) (items : Items) : String → Option Tree :=
  fun name => ((fields.map (·.name)).zip items.trees).lookup name

theorem Items.look_cons {f g : Field σ} {item : Tree} {rest : Items} :
    (Items.cons item rest).look (f :: fields) g.name =
      if g.name = f.name then some item else rest.look fields g.name := by
  by_cases same : g.name = f.name
  · simp [Items.look, Items.trees, same]
  · simp [Items.look, Items.trees, same, List.lookup_cons, beq_eq_false_iff_ne.mpr same]

theorem visitItems_ok_iff (attentive : ∀ f ∈ fields, ∀ t, f.Takes t → t.skipFlaw? = none)
    (names : (fields.map (·.name)).Nodup) {medium : Medium} {name : String}
    {total count index : ℕ} (items : Items) :
    visitItems medium name total count index fields start items = .ok s ↔
      items.skipFlaw? = none ∧ items.trees.length ≤ fields.length ∧
        assemble (items.look fields) fields start = some s := by
  fun_induction visitItems medium name total count index fields start items with
  | case1 | case2 | case3 | case4 | case5 => simp [Items.skipFlaw?, Items.trees, assemble]
  | case6 index field fields record missing =>
    rw [assemble_nothing fun f _ => rfl, if_pos missing]
    simp
  | case7 index field fields record complete =>
    rw [assemble_nothing fun f _ => rfl, if_neg complete]
    simp [Items.skipFlaw?, Items.trees]
  | case8 index field fields record item rest ih =>
    rw [List.forall_mem_cons] at attentive
    rw [List.map_cons, List.nodup_cons] at names
    have first : (Items.cons item rest).look (field :: fields) field.name = some item := by
      rw [Items.look_cons, if_pos rfl]
    have others : ∀ f ∈ fields, (Items.cons item rest).look (field :: fields) f.name =
        rest.look fields f.name := by
      intro f hf
      rw [Items.look_cons, if_neg]
      rintro same
      exact names.1 (List.mem_map.mpr ⟨f, hf, same⟩)
    cases hd : field.decode item with
    | error e => simp [assemble, first, hd, Except.mapError, bind, Except.bind]
    | ok update =>
      have sound := attentive.1 item ⟨update, hd⟩
      change visitItems medium name total count (index + 1) fields (update record) rest = _ ↔ _
      rw [ih update attentive.2 names.2, assemble, first]
      simp [hd, assemble_congr others, Items.skipFlaw?, sound, Items.trees]

/-- An array is decoded exactly if it has no more items than there are fields, and a record can be
    assembled from the items. -/
theorem record_array_iff (table : Table fields) {medium : Medium} {name : String}
    {items : Items} : record medium name fields start (.array items) = .ok s ↔
      items.skipFlaw? = none ∧ ∃ look, Gives (fields.map (·.name)) (.array items) look ∧
        assemble look fields start = some s := by
  rw [record, visitItems_ok_iff table.attentive table.names]
  constructor
  · rintro ⟨sound, fits, assembled⟩
    exact ⟨sound, _, .array items (by rwa [List.length_map]), assembled⟩
  · rintro ⟨sound, look, gives, assembled⟩
    cases gives with
    | array _ fits => exact ⟨sound, by rwa [List.length_map] at fits, assembled⟩

/-- A record is decoded exactly if its text is not broken, and what it gives can be assembled. -/
theorem record_ok_iff (table : Table fields) {medium : Medium} {name : String} {t : Tree} :
    record medium name fields start t = .ok s ↔
      t.skipFlaw? = none ∧ ∃ look, Gives (fields.map (·.name)) t look ∧
        assemble look fields start = some s := by
  cases t with
  | object members => exact record_object_iff table
  | array items => exact record_array_iff table
  | _ =>
    constructor
    · intro h
      unfold record at h
      exact absurd h (refuse_not_ok _ _ _)
    · rintro ⟨-, look, gives, -⟩
      cases gives

end Arrays

/-! ## What does not matter -/

/-- The members of an object that are asked for, in their order. -/
def Members.named (names : List String) (members : Members) : List (Option String × Tree) :=
  members.entries.filter fun e => (names.map some).contains e.1

theorem Members.named_count {names : List String} {members : Members} {n : String}
    (hn : n ∈ names) :
    ((members.named names).map (·.1)).count (some n) =
      (members.entries.map (·.1)).count (some n) := by
  rw [Members.named]
  induction members.entries with
  | nil => rfl
  | cons e entries ih =>
    by_cases asked : (names.map some).contains e.1
    · simp only [List.filter_cons, asked, if_true, List.map_cons, List.count_cons, ih]
    · have other : e.1 ≠ some n := by
        rintro he
        exact asked (by simpa [he] using hn)
      rw [List.filter_cons, if_neg asked, ih, List.map_cons, List.count_cons_of_ne other]

/-- Only what is asked for matters in an object, and not its order. -/
theorem Gives.of_perm {names : List String} {members members' : Members}
    {look : String → Option Tree} (gives : Gives names (.object members) look)
    (readable : ∀ e ∈ members'.entries, e.1.isSome)
    (perm : (members.named names).Perm (members'.named names)) :
    ∃ look', Gives names (.object members') look' ∧ ∀ n ∈ names, look' n = look n := by
  rcases gives with ⟨_, _, once⟩
  have once' : ∀ n ∈ names, (members'.entries.map (·.1)).count (some n) ≤ 1 := by
    intro n hn
    rw [← Members.named_count hn, ← (perm.map _).count_eq, Members.named_count hn]
    exact once n hn
  refine ⟨_, .object members' readable once', fun n hn => Option.ext fun t => ?_⟩
  have asked (entries : List (Option String × Tree)) : (some n, t) ∈ entries ↔
      (some n, t) ∈ entries.filter fun e => (names.map some).contains e.1 := by
    simp [hn]
  rw [Keyed.lookup_eq_some_of_count (once' n hn), Keyed.lookup_eq_some_of_count (once n hn), asked,
    asked members.entries]
  exact perm.symm.mem_iff

end BrokerPool.Json
