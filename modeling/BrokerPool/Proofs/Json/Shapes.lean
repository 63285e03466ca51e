import BrokerPool.Proofs.Json.Decoders

/-!
# The two shapes of a record

An object gives the fields of a record in any order, with other members among them, and an array
gives them from the first on. Either shape gives the same record, and no field is given twice.

Results:
* `Shapes`: what a decoder of records has to do with the shape that a record is given in.
* `record_shapes`: every table of fields is decoded like that.
-/

namespace BrokerPool.Json

/-- Members in front of others. -/
def Members.behind (entries : List (Option String × Tree)) (rest : Members) : Members :=
  entries.foldr (fun e => .cons e.1 e.2) rest

theorem Members.behind_cons (key : Option String) (value : Tree)
    (entries : List (Option String × Tree)) (rest : Members) :
    Members.behind ((key, value) :: entries) rest = .cons key value (.behind entries rest) := rfl

@[simp] theorem Members.entries_behind (entries : List (Option String × Tree)) (rest : Members) :
    (Members.behind entries rest).entries = entries ++ rest.entries := by
  induction entries with
  | nil => rfl
  | cons e entries ih => exact congrArg (e :: ·) ih

/-- A decoder of records whose fields have names, from the first on. -/
structure Shapes {α : Type} (decode : Decoder α) (names : List String) : Prop where
  /-- Neither the order of the members matters, nor a member with another name. -/
  order {members members' : Members} (sound : members.skipFlaw? = none)
    (sound' : members'.skipFlaw? = none) (readable : ∀ e ∈ members.entries, e.1.isSome)
    (readable' : ∀ e ∈ members'.entries, e.1.isSome)
    (perm : (members.named names).Perm (members'.named names)) (a : α) :
    decode (.object members) = .ok a ↔ decode (.object members') = .ok a
  /-- An array gives what an object gives under the first of the names. -/
  positional {items : Items} {members : Members} (sound : items.skipFlaw? = none)
    (sound' : members.skipFlaw? = none) (fits : items.trees.length ≤ names.length)
    (perm : members.entries.Perm ((names.zip items.trees).map fun e => (some e.1, e.2))) (a : α) :
    decode (.array items) = .ok a ↔ decode (.object members) = .ok a
  /-- What is given twice is refused. -/
  once {members : Members} {n : String} (known : n ∈ names)
    (twice : 1 < (members.entries.map (·.1)).count (some n)) (a : α) :
    decode (.object members) ≠ .ok a
  /-- The name of the first field that is given again is told, whatever its value is and whatever
      stands behind it. -/
  duplicate {before : List (Option String × Tree)} {n : String} {a : α} (known : n ∈ names)
    (given : some n ∈ before.map (·.1)) (fine : decode (.object (.behind before .done)) = .ok a)
    (t : Tree) (rest : Members) : decode (.object (.behind before (.cons (some n) t rest))) =
      .error (.mismatched ("duplicate field `" ++ n ++ "`"))

section Record

variable {σ : Type} {fields : List (Field σ)} {start s : σ} {medium : Medium} {name : String}

/-- Names with one tree each, as the members of an object. -/
theorem lookup_named (pairs : List (String × Tree)) (n : String) :
    (pairs.map fun e => (some e.1, e.2)).lookup (some n) = pairs.lookup n := by
  induction pairs with
  | nil => rfl
  | cons e pairs ih =>
    obtain ⟨n', t⟩ := e
    by_cases same : n = n'
    · simp [same]
    · have other : (some n == some n') = false := by simp [same]
      rw [List.map_cons, List.lookup_cons, other, List.lookup_cons, beq_eq_false_iff_ne.mpr same]
      exact ih

theorem record_order (table : Table fields) {members members' : Members}
    (sound : members'.skipFlaw? = none) (readable : ∀ e ∈ members'.entries, e.1.isSome)
    (perm : (members.named (fields.map (·.name))).Perm (members'.named (fields.map (·.name))))
    (h : record medium name fields start (.object members) = .ok s) :
    record medium name fields start (.object members') = .ok s := by
  obtain ⟨-, look, gives, assembled⟩ := (record_ok_iff table).mp h
  obtain ⟨look', gives', same⟩ := gives.of_perm readable perm
  refine (record_ok_iff table).mpr ⟨sound, look', gives', ?_⟩
  rw [← assembled]
  exact assemble_congr fun f hf => same f.name (List.mem_map.mpr ⟨f, hf, rfl⟩)

theorem nodup_zip {names : List String} (nodup : names.Nodup) (trees : List Tree) :
    ((names.zip trees).map (·.1)).Nodup := by
  rw [List.zip_eq_zip_take_min, List.map_fst_zip (by simp)]
  exact nodup.sublist (List.take_sublist _ _)

/-- An object with the members that an array stands for gives the same as the array. -/
theorem gives_of_positional {names : List String} (nodup : names.Nodup) {items : Items}
    {members : Members}
    (perm : members.entries.Perm ((names.zip items.trees).map fun e => (some e.1, e.2))) :
    Gives names (.object members) fun n => (names.zip items.trees).lookup n := by
  have keys : (((names.zip items.trees).map fun e => (some e.1, e.2)).map (·.1)).Nodup := by
    have some_ := (nodup_zip nodup items.trees).map fun _ _ => Option.some.inj
    rwa [List.map_map] at some_ ⊢
  have keys' : (members.entries.map (·.1)).Nodup := (perm.map _).nodup_iff.mpr keys
  have found : (fun n => (names.zip items.trees).lookup n) =
      fun n => members.entries.lookup (some n) := by
    funext n
    rw [Keyed.lookup_perm perm keys', lookup_named]
  rw [found]
  refine .object members (fun e he => ?_) fun n _ => List.nodup_iff_count_le_one.mp keys' _
  obtain ⟨e', -, rfl⟩ := List.mem_map.mp (perm.mem_iff.mp he)
  rfl

theorem record_positional (table : Table fields) {items : Items} {members : Members}
    (sound : items.skipFlaw? = none) (sound' : members.skipFlaw? = none)
    (fits : items.trees.length ≤ (fields.map (·.name)).length)
    (perm : members.entries.Perm
      (((fields.map (·.name)).zip items.trees).map fun e => (some e.1, e.2))) :
    record medium name fields start (.array items) = .ok s ↔
      record medium name fields start (.object members) = .ok s := by
  have array : Gives (fields.map (·.name)) (.array items) _ := .array items fits
  have object := gives_of_positional table.names perm
  rw [record_ok_iff table, record_ok_iff table]
  constructor
  · rintro ⟨-, look, gives, assembled⟩
    exact ⟨sound', _, object, gives.unique array ▸ assembled⟩
  · rintro ⟨-, look, gives, assembled⟩
    exact ⟨sound, _, array, gives.unique object ▸ assembled⟩

theorem record_once (table : Table fields) {members : Members} {n : String}
    (known : n ∈ fields.map (·.name)) (twice : 1 < (members.entries.map (·.1)).count (some n)) :
    record medium name fields start (.object members) ≠ .ok s := by
  intro h
  obtain ⟨-, look, gives, -⟩ := (record_ok_iff table).mp h
  cases gives with
  | object _ _ once => exact absurd (once n known) (Nat.not_le_of_gt twice)

/-! ### The field that is given again -/

/-- Members that were visited leave a record and names to whatever stands behind them. -/
theorem visitMembers_behind {before : List (Option String × Tree)} {seen seen' : List String}
    (h : visitMembers fields seen start (.behind before .done) = .ok (s, seen')) (rest : Members) :
    visitMembers fields seen start (.behind before rest) = visitMembers fields seen' s rest := by
  induction before generalizing seen start with
  | nil =>
    obtain ⟨rfl, rfl⟩ := Prod.mk.inj (Except.ok.inj h)
    rfl
  | cons e before ih =>
    obtain ⟨_ | key, value⟩ := e
    · cases h
    · rw [Members.behind_cons, visitMembers] at h ⊢
      cases hf : fields.find? (·.name == key) with
      | none =>
        rw [hf] at h
        cases hs : value.skipFlaw? with
        | some flaw => simp [hs] at h
        | none =>
          simp only [hs] at h ⊢
          exact ih h
      | some field =>
        simp only [hf] at h ⊢
        split at h
        · cases h
        · rename_i fresh
          obtain ⟨update, hu, h⟩ := of_mapError_bind h
          rw [if_neg fresh, hu]
          exact ih h

/-- The names that were given are known when the members have been visited. -/
theorem seen_of_given (table : Table fields) {members : Members} {seen : List String} {n : String}
    (h : visitMembers fields [] start members = .ok (s, seen)) (known : n ∈ fields.map (·.name))
    (given : some n ∈ members.entries.map (·.1)) : n ∈ seen := by
  obtain ⟨-, -, ⟨rfl, -, -⟩, -⟩ := (visitMembers_ok_iff table.attentive members).mp h
  obtain ⟨f, hf, rfl⟩ := List.mem_map.mp known
  rw [List.append_nil, List.mem_reverse, ← List.count_pos_iff, count_known table.names _ hf]
  exact List.count_pos_iff.mpr given

/-- A field that is given again is refused by its name. -/
theorem record_duplicate (table : Table fields) {before : List (Option String × Tree)} {n : String}
    (known : n ∈ fields.map (·.name)) (given : some n ∈ before.map (·.1))
    (fine : record medium name fields start (.object (.behind before .done)) = .ok s) (t : Tree)
    (rest : Members) :
    record medium name fields start (.object (.behind before (.cons (some n) t rest))) =
      .error (.mismatched ("duplicate field `" ++ n ++ "`")) := by
  cases hv : visitMembers fields [] start (.behind before .done) with
  | error e => simp [record, hv, bind, Except.bind] at fine
  | ok visited =>
    obtain ⟨s', seen⟩ := visited
    obtain ⟨f, hf, rfl⟩ := List.mem_map.mp known
    have found := (find?_name_eq_some table.names).mpr ⟨hf, rfl⟩
    have there : f.name ∈ seen := by
      refine seen_of_given table hv known ?_
      rwa [Members.entries_behind, Members.entries, List.append_nil]
    have again : visitMembers fields seen s' (.cons (some f.name) t rest) =
        .error (.mismatched ("duplicate field `" ++ f.name ++ "`")) := by
      rw [visitMembers, found]
      exact if_pos (List.contains_iff_mem.mpr there)
    rw [record, visitMembers_behind hv, again]
    rfl

/-- A record is decoded from either shape, whatever its fields are. -/
theorem record_shapes (table : Table fields) :
    Shapes (record medium name fields start) (fields.map (·.name)) where
  order sound sound' readable readable' perm _ :=
    ⟨record_order table sound' readable' perm, record_order table sound readable perm.symm⟩
  positional sound sound' fits perm _ := record_positional table sound sound' fits perm
  once known twice _ := record_once table known twice
  duplicate known given fine t rest := record_duplicate table known given fine t rest

end Record

end BrokerPool.Json
