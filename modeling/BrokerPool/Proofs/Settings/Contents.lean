import BrokerPool.Proofs.Settings.Records

/-!
# What stands at the keys of a tree

Settings are found along keys. What is set at some keys is found there, and what stands at keys that
part from them is not touched.

Results:
* `Tree.at?_assignAt_self`, `Tree.at?_assignAt_of_apart`, `Tree.at?_assignAt_of_prefix`: what is
  found after a value is set.
* `Tree.at?_settle`: what is found in a table whose entries are set one by one.
-/

namespace BrokerPool.Settings

/-! ## Paths -/

instance decidableApart : (p q : List Step) → Decidable (Apart p q)
  | .key a :: p, .key b :: q =>
    have := decidableApart p q
    inferInstanceAs (Decidable (Text.lower a ≠ Text.lower b ∨ Apart p q))
  | [], _ | .index _ :: _, _ | .key _ :: _, [] | .key _ :: _, .index _ :: _ =>
    isFalse (by simp [Apart])

/-- Keys in lower case. -/
def Lowered (keys : List String) : Prop := keys.map Text.lower = keys

instance (keys : List String) : Decidable (Lowered keys) :=
  inferInstanceAs (Decidable (keys.map Text.lower = keys))

theorem lowered_cons {key : String} {keys : List String} :
    Lowered (key :: keys) ↔ Text.lower key = key ∧ Lowered keys := by
  simp [Lowered]

namespace Tree

variable {keys others : List String} {k name : String} {t : Tree} {f : Option Tree → Tree}

/-! ## Along keys -/

/-- What stands at some keys of a tree. -/
def at? : List String → Tree → Option Tree
  | [], t => some t
  | k :: keys, t => (t.tableEntries.1.lookup k).bind (at? keys)

@[simp] theorem at?_nil (t : Tree) : t.at? [] = some t := rfl

theorem at?_cons (k : String) (keys : List String) (t : Tree) :
    t.at? (k :: keys) = (t.tableEntries.1.lookup k).bind (at? keys) := rfl

theorem at?_append (keys others : List String) (t : Tree) :
    t.at? (keys ++ others) = (t.at? keys).bind (at? others) := by
  induction keys generalizing t with
  | nil => rfl
  | cons k keys ih =>
    rw [List.cons_append, at?_cons, at?_cons, Option.bind_assoc]
    exact congrArg _ (funext ih)

theorem at?_alterKey (h : Text.lower name = k) :
    (t.alterKey name f).at? (k :: keys) = (f (t.tableEntries.1.lookup k)).at? keys := by
  rw [at?_cons, alterKey_eq, tableEntries_table, h, Keyed.lookup_put_self, Option.bind_some]

theorem at?_alterKey_of_ne (h : k ≠ Text.lower name) :
    (t.alterKey name f).at? (k :: keys) = t.at? (k :: keys) := by
  rw [at?_cons, alterKey_eq, tableEntries_table, Keyed.lookup_put_of_ne h, at?_cons]

section Assigning

variable (value : Leaf) (origin : Option String) (t : Tree)

/-- What is set at some keys is found there. -/
theorem at?_assignAt_self (low : Lowered keys) :
    (assignAt (.leaf value origin) (steps keys) t).at? keys = some (.leaf value origin) := by
  induction keys generalizing t with
  | nil => rfl
  | cons k keys ih =>
    obtain ⟨hk, low⟩ := lowered_cons.mp low
    rw [steps, List.map_cons, assignAt_key, at?_alterKey hk]
    exact ih _ low

/-- What stands at keys that part from a path stays when the path is set. -/
theorem at?_assignAt_of_apart {p : List Step} (low : Lowered others) (h : Apart p (steps others)) :
    (assignAt (.leaf value origin) p t).at? others = t.at? others := by
  induction p generalizing others t with
  | nil => exact h.elim
  | cons step p ih =>
    cases others with
    | nil => cases step <;> exact h.elim
    | cons b others =>
      cases step with
      | index i => exact h.elim
      | key a =>
        obtain ⟨hb, low⟩ := lowered_cons.mp low
        rw [assignAt_key]
        by_cases hn : Text.lower a = b
        · have apart : Apart p (steps others) := h.resolve_left fun ne => ne (hn.trans hb.symm)
          rw [at?_alterKey hn, ih _ low apart, at?_cons]
          cases t.tableEntries.1.lookup b with
          | some u => rfl
          | none =>
            -- Where nothing stands, nothing is found: the keys go on, as they part later.
            cases others with
            | nil => cases p with
              | nil => exact apart.elim
              | cons step p => cases step <;> exact apart.elim
            | cons c others => rfl
        · exact at?_alterKey_of_ne (Ne.symm hn)

/-- On the way to what is set there are tables. -/
theorem at?_assignAt_of_prefix (low : Lowered others) (k : String) (keys : List String) :
    ∃ entries from_, (assignAt (.leaf value origin) (steps (others ++ k :: keys)) t).at? others =
      some (.table entries from_) := by
  induction others generalizing t with
  | nil =>
    rw [List.nil_append, steps, List.map_cons, assignAt_key, alterKey_eq, at?_nil]
    exact ⟨_, _, rfl⟩
  | cons a others ih =>
    obtain ⟨ha, low⟩ := lowered_cons.mp low
    rw [List.cons_append, steps, List.map_cons, assignAt_key, at?_alterKey ha]
    exact ih _ low

end Assigning

end Tree

/-! ## Tables that are merged -/

/-- The value of a key without regard to case. -/
def named {α : Type} (k : String) (entries : List (String × α)) : Option α :=
  (entries.find? fun e => Text.lower e.1 = k).map (·.2)

/-- The keys of a list differ, also without regard to case. -/
def Distinct {α : Type} (entries : List (String × α)) : Prop :=
  (entries.map fun e => Text.lower e.1).Nodup

instance {α : Type} (entries : List (String × α)) : Decidable (Distinct entries) :=
  inferInstanceAs (Decidable (entries.map fun e : String × α => Text.lower e.1).Nodup)

section Named

variable {α β : Type} {k name : String} {v : α} {entries others : List (String × α)}

theorem named_cons : named k ((name, v) :: entries) =
    if Text.lower name = k then some v else named k entries := by
  simp only [named, List.find?_cons]
  split_ifs with h <;> simp [h]

theorem named_map (f : α → β) :
    named k (entries.map fun e => (e.1, f e.2)) = (named k entries).map f := by
  induction entries with
  | nil => rfl
  | cons e entries ih =>
    obtain ⟨name, v⟩ := e
    rw [List.map_cons, named_cons, named_cons, ih]
    split_ifs <;> rfl

theorem named_eq_none : named k entries = none ↔ ∀ e ∈ entries, Text.lower e.1 ≠ k := by
  simp [named]

theorem named_eq_some (distinct : Distinct entries) :
    named k entries = some v ↔ ∃ name, (name, v) ∈ entries ∧ Text.lower name = k := by
  induction entries with
  | nil => simp [named]
  | cons e entries ih =>
    obtain ⟨a, b⟩ := e
    obtain ⟨new, distinct⟩ := List.nodup_cons.mp distinct
    rw [named_cons]
    split_ifs with h
    · constructor
      · rintro ⟨⟩
        exact ⟨a, List.mem_cons_self, h⟩
      · rintro ⟨name, hm, hn⟩
        rcases List.mem_cons.mp hm with he | hm
        · rw [(Prod.mk.inj he).2]
        · exact absurd (List.mem_map.mpr ⟨_, hm, hn.trans h.symm⟩) new
    · rw [ih distinct]
      constructor
      · rintro ⟨name, hm, hn⟩
        exact ⟨name, List.mem_cons_of_mem _ hm, hn⟩
      · rintro ⟨name, hm, hn⟩
        rcases List.mem_cons.mp hm with he | hm
        · exact absurd ((Prod.mk.inj he).1 ▸ hn) h
        · exact ⟨name, hm, hn⟩

/-- The order of the entries makes no difference. -/
theorem named_perm (perm : entries.Perm others) (distinct : Distinct entries) :
    named k entries = named k others := by
  have distinct' : Distinct others := (perm.map _).nodup_iff.mp distinct
  ext v
  rw [named_eq_some distinct, named_eq_some distinct']
  simp only [perm.mem_iff]

end Named

namespace Tree

variable {keys : List String} {k : String} {entries : List (String × Tree)}
  {origin : Option String} {t : Tree}

/-- A tree that is set where nothing stands. -/
def settle : Tree → Tree
  | .table entries _ => merge entries empty
  | t => t

/-- A tree that is set at a key of a table in which it is new. -/
theorem assign_new (new : t.tableEntries.1.lookup (Text.lower k) = none) (v : Tree) :
    assign k v t = t.alterKey k fun _ => settle v := by
  cases v <;> simp [assign, settle, alterKey_eq, new]

theorem lookup_assign_new (new : t.tableEntries.1.lookup (Text.lower k) = none) (v : Tree) :
    (assign k v t).tableEntries.1 = Keyed.put (Text.lower k) (settle v) t.tableEntries.1 := by
  rw [assign_new new, alterKey_eq, tableEntries_table]

/-- Entries that are set one by one, in a table in which all are new. -/
theorem lookup_merge (distinct : Distinct entries)
    (new : ∀ e ∈ entries, t.tableEntries.1.lookup (Text.lower e.1) = none) :
    (merge entries t).tableEntries.1.lookup k =
      ((named k entries).map settle).or (t.tableEntries.1.lookup k) := by
  induction entries generalizing t with
  | nil => rfl
  | cons e entries ih =>
    obtain ⟨name, v⟩ := e
    obtain ⟨first, others⟩ := List.forall_mem_cons.mp new
    obtain ⟨differs, distinct⟩ := List.nodup_cons.mp distinct
    have put := lookup_assign_new first v
    rw [merge, ih distinct fun e he => ?new, put, named_cons]
    case new =>
      have ne : Text.lower e.1 ≠ Text.lower name := fun h =>
        differs (List.mem_map.mpr ⟨e, he, h⟩)
      rw [put, Keyed.lookup_put_of_ne ne, others e he]
    split_ifs with h
    · subst h
      have none_left : named (Text.lower name) entries = none :=
        named_eq_none.mpr fun e he h => differs (List.mem_map.mpr ⟨e, he, h⟩)
      rw [none_left, Keyed.lookup_put_self]
      rfl
    · rw [Keyed.lookup_put_of_ne (Ne.symm h)]

theorem merge_table (entries inner : List (String × Tree)) (origin : Option String) :
    ∃ entries' origin', merge entries (.table inner origin) = .table entries' origin' := by
  induction entries generalizing inner origin with
  | nil => exact ⟨_, _, rfl⟩
  | cons e entries ih =>
    obtain ⟨name, v⟩ := e
    cases v <;> exact ih _ _

/-- What is found in a table whose entries are set one by one. -/
theorem at?_settle (distinct : Distinct entries) :
    (settle (.table entries origin)).at? (k :: keys) =
      (named k entries).bind fun u => (settle u).at? keys := by
  rw [at?_cons, settle, lookup_merge distinct fun _ _ => rfl]
  cases named k entries <;> rfl

end Tree

end BrokerPool.Settings
