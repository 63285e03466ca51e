import BrokerPool.Proofs.Keyed
import BrokerPool.Settings.Layers

/-!
# Settings that do not get in each other's way

What is set at a path stays, whatever is set later at paths that part from it at a name. So a value
that is set among others can as well be set behind all of them.

Results:
* `Keyed.put_comm`, `Tree.alterKey_comm`: the values of two keys are set in any order.
* `Tree.assignAt_comm`: values at paths that part are set in any order.
* `Tree.assignAll_override`: a value among others is set behind all of them.
-/

namespace BrokerPool

/-! ## Lists in the order of their keys -/

namespace Keyed

variable {α : Type} {k k' : String}

theorem put_put_self (k : String) (v w : α) (l : Keyed α) : put k w (put k v l) = put k w l := by
  induction l with
  | nil => simp [put]
  | cons entry rest ih =>
    obtain ⟨a, b⟩ := entry
    by_cases he : k = a
    · simp [put, he]
    by_cases hl : k < a
    · simp only [put, if_neg he, if_pos hl, ite_true]
    · simp only [put, if_neg he, if_neg hl, ih]

theorem put_comm_of_lt (h : k < k') (v v' : α) (l : Keyed α) :
    put k v (put k' v' l) = put k' v' (put k v l) := by
  have hne : k ≠ k' := h.ne
  have hng : ¬k' < k := h.not_gt
  induction l with
  | nil => simp only [put, if_neg hne, if_neg hne.symm, if_pos h, if_neg hng]
  | cons entry rest ih =>
    obtain ⟨a, b⟩ := entry
    rcases lt_trichotomy k' a with hl | rfl | hg
    · have ha : k < a := h.trans hl
      simp only [put, if_neg hl.ne, if_pos hl, if_neg ha.ne, if_pos ha, if_neg hne, if_pos h,
        if_neg hne.symm, if_neg hng]
    · simp only [put, ite_true, if_neg hne, if_pos h, if_neg hne.symm, if_neg hng]
    · rcases lt_trichotomy k a with hk | rfl | hk
      · simp only [put, if_neg hg.ne', if_neg hg.not_gt, if_neg hk.ne, if_pos hk, if_neg hne.symm,
          if_neg hng]
      · simp only [put, if_neg hne.symm, if_neg hng, ite_true]
      · simp only [put, if_neg hg.ne', if_neg hg.not_gt, if_neg hk.ne', if_neg hk.not_gt, ih]

theorem put_comm (h : k ≠ k') (v v' : α) (l : Keyed α) :
    put k v (put k' v' l) = put k' v' (put k v l) := by
  rcases h.lt_or_gt with h | h
  · exact put_comm_of_lt h v v' l
  · exact (put_comm_of_lt h v' v l).symm

end Keyed

namespace Settings

/-! ## Trees -/

namespace Tree

variable {a b : String} {f g : Option Tree → Tree}

@[simp] theorem tableEntries_table (entries : List (String × Tree)) (origin : Option String) :
    (table entries origin).tableEntries = (entries, origin) := rfl

theorem alterKey_eq (name : String) (f : Option Tree → Tree) (t : Tree) :
    t.alterKey name f = .table (Keyed.put (Text.lower name)
      (f (t.tableEntries.1.lookup (Text.lower name))) t.tableEntries.1) t.tableEntries.2 := rfl

/-- The value of a key is changed twice. -/
theorem alterKey_alterKey (h : Text.lower a = Text.lower b) (t : Tree) :
    (t.alterKey a f).alterKey b g = t.alterKey b fun old => g (some (f old)) := by
  simp only [alterKey_eq, tableEntries_table, h, Keyed.lookup_put_self, Keyed.put_put_self]

/-- The values of two keys are changed in any order. -/
theorem alterKey_comm (h : Text.lower a ≠ Text.lower b) (t : Tree) :
    (t.alterKey a f).alterKey b g = (t.alterKey b g).alterKey a f := by
  simp only [alterKey_eq, tableEntries_table, Keyed.lookup_put_of_ne h,
    Keyed.lookup_put_of_ne h.symm]
  rw [Keyed.put_comm h]

/-- A single value at a path that begins with a name. -/
theorem assignAt_key (value : Leaf) (origin : Option String) (name : String) (path : List Step)
    (t : Tree) : assignAt (.leaf value origin) (.key name :: path) t =
      t.alterKey name fun old =>
        assignAt (.leaf value origin) path (old.getD (.leaf .absent none)) := by
  cases path <;> simp [assignAt, assign]

end Tree

/-- The paths part at a name. -/
def Apart : List Step → List Step → Prop
  | .key a :: p, .key b :: q => Text.lower a ≠ Text.lower b ∨ Apart p q
  | _, _ => False

/-- Single values at paths that part are set in any order. -/
theorem Tree.assignAt_comm {p q : List Step} (h : Apart p q) (x y : Leaf)
    (from_x from_y : Option String) (t : Tree) :
    assignAt (.leaf y from_y) q (assignAt (.leaf x from_x) p t) =
      assignAt (.leaf x from_x) p (assignAt (.leaf y from_y) q t) := by
  induction p generalizing q t with
  | nil => simp [Apart] at h
  | cons step p ih =>
    cases step with
    | index i => simp [Apart] at h
    | key a =>
      cases q with
      | nil => simp [Apart] at h
      | cons step' q =>
        cases step' with
        | index i => simp [Apart] at h
        | key b =>
          simp only [assignAt_key]
          by_cases hn : Text.lower a = Text.lower b
          · have hpq : Apart p q := h.resolve_left (not_not_intro hn)
            rw [alterKey_alterKey hn, alterKey_alterKey hn.symm]
            simp only [Option.getD_some, ih hpq]
            simp only [alterKey, hn]
          · exact alterKey_comm hn t

/-! ## Layers -/

/-- Sets keys one after the other. -/
def Tree.assignAll (layer : Layer) (t : Tree) : Tree :=
  layer.foldl (fun t (key, v) => Tree.assignAt v (path key) t) t

@[simp] theorem Tree.assignAll_cons (key : String) (v : Tree) (layer : Layer) (t : Tree) :
    assignAll ((key, v) :: layer) t = assignAll layer (assignAt v (path key) t) := rfl

theorem Tree.assignAll_append (first second : Layer) (t : Tree) :
    assignAll (first ++ second) t = assignAll second (assignAll first t) := List.foldl_append

/-- Layers are set one after the other. -/
theorem merged_eq (layers : List Layer) : merged layers = Tree.assignAll layers.flatten .empty := by
  rw [Tree.assignAll, List.foldl_flatten]
  rfl

/-- A layer of single values at paths that part from a path. -/
def KeepsOff (p : List Step) (layer : Layer) : Prop :=
  ∀ e ∈ layer, Apart p (path e.1) ∧ ∃ value origin, e.2 = .leaf value origin

theorem Tree.assignAll_comm {p : List Step} {layer : Layer} (h : KeepsOff p layer) (value : Leaf)
    (origin : Option String) (t : Tree) :
    assignAll layer (assignAt (.leaf value origin) p t) =
      assignAt (.leaf value origin) p (assignAll layer t) := by
  induction layer generalizing t with
  | nil => rfl
  | cons e layer ih =>
    obtain ⟨key, v⟩ := e
    obtain ⟨⟨apart, other, from_other, rfl⟩, rest⟩ := List.forall_mem_cons.mp h
    rw [assignAll_cons, assignAll_cons, assignAt_comm apart, ih rest]

/-- A value among others that keep off its path can as well be set behind all of them. -/
theorem Tree.assignAll_override {before after : Layer} {key : String}
    (h : KeepsOff (path key) after) (value : Leaf) (origin : Option String) (t : Tree) :
    assignAll (before ++ (key, .leaf value origin) :: after) t =
      assignAt (.leaf value origin) (path key) (assignAll (before ++ after) t) := by
  rw [assignAll_append, assignAll_cons, assignAll_comm h, assignAll_append]

end Settings

end BrokerPool
