import BrokerPool.Keyed
import Mathlib.Data.List.Nodup
import Mathlib.Data.String.Basic
import Mathlib.Tactic.SplitIfs

/-!
# Order and keys

Lists that are made with `put` have every key once, in order.

Results:
* `Ordered.put`, `ordered_ofList`: putting pairs into their places keeps the order.
* `put_perm`: a pair with a new key comes to the others, and nothing else changes.
* `lookup_perm`: what is found among different keys does not depend on their order.
* `ofList_perm`: pairs with different keys only change their order.
* `Ordered.ofList_eq`: a list in order stays as it is.
-/

namespace BrokerPool.Keyed

variable {α : Type} {k k' : String} {v : α} {l : Keyed α}

/-- Every key is there once, and the keys are in order. -/
def Ordered (l : Keyed α) : Prop := l.Pairwise fun a b => a.1 < b.1

theorem mem_put {e : String × α} (h : e ∈ put k v l) : e = (k, v) ∨ e ∈ l := by
  induction l with
  | nil => exact .inl (List.mem_singleton.mp h)
  | cons entry rest ih =>
    obtain ⟨a, b⟩ := entry
    simp only [put] at h
    split_ifs at h
    · exact (List.mem_cons.mp h).imp_right (List.mem_cons_of_mem _)
    · exact List.mem_cons.mp h
    · rcases List.mem_cons.mp h with rfl | h
      · exact .inr List.mem_cons_self
      · exact (ih h).imp_right (List.mem_cons_of_mem _)

theorem Ordered.put (h : l.Ordered) (k : String) (v : α) : (l.put k v).Ordered := by
  induction l with
  | nil => exact List.pairwise_singleton _ _
  | cons entry rest ih =>
    obtain ⟨a, b⟩ := entry
    obtain ⟨first, rest_ordered⟩ := List.pairwise_cons.mp h
    simp only [Keyed.put]
    split_ifs with same before
    · subst same
      exact List.pairwise_cons.mpr ⟨first, rest_ordered⟩
    · refine List.pairwise_cons.mpr ⟨fun e he => ?_, h⟩
      rcases List.mem_cons.mp he with rfl | he
      · exact before
      · exact before.trans (first e he)
    · have behind : a < k := lt_of_le_of_ne (not_lt.mp before) (Ne.symm same)
      refine List.pairwise_cons.mpr ⟨fun e he => ?_, ih rest_ordered⟩
      rcases mem_put he with rfl | he
      · exact behind
      · exact first e he

theorem ordered_ofList (pairs : List (String × α)) : (ofList pairs).Ordered := by
  have step (pairs : List (String × α)) (l : Keyed α) (h : l.Ordered) :
      (pairs.foldl (fun acc pair => Keyed.put pair.1 pair.2 acc) l).Ordered := by
    induction pairs generalizing l with
    | nil => exact h
    | cons pair pairs ih => exact ih _ (h.put pair.1 pair.2)
  exact step pairs [] List.Pairwise.nil

/-- A pair with a new key comes to the others, and nothing else changes. -/
theorem put_perm (new : ∀ e ∈ l, e.1 ≠ k) (v : α) : (put k v l).Perm ((k, v) :: l) := by
  induction l with
  | nil => exact List.Perm.refl _
  | cons entry rest ih =>
    obtain ⟨a, b⟩ := entry
    obtain ⟨first, others⟩ := List.forall_mem_cons.mp new
    simp only [put, if_neg (Ne.symm first)]
    split_ifs
    · exact List.Perm.refl _
    · exact ((ih others).cons (a, b)).trans (List.Perm.swap (k, v) (a, b) rest)

/-! ## What is found -/

@[simp] theorem lookup_put_self (k : String) (v : α) (l : Keyed α) :
    (put k v l).lookup k = some v := by
  induction l with
  | nil => simp [put]
  | cons entry rest ih =>
    obtain ⟨a, b⟩ := entry
    simp only [put]
    split_ifs with h
    · simp
    · simp
    · rw [List.lookup_cons, beq_eq_false_iff_ne.mpr h]
      exact ih

theorem lookup_put_of_ne (h : k' ≠ k) (v : α) (l : Keyed α) :
    (put k v l).lookup k' = l.lookup k' := by
  have hb : (k' == k) = false := beq_eq_false_iff_ne.mpr h
  induction l with
  | nil => simp [put, List.lookup_cons, hb]
  | cons entry rest ih =>
    obtain ⟨a, b⟩ := entry
    simp only [put]
    split_ifs with he
    · subst he
      simp [List.lookup_cons, hb]
    · simp [List.lookup_cons, hb]
    · rw [List.lookup_cons, List.lookup_cons, ih]

/-- A key that is there once at most leads to whatever stands with it. -/
theorem lookup_eq_some_of_count {κ β : Type} [BEq κ] [LawfulBEq κ] {l : List (κ × β)} {k : κ}
    (once : (l.map (·.1)).count k ≤ 1) {v : β} : l.lookup k = some v ↔ (k, v) ∈ l := by
  induction l with
  | nil => simp
  | cons e l ih =>
    obtain ⟨k', v'⟩ := e
    by_cases same : k = k'
    · subst same
      have others : k ∉ l.map (·.1) := by
        rw [← List.count_eq_zero]
        simp only [List.map_cons, List.count_cons_self] at once
        omega
      have unlike : (k, v) ∉ l := fun h => others (List.mem_map.mpr ⟨_, h, rfl⟩)
      simp [unlike, eq_comm]
    · have other : k' ≠ k := Ne.symm same
      simp only [List.map_cons, List.count_cons_of_ne other] at once
      simp [List.lookup_cons, same, ih once, beq_eq_false_iff_ne.mpr same]

/-- Pairs with different keys may come in any order. -/
theorem lookup_perm {κ β : Type} [BEq κ] [LawfulBEq κ] {l l' : List (κ × β)} (perm : l.Perm l')
    (keys : (l.map (·.1)).Nodup) (k : κ) : l.lookup k = l'.lookup k := by
  have once := List.nodup_iff_count_le_one.mp keys k
  refine Option.ext fun v => ?_
  rw [lookup_eq_some_of_count once, lookup_eq_some_of_count ((perm.map _).count_eq k ▸ once)]
  exact perm.mem_iff

/-! ## Lists that are put in order -/

/-- Among different keys nothing gets lost. -/
theorem ofList_perm {pairs : List (String × α)} (keys : (pairs.map (·.1)).Nodup) :
    (ofList pairs).Perm pairs := by
  have step (pairs : List (String × α)) (l : Keyed α) (keys : ((l ++ pairs).map (·.1)).Nodup) :
      (pairs.foldl (fun acc pair => put pair.1 pair.2 acc) l).Perm (l ++ pairs) := by
    induction pairs generalizing l with
    | nil => rw [List.append_nil]; exact List.Perm.refl _
    | cons pair pairs ih =>
      have new : ∀ e ∈ l, e.1 ≠ pair.1 := fun e he same => by
        rw [List.map_append, List.nodup_append] at keys
        exact keys.2.2 e.1 (List.mem_map.mpr ⟨e, he, rfl⟩) pair.1 List.mem_cons_self same
      have placed : (put pair.1 pair.2 l ++ pairs).Perm (l ++ pair :: pairs) :=
        ((put_perm new pair.2).append_right pairs).trans List.perm_middle.symm
      exact (ih _ ((placed.map _).nodup_iff.mpr keys)).trans placed
  exact step pairs [] keys

/-- A pair goes to the end of those with smaller keys. -/
theorem put_of_forall_lt (h : ∀ e ∈ l, e.1 < k) : put k v l = l ++ [(k, v)] := by
  induction l with
  | nil => rfl
  | cons entry rest ih =>
    obtain ⟨a, b⟩ := entry
    obtain ⟨first, others⟩ := List.forall_mem_cons.mp h
    rw [put, if_neg (ne_of_gt first), if_neg (not_lt_of_gt first), ih others, List.cons_append]

/-- A list in order stays as it is. -/
theorem Ordered.ofList_eq (h : l.Ordered) : ofList l = l := by
  have step (l before : Keyed α) (h : Ordered (before ++ l)) :
      l.foldl (fun acc pair => Keyed.put pair.1 pair.2 acc) before = before ++ l := by
    induction l generalizing before with
    | nil => exact (List.append_nil before).symm
    | cons pair rest ih =>
      have last : ∀ e ∈ before, e.1 < pair.1 :=
        fun e he => (List.pairwise_append.mp h).2.2 e he pair List.mem_cons_self
      rw [List.append_cons] at h
      rw [List.foldl_cons, put_of_forall_lt last, ih _ h, ← List.append_cons]
  exact step l [] h

theorem Ordered.map {β : Type} (h : l.Ordered) (f : α → β) :
    Ordered (l.map fun e => (e.1, f e.2)) :=
  List.pairwise_map.mpr h

end BrokerPool.Keyed
