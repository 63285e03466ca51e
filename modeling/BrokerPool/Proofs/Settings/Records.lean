import BrokerPool.Proofs.Settings.Override
import BrokerPool.Settings.Conversion
import Mathlib.Data.List.Nodup

/-!
# Reading one text out of a record

A record is put together field by field, and every field changes a part of its own. So a text that
is set at the keys of a field is what the record has there, and nothing else that was read before is
read no more.

Results:
* `visitTable_ok_iff`: a record is read if all of its fields are.
* `visitTable_get`: what a field sets is what the record has, if no later field changes it.
* `Reads.field`: a text that is read out of a field is read out of every record with the field.
-/

namespace BrokerPool.Settings

variable {σ α : Type} {fields pre post : List (Field σ)} {entries : List (String × Tree)}
  {start s : σ} {name type : String} {get : σ → Option String}

theorem bind_ok_iff {ε β γ : Type} {x : Except ε β} {f : β → Except ε γ} {c : γ} :
    x >>= f = .ok c ↔ ∃ b, x = .ok b ∧ f b = .ok c := by
  cases x <;> simp [bind, Except.bind]

/-! ## Fields one by one -/

theorem Field.of_name (name : String) (convert : Converter α) (set : α → σ → σ) :
    (Field.of name convert set).name = name := rfl

theorem Field.of_ok {convert : Converter α} {set : α → σ → σ} {t : Tree} {u : σ → σ} :
    (Field.of name convert set).convert t = .ok u ↔ ∃ a, convert t = .ok a ∧ set a = u := by
  simp only [Field.of]
  cases convert t <;> simp [Except.map]

/-- The field does not change what `get` reads. -/
def Field.Keeps {γ : Type} (get : σ → γ) (f : Field σ) : Prop :=
  ∀ t u, f.convert t = .ok u → ∀ s, get (u s) = get s

@[simp] theorem Field.keeps_of {γ : Type} {get : σ → γ} {convert : Converter α} {set : α → σ → σ}
    (h : ∀ a s, get (set a s) = get s) : (Field.of name convert set).Keeps get := by
  intro t u hu s
  obtain ⟨a, -, rfl⟩ := Field.of_ok.mp hu
  exact h a s

/-- What a field makes of a group. -/
def Field.visit (entries : List (String × Tree)) (f : Field σ) (s : σ) : Except Error σ :=
  match entries.lookup f.name with
  | none => .ok s
  | some t => do
    let set ← (f.convert t).mapError (Error.underKey f.name)
    return set s

theorem Field.visit_ok {f : Field σ} {s' : σ} : f.visit entries s = .ok s' ↔
    (entries.lookup f.name = none ∧ s = s') ∨
      ∃ t u, entries.lookup f.name = some t ∧ f.convert t = .ok u ∧ u s = s' := by
  rw [visit]
  cases entries.lookup f.name with
  | none => simp
  | some t =>
    cases hc : f.convert t <;>
      simp [hc, Except.mapError, bind, Except.bind, pure, Except.pure]

/-- A record is put together field by field. -/
theorem visitTable_eq : visitTable entries fields start =
    fields.foldlM (fun s f => f.visit entries s) start := by
  induction fields generalizing start with
  | nil => rfl
  | cons f fields ih =>
    rw [List.foldlM_cons, visitTable, Field.visit]
    cases entries.lookup f.name with
    | none => exact ih
    | some t =>
      cases hc : f.convert t <;>
        simp [hc, Except.mapError, bind, Except.bind, pure, Except.pure, ih]

theorem visitTable_cons_ok {f : Field σ} : visitTable entries (f :: fields) start = .ok s ↔
    ∃ s', f.visit entries start = .ok s' ∧ visitTable entries fields s' = .ok s := by
  rw [visitTable_eq, List.foldlM_cons, bind_ok_iff]
  simp only [visitTable_eq]

theorem visitTable_append_ok : visitTable entries (pre ++ post) start = .ok s ↔
    ∃ s', visitTable entries pre start = .ok s' ∧ visitTable entries post s' = .ok s := by
  rw [visitTable_eq, List.foldlM_append, bind_ok_iff]
  simp only [visitTable_eq]

/-- A record is read if all of its fields are. -/
theorem visitTable_ok_iff : (∃ s, visitTable entries fields start = .ok s) ↔
    ∀ f ∈ fields, ∀ t, entries.lookup f.name = some t → ∃ u, f.convert t = .ok u := by
  induction fields generalizing start with
  | nil => simp [visitTable]
  | cons f fields ih =>
    rw [List.forall_mem_cons]
    constructor
    · rintro ⟨s, hs⟩
      obtain ⟨s', hv, hs⟩ := visitTable_cons_ok.mp hs
      refine ⟨fun t ht => ?_, ih.mp ⟨s, hs⟩⟩
      rcases Field.visit_ok.mp hv with ⟨hn, -⟩ | ⟨t', u, hl, hu, -⟩
      · simp [hn] at ht
      · obtain rfl := Option.some.inj (hl.symm.trans ht)
        exact ⟨u, hu⟩
    · rintro ⟨hf, hr⟩
      obtain ⟨s', hv⟩ : ∃ s', f.visit entries start = .ok s' := by
        cases hl : entries.lookup f.name with
        | none => exact ⟨start, Field.visit_ok.mpr (.inl ⟨hl, rfl⟩)⟩
        | some t =>
          obtain ⟨u, hu⟩ := hf t hl
          exact ⟨u start, Field.visit_ok.mpr (.inr ⟨t, u, hl, hu, rfl⟩)⟩
      obtain ⟨s, hs⟩ := ih.mpr hr
      exact ⟨s, visitTable_cons_ok.mpr ⟨s', hv, hs⟩⟩

theorem visitTable_keeps {γ : Type} {get : σ → γ} (h : ∀ f ∈ fields, f.Keeps get)
    (hs : visitTable entries fields start = .ok s) : get s = get start := by
  induction fields generalizing start with
  | nil =>
    simp only [visitTable, Except.ok.injEq] at hs
    rw [hs]
  | cons f fields ih =>
    rw [List.forall_mem_cons] at h
    obtain ⟨s', hv, hs⟩ := visitTable_cons_ok.mp hs
    rw [ih h.2 hs]
    rcases Field.visit_ok.mp hv with ⟨-, rfl⟩ | ⟨t, u, -, hu, rfl⟩
    · rfl
    · exact h.1 t u hu start

/-- What a field sets is what the record has, if no later field changes it. -/
theorem visitTable_get {f : Field σ} {t : Tree} {value : Option String}
    (hs : visitTable entries (pre ++ f :: post) start = .ok s) (hl : entries.lookup f.name = some t)
    (sets : ∀ u, f.convert t = .ok u → ∀ s, get (u s) = value) (keeps : ∀ f ∈ post, f.Keeps get) :
    get s = value := by
  obtain ⟨before, -, hs⟩ := visitTable_append_ok.mp hs
  obtain ⟨after, hv, hs⟩ := visitTable_cons_ok.mp hs
  rw [visitTable_keeps keeps hs]
  rcases Field.visit_ok.mp hv with ⟨hn, -⟩ | ⟨t', u, hl', hu, rfl⟩
  · simp [hn] at hl
  · obtain rfl := Option.some.inj (hl'.symm.trans hl)
    exact sets u hu before

/-! ## Texts at keys -/

/-- The steps along some keys. -/
def steps (keys : List String) : List Step := keys.map .key

/-- Nothing, or something that is read. -/
def Tolerates (convert : Converter σ) (t : Tree) : Prop :=
  (∃ origin, t = .leaf .absent origin) ∨ ∃ s, convert t = .ok s

/-- A text that is set at some keys is what `get` finds when all is read, and all that could be read
    before still is. -/
structure Reads (convert : Converter σ) (keys : List String) (get : σ → Option String) : Prop where
  value : ∀ t leaf origin v, text (.leaf leaf origin) = .ok v → ∀ s,
    convert (.assignAt (.leaf leaf origin) (steps keys) t) = .ok s → get s = some v
  loads : ∀ t leaf origin v, text (.leaf leaf origin) = .ok v → Tolerates convert t →
    ∃ s, convert (.assignAt (.leaf leaf origin) (steps keys) t) = .ok s

theorem Reads.text : Reads text [] some where
  value t leaf origin v hv s hs := by
    rw [show Settings.text (.leaf leaf origin) = .ok s from hs, Except.ok.injEq] at hv
    rw [hv]
  loads t leaf origin v hv _ := ⟨v, hv⟩

/-- A text is there. -/
theorem assignAt_ne_absent {leaf : Leaf} {origin : Option String} {v : String}
    (hv : Settings.text (.leaf leaf origin) = .ok v) (keys : List String) (t : Tree)
    (o : Option String) : Tree.assignAt (.leaf leaf origin) (steps keys) t ≠ .leaf .absent o := by
  cases keys with
  | nil =>
    intro h
    rw [steps, List.map_nil, Tree.assignAt] at h
    simp [h, Settings.text, refuse] at hv
  | cons k keys => simp [steps, Tree.assignAt_key, Tree.alterKey_eq]

theorem optional_ok {convert : Converter α} {t : Tree} (h : ∀ o, t ≠ .leaf .absent o)
    {x : Option α} : optional convert t = .ok x ↔ ∃ a, convert t = .ok a ∧ x = some a := by
  have he : optional convert t = (convert t).map some := by
    cases t with
    | leaf value origin =>
      cases value with
      | absent => exact absurd rfl (h origin)
      | _ => rfl
    | _ => rfl
  rw [he]
  cases convert t <;> simp [Except.map, eq_comm]

theorem Reads.optional {convert : Converter σ} {keys : List String} (h : Reads convert keys get) :
    Reads (optional convert) keys (·.bind get) where
  value t leaf origin v hv s hs := by
    obtain ⟨a, ha, rfl⟩ := (optional_ok (assignAt_ne_absent hv keys t)).mp hs
    exact h.value t leaf origin v hv a ha
  loads t leaf origin v hv ht := by
    have tolerated : Tolerates convert t := by
      by_cases absent : ∃ o, t = .leaf .absent o
      · exact .inl absent
      · rcases ht with ho | ⟨x, hx⟩
        · exact absurd ho absent
        · obtain ⟨a, ha, -⟩ := (optional_ok (not_exists.mp absent)).mp hx
          exact .inr ⟨a, ha⟩
    obtain ⟨s, hs⟩ := h.loads t leaf origin v hv tolerated
    exact ⟨some s, (optional_ok (assignAt_ne_absent hv keys t)).mpr ⟨s, hs, rfl⟩⟩

theorem record_table (type : String) (fields : List (Field σ)) (start : σ)
    (entries : List (String × Tree)) (origin : Option String) :
    record type fields start (.table entries origin) = visitTable entries fields start := rfl

/-- All fields that something tolerated has can be read. -/
theorem fields_of_tolerates {t : Tree} (h : Tolerates (record type fields start) t) :
    ∀ f ∈ fields, ∀ t', t.tableEntries.1.lookup f.name = some t' → ∃ u, f.convert t' = .ok u := by
  intro f hf t' hl
  cases t with
  | leaf | array => simp [Tree.tableEntries] at hl
  | table entries origin =>
    rcases h with ⟨o, ho⟩ | ⟨s, hs⟩
    · simp at ho
    · exact visitTable_ok_iff.mp ⟨s, hs⟩ f hf t' hl

/-- What something tolerated has at the key of a field is tolerated by the field. -/
theorem tolerates_field {convert : Converter α} {set : α → σ → σ} {t : Tree}
    (h : Tolerates (record type fields start) t) (mem : Field.of name convert set ∈ fields) :
    Tolerates convert ((t.tableEntries.1.lookup name).getD (.leaf .absent none)) := by
  cases ho : t.tableEntries.1.lookup name with
  | none => exact .inl ⟨none, rfl⟩
  | some old =>
    obtain ⟨u, hu⟩ := fields_of_tolerates h _ mem old ho
    obtain ⟨a, ha, -⟩ := Field.of_ok.mp hu
    exact .inr ⟨a, ha⟩

/-- The keys of the fields are distinct and in lower case. -/
structure Proper (fields : List (Field σ)) : Prop where
  distinct : (fields.map Field.name).Nodup
  lower : ∀ f ∈ fields, Text.lower f.name = f.name

/-- A text that is read out of a field is read out of every record with the field. -/
theorem Reads.field (n : ℕ) {convert : Converter α} {set : α → σ → σ} {keys : List String}
    {inner : α → Option String} (h : Reads convert keys inner) (proper : Proper fields)
    (nth : fields[n]? = some (.of name convert set)) (own : ∀ a s, get (set a s) = inner a)
    (keeps : ∀ f ∈ fields.drop (n + 1), f.Keeps get) :
    Reads (record type fields start) (name :: keys) get := by
  have mem : Field.of name convert set ∈ fields := List.mem_of_getElem? nth
  have lower := proper.lower _ mem
  rw [Field.of_name] at lower
  have split : fields = fields.take n ++ Field.of name convert set :: fields.drop (n + 1) := by
    obtain ⟨hn, he⟩ := List.getElem?_eq_some_iff.mp nth
    rw [← he, ← List.drop_eq_getElem_cons hn, List.take_append_drop]
  constructor
  case value =>
    intro t leaf origin v hv s hs
    rw [steps, List.map_cons, Tree.assignAt_key, Tree.alterKey_eq, record_table, lower, split] at hs
    refine visitTable_get hs (Keyed.lookup_put_self _ _ _) (fun u hu s => ?_) keeps
    obtain ⟨a, ha, rfl⟩ := Field.of_ok.mp hu
    rw [own]
    exact h.value _ leaf origin v hv a ha
  case loads =>
    intro t leaf origin v hv ht
    rw [steps, List.map_cons, Tree.assignAt_key, Tree.alterKey_eq, record_table, lower]
    refine visitTable_ok_iff.mpr fun f hf t' hl => ?_
    -- The field itself gets the text, and all others get what they had.
    by_cases hn : f.name = name
    · obtain rfl : f = .of name convert set := List.inj_on_of_nodup_map proper.distinct hf mem hn
      obtain ⟨a, ha⟩ := h.loads _ leaf origin v hv (tolerates_field ht mem)
      rw [hn, Keyed.lookup_put_self, Option.some.injEq] at hl
      exact ⟨set a, Field.of_ok.mpr ⟨a, hl ▸ ha, rfl⟩⟩
    · rw [Keyed.lookup_put_of_ne hn] at hl
      exact fields_of_tolerates ht f hf t' hl

end BrokerPool.Settings
