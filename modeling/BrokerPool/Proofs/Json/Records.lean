import BrokerPool.Json.Decode
import BrokerPool.Proofs.Keyed

/-!
# What decoded records have in common

A record is put together field by field, whichever shape it has in JSON. So whatever holds at the
beginning and is kept by every field holds of every record that is decoded.

Results:
* `record_induction`: what every field keeps holds of every decoded record.
* `mapOf_ordered`: a decoded map is in the order of its keys.
-/

namespace BrokerPool.Json

/-- A step that names the place of an error and then goes on. -/
theorem of_mapError_bind {ε δ α β : Type} {x : Except ε α} {f : ε → δ} {next : α → Except δ β}
    {b : β} (h : (x.mapError f >>= next) = .ok b) : ∃ a, x = .ok a ∧ next a = .ok b := by
  cases x with
  | error e => cases h
  | ok a => exact ⟨a, rfl, h⟩

theorem refuse_not_ok {α : Type} (expected : String) (t : Tree) (a : α) :
    refuse expected t ≠ .ok a := by
  unfold refuse
  split <;> simp

section Records

variable {σ α : Type} {fields : List (Field σ)} {P : σ → Prop} {start s : σ}

/-- A field keeps what holds of a record. -/
def Field.Keeps (P : σ → Prop) (f : Field σ) : Prop :=
  ∀ t update, f.decode t = .ok update → ∀ s, P s → P (update s)

theorem Field.keeps_given {name : String} {decode : Decoder α} {set : α → σ → σ}
    (h : ∀ t a, decode t = .ok a → ∀ s, P s → P (set a s)) :
    (Field.given name decode set).Keeps P := by
  intro t update decoded
  cases ha : decode t with
  | error e => simp [given, ha, Except.map] at decoded
  | ok a =>
    obtain rfl : set a = update := by simpa [given, ha, Except.map] using decoded
    exact h t a ha

theorem Field.keeps_needed {name : String} {decode : Decoder α} {set : α → σ → σ}
    (h : ∀ t a, decode t = .ok a → ∀ s, P s → P (set a s)) :
    (Field.needed name decode set).Keeps P := by
  have given : (Field.given name decode set).Keeps P := Field.keeps_given h
  exact given

theorem visitMembers_induction (keep : ∀ f ∈ fields, f.Keeps P) (members : Members)
    {seen seen' : List String} (base : P start)
    (h : visitMembers fields seen start members = .ok (s, seen')) : P s := by
  fun_induction visitMembers fields seen start members with
  | case1 => cases h; exact base
  | case2 | case3 | case4 | case6 => cases h
  | case5 seen record key value rest unknown sound ih => exact ih base h
  | case7 seen record key value rest field found fresh ih =>
    obtain ⟨update, hu, h⟩ := of_mapError_bind h
    exact ih update (keep field (List.mem_of_find?_eq_some found) value update hu record base) h

theorem visitItems_induction {medium : Medium} {name : String} {total count index : ℕ}
    (keep : ∀ f ∈ fields, f.Keeps P) (items : Items) (base : P start)
    (h : visitItems medium name total count index fields start items = .ok s) : P s := by
  fun_induction visitItems medium name total count index fields start items with
  | case1 | case7 => cases h; exact base
  | case2 | case3 | case4 | case5 | case6 => cases h
  | case8 index field fields record item rest ih =>
    obtain ⟨first, others⟩ := List.forall_mem_cons.mp keep
    obtain ⟨update, hu, h⟩ := of_mapError_bind h
    exact ih update others (first item update hu record base) h

/-- What every field keeps holds of every decoded record. -/
theorem record_induction {medium : Medium} {name : String} {t : Tree}
    (keep : ∀ f ∈ fields, f.Keeps P) (base : P start)
    (h : record medium name fields start t = .ok s) : P s := by
  unfold record at h
  split at h
  case h_1 members =>
    cases hv : visitMembers fields [] start members with
    | error e => simp [hv, bind, Except.bind] at h
    | ok visited =>
      obtain ⟨s', seen⟩ := visited
      simp only [hv, bind, Except.bind, pure, Except.pure] at h
      split at h
      · cases h
      · cases h
        exact visitMembers_induction keep members base hv
  case h_2 items => exact visitItems_induction keep items base h
  case h_3 => exact absurd h (refuse_not_ok _ _ _)

end Records

/-! ## Maps -/

section Maps

variable {α : Type} {decode : Decoder α} {l : Keyed α}

theorem mapOf_visit_ordered (members : Members) {before : Keyed α} (base : before.Ordered)
    (h : mapOf.visit decode before members = .ok l) : l.Ordered := by
  fun_induction mapOf.visit decode before members with
  | case1 => cases h; exact base
  | case2 | case4 => cases h
  | case3 before key value rest ih =>
    obtain ⟨v, -, h⟩ := of_mapError_bind h
    exact ih v (base.put key v) h

/-- A decoded map is in the order of its keys. -/
theorem mapOf_ordered {t : Tree} (h : mapOf decode t = .ok l) : l.Ordered := by
  unfold mapOf at h
  split at h
  case h_1 members => exact mapOf_visit_ordered members List.Pairwise.nil h
  case h_2 => exact absurd h (refuse_not_ok _ _ _)

end Maps

end BrokerPool.Json
