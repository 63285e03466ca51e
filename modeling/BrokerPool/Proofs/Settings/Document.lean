import BrokerPool.Proofs.Keyed
import BrokerPool.Proofs.Settings.Decoding
import BrokerPool.Settings.Sources

/-!
# Documents that set settings

A document that sets settings by single values in their tables gives a tree in which these values
stand where they belong, and nothing else. The case of its keys makes no difference.

Results:
* `Tree.Shows.assign`: what a tree shows after one more setting is set.
* `Sets.shows`: what the tree of such a document shows.
* `Setting.sets_documentOf`: a document that sets just one setting.
-/

namespace BrokerPool

/-- What stands at some keys of a document, without regard to case. -/
def Toml.Value.at? : List String → Toml.Value → Option Toml.Value
  | [], v => some v
  | k :: keys, .table entries => (Settings.named k entries).bind (at? keys)
  | _ :: _, _ => none

/-- A value that holds no others. -/
def Toml.Value.IsScalar : Toml.Value → Prop
  | .array _ | .table _ => False
  | _ => True

namespace Settings

/-! ## What a tree shows -/

/-- A tree with something for some of the settings and nothing else. -/
structure Tree.Shows (t : Tree) (content : Setting → Option Tree) (tls : Prop) : Prop where
  grouped : t.Grouped
  content : ∀ x : Setting, t.at? x.keys = content x
  /-- The optional group is there. -/
  tls : (t.at? Setting.tlsKeys).isSome ↔ tls

theorem Setting.apart_of_not_inTls {x : Setting} (h : ¬x.InTls) :
    Apart (steps x.keys) (steps tlsKeys) := by
  have each : ∀ x ∈ all, ¬x.InTls → Apart (steps x.keys) (steps tlsKeys) := by
    decide +kernel
  exact each x x.mem_all h

/-- One more setting is set. -/
theorem Tree.Shows.assign {t : Tree} {content : Setting → Option Tree} {tls : Prop}
    (h : t.Shows content tls) (x : Setting) (value : Leaf) (origin : Option String) :
    (Tree.assignAt (.leaf value origin) (path x.key) t).Shows
      (Function.update content x (some (.leaf value origin))) (tls ∨ x.InTls) := by
  rw [x.path_key]
  have inside {g : List String} (hg : g ∈ Setting.groups) (contains : g <+: x.keys)
      (ne : g ≠ x.keys) : ∃ entries origin',
      (Tree.assignAt (.leaf value origin) (steps x.keys) t).at? g =
        some (.table entries origin') := by
    obtain ⟨rest, hk⟩ := contains
    cases rest with
    | nil => exact absurd (by simpa using hk) ne
    | cons k rest =>
      rw [← hk]
      exact Tree.at?_assignAt_of_prefix value origin t (Setting.lowered_groups g hg) k rest
  constructor
  case grouped =>
    intro g hg u hu
    rcases x.apart_or_contains hg with apart | ⟨contains, ne⟩
    · rw [Tree.at?_assignAt_of_apart value origin t (Setting.lowered_groups g hg) apart] at hu
      exact h.grouped g hg u hu
    · obtain ⟨entries, origin', table⟩ := inside hg contains ne
      exact ⟨entries, origin', Option.some.inj (hu.symm.trans table)⟩
  case content =>
    intro y
    by_cases same : y = x
    · subst same
      rw [Function.update_self, Tree.at?_assignAt_self value origin t y.lowered_keys]
    · rw [Function.update_of_ne same, Tree.at?_assignAt_of_apart value origin t y.lowered_keys
        (Setting.apart_keys (Ne.symm same)), h.content]
  case tls =>
    by_cases within : x.InTls
    · obtain ⟨entries, origin', table⟩ := inside (by decide) within (by cases x <;> decide)
      simp [table, within]
    · rw [Tree.at?_assignAt_of_apart value origin t (Setting.lowered_groups _ (by decide))
        (Setting.apart_of_not_inTls within), h.tls]
      simp [within]

/-! ## Keys at the top -/

/-- A key without points and brackets stands for itself. -/
theorem path_of_plain {key : String} (point : '.' ∉ key.toList) (bracket : '[' ∉ key.toList) :
    path key = [.key key] := by
  unfold path path?
  dsimp only
  split_ifs
  · rfl
  cases rest : key.toList.dropWhile isNameChar with
  | nil =>
    have all : key.toList.takeWhile isNameChar = key.toList := by
      have whole := List.takeWhile_append_dropWhile (p := isNameChar) (l := key.toList)
      rwa [rest, List.append_nil] at whole
    rw [all, String.ofList_toList]
    cases key.toList.length <;> rfl
  | cons c cs =>
    have mem : c ∈ key.toList :=
      (List.dropWhile_suffix _).subset (rest ▸ List.mem_cons_self)
    have no_point : c ≠ '.' := fun h => point (h ▸ mem)
    have no_bracket : c ≠ '[' := fun h => bracket (h ▸ mem)
    have stuck : steps? key.toList.length (c :: cs) = none := by
      cases key.toList.length <;> simp [steps?, no_point, no_bracket]
    rw [stuck]
    rfl

theorem mem_lowerFrom {c : Char} (h : c = '.' ∨ c = '[') {cs : List Char} (mem : c ∈ cs)
    (before : List Char) : c ∈ Text.lowerFrom before cs := by
  induction cs generalizing before with
  | nil => cases mem
  | cons d cs ih =>
    rw [Text.lowerFrom, List.mem_append]
    rcases List.mem_cons.mp mem with rfl | mem
    · left
      rcases h with rfl | rfl <;> rw [if_neg (by decide), if_neg (by decide)] <;> decide
    · exact .inr (ih mem _)

/-- A key that stands for a setting or a group at the top, whatever its case, is no path. -/
theorem path_of_top {key : String}
    (h : Text.lower key ∈ ["amqp", "publish", "consume", "http_port"]) : path key = [.key key] := by
  have plain : ∀ k ∈ ["amqp", "publish", "consume", "http_port"],
      '.' ∉ k.toList ∧ '[' ∉ k.toList := by
    decide
  have chars : (Text.lower key).toList = Text.lowerFrom [] key.toList := String.toList_ofList
  refine path_of_plain (fun mem => ?_) (fun mem => ?_)
  · exact (plain _ h).1 (chars ▸ mem_lowerFrom (.inl rfl) mem [])
  · exact (plain _ h).2 (chars ▸ mem_lowerFrom (.inr rfl) mem [])

/-! ## Documents -/

/-- A part of a document, at the keys that lead to it, that sets settings by single values in their
    tables. The keys of a table differ, also without regard to case. -/
inductive Sets : List String → Toml.Value → Prop
  | scalar {here : List String} {v : Toml.Value} (x : Setting) (leads : x.keys = here)
    (single : v.IsScalar) : Sets here v
  | table {here : List String} {entries : List (String × Toml.Value)}
    (group : here ∈ Setting.groups) (distinct : Distinct entries)
    (each : ∀ e ∈ entries, Sets (here ++ [Text.lower e.1]) e.2) : Sets here (.table entries)

section Documents

variable {here keys : List String} {k : String} {v u : Toml.Value} {origin : Option String}
  {entries : List (String × Toml.Value)}

theorem Sets.at? (h : Sets here v) (hu : v.at? keys = some u) : Sets (here ++ keys) u := by
  induction keys generalizing here v with
  | nil =>
    obtain rfl := Option.some.inj hu
    rwa [List.append_nil]
  | cons k keys ih =>
    cases h with
    | scalar x leads single => cases v <;> first | exact single.elim | cases hu
    | table group distinct each =>
      obtain ⟨w, hw, inner⟩ := Option.bind_eq_some_iff.mp hu
      obtain ⟨name, mem, rfl⟩ := (named_eq_some distinct).mp hw
      simpa using ih (each _ mem) inner

theorem ofToml_of_isScalar (single : v.IsScalar) (origin : Option String) :
    ∃ value, Tree.ofToml origin v = .leaf value origin := by
  cases v with
  | array items | table entries => exact single.elim
  | _ => exact ⟨_, rfl⟩

theorem ofTomlEntries_perm (origin : Option String) (distinct : Distinct entries) :
    (Tree.ofTomlEntries origin entries).Perm
      (entries.map fun e => (e.1, Tree.ofToml origin e.2)) := by
  induction entries with
  | nil => exact List.Perm.refl _
  | cons e entries ih =>
    obtain ⟨name, v⟩ := e
    obtain ⟨differs, distinct⟩ := List.nodup_cons.mp distinct
    have perm := ih distinct
    have new : ∀ e ∈ Tree.ofTomlEntries origin entries, e.1 ≠ name := by
      rintro e he rfl
      obtain ⟨e', he', rfl⟩ := List.mem_map.mp (perm.mem_iff.mp he)
      exact differs (List.mem_map.mpr ⟨e', he', rfl⟩)
    exact (Keyed.put_perm new _).trans (perm.cons _)

theorem distinct_ofTomlEntries (origin : Option String) (distinct : Distinct entries) :
    Distinct (Tree.ofTomlEntries origin entries) := by
  rw [Distinct, ((ofTomlEntries_perm origin distinct).map _).nodup_iff, List.map_map]
  exact distinct

theorem named_ofTomlEntries (origin : Option String) (distinct : Distinct entries) :
    named k (Tree.ofTomlEntries origin entries) = (named k entries).map (Tree.ofToml origin) := by
  rw [named_perm (ofTomlEntries_perm origin distinct) (distinct_ofTomlEntries origin distinct),
    named_map]

/-- What stands in a document stands in its tree. -/
theorem Sets.at?_settle (h : Sets here v) (origin : Option String) (keys : List String) :
    (Tree.ofToml origin v).settle.at? keys =
      (v.at? keys).map fun u => (Tree.ofToml origin u).settle := by
  induction keys generalizing here v with
  | nil => rfl
  | cons k keys ih =>
    cases h with
    | scalar x leads single => cases v <;> first | exact single.elim | rfl
    | @table _ entries group distinct each =>
      rw [Tree.ofToml, Tree.at?_settle (distinct_ofTomlEntries origin distinct),
        named_ofTomlEntries origin distinct, Toml.Value.at?]
      cases found : named k entries with
      | none => rfl
      | some w =>
        obtain ⟨name, mem, -⟩ := (named_eq_some distinct).mp found
        exact ih (each _ mem)

/-- What stands at the keys of a setting is a single value. -/
theorem Sets.isScalar {x : Setting} (h : Sets x.keys v) : v.IsScalar := by
  cases h with
  | scalar _ _ single => exact single
  | table group => exact absurd group (by cases x <;> decide)

/-- What stands at the keys of a group is a table. -/
theorem Sets.settle_table (h : Sets here v) (group : here ∈ Setting.groups)
    (origin : Option String) :
    ∃ entries from_, (Tree.ofToml origin v).settle = .table entries from_ := by
  cases h with
  | scalar x leads => exact absurd (leads ▸ group) (by cases x <;> decide)
  | table => exact Tree.merge_table _ _ _

theorem assignAll_eq_merge {layer : Layer} (plain : ∀ e ∈ layer, path e.1 = [.key e.1])
    (t : Tree) : Tree.assignAll layer t = Tree.merge layer t := by
  induction layer generalizing t with
  | nil => rfl
  | cons e layer ih =>
    obtain ⟨name, v⟩ := e
    obtain ⟨first, plain⟩ := List.forall_mem_cons.mp plain
    rw [Tree.assignAll_cons, first, ih plain]
    rfl

/-- The keys at the top of a document are no paths. -/
theorem Sets.path_eq (h : Sets [] (.table entries)) {e : String × Toml.Value} (he : e ∈ entries) :
    path e.1 = [.key e.1] := by
  have tops : ∀ g ∈ Setting.groups ++ Setting.all.map Setting.keys, g.length = 1 → ∀ k ∈ g,
      k ∈ ["amqp", "publish", "consume", "http_port"] := by
    decide
  have known : [Text.lower e.1] ∈ Setting.groups ++ Setting.all.map Setting.keys := by
    cases h with
    | scalar x leads single => exact single.elim
    | table _ _ each =>
      have inner := each e he
      generalize e.2 = v at inner
      cases inner with
      | scalar x leads => exact List.mem_append_right _ (List.mem_map.mpr ⟨x, x.mem_all, leads⟩)
      | table group => exact List.mem_append_left _ group
  exact path_of_top (tops _ known rfl _ List.mem_cons_self)

/-- The tree of a document that sets settings shows what stands in it. -/
theorem Sets.shows (h : Sets [] (.table entries)) (origin : Option String) :
    (Tree.assignAll (Tree.ofTomlEntries origin entries) .empty).Shows
      (fun x => ((Toml.Value.table entries).at? x.keys).map (Tree.ofToml origin))
      (((Toml.Value.table entries).at? Setting.tlsKeys).isSome) := by
  have distinct : Distinct entries := by
    cases h with
    | scalar x leads single => exact single.elim
    | table _ distinct => exact distinct
  have plain : ∀ e ∈ Tree.ofTomlEntries origin entries, path e.1 = [.key e.1] := by
    intro e he
    obtain ⟨e', he', rfl⟩ := List.mem_map.mp ((ofTomlEntries_perm origin distinct).mem_iff.mp he)
    exact h.path_eq he'
  have whole : Tree.assignAll (Tree.ofTomlEntries origin entries) .empty =
      (Tree.ofToml origin (.table entries)).settle :=
    assignAll_eq_merge plain _
  rw [whole]
  constructor
  case grouped =>
    intro g hg u hu
    rw [h.at?_settle] at hu
    obtain ⟨w, hw, rfl⟩ := Option.map_eq_some_iff.mp hu
    exact (h.at? hw).settle_table hg origin
  case content =>
    intro x
    rw [h.at?_settle]
    cases found : (Toml.Value.table entries).at? x.keys with
    | none => rfl
    | some w =>
      obtain ⟨value, leaf⟩ := ofToml_of_isScalar (h.at? found).isScalar origin
      simp only [Option.map_some, leaf, Tree.settle]
  case tls => rw [h.at?_settle, Option.isSome_map]

/-! ## Documents with one value -/

/-- A value at some keys. -/
def nest (keys : List String) (v : Toml.Value) : Toml.Value :=
  keys.foldr (fun k v => .table [(k, v)]) v

theorem nest_cons (k : String) (keys : List String) (v : Toml.Value) :
    nest (k :: keys) v = .table [(k, nest keys v)] := rfl

theorem at?_nest_self (low : Lowered keys) : (nest keys v).at? keys = some v := by
  induction keys with
  | nil => rfl
  | cons k keys ih =>
    obtain ⟨hk, low⟩ := lowered_cons.mp low
    rw [nest_cons, Toml.Value.at?, named_cons, if_pos hk]
    exact ih low

theorem at?_nest_of_apart {others : List String} (low : Lowered others)
    (h : Apart (steps keys) (steps others)) : (nest keys v).at? others = none := by
  induction keys generalizing others with
  | nil => exact h.elim
  | cons a keys ih =>
    cases others with
    | nil => exact h.elim
    | cons b others =>
      obtain ⟨hb, low⟩ := lowered_cons.mp low
      rw [nest_cons, Toml.Value.at?, named_cons]
      split_ifs with same
      · exact ih low (h.resolve_left fun ne => ne (same.trans hb.symm))
      · rfl

theorem Sets.nest (low : Lowered keys)
    (groups : ∀ before after, keys = before ++ after → after ≠ [] → here ++ before ∈ Setting.groups)
    (h : Sets (here ++ keys) v) : Sets here (nest keys v) := by
  induction keys generalizing here with
  | nil => rwa [List.append_nil] at h
  | cons k keys ih =>
    obtain ⟨hk, low⟩ := lowered_cons.mp low
    rw [nest_cons]
    refine .table (by simpa using groups [] _ rfl (by simp)) (List.nodup_singleton _) ?_
    intro e he
    obtain rfl := List.mem_singleton.mp he
    rw [hk]
    refine ih low (fun before after split some_after => ?_) (by simpa using h)
    simpa using groups (k :: before) after (by rw [split, List.cons_append]) some_after

end Documents

namespace Setting

/-- A document that says one thing about one setting. -/
def documentOf (x : Setting) (v : Toml.Value) : List (String × Toml.Value) :=
  match x.keys with
  | [] => []
  | k :: keys => [(k, nest keys v)]

theorem table_documentOf (x : Setting) (v : Toml.Value) :
    .table (x.documentOf v) = nest x.keys v := by
  cases x <;> rfl

theorem sets_documentOf {x : Setting} {v : Toml.Value} (single : v.IsScalar) :
    Sets [] (.table (x.documentOf v)) := by
  rw [table_documentOf]
  refine Sets.nest x.lowered_keys (fun before after split some_after => ?_)
    (.scalar x rfl single)
  have each : ∀ x ∈ all, ∀ n < x.keys.length, x.keys.take n ∈ groups := by decide
  have taken := each x x.mem_all before.length (by
    rw [split, List.length_append]
    have := List.length_pos_iff.mpr some_after
    omega)
  rwa [split, List.take_left] at taken

end Setting

end Settings

end BrokerPool
