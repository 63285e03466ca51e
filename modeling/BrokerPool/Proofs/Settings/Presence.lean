import BrokerPool.Proofs.Settings.Origins
import BrokerPool.Proofs.Settings.Slots

/-!
# A configuration file that is there

A configuration file may be missing. One that is there and is a text is never passed over: either it
breaks the rules of its format, and there are no settings, or what it says about a setting is the
value of the setting, unless something above it says otherwise. One that is not a text counts as
missing, and so there are settings in which nothing of it is found.

Results:
* `load_only`: the settings of a document, an environment and the platform.
* `file_honoured`: what a configuration file does, whatever its bytes.
* `file_of_latin_ignored`: a file of another encoding that is ignored.
-/

namespace BrokerPool.Settings

open Config

/-- The bytes are the text of a document. -/
def Legible (bytes : List UInt8) (document : List (String × Toml.Value)) : Prop :=
  ∃ text, Text.Utf8.decode? bytes = some text ∧ Toml.parse text = some document

/-- The settings of a document with nothing above them. -/
def documentTree (document : List (String × Toml.Value)) : Tree :=
  Tree.assignAll (Tree.ofTomlEntries (some documentName) document) .empty

/-- What is set above the configuration file. -/
def above (environment : List (String × String)) : Layer :=
  .ofEnvironment environment ++ .ofPlatform environment

/-- Nothing above the configuration file is for a setting, for a group that it is in or for
    something inside of it. -/
def Setting.LeftAlone (x : Setting) (environment : List (String × String)) : Prop :=
  (∀ e ∈ environment, ∀ key, keyOfVariable? e.1 = some key → Apart (path key) (steps x.keys)) ∧
    x.platformWord? environment = none

/-- What a configuration file does that is all there is. -/
structure Honoured (bytes : List UInt8) : Prop where
  /-- Without a document there are no settings, exactly if the file is a text. -/
  guarded : (∀ environment s, Service.load environment (only bytes) = .ok s →
    ∃ document, Legible bytes document) ↔ (Text.Utf8.decode? bytes).isSome
  /-- A text that is no document is an error. -/
  refused : ∀ text, Text.Utf8.decode? bytes = some text → Toml.parse text = none →
    ∀ environment, Service.load environment (only bytes) = .error .unparsable
  /-- A setting has the value that the document has for it, if all that is above spares it. -/
  kept : ∀ document, Legible bytes document → ∀ environment s,
    Service.load environment (only bytes) = .ok s → ∀ (x : Setting) (u : Tree),
    (documentTree document).slot? x.slots = some u →
    (documentTree document).SparedBy (above environment) x.slots → x.convert u = .ok (x.get s)
  /-- In tables, that is if nothing above is for the setting. -/
  keptInTables : ∀ document, Legible bytes document → ∀ environment s,
    Service.load environment (only bytes) = .ok s → ∀ (x : Setting) (u : Tree),
    (documentTree document).at? x.keys = some u → x.LeftAlone environment →
    x.convert u = .ok (x.get s)
  /-- A file that is no text is no file. -/
  unread : Text.Utf8.decode? bytes = none →
    ∀ environment, Service.load environment (only bytes) = Service.load environment {}

section Files

variable {bytes : List UInt8} {text : String} {document : List (String × Toml.Value)}
  {environment : List (String × String)}

/-- The settings of a document, of an environment above it and of the platform above both. -/
theorem load_only (legible : Legible bytes document) (environment : List (String × String)) :
    Service.load environment (only bytes) =
      Service.ofSettings (Tree.assignAll (above environment) (documentTree document)) := by
  obtain ⟨text, readable, parsed⟩ := legible
  have file : Layer.ofFiles (only bytes) =
      .ok (Tree.ofTomlEntries (some documentName) document) := by
    simp only [ofFiles_only, readable, Option.elim_some, Layer.ofToml, parsed]
  rw [load_of_file file, List.append_assoc, Tree.assignAll_append]
  rfl

/-- All that is above the configuration file are single values. -/
theorem leaf_of_mem_above {e : String × Tree} (h : e ∈ above environment) :
    ∃ value origin, e.2 = .leaf value origin := by
  rcases List.mem_append.mp h with h | h
  · obtain ⟨e, -, set⟩ := List.mem_filterMap.mp h
    obtain ⟨key, -, rfl⟩ := Option.map_eq_some_iff.mp set
    exact ⟨_, _, rfl⟩
  · unfold Layer.ofPlatform at h
    split at h
    · exact List.mem_singleton.mp h ▸ ⟨_, _, rfl⟩
    · cases h

/-- All that is above the configuration file parts from a setting that it leaves alone. -/
theorem Setting.LeftAlone.apart {x : Setting} (alone : x.LeftAlone environment)
    {e : String × Tree} (h : e ∈ above environment) : Apart (path e.1) (steps x.keys) := by
  rcases List.mem_append.mp h with h | h
  · obtain ⟨e, mem, set⟩ := List.mem_filterMap.mp h
    obtain ⟨key, hk, rfl⟩ := Option.map_eq_some_iff.mp set
    exact alone.1 e mem key hk
  · rw [ofPlatform_eq] at h
    obtain ⟨w, word, rfl⟩ := List.mem_map.mp h
    have other : x ≠ .httpPort := by
      rintro rfl
      rw [alone.2] at word
      cases word
    rw [Setting.path_key]
    exact Setting.apart_keys other.symm

theorem load_unparsable (readable : Text.Utf8.decode? bytes = some text)
    (broken : Toml.parse text = none) (environment : List (String × String)) :
    Service.load environment (only bytes) = .error .unparsable := by
  have file : Layer.ofFiles (only bytes) = .error .unparsable := by
    simp only [ofFiles_only, readable, Option.elim_some, Layer.ofToml, broken]
  rw [Service.load, file]
  rfl

theorem load_unread (unreadable : Text.Utf8.decode? bytes = none)
    (environment : List (String × String)) :
    Service.load environment (only bytes) = Service.load environment {} := by
  have file : Layer.ofFiles (only bytes) = .ok [] := by
    rw [ofFiles_only, unreadable, Option.elim_none]
  rw [load_of_file file, load_bare]
  rfl

/-- Where there is nothing at all, there are the defaults. -/
theorem load_nothing : Service.load [] {} = .ok {} := by decide +kernel

/-- What a configuration file does, whatever its bytes. -/
theorem file_honoured (bytes : List UInt8) : Honoured bytes := by
  have kept {document} (legible : Legible bytes document) {environment s}
      (loaded : Service.load environment (only bytes) = .ok s) {x : Setting} {u : Tree}
      (found : (documentTree document).slot? x.slots = some u)
      (spared : (documentTree document).SparedBy (above environment) x.slots) :
      x.convert u = .ok (x.get s) := by
    rw [load_only legible] at loaded
    exact convert_slot loaded
      (Tree.slot?_assignAll (fun _ => leaf_of_mem_above) spared found)
  constructor
  case guarded =>
    constructor
    · intro documents
      cases readable : Text.Utf8.decode? bytes with
      | some text => rfl
      | none =>
        obtain ⟨-, text, some_text, -⟩ :=
          documents [] {} ((load_unread readable []).trans load_nothing)
        rw [readable] at some_text
        cases some_text
    · intro readable environment s loaded
      obtain ⟨text, readable⟩ := Option.isSome_iff_exists.mp readable
      cases parsed : Toml.parse text with
      | some document => exact ⟨document, text, readable, parsed⟩
      | none =>
        rw [load_unparsable readable parsed] at loaded
        cases loaded
  case refused => exact fun text => load_unparsable
  case kept => exact fun document legible environment s loaded x u => kept legible loaded
  case keptInTables =>
    intro document legible environment s loaded x u found alone
    have keys : (documentTree document).at? (x.slots.map Slot.key) = some u :=
      x.map_key_slots.symm ▸ found
    have lowered : Lowered (x.slots.map Slot.key) := x.map_key_slots.symm ▸ x.lowered_keys
    have apart : ∀ e ∈ above environment, Apart (path e.1) (steps (x.slots.map Slot.key)) ∧
        ∃ value origin, e.2 = .leaf value origin :=
      fun e he => ⟨x.map_key_slots.symm ▸ alone.apart he, leaf_of_mem_above he⟩
    exact kept legible loaded (Tree.slot?_of_at? keys) (Tree.sparedBy_of_apart lowered apart keys)
  case unread => exact load_unread

/-- A port and a word of a comment in Latin-1. -/
def latinBytes : List UInt8 :=
  Text.Utf8.encode "http_port = 8080 # f" ++ [0xfc] ++ Text.Utf8.encode "r\n"

/-- The port of such a file is ignored. -/
theorem file_of_latin_ignored : Service.load [] (only latinBytes) = .ok {} ∧
    ¬∃ document, Legible latinBytes document := by
  have unreadable : Text.Utf8.decode? latinBytes = none := by decide +kernel
  constructor
  · exact (load_unread unreadable []).trans load_nothing
  · rintro ⟨document, text, readable, -⟩
    rw [unreadable] at readable
    cases readable

end Files

end BrokerPool.Settings
