import BrokerPool.Proofs.Settings.Document
import BrokerPool.Proofs.Settings.Port
import BrokerPool.Proofs.Settings.TextSetting
import BrokerPool.Proofs.Text.Utf8

/-!
# Where the value of a setting comes from

Every setting is looked up in the port that the platform assigns, then in the environment, then in
the configuration file. The first of them that says something about the setting decides, and all
that is said about it elsewhere, or about other settings, makes no difference.

Results:
* `loaded_shows`: what is found in all layers together.
* `settings_resolved`: every setting on its own, when there are settings at all, when the optional
  group is there, and what the port of the platform does.
-/

namespace BrokerPool.Settings

open Config

/-! ## Words about a setting -/

/-- The place of the configuration file. -/
def documentName : String := "amqp-lifecycle.toml"

/-- Something that is said about a setting. -/
inductive Word
  /-- A value in the configuration file. -/
  | file (v : Toml.Value)
  /-- A variable of the environment with its text. -/
  | environment (name value : String)
  /-- The text of the port that the platform assigns. -/
  | platform (text : String)

/-- What is said about a setting, as a tree. -/
def Word.tree : Word → Tree
  | .file v => .ofToml (some documentName) v
  | .environment _ value => .leaf (.ofVariable value) (some "the environment")
  | .platform text => .leaf (.integer ((port? text).getD 0)) none

namespace Setting

/-- What the platform says about a setting. -/
def platformWord? (x : Setting) (environment : List (String × String)) : Option Word :=
  if x = httpPort then
    ((environment.lookup "PORT").filter fun text => (port? text).isSome).map .platform
  else none

/-- What the environment says about a setting; the last of several variables counts. -/
def variableWord? (x : Setting) (environment : List (String × String)) : Option Word :=
  (environment.reverse.find? fun e => keyOfVariable? e.1 = some x.key).map fun e =>
    .environment e.1 e.2

/-- What the configuration file says about a setting. -/
def fileWord? (x : Setting) (document : List (String × Toml.Value)) : Option Word :=
  ((Toml.Value.table document).at? x.keys).map .file

/-- The word that decides about a setting. -/
def word? (x : Setting) (document : List (String × Toml.Value))
    (environment : List (String × String)) : Option Word :=
  (x.platformWord? environment).or ((x.variableWord? environment).or (x.fileWord? document))

end Setting

/-- The settings when nothing is said but one word about one setting. -/
def Word.alone (x : Setting) : Word → Except Error Service
  | .file v => Service.ofSettings (merged [Tree.ofTomlEntries (some documentName) (x.documentOf v)])
  | .environment name value => Service.load [(name, value)] {}
  | .platform text => Service.load [("PORT", text)] {}

/-- All variables of the service say something about a setting. -/
def NamesSettings (environment : List (String × String)) : Prop :=
  ∀ e ∈ environment, ∀ key, keyOfVariable? e.1 = some key → ∃ x : Setting, x.key = key

/-- The optional group is said to be there. -/
def SaysTls (document : List (String × Toml.Value)) (environment : List (String × String)) : Prop :=
  ((Toml.Value.table document).at? Setting.tlsKeys).isSome ∨
    ∃ e ∈ environment, ∃ x : Setting, x.InTls ∧ keyOfVariable? e.1 = some x.key

/-! ## All layers together -/

section Layers

variable {t : Tree} {content : Setting → Option Tree} {tls : Prop}
  {document : List (String × Toml.Value)} {environment : List (String × String)}

theorem Setting.key_inj {x y : Setting} (h : x.key = y.key) : x = y := by
  have each : ∀ x ∈ all, ∀ y ∈ all, x.key = y.key → x = y := by decide +kernel
  exact each x x.mem_all y y.mem_all h

theorem Setting.variableWord?_cons (x : Setting) (e : String × String)
    (environment : List (String × String)) : x.variableWord? (e :: environment) =
      (x.variableWord? environment).or
        (if keyOfVariable? e.1 = some x.key then some (.environment e.1 e.2) else none) := by
  rw [variableWord?, List.reverse_cons, List.find?_append, Option.map_or]
  simp only [variableWord?, List.find?_singleton, decide_eq_true_eq]
  split_ifs <;> rfl

theorem Tree.Shows.congr {content' : Setting → Option Tree} {tls' : Prop}
    (h : t.Shows content tls) (same : ∀ x, content x = content' x) (iff : tls ↔ tls') :
    t.Shows content' tls' :=
  ⟨h.grouped, fun x => (h.content x).trans (same x), h.tls.trans iff⟩

theorem ofEnvironment_cons_none {name value : String} (h : keyOfVariable? name = none) :
    Layer.ofEnvironment ((name, value) :: environment) = Layer.ofEnvironment environment :=
  List.filterMap_cons_none (by simp [h])

theorem ofEnvironment_cons_some {name value key : String} (h : keyOfVariable? name = some key) :
    Layer.ofEnvironment ((name, value) :: environment) =
      (key, .leaf (.ofVariable value) (some "the environment")) ::
        Layer.ofEnvironment environment :=
  List.filterMap_cons_some (by simp [h])

/-- The environment comes before what was said so far. -/
theorem Tree.Shows.variables (h : t.Shows content tls) (names : NamesSettings environment) :
    (Tree.assignAll (.ofEnvironment environment) t).Shows
      (fun x => ((x.variableWord? environment).map Word.tree).or (content x))
      (tls ∨ ∃ e ∈ environment, ∃ x : Setting, x.InTls ∧ keyOfVariable? e.1 = some x.key) := by
  induction environment generalizing t content tls with
  | nil => exact h.congr (fun _ => rfl) (by simp)
  | cons e environment ih =>
    obtain ⟨name, value⟩ := e
    obtain ⟨first, names⟩ := List.forall_mem_cons.mp names
    cases key : keyOfVariable? name with
    | none =>
      rw [ofEnvironment_cons_none key]
      refine (ih h names).congr (fun x => ?_) ?_
      · simp [Setting.variableWord?_cons, key]
      · simp [key]
    | some k =>
      obtain ⟨x, rfl⟩ := first k key
      rw [ofEnvironment_cons_some key, Tree.assignAll_cons]
      refine (ih (h.assign x _ _) names).congr (fun y => ?_) ?_
      · rw [Setting.variableWord?_cons, key]
        by_cases same : y = x
        · subst same
          cases y.variableWord? environment <;> simp [Word.tree]
        · have other : x.key ≠ y.key := fun h => same (Setting.key_inj h).symm
          simp [Function.update_of_ne same, other]
      · have own : (∃ y : Setting, y.InTls ∧ x.key = y.key) ↔ x.InTls := by
          constructor
          · rintro ⟨y, within, h⟩
            exact Setting.key_inj h ▸ within
          · exact fun within => ⟨x, within, rfl⟩
        simp only [List.exists_mem_cons_iff, key, Option.some.injEq, own, or_assoc]

theorem ofPlatform_eq (environment : List (String × String)) :
    Layer.ofPlatform environment =
      (Setting.httpPort.platformWord? environment).toList.map fun w =>
        (Setting.httpPort.key, w.tree) := by
  unfold Layer.ofPlatform Setting.platformWord? port?
  cases environment.lookup "PORT" with
  | none => rfl
  | some text =>
    cases port : Number.unsigned? 65535 text.toList with
    | none => simp [Option.filter_some, port]
    | some n =>
      have key : Setting.httpPort.key = "http_port" := rfl
      simp [Option.filter_some, Word.tree, port?, port, key]

/-- The platform comes before what was said so far. -/
theorem Tree.Shows.platform (h : t.Shows content tls) (environment : List (String × String)) :
    (Tree.assignAll (.ofPlatform environment) t).Shows
      (fun x => ((x.platformWord? environment).map Word.tree).or (content x)) tls := by
  have others {x : Setting} (ne : x ≠ .httpPort) : x.platformWord? environment = none := if_neg ne
  rw [ofPlatform_eq]
  cases word : Setting.httpPort.platformWord? environment with
  | none =>
    refine h.congr (fun x => ?_) Iff.rfl
    by_cases port : x = .httpPort
    · rw [port, word]
      rfl
    · rw [others port]
      rfl
  | some w =>
    obtain ⟨value, origin, leaf⟩ : ∃ value origin, w.tree = .leaf value origin := by
      rw [Setting.platformWord?, if_pos rfl] at word
      obtain ⟨text, -, rfl⟩ := Option.map_eq_some_iff.mp word
      exact ⟨_, _, rfl⟩
    simp only [Option.toList_some, List.map_cons, List.map_nil, leaf]
    refine (h.assign .httpPort value origin).congr (fun x => ?_) ?_
    · by_cases port : x = .httpPort
      · subst port
        simp [word, leaf]
      · rw [Function.update_of_ne port, others port]
        rfl
    · have outside : ¬Setting.httpPort.InTls := by decide
      simp [outside]

/-- What is found in all layers together. -/
theorem loaded_shows (sets : Sets [] (.table document)) (names : NamesSettings environment) :
    (Tree.assignAll (Tree.ofTomlEntries (some documentName) document ++
      .ofEnvironment environment ++ .ofPlatform environment) .empty).Shows
      (fun x => (x.word? document environment).map Word.tree) (SaysTls document environment) := by
  rw [Tree.assignAll_append, Tree.assignAll_append]
  refine (((sets.shows (some documentName)).variables names).platform environment).congr
    (fun x => ?_) Iff.rfl
  simp only [Setting.word?, Setting.fileWord?, Option.map_or, Option.map_map]
  rfl

end Layers

/-! ## One word alone -/

section Alone

variable {x : Setting} {document : List (String × Toml.Value)}
  {environment : List (String × String)} {w : Word}

theorem load_of_file {files : Files} {file : Layer} (h : Layer.ofFiles files = .ok file)
    (environment : List (String × String)) : Service.load environment files =
      Service.ofSettings (Tree.assignAll
        (file ++ Layer.ofEnvironment environment ++ Layer.ofPlatform environment) .empty) := by
  rw [load_eq, h]
  rfl

/-- Settings without a configuration file. -/
theorem load_bare (environment : List (String × String)) : Service.load environment {} =
    Service.ofSettings (Tree.assignAll
      (Tree.ofTomlEntries (some documentName) [] ++ Layer.ofEnvironment environment ++
        Layer.ofPlatform environment) .empty) :=
  load_of_file rfl environment

theorem sets_nothing : Sets [] (.table []) :=
  .table (by decide) List.nodup_nil fun e he => absurd he List.not_mem_nil

/-- A word that can be said about a setting. -/
inductive Word.About : Setting → Word → Prop
  | file {x : Setting} {v : Toml.Value} (single : v.IsScalar) : About x (.file v)
  | environment {x : Setting} {name : String} (value : String)
    (key : keyOfVariable? name = some x.key) : About x (.environment name value)
  | platform {text : String} (port : (port? text).isSome) : About .httpPort (.platform text)

theorem about_of_word? (sets : Sets [] (.table document))
    (h : x.word? document environment = some w) : w.About x := by
  rcases Option.or_eq_some_iff.mp h with h | ⟨-, h⟩
  · rw [Setting.platformWord?] at h
    split_ifs at h with port
    obtain ⟨text, found, rfl⟩ := Option.map_eq_some_iff.mp h
    exact port ▸ .platform (Option.filter_eq_some_iff.mp found).2
  rcases Option.or_eq_some_iff.mp h with h | ⟨-, h⟩
  · obtain ⟨e, found, rfl⟩ := Option.map_eq_some_iff.mp h
    exact .environment e.2 (by simpa using List.find?_some found)
  · obtain ⟨v, found, rfl⟩ := Option.map_eq_some_iff.mp h
    exact .file (sets.at? found).isScalar

theorem keyOfVariable?_port : keyOfVariable? "PORT" = none := by decide +kernel

/-- The tree of one word alone. -/
theorem Word.About.shows (h : w.About x) : ∃ t tls, w.alone x = Service.ofSettings t ∧
    t.Shows (Function.update (fun _ => none) x (some w.tree)) tls := by
  cases h with
  | @file _ v single =>
    refine ⟨_, _, by rw [Word.alone, merged_eq, List.flatten_singleton],
      ((Setting.sets_documentOf single).shows _).congr (fun y => ?_) Iff.rfl⟩
    rw [Setting.table_documentOf]
    by_cases same : y = x
    · subst same
      rw [at?_nest_self y.lowered_keys, Function.update_self]
      rfl
    · rw [at?_nest_of_apart y.lowered_keys (Setting.apart_keys (Ne.symm same)),
        Function.update_of_ne same]
      rfl
  | @environment _ name value key =>
    have names : NamesSettings [(name, value)] := by
      intro e he k hk
      obtain rfl := List.mem_singleton.mp he
      exact ⟨x, Option.some.inj (key.symm.trans hk)⟩
    have no_port : ("PORT" == name) = false := by
      refine beq_eq_false_iff_ne.mpr fun h => ?_
      rw [← h, keyOfVariable?_port] at key
      cases key
    refine ⟨_, _, load_bare _, (loaded_shows sets_nothing names).congr (fun y => ?_) Iff.rfl⟩
    have platform : y.platformWord? [(name, value)] = none := by
      simp [Setting.platformWord?, List.lookup_cons, no_port]
    have file : y.fileWord? [] = none := by
      cases y <;> rfl
    rw [Setting.word?, platform, file, Setting.variableWord?_cons, key]
    by_cases same : y = x
    · subst same
      simp [Setting.variableWord?, Word.tree]
    · have other : x.key ≠ y.key := fun h => same (Setting.key_inj h).symm
      simp [Setting.variableWord?, Function.update_of_ne same, other]
  | @platform text port =>
    have names : NamesSettings [("PORT", text)] := by
      intro e he k hk
      obtain rfl := List.mem_singleton.mp he
      rw [keyOfVariable?_port] at hk
      cases hk
    refine ⟨_, _, load_bare _, (loaded_shows sets_nothing names).congr (fun y => ?_) Iff.rfl⟩
    have said : y.variableWord? [("PORT", text)] = none := by
      simp [Setting.variableWord?, keyOfVariable?_port]
    have file : y.fileWord? [] = none := by
      cases y <;> rfl
    rw [Setting.word?, said, file]
    by_cases same : y = .httpPort
    · subst same
      simp [Setting.platformWord?, Option.filter_some, port]
    · simp [Setting.platformWord?, same]

/-- What comes of one word alone is what its conversion gives. -/
theorem Word.About.alone (h : w.About x) :
    (∀ s, w.alone x = .ok s → x.convert w.tree = .ok (x.get s)) ∧
      ((∃ s, w.alone x = .ok s) ↔ ∃ a, x.convert w.tree = .ok a) := by
  obtain ⟨t, tls, eq, shows_⟩ := h.shows
  have self : t.at? x.keys = some w.tree := by rw [shows_.content, Function.update_self]
  rw [eq]
  refine ⟨fun s hs => ?value, ?loads⟩
  case value =>
    have given := ((ofSettings_iff shows_.grouped).mp hs).1 x
    rwa [self] at given
  case loads =>
    rw [ofSettings_loads shows_.grouped]
    constructor
    · exact fun converts => converts x _ self
    · intro converts y u hu
      by_cases same : y = x
      · subst same
        obtain rfl := Option.some.inj (hu.symm.trans self)
        exact converts
      · rw [shows_.content, Function.update_of_ne same] at hu
        cases hu

end Alone

/-! ## Every setting on its own -/

/-- An environment in which the port of the platform is a variable of the service. -/
def withPort (environment : List (String × String)) (text : String) : List (String × String) :=
  (environment.filter fun e =>
    e.1 ≠ "PORT" ∧ keyOfVariable? e.1 ≠ some Setting.httpPort.key) ++ [("APP_HTTP_PORT", text)]

/-- How settings come from a document and an environment. -/
structure Resolved (files : Files) (document : List (String × Toml.Value))
    (environment : List (String × String)) : Prop where
  /-- A setting has the value that the word about it gives alone, or its default. -/
  value : ∀ s, Service.load environment files = .ok s → ∀ x : Setting,
    (x.word? document environment = none → x.get s = x.get {}) ∧
    ∀ w, x.word? document environment = some w → ∃ s', w.alone x = .ok s' ∧ x.get s = x.get s'
  loads : (∃ s, Service.load environment files = .ok s) ↔
    ∀ (x : Setting) (w : Word), x.word? document environment = some w → ∃ s, w.alone x = .ok s
  tls : ∀ s, Service.load environment files = .ok s →
    (s.broker.tls.isSome ↔ SaysTls document environment)
  /-- A port of the platform is as good as a variable of the service. -/
  port : ∀ text, environment.lookup "PORT" = some text → (port? text).isSome → ∀ s,
    Service.load environment files = .ok s ↔
      Service.load (withPort environment text) files = .ok s
  noPort : ∀ text, environment.lookup "PORT" = some text → port? text = none →
    Service.load environment files =
      Service.load (environment.filter fun e => e.1 ≠ "PORT") files

section Resolving

variable {files : Files} {document : List (String × Toml.Value)}
  {environment : List (String × String)} {bytes : List UInt8} {text : String}

theorem ofFiles_of_document (bare : files.file? fileName = none)
    (found : files.file? documentName = some (.ok bytes))
    (readable : Text.Utf8.decode? bytes = some text) (parsed : Toml.parse text = some document) :
    Layer.ofFiles files = .ok (Tree.ofTomlEntries (some documentName) document) := by
  have name : fileName ++ "." ++ "toml" = documentName := by decide
  simp [Layer.ofFiles, bare, formats, name, found, Except.toOption, readable, Layer.ofToml, parsed]

theorem keyOfVariable?_httpPort :
    keyOfVariable? "APP_HTTP_PORT" = some Setting.httpPort.key := by
  decide +kernel

theorem mem_withPort {e : String × String} : e ∈ withPort environment text ↔
    (e ∈ environment ∧ e.1 ≠ "PORT" ∧ keyOfVariable? e.1 ≠ some Setting.httpPort.key) ∨
      e = ("APP_HTTP_PORT", text) := by
  simp [withPort]

theorem platformWord?_withPort (x : Setting) :
    x.platformWord? (withPort environment text) = none := by
  have no_port : (withPort environment text).lookup "PORT" = none := by
    rw [List.lookup_eq_none_iff]
    rintro e he
    rcases mem_withPort.mp he with ⟨-, ne, -⟩ | rfl
    · simpa using Ne.symm ne
    · simp
  simp [Setting.platformWord?, no_port]

theorem variableWord?_withPort (x : Setting) : x.variableWord? (withPort environment text) =
    if x = .httpPort then some (.environment "APP_HTTP_PORT" text)
    else x.variableWord? environment := by
  simp only [Setting.variableWord?, withPort, List.reverse_append, List.reverse_singleton,
    List.singleton_append, List.find?_cons, keyOfVariable?_httpPort, Option.some.injEq]
  by_cases same : x = .httpPort
  · simp [same]
  · have other : ¬Setting.httpPort.key = x.key := fun h => same (Setting.key_inj h).symm
    simp only [other, same, decide_false, if_false]
    rw [← List.filter_reverse, List.find?_filter]
    refine congrArg (fun p => Option.map _ (List.find? p environment.reverse)) (funext fun e => ?_)
    by_cases names : keyOfVariable? e.1 = some x.key
    · have ne : e.1 ≠ "PORT" := by
        intro h
        rw [h, keyOfVariable?_port] at names
        cases names
      simp [names, ne, Ne.symm other]
    · simp [names]

theorem namesSettings_withPort (names : NamesSettings environment) :
    NamesSettings (withPort environment text) := by
  intro e he
  rcases mem_withPort.mp he with ⟨he, -⟩ | rfl
  · exact names e he
  · intro key hk
    exact ⟨.httpPort, Option.some.inj (keyOfVariable?_httpPort.symm.trans hk)⟩

theorem saysTls_withPort :
    SaysTls document (withPort environment text) ↔ SaysTls document environment := by
  refine or_congr_right ⟨?_, ?_⟩
  · rintro ⟨e, he, x, within, key⟩
    rcases mem_withPort.mp he with ⟨he, -⟩ | rfl
    · exact ⟨e, he, x, within, key⟩
    · obtain rfl := Setting.key_inj (Option.some.inj (keyOfVariable?_httpPort.symm.trans key))
      exact absurd within (by decide)
  · rintro ⟨e, he, x, within, key⟩
    refine ⟨e, mem_withPort.mpr (.inl ⟨he, ?_, ?_⟩), x, within, key⟩
    · intro h
      rw [h, keyOfVariable?_port] at key
      cases key
    · intro h
      obtain rfl := Setting.key_inj (Option.some.inj (h.symm.trans key))
      exact absurd within (by decide)

/-- A port of the platform gives what a variable with its text gives. -/
theorem given_withPort (hp : environment.lookup "PORT" = some text) (port : (port? text).isSome)
    (x : Setting) (a : x.Kind) :
    Given x.convert (x.get {}) ((x.word? document environment).map Word.tree) a ↔
      Given x.convert (x.get {}) ((x.word? document (withPort environment text)).map Word.tree)
        a := by
  rw [Setting.word?, Setting.word?, platformWord?_withPort, variableWord?_withPort]
  by_cases same : x = .httpPort
  · subst same
    obtain ⟨n, hn⟩ := Option.isSome_iff_exists.mp port
    have small := (Number.signed?_of_unsigned? hn).2.1
    have said : Setting.httpPort.platformWord? environment = some (.platform text) := by
      simp [Setting.platformWord?, hp, Option.filter_some, port]
    have number (origin : Option String) :
        Setting.httpPort.convert (.leaf (.integer n) origin) = .ok (UInt16.ofNat n) :=
      word16_of_integer small origin
    simp only [said, if_true, Option.some_or, Option.none_or, Option.map_some, Given, Word.tree, hn,
      Option.getD_some, ofVariable_of_port hn, number]
  · have silent : x.platformWord? environment = none := if_neg same
    rw [silent, if_neg same]

/-- Every setting comes from the highest place that says something about it. -/
theorem settings_resolved (bare : files.file? fileName = none)
    (found : files.file? documentName = some (.ok bytes))
    (readable : Text.Utf8.decode? bytes = some text) (parsed : Toml.parse text = some document)
    (sets : Sets [] (.table document)) (names : NamesSettings environment) :
    Resolved files document environment := by
  have file := ofFiles_of_document bare found readable parsed
  have shows_ := loaded_shows sets names
  constructor
  case value =>
    intro s hs x
    rw [load_of_file file] at hs
    have given := ((ofSettings_iff shows_.grouped).mp hs).1 x
    rw [shows_.content] at given
    refine ⟨fun silent => ?_, fun w said => ?_⟩
    · rwa [silent] at given
    · rw [said] at given
      obtain ⟨value, loads⟩ := (about_of_word? sets said).alone
      obtain ⟨s', hs'⟩ := loads.mpr ⟨_, given⟩
      exact ⟨s', hs', Except.ok.inj (given.symm.trans (value s' hs'))⟩
  case loads =>
    rw [load_of_file file, ofSettings_loads shows_.grouped]
    simp only [shows_.content, Option.map_eq_some_iff]
    constructor
    · intro converts x w said
      exact (about_of_word? sets said).alone.2.mpr (converts x w.tree ⟨w, said, rfl⟩)
    · rintro alone x u ⟨w, said, rfl⟩
      exact (about_of_word? sets said).alone.2.mp (alone x w said)
  case tls =>
    intro s hs
    rw [load_of_file file] at hs
    exact ((ofSettings_iff shows_.grouped).mp hs).2.trans shows_.tls
  case port =>
    intro text hp port s
    have kept : NamesSettings (withPort environment text) := namesSettings_withPort names
    have as_variable := loaded_shows sets kept
    rw [load_of_file file, load_of_file file, ofSettings_iff shows_.grouped,
      ofSettings_iff as_variable.grouped, shows_.tls, as_variable.tls, saysTls_withPort]
    simp only [shows_.content, as_variable.content]
    exact and_congr_left' (forall_congr' fun x => given_withPort hp port x _)
  case noPort =>
    intro text hp no_port
    have same : Layer.ofEnvironment (environment.filter fun e => e.1 ≠ "PORT") =
        Layer.ofEnvironment environment := by
      rw [Layer.ofEnvironment, List.filterMap_filter, Layer.ofEnvironment]
      refine List.filterMap_congr fun e he => ?_
      split_ifs with h
      · rfl
      · have port : e.1 = "PORT" := by simpa using h
        simp [port, keyOfVariable?_port]
    have platform : Layer.ofPlatform environment = [] := by
      unfold port? at no_port
      simp [Layer.ofPlatform, hp, no_port]
    have absent : (environment.filter fun e => e.1 ≠ "PORT").lookup "PORT" = none := by
      rw [List.lookup_eq_none_iff]
      intro e he
      simpa using Ne.symm (by simpa using (List.mem_filter.mp he).2)
    have nothing : Layer.ofPlatform (environment.filter fun e => e.1 ≠ "PORT") = [] := by
      rw [Layer.ofPlatform, absent]
      rfl
    rw [load_of_file file, load_of_file file, same, platform, nothing]

end Resolving

/-! ## Three layers -/

/-- A configuration file whose port of the broker is none, and whose port for requests is none. -/
def partialText : String :=
  "http_port = \"none\"\n[amqp]\nHost = \"one\"\nport = \"none\"\n[amqp.tls]\n"

def partialDocument : List (String × Toml.Value) := [
  ("http_port", .text "none"),
  ("amqp", .table [("Host", .text "one"), ("port", .text "none"), ("tls", .table [])])]

/-- An environment that has both ports. -/
def portly : List (String × String) :=
  [("HOME", "/"), ("APP_AMQP__PORT", "5671"), ("PORT", "8080")]

/-- Whether what is read is that document. Documents have no equality that can be computed. -/
def readsPartial : Option (List (String × Toml.Value)) → Bool
  | some [("http_port", .text "none"),
      ("amqp", .table [("Host", .text "one"), ("port", .text "none"), ("tls", .table [])])] => true
  | _ => false

theorem eq_of_readsPartial {found : Option (List (String × Toml.Value))}
    (h : readsPartial found = true) : found = some partialDocument := by
  unfold readsPartial at h
  split at h
  · rfl
  · exact absurd h Bool.false_ne_true

theorem parse_partialText : Toml.parse partialText = some partialDocument :=
  eq_of_readsPartial (by decide +kernel)

theorem sets_partialDocument : Sets [] (.table partialDocument) := by
  have tls : Sets ["amqp", "tls"] (.table []) :=
    .table (by decide) List.nodup_nil fun e he => absurd he List.not_mem_nil
  have amqp : Sets ["amqp"]
      (.table [("Host", .text "one"), ("port", .text "none"), ("tls", .table [])]) := by
    refine .table (by decide) (by decide +kernel) fun e he => ?_
    simp only [List.mem_cons, List.not_mem_nil, or_false] at he
    rcases he with rfl | rfl | rfl
    · exact .scalar .host (by decide +kernel) trivial
    · exact .scalar .port (by decide +kernel) trivial
    · exact (show Text.lower "tls" = "tls" by decide +kernel) ▸ tls
  refine .table (by decide) (by decide +kernel) fun e he => ?_
  simp only [partialDocument, List.mem_cons, List.not_mem_nil, or_false] at he
  rcases he with rfl | rfl
  · exact .scalar .httpPort (by decide +kernel) trivial
  · exact (show Text.lower "amqp" = "amqp" by decide +kernel) ▸ amqp

theorem namesSettings_portly : NamesSettings portly := by
  have home : keyOfVariable? "HOME" = none := by decide +kernel
  have port : keyOfVariable? "APP_AMQP__PORT" = some Setting.port.key := by decide +kernel
  intro e he key hk
  simp only [portly, List.mem_cons, List.not_mem_nil, or_false] at he
  rcases he with rfl | rfl | rfl
  · simp [home] at hk
  · exact ⟨.port, Option.some.inj (port.symm.trans hk)⟩
  · simp [keyOfVariable?_port] at hk

/-- Both ports of the file are none, and there are settings all the same. -/
theorem settings_resolved_ports :
    let files : Files := { nodes := [([documentName], .file (Text.Utf8.encode partialText))] }
    Resolved files partialDocument portly ∧ ∃ s, Service.load portly files = .ok s := by
  intro files
  refine ⟨settings_resolved (by decide +kernel) (by decide +kernel) (Text.Utf8.decode?_encode _)
    parse_partialText sets_partialDocument namesSettings_portly, ?_⟩
  have loaded : (Service.load portly files).toOption.isSome := by decide +kernel
  revert loaded
  cases Service.load portly files with
  | ok s => exact fun _ => ⟨s, rfl⟩
  | error e => exact fun h => absurd h Bool.false_ne_true

end BrokerPool.Settings
