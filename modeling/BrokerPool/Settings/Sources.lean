import BrokerPool.Settings.Groups
import BrokerPool.Settings.Layers
import BrokerPool.Toml.Document
import BrokerPool.Yaml.Document
import BrokerPool.Json.Value
import BrokerPool.Files

/-!
# Where settings come from

A configuration file, then the variables of the environment, then the port that a hosting platform
assigns. A file may be missing, and one that cannot be read as text counts as missing; one that
breaks the rules of its format does not.
-/

namespace BrokerPool

namespace Settings

/-! ## Files -/

mutual

/-- The settings of a TOML value. Dates and times are texts. -/
def Tree.ofToml (origin : Option String) : Toml.Value → Tree
  | .text s => .leaf (.text s) origin
  | .integer i => .leaf (.integer i) origin
  | .float x => .leaf (.float x) origin
  | .bool b => .leaf (.bool b) origin
  | .moment m => .leaf (.text m.text) origin
  | .array items => .array (Tree.ofTomlItems origin items) origin
  | .table entries => .table (Tree.ofTomlEntries origin entries) origin

def Tree.ofTomlItems (origin : Option String) : List Toml.Value → List Tree
  | [] => []
  | v :: rest => Tree.ofToml origin v :: Tree.ofTomlItems origin rest

def Tree.ofTomlEntries (origin : Option String) : List (String × Toml.Value) → Keyed Tree
  | [] => []
  | (k, v) :: rest => Keyed.put k (Tree.ofToml origin v) (Tree.ofTomlEntries origin rest)

end

/-- An integer beyond sixty-four bits is a floating point number. -/
def Leaf.ofNumeral : Json.Numeral → Leaf
  | .integer i =>
    if Number.inInt64 i then .integer i else .float (Number.Format.double.round (i < 0) i.natAbs 1)
  | .float x => .float x

mutual

/-- The settings of a JSON value. -/
def Tree.ofJson (origin : Option String) : Json.Value → Tree
  | .null => .leaf .absent origin
  | .bool b => .leaf (.bool b) origin
  | .number n => .leaf (.ofNumeral n) origin
  | .string s => .leaf (.text s) origin
  | .array items => .array (Tree.ofJsonItems origin items) origin
  | .object members => .table (Tree.ofJsonMembers origin members) origin

def Tree.ofJsonItems (origin : Option String) : List Json.Value → List Tree
  | [] => []
  | v :: rest => Tree.ofJson origin v :: Tree.ofJsonItems origin rest

def Tree.ofJsonMembers (origin : Option String) : List (String × Json.Value) → List (String × Tree)
  | [] => []
  | (k, v) :: rest => (k, Tree.ofJson origin v) :: Tree.ofJsonMembers origin rest

end

mutual

/-- The settings of a YAML value. -/
def Tree.ofYaml (origin : Option String) : Yaml.Value → Tree
  | .null => .leaf .absent origin
  | .bool b => .leaf (.bool b) origin
  | .integer i => .leaf (.integer i) origin
  | .float x => .leaf (.float x) origin
  | .text s => .leaf (.text s) origin
  | .sequence items => .array (Tree.ofYamlItems origin items) origin
  | .mapping entries => .table (Tree.ofYamlEntries origin entries) origin

def Tree.ofYamlItems (origin : Option String) : List Yaml.Value → List Tree
  | [] => []
  | v :: rest => Tree.ofYaml origin v :: Tree.ofYamlItems origin rest

def Tree.ofYamlEntries (origin : Option String) : List (String × Yaml.Value) → Keyed Tree
  | [] => []
  | (k, v) :: rest => Keyed.put k (Tree.ofYaml origin v) (Tree.ofYamlEntries origin rest)

end

/-- The settings of a TOML text. -/
def Layer.ofToml (origin : Option String) (text : String) : Except Error Layer :=
  match Toml.parse text with
  | some entries => .ok (Tree.ofTomlEntries origin entries)
  | none => .error .unparsable

/-- The settings of a JSON text. -/
def Layer.ofJson (origin : Option String) (text : String) : Except Error Layer :=
  match Json.Value.parse (.ofString text) with
  | .ok (.object members) => .ok (Tree.ofJsonMembers origin members)
  | _ => .error .unparsable

/-- The settings of a YAML text. -/
def Layer.ofYaml (origin : Option String) (text : String) : Except Error Layer :=
  match Yaml.parse text with
  | some (.mapping entries) => .ok (Tree.ofYamlEntries origin entries)
  | _ => .error .unparsable

/-- The name of a configuration file without its ending. -/
def fileName : String := "amqp-lifecycle"

/-- The endings of configuration files, each with its format. -/
def formats : List (String × (Option String → String → Except Error Layer)) :=
  [("toml", Layer.ofToml), ("json", Layer.ofJson), ("yaml", Layer.ofYaml), ("yml", Layer.ofYaml)]

/-- The settings of the configuration file. A file without an ending hides all others and has no
    format, so it counts as missing. -/
def Layer.ofFiles (files : Files) : Except Error Layer :=
  if (files.file? fileName).isSome then .ok []
  else
    match formats.findSome? fun (ending, read) =>
        (files.file? (fileName ++ "." ++ ending)).map fun content => (ending, read, content) with
    | none => .ok []
    | some (ending, read, content) =>
      match content.toOption.bind Text.Utf8.decode? with
      | some text => read (some (fileName ++ "." ++ ending)) text
      | none => .ok []

/-! ## The environment -/

/-- A truth value, an integer or a decimal number if the text is one, and the text otherwise. -/
def Leaf.ofVariable (value : String) : Leaf :=
  let lowered := Text.lower value
  if lowered = "true" then .bool true
  else if lowered = "false" then .bool false
  else
    match Number.signed? 10 value.toList with
    | some i => .integer i
    | none =>
      match Number.binary? .double value.toList with
      | some x => .float x
      | none => .text value

/-- Two underscores, read from the front, are a point. -/
def withPoints : List Char → List Char
  | '_' :: '_' :: rest => '.' :: withPoints rest
  | c :: rest => c :: withPoints rest
  | [] => []

/-- The key that a variable sets: its name in lower case, without the prefix of the service, two
    underscores being a point. -/
def keyOfVariable? (name : String) : Option String :=
  let cs := (Text.lower name).toList
  let start := "app_".toList
  if start.isPrefixOf cs then some (String.ofList (withPoints (cs.drop start.length))) else none

/-- The settings of the environment's variables. -/
def Layer.ofEnvironment (environment : List (String × String)) : Layer :=
  environment.filterMap fun (name, value) =>
    (keyOfVariable? name).map (·, .leaf (.ofVariable value) (some "the environment"))

/-- The port that a hosting platform assigns, if it is one. -/
def Layer.ofPlatform (environment : List (String × String)) : Layer :=
  match (environment.lookup "PORT").bind fun s => Number.unsigned? 65535 s.toList with
  | some n => [("http_port", .leaf (.integer n) none)]
  | none => []

/-! ## Loading -/

end Settings

namespace Config.Service

open Settings

/-- The settings of a working directory and an environment (`layered`). -/
def load (environment : List (String × String)) (files : Files) :
    Except Settings.Error Service := do
  let file ← Layer.ofFiles files
  ofSettings (merged [file, .ofEnvironment environment, .ofPlatform environment])

/-- The settings of a TOML text alone (`from_toml`). -/
def fromToml (text : String) : Except Settings.Error Service := do
  let layer ← Layer.ofToml none text
  ofSettings (merged [layer])

end Config.Service

end BrokerPool
