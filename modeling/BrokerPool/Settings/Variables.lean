import BrokerPool.Files
import BrokerPool.Text.Classes
import BrokerPool.Text.Utf8

/-!
# Files of variables

A file of variables has lines with a name, an equals sign and a value. A value may be quoted, with
one kind of quotes or the other, and then go on over several lines; behind a dollar sign stands the
name of a variable whose value is put in its place. A variable that is set already keeps its value.
What follows a line that breaks these rules is not read.
-/

namespace BrokerPool.Settings

/-- The variables of an environment. -/
abbrev Environment := List (String × String)

namespace Variables

/-! ## Lines -/

/-- Where a character of a line stands. -/
inductive Place
  | plain
  | blank
  | escaped
  | quoted
  | quotedEscaped
  | verbatim
  | verbatimEscaped
deriving DecidableEq, Repr

/-- The place behind a character that opens something. -/
def opening (c : Char) : Place :=
  if c = '\\' then .escaped
  else if c = '"' then .quoted
  else if c = '\x27' then .verbatim
  else .plain

/-- The place behind a character. -/
def Place.next (c : Char) : Place → Place
  | .plain => if Text.isBlank c && c != '\n' && c != '\r' then .blank else opening c
  | .blank => opening c
  | .escaped => .plain
  | .quoted => if c = '\\' then .quotedEscaped else if c = '"' then .plain else .quoted
  | .quotedEscaped => .quoted
  | .verbatim => if c = '\\' then .verbatimEscaped else if c = '\x27' then .plain else .verbatim
  | .verbatimEscaped => .verbatim

/-- Follows a line: what stands before a comment if there is one, and the place at the end. -/
def Place.follow (seen : List Char) : Place → List Char → Option (List Char) × Place
  | place, [] => (none, place)
  | .blank, '#' :: _ => (some seen, .plain)
  | place, c :: rest => Place.follow (seen ++ [c]) (place.next c) rest

/-- Cuts a text behind every line feed. -/
def cutLines {α : Type} (isFeed : α → Bool) : List α → List (List α)
  | [] => []
  | a :: rest =>
    if isFeed a then [a] :: cutLines isFeed rest
    else
      match cutLines isFeed rest with
      | [] => [[a]]
      | line :: lines => (a :: line) :: lines

/-- A line without its line feed. -/
def dropFeed (cs : List Char) : List Char :=
  match cs.reverse with
  | '\n' :: '\r' :: rest => rest.reverse
  | '\n' :: rest => rest.reverse
  | _ => cs

/-- Puts lines together that belong to one value, with the begun line and the place in it; `none`
    for lines that do not end. -/
def join : Place → List Char → List (List Char) → List (Option (List Char))
  | .plain, [], [] => []
  | _, _, [] => [none]
  | place, begun, line :: rest =>
    let whole := begun ++ line
    if (whole.dropWhile Text.isBlank).head? = some '#' then some [] :: join .plain [] rest
    else
      match place.follow [] line with
      | (some before, _) => some (begun ++ before) :: join .plain [] rest
      | (none, .plain) => some (dropFeed whole) :: join .plain [] rest
      | (none, place) => join place whole rest

/-! ## Values -/

/-- How a name behind a dollar sign is read. -/
inductive Reference
  | none
  | bare
  | braced
deriving DecidableEq, Repr

/-- A value that is being read. -/
structure Reading where
  verbatim : Bool := false
  quoted : Bool := false
  escaped : Bool := false
  ending : Bool := false
  reference : Reference := .none
  name : List Char := []
  value : List Char := []

namespace Reading

def add (s : Reading) (c : Char) : Reading := { s with value := s.value ++ [c] }

/-- Puts the value of the variable that was named. -/
def resolve (environment : Environment) (s : Reading) : Reading :=
  let found := (environment.lookup (String.ofList s.name)).getD ""
  { s with value := s.value ++ found.toList, name := [] }

/-- Reads a character behind a dollar sign. Only letters and digits of ASCII belong to a name
    without braces. -/
def refer (environment : Environment) (s : Reading) (c : Char) : Reading :=
  if c.isAlphanum then { s with name := s.name ++ [c] }
  else
    match s.reference with
    | .braced =>
      if c = '\x7d' then { s.resolve environment with reference := .none }
      else { s with name := s.name ++ [c] }
    | _ =>
      if c = '\x7b' && s.name.isEmpty then { s with reference := .braced }
      else if c = '$' then s.resolve environment
      else { (s.resolve environment).add c with reference := .none }

/-- The character behind a backslash. -/
def unescape (s : Reading) (c : Char) : Option Reading :=
  if c = 'n' then some { s.add '\n' with escaped := false }
  else if "\\'\"$ ".toList.contains c then some { s.add c with escaped := false }
  else none

/-- Reads a character outside quotes. -/
def plain (s : Reading) (c : Char) : Reading :=
  if c = '\x27' then { s with verbatim := true }
  else if c = '"' then { s with quoted := true }
  else if c = '\\' then { s with escaped := true }
  else if c = ' ' || c = '\t' then { s with ending := true }
  else s.add c

/-- Reads the rest of a value. Behind a blank only a comment may stand. -/
def run (environment : Environment) : Reading → List Char → Option Reading
  | s, [] => some s
  | s, c :: rest =>
    if s.ending then
      if c = ' ' || c = '\t' then run environment s rest
      else if c = '#' then some s
      else none
    else if s.escaped then
      match s.unescape c with
      | some s => run environment s rest
      | none => none
    else if s.verbatim then
      run environment (if c = '\x27' then { s with verbatim := false } else s.add c) rest
    else if s.reference != .none then run environment (s.refer environment c) rest
    else if c = '$' then run environment { s with reference := .bare } rest
    else if s.quoted then
      run environment
        (if c = '"' then { s with quoted := false }
          else if c = '\\' then { s with escaped := true }
          else s.add c)
        rest
    else run environment (s.plain c) rest

end Reading

/-- The value that some characters denote. -/
def value? (environment : Environment) (cs : List Char) : Option String :=
  match Reading.run environment {} cs with
  | none => none
  | some s =>
    if s.reference = .braced || s.verbatim || s.quoted then none
    else some (String.ofList (s.resolve environment).value)

/-! ## Assignments -/

def skipBlanks (cs : List Char) : List Char := cs.dropWhile Text.isBlank

/-- A name and what follows it and the blanks behind it. -/
def name? (cs : List Char) : Option (List Char × List Char) :=
  match cs with
  | [] => none
  | c :: _ =>
    if c.isAlpha || c = '_' then
      let isPart (d : Char) : Bool := d.isAlphanum || d = '_' || d = '.'
      some (cs.takeWhile isPart, skipBlanks (cs.dropWhile isPart))
    else none

/-- A name and what follows its equals sign. The word that marks a variable for export may stand
    before the name, or be the name itself. -/
def assignment? (cs : List Char) : Option (List Char × List Char) :=
  match name? cs with
  | none => none
  | some (name, '=' :: rest) => some (name, skipBlanks rest)
  | some (word, rest) =>
    if word = "export".toList then
      match name? rest with
      | some (name, '=' :: rest) => some (name, skipBlanks rest)
      | _ => none
    else none

/-- Sets what a line sets; `none` if the line breaks a rule. -/
def assigned? (environment : Environment) (line : List Char) : Option Environment :=
  let cs := skipBlanks (line.reverse.dropWhile Text.isBlank).reverse
  if cs.isEmpty || cs.head? = some '#' then some environment
  else
    match assignment? cs with
    | none => none
    | some (name, rest) =>
      let value :=
        if rest.isEmpty || rest.head? = some '#' then some "" else value? environment rest
      let name := String.ofList name
      value.map fun value =>
        if (environment.lookup name).isSome then environment else environment ++ [(name, value)]

/-- Sets what lines set, up to the first one that breaks a rule. -/
def applyAll (environment : Environment) : List (Option (List Char)) → Environment
  | [] => environment
  | none :: _ => environment
  | some line :: rest =>
    match assigned? environment line with
    | some environment => applyAll environment rest
    | none => environment

/-- The characters of a line, if its bytes are text. -/
def chars? (line : List (Option Char)) : Option (List Char) := line.mapM id

/-- The lines of some bytes up to the first one that is no text, and whether they are all. -/
def textLines : List (List (Option Char)) → List (List Char) × Bool
  | [] => ([], true)
  | line :: rest =>
    match chars? line with
    | none => ([], false)
    | some cs =>
      let (lines, all) := textLines rest
      (cs :: lines, all)

/-- The mark that may stand at the beginning of a text. -/
def byteOrderMark : Char := '\ufeff'

/-- The assignments of a file, and `none` where they cannot be read on. -/
def assignments (bytes : List UInt8) : List (Option (List Char)) :=
  let units := match Text.Utf8.units bytes with
    | some c :: rest => if c = byteOrderMark then rest else some c :: rest
    | units => units
  match textLines (cutLines (· == some '\n') units) with
  | (lines, true) => join .plain [] lines
  | (lines, false) =>
    let joined := join .plain [] lines
    if joined.getLast? = some none then joined else joined ++ [none]

/-- The name of the file of variables. -/
def fileName : String := ".env"

/-- A directory and those that contain it, the nearest one first. -/
def upwards (directory : List String) : List (List String) :=
  (List.range (directory.length + 1)).reverse.map directory.take

/-- The file of variables in the first directory that has one. One that cannot be read ends the
    search, and so does a directory that cannot be looked into. -/
def find? (files : Files) : List (List String) → Option (List UInt8)
  | [] => none
  | directory :: rest =>
    match files.find directory [fileName] with
    | .ok node => if node.isFile then node.read.toOption else find? files rest
    | .error .notFound => find? files rest
    | .error _ => none

end Variables

/-- An environment with the variables of the file in the working directory, or in the nearest
    directory above it that has one. -/
def Environment.withFile (environment : Environment) (files : Files) : Environment :=
  match Variables.find? files (Variables.upwards files.here) with
  | some bytes => Variables.applyAll environment (Variables.assignments bytes)
  | none => environment

end BrokerPool.Settings
