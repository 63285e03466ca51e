import BrokerPool.Number.Notation
import BrokerPool.Text.Quoted
import BrokerPool.Text.Truth
import BrokerPool.Keyed

/-!
# Settings before they have types

Configuration files and environment variables all become one kind of tree. Every value remembers
where it came from, so that an error can say so.
-/

namespace BrokerPool.Settings

/-- A value that holds no others. -/
inductive Leaf
  | absent
  | bool (b : Bool)
  | integer (i : Int)
  | float (x : Number.Binary)
  | text (s : String)
deriving DecidableEq, Repr

/-- Untyped settings. Tables are in the order of their keys. -/
inductive Tree
  | leaf (value : Leaf) (origin : Option String)
  | table (entries : List (String × Tree)) (origin : Option String)
  | array (items : List Tree) (origin : Option String)

/-- What stands where something else was wanted. -/
inductive Found
  | absent
  | table
  | array
  | text (s : String)
  | integer (i : Int)
  | unsigned (n : Nat)
deriving DecidableEq, Repr

/-- Why there are no settings. -/
inductive Error
  /-- A configuration file breaks the rules of its format. -/
  | unparsable
  /-- A value cannot be converted to the type that is wanted. -/
  | mismatch (found : Found) (wanted : String) (key : Option String) (origin : Option String)
  /-- A single value stands where a group of settings belongs. -/
  | notRecord (found : Leaf) (record : String)
  /-- A choice that does not exist. -/
  | unknownChoice (type name : String)
  /-- Something that cannot name a choice. -/
  | notChoice (type : String)
deriving DecidableEq, Repr

def Found.message : Found → String
  | .absent => "unit value"
  | .table => "map"
  | .array => "sequence"
  | .text s => "string " ++ Text.Quoted.quote s
  | .integer i => "64-bit integer `" ++ Number.integerText i ++ "`"
  | .unsigned n => "64-bit unsigned integer `" ++ Number.digitText n ++ "`"

/-- How a leaf is named where a group of settings belongs. -/
def Leaf.message : Leaf → String
  | .absent => "unit value"
  | .bool b => "boolean `" ++ Text.ofBool b ++ "`"
  | .integer i => "integer `" ++ Number.integerText i ++ "`"
  | .float x => "floating point `" ++ Number.Notation.pointed.render .double x ++ "`"
  | .text s => "string " ++ Text.Quoted.quote s

namespace Error

/-- The text of an error; what is wrong inside a file is not told. -/
def message : Error → Option String
  | .unparsable => none
  | .mismatch found wanted key origin => some (
      "invalid type: " ++ found.message ++ ", expected " ++ wanted
        ++ (key.map fun k => " for key `" ++ k ++ "`").getD ""
        ++ (origin.map (" in " ++ ·)).getD "")
  | .notRecord found record => some (
      "invalid type: " ++ found.message ++ ", expected struct " ++ record)
  | .unknownChoice type name => some (
      "enum " ++ type ++ " does not have variant constructor " ++ name)
  | .notChoice type => some (
      "value of enum " ++ type
        ++ " should be represented by either string or table with exactly one key")

/-- An error inside the value of a key. -/
def underKey (name : String) : Error → Error
  | .mismatch found wanted key origin =>
    let key := match key with
      | none => name
      | some k => if k.startsWith "[" then name ++ k else name ++ "." ++ k
    .mismatch found wanted (some key) origin
  | e => e

/-- An error inside an item of an array. -/
def underIndex (index : Nat) : Error → Error
  | .mismatch found wanted key origin =>
    .mismatch found wanted (some ("[" ++ Number.digitText index ++ "]" ++ key.getD "")) origin
  | e => e

end Error

end BrokerPool.Settings
