import BrokerPool.Text.Quoted
import BrokerPool.Text.Truth

/-!
# Diagnostic texts of structured values

A `Shape` is a value as diagnostic output sees it: words, wrappers, records, lists and maps. It is
written on one line, or one item to a line with four more blanks at every level.
-/

namespace BrokerPool.Text

/-- A value as diagnostic output sees it. -/
inductive Shape
  | word (s : String)
  | wrapped (name : String) (content : Shape)
  | record (name : String) (fields : List (String × Shape))
  | list (items : List Shape)
  | map (entries : List (Shape × Shape))

namespace Shape

/-- A quoted text. -/
def quoted (s : String) : Shape := .word (Quoted.quote s)

def bool (b : Bool) : Shape := .word (ofBool b)

/-- A value that may be absent. -/
def ofOption {α : Type} (shape : α → Shape) : Option α → Shape
  | none => .word "None"
  | some a => .wrapped "Some" (shape a)

/-! ## On one line -/

mutual

/-- The text on one line. -/
def compact : Shape → String
  | .word s => s
  | .wrapped name content => name ++ "(" ++ content.compact ++ ")"
  | .record name fields => name ++ " \x7b " ++ compactFields fields ++ " \x7d"
  | .list items => "[" ++ compactItems items ++ "]"
  | .map entries => "\x7b" ++ compactEntries entries ++ "\x7d"

def compactFields : List (String × Shape) → String
  | [] => ""
  | [(name, value)] => name ++ ": " ++ value.compact
  | (name, value) :: rest => name ++ ": " ++ value.compact ++ ", " ++ compactFields rest

def compactItems : List Shape → String
  | [] => ""
  | [item] => item.compact
  | item :: rest => item.compact ++ ", " ++ compactItems rest

def compactEntries : List (Shape × Shape) → String
  | [] => ""
  | [(key, value)] => key.compact ++ ": " ++ value.compact
  | (key, value) :: rest =>
    key.compact ++ ": " ++ value.compact ++ ", " ++ compactEntries rest

end

/-! ## One item to a line -/

/-- The start of a line at a level. -/
def margin (level : Nat) : String := String.ofList ('\n' :: List.replicate (4 * level) ' ')

mutual

/-- The text with one item to a line, inside something at a level. -/
def pretty (level : Nat) : Shape → String
  | .word s => s
  | .wrapped name content =>
    name ++ "(" ++ margin (level + 1) ++ content.pretty (level + 1) ++ "," ++ margin level ++ ")"
  | .record name fields =>
    name ++ " \x7b" ++ prettyFields (level + 1) fields ++ margin level ++ "\x7d"
  | .list [] => "[]"
  | .list (item :: items) =>
    "[" ++ margin (level + 1) ++ item.pretty (level + 1) ++ "," ++ prettyItems (level + 1) items
      ++ margin level ++ "]"
  | .map [] => "\x7b\x7d"
  | .map ((key, value) :: entries) =>
    "\x7b" ++ margin (level + 1) ++ key.pretty (level + 1) ++ ": " ++ value.pretty (level + 1)
      ++ "," ++ prettyEntries (level + 1) entries ++ margin level ++ "\x7d"

def prettyFields (level : Nat) : List (String × Shape) → String
  | [] => ""
  | (name, value) :: rest =>
    margin level ++ name ++ ": " ++ value.pretty level ++ "," ++ prettyFields level rest

def prettyItems (level : Nat) : List Shape → String
  | [] => ""
  | item :: rest => margin level ++ item.pretty level ++ "," ++ prettyItems level rest

def prettyEntries (level : Nat) : List (Shape × Shape) → String
  | [] => ""
  | (key, value) :: rest =>
    margin level ++ key.pretty level ++ ": " ++ value.pretty level ++ ","
      ++ prettyEntries level rest

end

end Shape

end BrokerPool.Text
