/-!
# Log entries

What the service writes about its work: a level, a message and named texts. An entry also names the
spans of work inside which it was written, the outermost first.
-/

namespace BrokerPool

namespace Log

/-- How important an entry is. -/
inductive Level
  | debug
  | info
  | warn
  | error
deriving DecidableEq, Repr

def Level.name : Level → String
  | .debug => "DEBUG"
  | .info => "INFO"
  | .warn => "WARN"
  | .error => "ERROR"

/-- A named text of an entry. A fixed word is quoted when the entry is written as a line. -/
structure Field where
  name : String
  text : String
  word : Bool := false
deriving DecidableEq, Repr

/-- A span of work, the part of the service that does it, and what it works on. -/
structure Span where
  part : String
  name : String
  fields : List Field := []
deriving DecidableEq, Repr

/-- A log entry, and the part of the service that writes it. -/
structure Entry where
  level : Level
  part : String
  message : String
  fields : List Field := []
  spans : List Span := []
deriving DecidableEq, Repr

/-- An entry outside all spans. -/
def entry (level : Level) (part message : String) (fields : List Field) : Entry :=
  ⟨level, part, message, fields, []⟩

/-- An entry inside one more span. -/
def Entry.within (span : Span) (e : Entry) : Entry := { e with spans := span :: e.spans }

/-- Entries inside one more span. -/
def within (span : Span) (entries : List Entry) : List Entry := entries.map (·.within span)

end Log

end BrokerPool
