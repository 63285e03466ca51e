/-!
# Faults

A fault is a text and the texts of its causes, the outermost first. Whoever passes a fault on may
put a text of its own around it.
-/

namespace BrokerPool

/-- What went wrong, and why. -/
structure Fault where
  text : String
  causes : List String := []
deriving DecidableEq, Repr

namespace Fault

/-- The texts of a fault, the outermost first. -/
def chain (f : Fault) : List String := f.text :: f.causes

/-- All texts in one line. -/
def flat (f : Fault) : String := ": ".intercalate f.chain

/-- A fault with a text around it. -/
def within (text : String) (f : Fault) : Fault := ⟨text, f.chain⟩

/-- A fault from its texts, the innermost first. -/
def ofInnermost : List String → Fault
  | [] => ⟨"", []⟩
  | text :: contexts => contexts.foldl (fun f context => f.within context) ⟨text, []⟩

end Fault

end BrokerPool
