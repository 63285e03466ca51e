/-!
# Truth values as text
-/

namespace BrokerPool.Text

/-- The word for a truth value. -/
def ofBool (b : Bool) : String := if b then "true" else "false"

/-- A truth value is told by its word. -/
theorem ofBool_injective : Function.Injective ofBool := by
  intro b c h
  cases b <;> cases c <;> simp_all [ofBool]

end BrokerPool.Text
