/-!
# The names of the truth values

* `truthName`: the name of a truth value.
* `truth?`: the truth value of a name, which has to be in small letters.
-/

namespace NotificationTap.Text

/-- The name of a truth value. -/
def truthName (value : Bool) : String := if value then "true" else "false"

/-- A truth value by its name. -/
def truth? (name : String) : Option Bool :=
  if name = "true" then some true else if name = "false" then some false else none

theorem truth?_truthName (value : Bool) : truth? (truthName value) = some value := by
  cases value <;> decide

end NotificationTap.Text
