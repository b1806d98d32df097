/-!
# Notices

How messages are put to the user. Every message ends its line; a notice is set off by a blank line
after it.
-/

namespace Scaffolder.Notice

/-- A message of success. -/
def success (message : String) : String := message ++ "\n"

/-- A notice. -/
def notice (message : String) : String := message ++ "\n\n"

/-- The notice that a plugin should no longer be used. -/
def deprecation (warning : String) : String := notice ("[Deprecation Notice] " ++ warning)

/-- The notices for the warnings of some plugins. -/
def deprecations (warnings : List String) : String := String.join (warnings.map deprecation)

end Scaffolder.Notice
