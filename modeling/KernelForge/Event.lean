/-!
# Events

What the library does is told as events: a level, a message and named fields.
-/

namespace KernelForge

/-- How much an event matters. -/
inductive Level where
  /-- Of interest only when looking closely. -/
  | trace
  /-- Of interest when something is wrong. -/
  | debug
  /-- Of general interest. -/
  | info
  /-- Something did not go as it should. -/
  | warn
  deriving DecidableEq

/-- The name of a level. -/
def Level.name : Level → String
  | trace => "trace"
  | debug => "debug"
  | info => "info"
  | warn => "warn"

/-- Something that happened. -/
structure Event where
  /-- How much it matters. -/
  level : Level
  /-- What happened. -/
  message : String
  /-- Named details. -/
  fields : List (String × String)
  deriving DecidableEq

end KernelForge
