/-
  Log events and spans.

  Key definitions include:
    * `Level`
    * `LogEvent`
    * `Span`
-/

namespace Offload

/- How much a log event matters. -/
inductive Level where
  | trace
  | debug
  | info
  | warn
  | error
deriving DecidableEq

namespace Level

/- The name of a level. -/
def name : Level → String
  | .trace => "TRACE"
  | .debug => "DEBUG"
  | .info => "INFO"
  | .warn => "WARN"
  | .error => "ERROR"

/- Whether an operator has to look at it. -/
def isAlarming
    (l : Level) : Bool :=
  l == .warn || l == .error

end Level

/- One log event with its fields as text. -/
structure LogEvent where
  level : Level
  message : String
  fields : List (String × String)
deriving DecidableEq

/- A piece of work that log events belong to. -/
structure Span where
  name : String
  level : Level
  fields : List (String × String)
deriving DecidableEq

end Offload
