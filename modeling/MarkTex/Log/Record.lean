/-!
# Log records

A record has the name of the logger that made it, a numeric level and a message. The named levels
are ten apart.
-/

namespace MarkTex.Log

/-- The level of messages for tracing a run. -/
def debug : Int := 10

/-- The level of messages about what was done. -/
def info : Int := 20

/-- The level of messages about what may be wrong. -/
def warning : Int := 30

/-- The level of messages about what went wrong. -/
def error : Int := 40

/-- The level of messages about what ends a run. -/
def critical : Int := 50

/-- One message of a logger. -/
structure Record where
  logger : String
  level : Int
  message : String
  deriving DecidableEq, Repr

end MarkTex.Log
