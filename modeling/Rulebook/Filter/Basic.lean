import Rulebook.Json.Value

/-!
# Filters

A filter turns a value into a list of values: it follows keys and indices into the value, spreads
containers, and joins and chains what other filters give.
-/

namespace Rulebook

open Json (Value)

/-- A filter. -/
inductive Filter where
  /-- Gives the value itself. -/
  | identity
  | literal (v : Value)
  /-- A filter that goes by a name. -/
  | call (name : String) (arguments : List Filter)
  /-- The part of every output under the key or index that the other filter gives for the input. -/
  | part (outer key : Filter)
  /-- All items or members of every output. -/
  | each (outer : Filter)
  | negate (outer : Filter)
  /-- The outputs of the second filter on every output of the first. -/
  | pipe (first second : Filter)
  /-- The outputs of the first filter and then those of the second. -/
  | join (first second : Filter)
  deriving Repr

/-- Why a filter gives no answer. -/
inductive FilterError where
  | malformed
  /-- A name or a variable is not known. -/
  | undefined
  /-- A value has no such part. -/
  | failed
  deriving DecidableEq, Repr

/-- The report of an error. -/
def FilterError.message : FilterError → String
  | .malformed => "parse error"
  | .undefined => "undefined"
  | .failed => "jq runtime error"

end Rulebook
