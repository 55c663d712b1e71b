import Rulebook.Json.Value

/-!
# Filter engines

Filters are run by an engine from elsewhere. All that the library takes from it is what a filter gives for a
value.
-/

namespace Rulebook

open Json (Value)

/-- An engine that runs filters. It is taken to be a function of the text of a filter and a value: a run
comes to an end, and neither the clock nor the environment nor an earlier run has a say in it. -/
class FilterEngine where
  /-- What the filter of a text gives for a value, or the engine's report of why it gives nothing. -/
  apply : String → Value → Except String (List Value)

end Rulebook
