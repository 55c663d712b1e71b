/-!
# Names in reports

Names of rules, keys and fields stand between backticks in a report.
-/

namespace Rulebook.Text

/-- A name between backticks. -/
def ticked (name : String) : String := "\x60" ++ name ++ "\x60"

end Rulebook.Text
