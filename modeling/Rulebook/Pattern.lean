import Rulebook.Pattern.Engine
import Rulebook.Pattern.Machine
import Rulebook.Pattern.Reader

/-!
# Patterns

A pattern is compiled once and then matched against texts. Compiling is a function of the pattern's
text alone. This is the engine that is there if no other one is given; no property of the rules depends
on which patterns it knows.
-/

namespace Rulebook

/-- A compiled pattern. -/
structure Pattern where
  machine : Pattern.Machine

/-- Compiles the text of a pattern. -/
def Pattern.compile (text : String) : Except Pattern.Error Pattern :=
  let chars := text.toList
  let expression := do
    let tree ← Pattern.Tree.ofChars chars
    let (expression, _) ← tree.expression Pattern.Flags.initial
    pure expression
  match expression with
  | .error (span, fault) => .error (.malformed chars span fault)
  | .ok e =>
    if Pattern.sizeLimit < e.size * Pattern.instructionSize then .error (.tooLarge Pattern.sizeLimit)
    else .ok ⟨e.machine⟩

/-- Whether some part of a text matches the pattern. -/
def Pattern.isMatch (p : Pattern) (text : List Char) : Bool := p.machine.search text

/-- The engine that compiles these patterns. -/
instance Pattern.engine : PatternEngine where
  compile text := ((Pattern.compile text).map Pattern.isMatch).mapError Pattern.Error.message

end Rulebook
