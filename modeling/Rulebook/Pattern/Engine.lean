/-!
# Pattern engines

Patterns are compiled and matched by an engine from elsewhere. All that the rules take from it is whether
a pattern compiles and which texts it matches.
-/

namespace Rulebook

/-- An engine that compiles patterns. It is taken to be a function of the text of a pattern: compiling a
pattern again gives the same answer, and both compiling and matching come to an end. -/
class PatternEngine where
  /-- The test of a pattern on a text, or the engine's report of why the pattern does not compile. -/
  compile : String → Except String (List Char → Bool)

end Rulebook
