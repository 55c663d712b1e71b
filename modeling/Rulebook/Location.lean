/-!
# Locations

Where something was found: how many levels below the top, and along which keys.
-/

namespace Rulebook

/-- Neither rulesets nor the walk over a subject go deeper than this many levels below the top. -/
def maxDepth : Nat := 10

/-- The path of a top-level subject. -/
def rootPath : String := "root"

/-- A place in a ruleset or in a subject. -/
structure Location where
  depth : Nat
  keyPath : String
  deriving DecidableEq, Repr

namespace Location

/-- The top of a ruleset or of a subject. -/
def root : Location := ⟨0, rootPath⟩

/-- A place as reports name it. -/
def text (place : Location) : String := s!"depth {place.depth} at {place.keyPath}"

/-- The same path, one level deeper. -/
def deeper (place : Location) : Location := { place with depth := place.depth + 1 }

/-- The place of what is declared for a key. -/
def element (place : Location) (key : String) : Location :=
  ⟨place.depth + 1, place.keyPath ++ "." ++ key⟩

/-- The place of what is declared for every item. -/
def everyItem (place : Location) : Location := ⟨place.depth + 1, place.keyPath ++ "[*]"⟩

end Location

end Rulebook
