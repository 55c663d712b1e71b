import Rulebook.Challenge.Preview
import Rulebook.Location
import Rulebook.Rule.Descriptor
import Rulebook.Ruleset.Basic
import Rulebook.Text.Ticked

/-!
# Failures of a subject

The record of a challenge is a list of failures: where a subject failed, why, and what it looked like.
-/

namespace Rulebook

open Json (Value)

/-- The fallbacks that a failed subject may be rescued by. -/
inductive Fallback where
  | values
  | rules
  deriving DecidableEq, Repr

/-- The name of a fallback in a description. -/
def Fallback.name : Fallback → String
  | .values => "alternativeEnum"
  | .rules => "alternativeRuleSet"

/-- A main rule as the one that a subject failed first. -/
inductive MainRule where
  | declared (rule : Rule)
  /-- The flag against empty subjects. -/
  | nonEmpty
  deriving Repr

/-- The name of a main rule in a report. -/
def MainRule.text : MainRule → String
  | .declared rule => rule.text
  | .nonEmpty => Emptiness.nonEmpty.name

/-- Why a subject failed. -/
inductive FailureKind where
  /-- It failed a main rule, and no fallback rescued it. -/
  | rule (failed : MainRule) (tried : List Fallback)
  /-- It is null, which is not allowed, and no fallback rescued it. -/
  | null (tried : List Fallback)
  /-- There are rules for children, but it is no container. -/
  | notLoopable
  | undeclaredKey (key : String) (policy : String)
  | missingKey (key : String)
  | tooMany (most : Nat)
  | tooFew (least seen : Nat)
  deriving Repr

/-- The fallbacks that did not help, as the end of a sentence. -/
def triedText (tried : List Fallback) : String :=
  if tried.isEmpty then ""
  else ", " ++ " and ".intercalate (tried.map Fallback.name) ++ " did not match either"

/-- The sentence that says why. -/
def FailureKind.text : FailureKind → String
  | .rule failed tried => failed.text ++ " failed" ++ triedText tried
  | .null tried => "null is not allowed" ++ triedText tried
  | .notLoopable => "is not a container"
  | .undeclaredKey key policy =>
    "key " ++ Text.ticked (Text.excerpt key) ++ s!" is not allowed ({policy})"
  | .missingKey key => "required key " ++ Text.ticked (Text.excerpt key) ++ " is missing"
  | .tooMany most => s!"more than {most} item(s)"
  | .tooFew least seen => s!"{seen} item(s), at least {least} required"

/-- A failure in the record. -/
structure Failure where
  place : Location
  kind : FailureKind
  subject : Preview
  deriving Repr

/-- A failure on one line. -/
def Failure.text (f : Failure) : String :=
  s!"{f.place.depth} {f.place.keyPath}: " ++ f.kind.text ++ " - " ++ f.subject.text

/-- The place of a child of a subject. -/
def Location.child (place : Location) (kind : ContainerKind) (key : String) : Location :=
  match kind with
  | .list => ⟨place.depth + 1, place.keyPath ++ "[" ++ key ++ "]"⟩
  | .map => ⟨place.depth + 1, place.keyPath ++ "." ++ Text.excerpt key⟩

/-- A child is one level deeper than its subject. -/
theorem Location.depth_child (place : Location) (kind : ContainerKind) (key : String) :
    (place.child kind key).depth = place.depth + 1 := by
  cases kind <;> rfl

end Rulebook
