import Rulebook.Challenge.Failure
import Rulebook.Rule.Provider

/-!
# The main rules of a ruleset

Type-checking rules are run first, then the flag for empty subjects, then pattern rules, up to the first
that fails. The value null meets none of them: it only has to be allowed.
-/

namespace Rulebook

open Json (Value)

/-- Why the main rules turned a subject down. -/
inductive Shortfall where
  | null
  | rule (failed : MainRule)
  deriving Repr

/-- The failure that is recorded, given the fallbacks that did not help. -/
def Shortfall.failure (tried : List Fallback) : Shortfall → FailureKind
  | .null => .null tried
  | .rule failed => .rule failed tried

/-- What the main rules say about a subject. -/
inductive MainVerdict where
  /-- The subject passes, its children included. -/
  | settled
  /-- The subject passes, and a rule may have told which kind of container it is. -/
  | passed (container : Option ContainerKind)
  | failed (shortfall : Shortfall)
  deriving Repr

/-- Runs type-checking rules up to the first that fails, which is the error of the result; else the kind
of container that the first rule to tell one has told. -/
def Provider.checkTypes (p : Provider) (subject : Value) (told : Option ContainerKind) :
    List Rule → Except ProviderError (Except Rule (Option ContainerKind))
  | [] => .ok (.ok told)
  | r :: rest =>
    match p.check r.name subject r.arguments.values with
    | .error e => .error e
    | .ok verdict =>
      if verdict.passed then p.checkTypes subject (told <|> verdict.container?) rest
      else .ok (.error r)

/-- Whether a subject passes a pattern rule. -/
def Provider.passesPattern (p : Provider) (subject : Value) (r : Rule) :
    Except ProviderError Bool :=
  match r.kind with
  | .enumeration => .ok (p.isMember subject r.arguments.values)
  | _ =>
    match p.check r.name subject r.arguments.values with
    | .error e => .error e
    | .ok verdict => .ok verdict.passed

/-- The first pattern rule that a subject fails. -/
def Provider.failedPattern? (p : Provider) (subject : Value) :
    List Rule → Except ProviderError (Option Rule)
  | [] => .ok none
  | r :: rest =>
    match p.passesPattern subject r with
    | .error e => .error e
    | .ok true => p.failedPattern? subject rest
    | .ok false => .ok (some r)

/-- What pattern rules say about a subject that has passed the rules in front of them. -/
def Provider.patternVerdict (p : Provider) (subject : Value) (told : Option ContainerKind)
    (rules : List Rule) : Except ProviderError MainVerdict :=
  match p.failedPattern? subject rules with
  | .error e => .error e
  | .ok none => .ok (.passed told)
  | .ok (some r) => .ok (.failed (.rule (.declared r)))

/-- What the main rules of a ruleset say about a subject. -/
def Provider.mainVerdict (p : Provider) (r : Ruleset) (subject : Value) :
    Except ProviderError MainVerdict :=
  if subject.isNull then .ok (if r.nullable then .settled else .failed .null)
  else
    match p.checkTypes subject none r.typeRules with
    | .error e => .error e
    | .ok (.error failed) => .ok (.failed (.rule (.declared failed)))
    | .ok (.ok told) =>
      match r.emptiness with
      | none => p.patternVerdict subject told r.patternRules
      | some .nonEmpty =>
        if p.isEmpty subject then .ok (.failed (.rule .nonEmpty))
        else p.patternVerdict subject told r.patternRules
      | some .empty =>
        if p.isEmpty subject then .ok .settled
        else p.patternVerdict subject told r.patternRules

end Rulebook
