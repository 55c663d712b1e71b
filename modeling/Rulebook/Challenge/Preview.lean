import Rulebook.Json.Printer
import Rulebook.Text.Excerpt

/-!
# Previews of subjects

A report shows the type of a subject, its size, and a short rendition of a scalar.
-/

namespace Rulebook

open Json (Value)

/-- What a report shows of a subject. -/
structure Preview where
  /-- The name of the subject's type. -/
  type : String
  /-- The number of code points, items or members. -/
  size : Option Nat
  /-- A short rendition; containers and `null` have none. -/
  rendition : Option String
  deriving DecidableEq, Repr

/-- The preview of a subject. -/
def Preview.of : Value → Preview
  | .null => ⟨"null", none, none⟩
  | .bool b => ⟨"boolean", none, some (if b then "true" else "false")⟩
  | .number (.float x) =>
    ⟨"float", none, some (String.ofList (Text.excerptChars (Json.binary64Text x)))⟩
  | .number (.int i) => ⟨"integer", none, some (String.ofList (Json.integerText i))⟩
  | .string s => ⟨"string", some s.length, some ("\"" ++ Text.excerpt s ++ "\"")⟩
  | .array items => ⟨"list", some items.length, none⟩
  | .object members => ⟨"map", some members.length, none⟩

/-- The preview on one line. -/
def Preview.text (p : Preview) : String :=
  p.type
    ++ (match p.size with
      | some n => s!"({n})"
      | none => "")
    ++ (match p.rendition with
      | some r => " " ++ r
      | none => "")

end Rulebook
