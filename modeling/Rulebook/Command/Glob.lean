import Rulebook.Command.Directory

/-!
# Globs

A glob is a path whose steps are patterns: a star stands for any text, a question mark for any character, a
bracket for one of some characters, and a step of two stars for any number of directories. The paths that a
glob leads to come in the order of their names, a directory in front of what is in it.
-/

namespace Rulebook.Command

/-- A part of a bracket: the characters from one to another. -/
structure CharSpan where
  low : Char
  high : Char
  deriving DecidableEq, Repr

/-- A part of a pattern. -/
inductive GlobToken where
  | char (c : Char)
  | anyChar
  | anyText
  /-- Any number of directories. -/
  | anyPath
  | within (spans : List CharSpan)
  | except (spans : List CharSpan)
  deriving DecidableEq, Repr

/-- What is wrong with a glob. -/
inductive GlobFault where
  | wildcards
  | recursiveWildcards
  | invalidRange
  deriving DecidableEq, Repr

/-- The sentence that says what is wrong. -/
def GlobFault.message : GlobFault → String
  | .wildcards => "wildcards are either regular \x60*\x60 or recursive \x60**\x60"
  | .recursiveWildcards => "recursive wildcards must form a single path component"
  | .invalidRange => "invalid range pattern"

/-- A fault of a glob with the number of characters in front of it. -/
structure GlobError where
  position : Nat
  fault : GlobFault
  deriving DecidableEq, Repr

/-- The report of a fault. -/
def GlobError.message (e : GlobError) : String :=
  s!"Pattern syntax error near position {e.position}: {e.fault.message}"

namespace Glob

/-- Whether a path is read as a glob. A brace counts here, although it has no meaning in a pattern. -/
def isGlob (path : String) : Bool :=
  path.toList.any fun c => c == '*' || c == '?' || c == '[' || c == '\x7b'

/-! ## Patterns -/

/-- The spans that the characters between brackets stand for. -/
def spansOf : List Char → List CharSpan
  | low :: '-' :: high :: rest => ⟨low, high⟩ :: spansOf rest
  | c :: rest => ⟨c, c⟩ :: spansOf rest
  | [] => []

/-- The characters up to the next closing bracket behind a first one, which may be a bracket itself, and what
follows. -/
def untilBracket : List Char → Option (List Char × List Char)
  | [] => none
  | first :: rest =>
    if rest.contains ']' then
      some (first :: rest.takeWhile (· != ']'), (rest.dropWhile (· != ']')).drop 1)
    else none

/-- The token of a bracket, behind the opening bracket, and what follows. -/
def bracket? (rest : List Char) : Option (GlobToken × List Char) :=
  match rest with
  | '!' :: negated =>
    match untilBracket negated with
    | some (inner, after) => some (.except (spansOf inner), after)
    | none => none
  | _ =>
    match untilBracket rest with
    | some (inner, after) => some (.within (spansOf inner), after)
    | none => none

/-- Whether two stars stand alone as a step, given the character in front of them and what follows. A fault is
at the place of the star, counted in front of it, or behind both. -/
def recursive (index : Nat) (before : Option Char) (after : List Char) :
    Except GlobError (List Char) :=
  if before.all (· == '/') then
    match after with
    | [] => .ok []
    | c :: rest => if c = '/' then .ok rest else .error ⟨index + 2, .recursiveWildcards⟩
  else .error ⟨index - 1, .recursiveWildcards⟩

/-- The tokens of a pattern from an index on, given the character in front of it. The fuel is a bound on the
characters left. -/
def tokensFrom : Nat → (index : Nat) → (before : Option Char) → List Char →
    Except GlobError (List GlobToken)
  | _, _, _, [] => .ok []
  | 0, _, _, _ => .ok []
  | fuel + 1, index, before, c :: rest =>
    if c = '?' then (.anyChar :: ·) <$> tokensFrom fuel (index + 1) (some c) rest
    else if c = '*' then
      let after := rest.dropWhile (· == '*')
      match (rest.takeWhile (· == '*')).length with
      | 0 => (.anyText :: ·) <$> tokensFrom fuel (index + 1) (some c) rest
      | 1 =>
        match recursive index before after with
        | .error e => .error e
        | .ok left =>
          let taken := 2 + (after.length - left.length)
          (.anyPath :: ·) <$>
            tokensFrom fuel (index + taken) (if taken = 2 then some '*' else some '/') left
      | _ => .error ⟨index + 2, .wildcards⟩
    else if c = '[' then
      match bracket? rest with
      | some (token, after) =>
        (token :: ·) <$> tokensFrom fuel (index + 1 + (rest.length - after.length)) (some ']') after
      | none => .error ⟨index, .invalidRange⟩
    else (.char c :: ·) <$> tokensFrom fuel (index + 1) (some c) rest

/-- The tokens of a pattern. -/
def tokens (pattern : String) : Except GlobError (List GlobToken) :=
  tokensFrom pattern.toList.length 0 none pattern.toList

/-- Whether one of some spans holds a character. -/
def holds (spans : List CharSpan) (c : Char) : Bool :=
  spans.any fun s => s.low ≤ c && c ≤ s.high

/-- The ends of a text, the longest first. -/
def ends : List Char → List (List Char)
  | [] => [[]]
  | c :: rest => (c :: rest) :: ends rest

/-- Whether a name matches a pattern. -/
def matchesName : List GlobToken → List Char → Bool
  | [], cs => cs.isEmpty
  | .anyText :: ts, cs => (ends cs).any (matchesName ts)
  | .anyPath :: ts, cs => (ends cs).any (matchesName ts)
  | .char _ :: _, [] => false
  | .anyChar :: _, [] => false
  | .within _ :: _, [] => false
  | .except _ :: _, [] => false
  | .char d :: ts, c :: cs => c == d && matchesName ts cs
  | .anyChar :: ts, _ :: cs => matchesName ts cs
  | .within spans :: ts, c :: cs => holds spans c && matchesName ts cs
  | .except spans :: ts, c :: cs => !holds spans c && matchesName ts cs

/-- The text of a pattern that matches only itself. -/
def literal? : List GlobToken → Option (List Char)
  | [] => some []
  | .char c :: ts =>
    match literal? ts with
    | some cs => some (c :: cs)
    | none => none
  | _ => none

/-! ## Paths -/

/-- A step of a glob. -/
structure GlobStep where
  tokens : List GlobToken
  deriving DecidableEq, Repr

/-- Whether a step stands for any number of directories. -/
def GlobStep.isRecursive (s : GlobStep) : Bool := s.tokens.contains .anyPath

/-- The path of a name in a directory. -/
def joinPath (path name : String) : String :=
  if path = "." then name
  else if path.endsWith "/" then path ++ name
  else path ++ "/" ++ name

/-- The last step of a path, which double dots are none of. -/
def lastName? (path : String) : Option String :=
  match (pathSteps path).filter (fun s => s != "" && s != ".") |>.getLast? with
  | some ".." => none
  | other => other

section Walk

variable (d : Directory) (needsDirectory : Bool)

/-- The path itself, if it is one that the glob may end at. -/
def final (path : String) : List String :=
  if needsDirectory && !d.leadsToDirectory path then [] else [path]

/-- The special names that a pattern with a leading dot matches, the parent in front. -/
def specialNames (s : GlobStep) : List String :=
  if s.tokens.head? == some (.char '.') then
    ["..", "."].filter fun name => matchesName s.tokens name.toList
  else []

/-- What is behind a path that stands for the steps so far; `below` looks for the next steps below it. -/
def arrived (below : List GlobStep → String → List String) (rest : List GlobStep)
    (path : String) : List String :=
  if rest.isEmpty then final d needsDirectory path else below rest path

/-- The paths from a path on whose own name has to match the first step. -/
def named (below : List GlobStep → String → List String) (steps : List GlobStep)
    (path : String) : List String :=
  match steps, lastName? path with
  | s :: rest, some name =>
    if matchesName s.tokens name.toList then arrived d needsDirectory below rest path else []
  | _, _ => []

/-- The paths from a path on, which is a child that the first step was looked for among. -/
def visited (below : List GlobStep → String → List String) (steps : List GlobStep)
    (path : String) : List String :=
  match steps with
  | s :: _ =>
    if s.isRecursive then
      let rest := steps.dropWhile GlobStep.isRecursive
      let last := (steps.takeWhile GlobStep.isRecursive).drop
        ((steps.takeWhile GlobStep.isRecursive).length - 1)
      if d.leadsToDirectory path then
        (if rest.isEmpty then [path] else named d needsDirectory below rest path)
          ++ below (last ++ rest) path
      else if rest.isEmpty then [] else named d needsDirectory below rest path
    else named d needsDirectory below steps path
  | [] => []

/-- The paths below a path that the steps lead to. The fuel bounds the depth. -/
def belowWithin : Nat → List GlobStep → String → List String
  | 0, _, _ => []
  | _, [], _ => []
  | fuel + 1, s :: rest, path =>
    match literal? s.tokens with
    | some cs =>
      let name := String.ofList cs
      let next := joinPath path name
      let isThere :=
        if name = "." ∨ name = ".." then d.leadsToDirectory path else d.leadsSomewhere next
      if isThere then arrived d needsDirectory (belowWithin fuel) rest next else []
    | none =>
      if d.leadsToDirectory path then
        ((specialNames s).flatMap fun name =>
            arrived d needsDirectory (belowWithin fuel) rest (path ++ "/" ++ name))
          ++ ((d.names path).flatMap fun name =>
            visited d needsDirectory (belowWithin fuel) (s :: rest) (joinPath path name))
      else []

end Walk

/-- The steps of a glob. A slash at the end is none. -/
def stepTexts (glob : String) : List String :=
  let steps := pathSteps glob
  if steps.getLast? == some "" then steps.dropLast else steps

/-- The steps of a glob, each of them read as a pattern. -/
def stepsOf : List String → Except GlobError (List GlobStep)
  | [] => .ok []
  | text :: rest => do
    let ts ← tokens text
    let others ← stepsOf rest
    .ok (⟨ts⟩ :: others)

/-- The greatest number of names in the place of a file. -/
def depthOf (d : Directory) : Nat := d.files.foldl (fun n f => max n f.1.length) 0

/-- The paths that a glob leads to. The glob has to be one as a whole, and in each of its steps. -/
def paths (d : Directory) (glob : String) : Except GlobError (List String) := do
  let _ ← tokens glob
  let isAbsolute := glob.startsWith "/"
  let texts := stepTexts glob
  let steps ← stepsOf (if isAbsolute then texts.drop 1 else texts)
  let fuel := (steps.length + 1) * (depthOf d + 2)
  .ok (belowWithin d (glob.endsWith "/") fuel steps (if isAbsolute then "/" else "."))

end Glob

end Rulebook.Command
