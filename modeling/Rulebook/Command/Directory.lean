/-!
# Directories

The files below a working directory, each with its path and its content. A directory exists as far as a
file below it says so. Paths are followed step by step from the working directory.
-/

namespace Rulebook.Command

/-- Why a file cannot be used. -/
inductive FileError where
  | notFound
  | exists
  | notDirectory
  | isDirectory
  deriving DecidableEq, Repr

/-- The system's report of an error. -/
def FileError.message : FileError → String
  | .notFound => "No such file or directory (os error 2)"
  | .exists => "File exists (os error 17)"
  | .notDirectory => "Not a directory (os error 20)"
  | .isDirectory => "Is a directory (os error 21)"

/-- A place in the tree of files: names from the working directory down. Places above it start with as
many double dots as it takes to get there, places that do not depend on it with a slash. -/
abbrev Place := List String

/-- Files by their place. -/
structure Directory where
  files : List (Place × List UInt8)
  deriving Repr

/-- Splits a text at every slash. -/
def atSlashes : List Char → List (List Char)
  | [] => [[]]
  | c :: rest =>
    if c = '/' then [] :: atSlashes rest
    else
      match atSlashes rest with
      | part :: others => (c :: part) :: others
      | [] => [[c]]

/-- The steps of a path. -/
def pathSteps (path : String) : List String := (atSlashes path.toList).map String.ofList

/-- The place one step further up. -/
def Place.up (place : Place) : Place :=
  match place.getLast? with
  | none => [".."]
  | some ".." => place ++ [".."]
  | some "/" => place
  | some _ => place.dropLast

namespace Directory

/-- The content of the file at a place. -/
def contentAt? (d : Directory) (place : Place) : Option (List UInt8) :=
  (d.files.find? fun f => f.1 == place).map Prod.snd

/-- Whether a place is a directory: it is the working directory or above it, or has a file below it. -/
def isDirectory (d : Directory) (place : Place) : Bool :=
  place.all (fun name => name == ".." || name == "/")
    || d.files.any fun f => place.length < f.1.length && f.1.take place.length == place

/-- Follows steps from a directory. Where directories may be made on the way, a name that is not there yet is
one. -/
def follow (d : Directory) (makes : Bool) : Place → List String → Except FileError Place
  | place, [] => .ok place
  | place, name :: rest =>
    if (d.contentAt? place).isSome then .error .notDirectory
    else if !d.isDirectory place && !makes then .error .notFound
    else if name = "" ∨ name = "." then d.follow makes place rest
    else if name = ".." then d.follow makes place.up rest
    else d.follow makes (place ++ [name]) rest

/-- The place of a path. -/
def placeOf (d : Directory) (path : String) : Except FileError Place :=
  match pathSteps path with
  | "" :: rest => if path.isEmpty then .error .notFound else d.follow false ["/"] rest
  | steps => d.follow false [] steps

/-- Reads the file of a path. -/
def read (d : Directory) (path : String) : Except FileError (List UInt8) :=
  match d.placeOf path with
  | .error e => .error e
  | .ok place =>
    match d.contentAt? place with
    | some content => .ok content
    | none => .error (if d.isDirectory place then .isDirectory else .notFound)

/-- Whether a path leads to a directory. -/
def leadsToDirectory (d : Directory) (path : String) : Bool :=
  match d.placeOf path with
  | .error _ => false
  | .ok place => d.isDirectory place

/-- Whether a path leads to a file or a directory. -/
def leadsSomewhere (d : Directory) (path : String) : Bool :=
  match d.placeOf path with
  | .error _ => false
  | .ok place => (d.contentAt? place).isSome || d.isDirectory place

/-- The names in the directory of a path, each once, in order. -/
def names (d : Directory) (path : String) : List String :=
  match d.placeOf path with
  | .error _ => []
  | .ok place =>
    let below := d.files.filterMap fun f =>
      if f.1.take place.length == place then f.1[place.length]? else none
    (below.eraseDups.filter fun name => name != ".." && name != "/").mergeSort fun a b => a ≤ b

/-! ## Writing -/

/-- Follows the steps of a path, with directories made on the way. -/
def making (d : Directory) : List String → Except FileError Place
  | "" :: rest => d.follow true ["/"] rest
  | steps => d.follow true [] steps

/-- The steps to the directory of a path. Steps at the end that lead nowhere do not count. -/
def parentSteps (steps : List String) : List String :=
  (steps.reverse.dropWhile fun name => name == "" || name == ".").reverse.dropLast

/-- Makes the directory of a path, if it is not there. -/
def makeParent (d : Directory) (path : String) : Except FileError Unit :=
  match d.making (parentSteps (pathSteps path)) with
  | .error e => .error e
  | .ok place => if (d.contentAt? place).isSome then .error .exists else .ok ()

/-- Puts a file at a place. -/
def put (d : Directory) (place : Place) (content : List UInt8) : Directory :=
  ⟨(d.files.filter fun f => f.1 != place) ++ [(place, content)]⟩

/-- Writes the file of a path whose directory has been made. -/
def write (d : Directory) (path : String) (content : List UInt8) : Except FileError Directory :=
  match d.making (pathSteps path).dropLast with
  | .error e => .error e
  | .ok place =>
    let name := (pathSteps path).getLastD ""
    if (d.contentAt? place).isSome then .error .notDirectory
    else if name = "" ∨ name = "." ∨ name = ".." then .error .isDirectory
    else if d.isDirectory (place ++ [name]) then .error .isDirectory
    else .ok (d.put (place ++ [name]) content)

end Directory

end Rulebook.Command
