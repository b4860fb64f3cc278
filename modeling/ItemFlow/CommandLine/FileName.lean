/-!
# Names of files

A name of a file is a row of components between slashes. Empty components do not count. A single
point stands for the directory reached so far, and two points for the one that holds it.
-/

namespace ItemFlow.CommandLine

/-- A name of a file. -/
structure FileName where
  /-- Whether it starts at the root. -/
  rooted : Bool
  /-- The components. -/
  components : List String
  /-- Whether a slash ends it, as in the name of a directory. -/
  slashed : Bool
deriving DecidableEq, Repr

namespace FileName

/-- The pieces of a text between slashes. -/
def pieces (text : String) : List String :=
  (text.toList.splitOn '/').map String.ofList

/-- The name that a text spells. -/
def ofString (text : String) : FileName :=
  let all := pieces text
  ⟨text.startsWith "/", all.filter (· != ""), text.endsWith "/"⟩

/-- The pieces up to the last that says more than the directory reached before it. -/
def upToLast : List String → List String
  | [] => []
  | p :: rest =>
    match upToLast rest with
    | [] => if p = "" ∨ p = "." then [] else [p]
    | kept => p :: kept

/-- The part of a text that names the directory of a file, if there is one: without it the file is
where the program runs, or is the root. -/
def parent? (text : String) : Option String :=
  match pieces text with
  | [] => none
  | first :: rest =>
    let own := upToLast rest
    let before := first :: upToLast own.dropLast
    if own.isEmpty then none
    else some (if before = [""] then "/" else "/".intercalate before)

example : parent? "a/./b/." = some "a" := by decide

example : parent? "//b" = some "/" := by decide

/-- How many bytes a name may have. -/
def longest : Nat := 4095

/-- How many bytes a component may have. -/
def longestComponent : Nat := 255

end FileName

end ItemFlow.CommandLine
