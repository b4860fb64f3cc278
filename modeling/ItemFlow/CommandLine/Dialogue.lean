import ItemFlow.CommandLine.Arguments
import ItemFlow.CommandLine.FileName
import ItemFlow.Script

/-!
# The program

What the program asks of the system it runs on, as a tree of requests and answers: it reads two
files, runs the script and writes or prints the outcome. The tree is interpreted by whoever runs the
program.
-/

namespace ItemFlow.CommandLine

/-- Why a file cannot be read or written. -/
inductive FileFault where
  /-- There is no such file. -/
  | notFound
  /-- It is a directory. -/
  | isDirectory
  /-- A file stands where its name has a directory. -/
  | notDirectory
  /-- Its name, or a component of it, is too long. -/
  | nameTooLong
  /-- There is no room for it. -/
  | noRoom
  /-- Its bytes are no text. -/
  | notText
  /-- Another reason, in the system's words. -/
  | other (message : String)
deriving DecidableEq, Repr

/-- The message of a fault. -/
def FileFault.message : FileFault → String
  | .notFound => "No such file or directory (os error 2)"
  | .isDirectory => "Is a directory (os error 21)"
  | .notDirectory => "Not a directory (os error 20)"
  | .nameTooLong => "File name too long (os error 36)"
  | .noRoom => "No space left on device (os error 28)"
  | .notText => "stream did not contain valid UTF-8"
  | .other message => message

/-- A program that makes requests of a system. -/
inductive Dialogue where
  /-- Reads a text from a file. -/
  | read (file : String) (next : Except FileFault String → Dialogue)
  /-- Makes a directory and those it is in; the answer says whether it is there. -/
  | makeDirectory (directory : String) (next : Bool → Dialogue)
  /-- Writes a text to a file. -/
  | write (file text : String) (next : Except FileFault Unit → Dialogue)
  /-- Prints a text of the outcome. -/
  | print (text : String) (next : Dialogue)
  /-- Tells a text about the run. -/
  | tell (text : String) (next : Dialogue)
  /-- Ends with a code. -/
  | exit (code : Nat)

namespace Dialogue

/-- Tells a line and ends with failure. -/
def fail (line : String) : Dialogue := .tell (line ++ "\n") (.exit 1)

/-- Reads a file that the run needs; `what` names its part in errors. -/
def readNeeded (what file : String) (next : String → Dialogue) : Dialogue :=
  .read file fun
    | .ok text => next text
    | .error fault =>
      fail ("Error reading " ++ what ++ " file '" ++ file ++ "': " ++ fault.message)

/-- Writes the outcome to a file, in a directory that is made if need be. -/
def writeOutcome (file text : String) (next : Dialogue) : Dialogue :=
  let write := Dialogue.write file text fun
    | .ok () => next
    | .error fault => fail ("Error writing output file '" ++ file ++ "': " ++ fault.message)
  match FileName.parent? file with
  | none => write
  | some directory => .makeDirectory directory fun made =>
    if made then write else fail ("Error creating output directory for '" ++ file ++ "'")

/-- Prints the outcome as whole lines. -/
def printOutcome (text : String) (next : Dialogue) : Dialogue :=
  .print (if text.isEmpty || text.endsWith "\n" then text else text ++ "\n") next

end Dialogue

namespace Invocation

/-- What is told before the script runs. -/
def heading (i : Invocation) : String :=
  "Pipeline:  " ++ i.pipeline ++ "\nInput:     " ++ i.input ++
    "\nOutput:    " ++ i.output.getD "(stdout)" ++
    "\nScheduler: " ++ (if i.deferred then "suspending" else "immediate") ++ "\n"

/-- What is told of the numbers of items. -/
def summary (o : Script.Outcome) : String :=
  "Items:     " ++ toString o.itemsIn ++ " in -> " ++ toString o.itemsOut ++ " out\n"

/-- The outcome of a script with no pipes to embed. -/
def outcome (i : Invocation) (source input : String) : Except Error Script.Outcome :=
  if i.deferred then (Deferred.drive (Script.runDeferred {} {} source input)).value
  else (Script.run {} {} source input : Traced (Except Error Script.Outcome)).value

/-- The dialogue of a run. -/
def dialogue (i : Invocation) : Dialogue :=
  let tellIf := fun (text : String) (next : Dialogue) =>
    if i.verbose then .tell text next else next
  .readNeeded "pipeline" i.pipeline fun source =>
  .readNeeded "input" i.input fun input =>
  tellIf i.heading <|
  match i.outcome source input with
  | .error e => .fail ("Pipeline error: " ++ e.message)
  | .ok o =>
    let ending := tellIf (summary o) (.exit 0)
    match i.output with
    | some file => .writeOutcome file o.text ending
    | none => .printOutcome o.text ending

end Invocation

/-- The name of the program. -/
def programName : String := "pipe-run"

/-- The version of the program. -/
def version : String := "0.1.0"

/-- How the program is called. -/
def synopsis : String :=
  "Usage: " ++ programName ++ " [OPTIONS] <PIPELINE> <INPUT>\n\nOptions:\n" ++
    "  -o, --output <OUTPUT>  Write the outcome to a file\n" ++
    "      --async            Wait for embedded pipes\n" ++
    "  -v, --verbose          Tell what is done\n" ++
    "  -h, --help             Print help\n" ++
    "  -V, --version          Print version\n"

/-- The dialogue that the words of a command line start. -/
def program (words : List String) : Dialogue :=
  match Invocation.parse words with
  | .ok i => i.dialogue
  | .error .version => .print (programName ++ " " ++ version ++ "\n") (.exit 0)
  | .error .help => .print synopsis (.exit 0)
  | .error .misuse => .tell synopsis (.exit 2)

end ItemFlow.CommandLine
