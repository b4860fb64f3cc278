import ItemFlow.CommandLine.Dialogue

/-!
# The command line

Runs the program on the files of the system.
-/

namespace ItemFlow.CommandLine

/-- The number of an error of the system, which some requests give negated. -/
def errorNumber (code : UInt32) : UInt32 := if code < 0x80000000 then code else 0 - code

/-- The fault that an error of the system stands for. -/
def FileFault.ofError (e : IO.Error) : FileFault :=
  match e with
  | .noFileOrDirectory .. => .notFound
  | .inappropriateType _ code _ =>
    if errorNumber code = 20 then .notDirectory else .isDirectory
  | .invalidArgument _ code _ =>
    if errorNumber code = 36 then .nameTooLong else .other e.toString
  | .resourceExhausted _ code _ =>
    if errorNumber code = 28 then .noRoom else .other e.toString
  | e => .other e.toString

/-- The answer of an action on a file. -/
def attempt {α : Type} (act : IO α) : IO (Except FileFault α) := do
  try
    return .ok (← act)
  catch e =>
    return .error (FileFault.ofError e)

/-- Reads a text from a file. -/
def readText (file : String) : IO (Except FileFault String) := do
  match ← attempt (IO.FS.readBinFile file) with
  | .error fault => return .error fault
  | .ok bytes =>
    match String.fromUTF8? bytes with
    | some text => return .ok text
    | none => return .error .notText

/-- Runs a program on the system. -/
def Dialogue.perform : Dialogue → IO UInt32
  | .exit code => return code.toUInt32
  | .print text next => do
    IO.print text
    next.perform
  | .tell text next => do
    IO.eprint text
    next.perform
  | .read file next => do
    let text ← readText file
    (next text).perform
  | .makeDirectory directory next => do
    let made ← attempt (IO.FS.createDirAll directory)
    (next made.toBool).perform
  | .write file text next => do
    let written ← attempt <| IO.FS.withFile file .write fun handle => do
      handle.putStr text
      handle.flush
    (next written).perform

end ItemFlow.CommandLine

/-- Runs the program that the words of the command line ask for. -/
def main (words : List String) : IO UInt32 :=
  (ItemFlow.CommandLine.program words).perform
