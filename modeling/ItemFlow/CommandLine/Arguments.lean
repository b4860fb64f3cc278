/-!
# Arguments

What the words of a command line ask for. Two words without a hyphen name the pipeline and the
input; options may stand before, between and after them, each at most once. After two hyphens alone
no word is an option.
-/

namespace ItemFlow.CommandLine

/-- What a run of the program is to do. -/
structure Invocation where
  /-- The file of the pipeline. -/
  pipeline : String
  /-- The file of the items. -/
  input : String
  /-- The file of the outcome; without one it is printed. -/
  output : Option String
  /-- Whether embedded pipes are waited for. -/
  deferred : Bool
  /-- Whether to tell what is done. -/
  verbose : Bool
deriving DecidableEq, Repr

/-- Why the words of a command line do not lead to a run. -/
inductive NoRun where
  /-- They ask for the version. -/
  | version
  /-- They ask for help. -/
  | help
  /-- They make no sense. -/
  | misuse
deriving DecidableEq, Repr

/-- What has been read of a command line. -/
structure Arguments where
  /-- The words that are no options, the latest first. -/
  files : List String := []
  /-- The file of the outcome. -/
  output : Option String := none
  /-- Whether embedded pipes are waited for. -/
  deferred : Bool := false
  /-- Whether to tell what is done. -/
  verbose : Bool := false
deriving Repr

namespace Arguments

/-- Adds a word that is no option. -/
def addFile (a : Arguments) (word : String) : Except NoRun Arguments :=
  if a.files.length < 2 then .ok { a with files := word :: a.files } else .error .misuse

/-- Sets the file of the outcome. -/
def setOutput (a : Arguments) (file : String) : Except NoRun Arguments :=
  if a.output.isSome then .error .misuse else .ok { a with output := some file }

/-- Asks to tell what is done. -/
def setVerbose (a : Arguments) : Except NoRun Arguments :=
  if a.verbose then .error .misuse else .ok { a with verbose := true }

/-- Asks to wait for embedded pipes. -/
def setDeferred (a : Arguments) : Except NoRun Arguments :=
  if a.deferred then .error .misuse else .ok { a with deferred := true }

/-- Reads the letters of a word with one hyphen. The result says also whether the next word is the
file of the outcome. -/
def addLetters (a : Arguments) : List Char → Except NoRun (Arguments × Bool)
  | [] => .ok (a, false)
  | 'v' :: rest => do (← a.setVerbose).addLetters rest
  | 'V' :: _ => .error .version
  | 'h' :: _ => .error .help
  | ['o'] => .ok (a, true)
  | 'o' :: '=' :: file => do return (← a.setOutput (String.ofList file), false)
  | 'o' :: file => do return (← a.setOutput (String.ofList file), false)
  | _ => .error .misuse

/-- Reads an option with a long name and perhaps a value. The result says also whether the next word
is the file of the outcome. -/
def addLong (a : Arguments) (name : String) (value : Option String) :
    Except NoRun (Arguments × Bool) :=
  match name, value with
  | "output", some file => do return (← a.setOutput file, false)
  | "output", none => .ok (a, true)
  | "async", none => do return (← a.setDeferred, false)
  | "verbose", none => do return (← a.setVerbose, false)
  | "version", none => .error .version
  | "help", none => .error .help
  | _, _ => .error .misuse

/-- Reads an option from the word after its first hyphen. The result says also whether the next word
is the file of the outcome. -/
def addOption (a : Arguments) : List Char → Except NoRun (Arguments × Bool)
  | '-' :: long =>
    let name := String.ofList (long.takeWhile (· != '='))
    match long.dropWhile (· != '=') with
    | [] => a.addLong name none
    | _ :: value => a.addLong name (some (String.ofList value))
  | letters => a.addLetters letters

/-- Whether a word is an option: it starts with a hyphen and has more. -/
def isOption (word : String) : Bool :=
  match word.toList with
  | '-' :: _ :: _ => true
  | _ => false

/-- Reads words in order. -/
def addWords (a : Arguments) : List String → Except NoRun Arguments
  | [] => .ok a
  | word :: rest =>
    if word = "--" then rest.foldlM addFile a
    else if !isOption word then do (← a.addFile word).addWords rest
    else do
      let (a, pending) ← a.addOption (word.toList.drop 1)
      match pending, rest with
      | false, rest => a.addWords rest
      | true, [] => throw .misuse
      | true, file :: rest =>
        if isOption file then throw .misuse else (← a.setOutput file).addWords rest

end Arguments

/-- The run that the words of a command line ask for. -/
def Invocation.parse (words : List String) : Except NoRun Invocation := do
  let a ← Arguments.addWords {} words
  match a.files with
  | [input, pipeline] => return ⟨pipeline, input, a.output, a.deferred, a.verbose⟩
  | _ => throw .misuse

end ItemFlow.CommandLine
