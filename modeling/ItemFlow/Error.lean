import ItemFlow.Json.Mismatch

/-!
# Errors

What can go wrong when a pipeline is built, set up or run, by cause. Every message is written in
this module. An error is fatal when it spoils every item and not only the one at hand.
-/

namespace ItemFlow

/-- Why a parameter has no value for an item. -/
inductive Unresolved where
  /-- The output of an embedded pipe was not supplied. -/
  | notEvaluated (pipe : String)
  /-- No pipe has this name. -/
  | noSuchPipe (name : String)
  /-- A cause that a pipe reports in its own words. -/
  | reported (message : String)
deriving DecidableEq, Repr

/-- What is wrong with a configuration. -/
inductive BadConf where
  /-- An error policy that there is not. -/
  | policy (text : String)
  /-- A coercion that there is not. -/
  | coercion (tag : String)
  /-- A way of reducing an output that there is not. -/
  | reduction (text : String)
  /-- A reference whose path is no text. -/
  | subkey (found : String)
  /-- An embedded pipe whose name is no text. -/
  | terminal (found : String)
  /-- A cause that a pipe reports in its own words. -/
  | reported (message : String)
deriving DecidableEq, Repr

/-- An error of building, setting up or running a pipeline. -/
inductive Error where
  /-- A parameter has no value for an item. -/
  | resolution (module location : String) (cause : Unresolved)
  /-- A value cannot be brought into the form that its configuration declares. -/
  | coercion (module location expected found : String)
  /-- A rule's pattern is malformed. -/
  | pattern (module : String) (rule : Nat) (field pattern : String)
  /-- A configuration or definition is malformed. -/
  | conf (cause : BadConf)
  /-- A definition names a module that nobody provides. -/
  | unknownModule (name : String)
  /-- A pipe that cannot run once per item was embedded in a configuration. -/
  | notLoopable (pipe : String)
  /-- A text is not the JSON that is wanted. -/
  | json (fault : Json.Fault)
  /-- Reading or writing failed. -/
  | io (message : String)
deriving DecidableEq, Repr

/-- The message of an unresolved parameter. -/
def Unresolved.message : Unresolved → String
  | .notEvaluated pipe => "sub-pipeline '" ++ pipe ++ "' was not evaluated"
  | .noSuchPipe name => "no sub-pipeline named '" ++ name ++ "'"
  | .reported message => message

/-- The message of a malformed configuration. -/
def BadConf.message : BadConf → String
  | .policy text => "unknown error policy '" ++ text ++ "' (expected abort or skip)"
  | .coercion tag => "unknown dispatch type '" ++ tag ++ "' (expected word, num, pass or none)"
  | .reduction text => "unknown reduce mode '" ++ text ++ "' (expected first or all)"
  | .subkey found => "subkey must be a string, got " ++ found
  | .terminal found => "terminal must be a string, got " ++ found
  | .reported message => message

namespace Error

/-- The message of an error. Of a malformed pattern it names the place and the pattern. -/
def message : Error → String
  | .resolution module location cause => "[" ++ module ++ "] " ++ location ++ ": " ++ cause.message
  | .coercion module location expected found =>
    "[" ++ module ++ "] " ++ location ++ ": cannot coerce " ++ found ++ " to " ++ expected
  | .pattern module rule field text =>
    "[" ++ module ++ "] rule " ++ toString rule ++ " (field '" ++ field ++
      "'): invalid pattern '" ++ text ++ "': "
  | .conf cause => "Invalid conf: " ++ cause.message
  | .unknownModule name => "Unknown module '" ++ name ++ "'"
  | .notLoopable pipe =>
    "Pipe '" ++ pipe ++ "' contains a module that is not loopable and cannot run once per item"
  | .json fault => "JSON error: " ++ fault.message
  | .io message => "I/O error: " ++ message

/-- Whether the error spoils every item, so that no policy can skip it. -/
def isFatal : Error → Bool
  | .pattern .. | .conf .. | .unknownModule .. | .notLoopable .. => true
  | _ => false

/-- Whether the error concerns one item. -/
def isPerItem : Error → Bool
  | .resolution .. | .coercion .. => true
  | _ => false

end Error

/-- What becomes of an item whose parameters cannot be resolved. -/
inductive Policy where
  /-- The error is handed on and ends the stream. -/
  | abort
  /-- The item is dropped. -/
  | skip
deriving DecidableEq, Repr, Inhabited

namespace Policy

/-- The policy with a name. -/
def parse (text : String) : Except Error Policy :=
  if text == "abort" then .ok .abort
  else if text == "skip" then .ok .skip
  else .error (.conf (.policy text))

/-- How the policy is described. -/
def describe : Policy → String
  | .abort => "Abort"
  | .skip => "Skip"

end Policy

end ItemFlow
