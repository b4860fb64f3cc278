import ItemFlow.CommandLine.Dialogue

/-!
# Running the program on a tree of files

A `FileTree` is a directory with what is in it, and `FileTree.run` runs the program there. It says
what the program prints, tells and leaves behind without a real system. Of the system around the
tree only the common directories and devices are known.
-/

namespace ItemFlow.CommandLine

/-- A file that is no store of bytes. -/
inductive Device where
  /-- It is empty and keeps nothing. -/
  | null
  /-- It is empty and has no room. -/
  | full
  /-- The standard input. -/
  | input
  /-- Where the program prints. -/
  | output
  /-- Where the program tells. -/
  | messages
deriving DecidableEq, Repr

/-- What a name can lead to. -/
inductive FileNode where
  /-- A file with its bytes. -/
  | file (content : ByteArray)
  /-- A directory. -/
  | directory
  /-- A device. -/
  | device (d : Device)
deriving Inhabited

/-- The directories from which places are counted. -/
inductive Origin where
  /-- The directory in which the program runs. -/
  | tree
  /-- The directory that holds it. -/
  | above
  /-- The root of the system. -/
  | root
deriving DecidableEq, Repr

/-- A place of a file: the directories on the way to it and its own name. -/
structure Place where
  /-- Where the way starts. -/
  origin : Origin
  /-- The components of the way, points resolved. -/
  way : List String
deriving DecidableEq, Repr

/-- The text of a way. -/
def Place.text (p : Place) : String := "/".intercalate p.way

/-- The place of something in a directory. -/
def Place.child (p : Place) (name : String) : Place := { p with way := p.way ++ [name] }

/-- The place of the directory that holds a place; the outermost directories hold themselves. -/
def Place.holder (p : Place) : Place :=
  if p.origin = .tree ∧ p.way = [] then ⟨.above, []⟩ else { p with way := p.way.dropLast }

/-- A directory with what is in it. -/
structure FileTree where
  /-- What has been put at each place, by where its way starts and the text of the way. -/
  nodes : List ((Origin × String) × FileNode) := []
  /-- What is left to read of the standard input. -/
  input : String := ""
deriving Inhabited

/-- What a run leaves. -/
structure FileTree.Report where
  /-- The code with which it ended. -/
  code : Nat
  /-- What it printed. -/
  printed : String
  /-- What it told. -/
  told : String
  /-- The files after it. -/
  tree : FileTree

namespace FileTree

/-- The directories of every system, by their ways from the root. -/
def systemDirectories : List (List String) :=
  ["bin", "boot", "dev", "etc", "home", "lib", "lib64", "media", "mnt", "opt", "proc", "root",
    "run", "sbin", "srv", "sys", "tmp", "usr", "var"].map ([·]) ++
  [["dev", "fd"], ["dev", "shm"], ["proc", "self"], ["proc", "self", "fd"], ["usr", "bin"],
    ["usr", "lib"], ["usr", "local"], ["usr", "share"], ["var", "log"], ["var", "tmp"]]

/-- The devices of every system, by their ways from the root. -/
def systemDevices : List (List String × Device) := [
  (["dev", "null"], .null), (["dev", "full"], .full), (["dev", "stdin"], .input),
  (["dev", "stdout"], .output), (["dev", "stderr"], .messages), (["dev", "fd", "0"], .input),
  (["dev", "fd", "1"], .output), (["dev", "fd", "2"], .messages),
  (["proc", "self", "fd", "0"], .input), (["proc", "self", "fd", "1"], .output),
  (["proc", "self", "fd", "2"], .messages)]

/-- What every system has at a place. -/
def given? (place : Place) : Option FileNode :=
  if place.way.isEmpty then some .directory
  else if place.origin = .root then
    if systemDirectories.contains place.way then some .directory
    else (systemDevices.lookup place.way).map .device
  else none

/-- What is at a place. -/
def node? (t : FileTree) (place : Place) : Option FileNode :=
  (given? place).or (t.nodes.lookup (place.origin, place.text))

/-- Puts something under a key, in the stead of what is there. -/
def putIn (key : Origin × String) (n : FileNode) :
    List ((Origin × String) × FileNode) → List ((Origin × String) × FileNode)
  | [] => [(key, n)]
  | (k, m) :: rest => if k = key then (k, n) :: rest else (k, m) :: putIn key n rest

/-- Puts something at a place. -/
def put (t : FileTree) (place : Place) (n : FileNode) : FileTree :=
  { t with nodes := putIn (place.origin, place.text) n t.nodes }

/-- Adds a file of the tree and the directories it is in. -/
def addFile (t : FileTree) (name : String) (content : ByteArray) : FileTree :=
  let way := (FileName.ofString name).components.filter (· != ".")
  let parents := ((List.range way.length).map (way.take ·)).filter (!·.isEmpty)
  let t := parents.foldl (fun t p => t.put ⟨.tree, p⟩ .directory) t
  t.put ⟨.tree, way⟩ (.file content)

/-! ## Walking -/

/-- The place that a component leads to from a place, which must be a directory. There need not be
anything at the place it leads to. -/
def enter (t : FileTree) (place : Place) (c : String) : Except FileFault Place :=
  match t.node? place with
  | none => .error .notFound
  | some .directory =>
    if c = "." then .ok place
    else if c = ".." then .ok place.holder
    else if c.utf8ByteSize ≤ FileName.longestComponent then .ok (place.child c)
    else .error .nameTooLong
  | some _ => .error .notDirectory

/-- The place that components lead to from a place. -/
def walk (t : FileTree) (place : Place) : List String → Except FileFault Place
  | [] => .ok place
  | c :: rest => do t.walk (← t.enter place c) rest

/-- Where a name starts. -/
def start (name : FileName) : Place := ⟨if name.rooted then .root else .tree, []⟩

/-- The name that a text spells, if it is neither empty nor too long. -/
def nameOf (text : String) : Except FileFault FileName :=
  if text = "" then .error .notFound
  else if text.utf8ByteSize ≤ FileName.longest then .ok (FileName.ofString text)
  else .error .nameTooLong

/-- What a name leads to. A slash at its end asks for a directory. -/
def find (t : FileTree) (text : String) : Except FileFault FileNode := do
  let name ← nameOf text
  let place ← t.walk (start name) name.components
  match t.node? place with
  | none => throw .notFound
  | some .directory => return .directory
  | some n => if name.slashed then throw .notDirectory else return n

/-- Where a name leads as that of a file to write, and the device that is there. A slash at its end
asks for a directory, whatever is there. -/
def findToWrite (t : FileTree) (text : String) : Except FileFault (Place × Option Device) := do
  let name ← nameOf text
  let directory ← t.walk (start name) name.components.dropLast
  match name.components.getLast? with
  | none => throw .isDirectory
  | some last =>
    if name.slashed ∧ last ≠ "." ∧ last ≠ ".." then
      let _ ← t.enter directory "."
      throw .isDirectory
    let place ← t.enter directory last
    match t.node? place with
    | some .directory => throw .isDirectory
    | some (.device d) => return (place, some d)
    | _ => return (place, none)

/-! ## Answers -/

/-- Reads a text. What is read of the standard input is gone. -/
def read (t : FileTree) (name : String) : Except FileFault String × FileTree :=
  match t.find name with
  | .error fault => (.error fault, t)
  | .ok .directory => (.error .isDirectory, t)
  | .ok (.device .input) => (.ok t.input, { t with input := "" })
  | .ok (.device _) => (.ok "", t)
  | .ok (.file content) =>
    match String.fromUTF8? content with
    | some text => (.ok text, t)
    | none => (.error .notText, t)

/-- Makes the directories on the way along components. -/
def makeAlong (t : FileTree) (place : Place) : List String → Except FileFault FileTree
  | [] => .ok t
  | c :: rest => do
    let place ← t.enter place c
    match t.node? place with
    | some .directory => t.makeAlong place rest
    | some _ => throw .notDirectory
    | none => (t.put place .directory).makeAlong place rest

/-- Makes a directory and those it is in. -/
def makeDirectory (t : FileTree) (text : String) : Except FileFault FileTree := do
  let name ← nameOf text
  t.makeAlong (start name) name.components

/-- Writes a text to a file, which is made if need be. The device that it was written to comes with
the tree. -/
def write (t : FileTree) (name text : String) :
    Except FileFault (FileTree × Option Device) := do
  match ← t.findToWrite name with
  | (_, some .full) => if text.isEmpty then return (t, none) else throw .noRoom
  | (_, some d) => return (t, some d)
  | (place, none) => return (t.put place (.file text.toUTF8), none)

/-- Runs a program. -/
def run (t : FileTree) : Dialogue → Report
  | .exit code => ⟨code, "", "", t⟩
  | .print text next =>
    let r := t.run next
    { r with printed := text ++ r.printed }
  | .tell text next =>
    let r := t.run next
    { r with told := text ++ r.told }
  | .read file next =>
    let (text, t) := t.read file
    t.run (next text)
  | .makeDirectory directory next =>
    match t.makeDirectory directory with
    | .ok t => t.run (next true)
    | .error _ => t.run (next false)
  | .write file text next =>
    match t.write file text with
    | .error fault => t.run (next (.error fault))
    | .ok (after, device) =>
      let r := after.run (next (.ok ()))
      match device with
      | some .output => { r with printed := text ++ r.printed }
      | some .messages => { r with told := text ++ r.told }
      | _ => r

/-- The files of the tree that are not as they were in a tree before, with their names, in order. -/
def changes (after before : FileTree) : List (String × ByteArray) :=
  let changed := after.nodes.filterMap fun ((origin, name), n) =>
    match n, before.nodes.lookup (origin, name) with
    | .file content, some (.file old) =>
      if origin != .tree || content == old then none else some (name, content)
    | .file content, _ => if origin != .tree then none else some (name, content)
    | _, _ => none
  changed.mergeSort fun a b => a.1 ≤ b.1

end FileTree

end ItemFlow.CommandLine
