import CppModel.Command.Stream

/-!
# A tree of files

The files that the command line works on, as a value.  A path is followed
component by component from the working directory, or from the root if it begins
with a slash; every component but the last has to be an existing directory, and a
path that ends in a slash has to name a directory.  A path and each of its
components have a greatest length.

One place may have several names.  A place can be closed to reading or to writing,
and may have less room than a text needs; then the front of the text is written
before writing fails.

Around the working directory there are the directories above it and the devices
of the system.  A device takes a text in its own way and never holds it.  The two
output streams of the program belong to the tree as well.
-/

namespace CppModel.Command

/-- What stands at a place of the tree. -/
inductive Entry
  | file (bytes : ByteArray)
  /-- A directory that may be entered. -/
  | directory
  /-- A device, with the bytes that it gives to a reader, if it gives any. -/
  | device (bytes : Option ByteArray)
  /-- The standard output. -/
  | output

/-- What the program tells on the error stream. -/
inductive Message
  /-- There is no such log level. -/
  | notice
  /-- The model cannot be rendered. -/
  | report
  /-- The program has panicked. -/
  | panic
  deriving DecidableEq, Repr

/-- What there is before any file is made.  The working directory is a directory for
temporary files, whose own name no path can spell. -/
def system : List (List String × Entry) :=
  [([], .directory), (["tmp"], .directory), (["tmp", ""], .directory),
    (["dev"], .directory), (["dev", "fd"], .directory),
    (["dev", "null"], .device (some .empty)), (["dev", "full"], .device none),
    (["dev", "stdout"], .output), (["dev", "stderr"], .device (some .empty))]

/-- Other names of devices.  Nothing comes from the standard input. -/
def systemLinks : List (List String × List String) :=
  [(["dev", "stdin"], ["dev", "null"]), (["dev", "fd", "0"], ["dev", "null"]),
    (["dev", "fd", "1"], ["dev", "stdout"]), (["dev", "fd", "2"], ["dev", "stderr"])]

/-- Whether a place is open to writing unless something else is said: no file can be made
among the descriptors of the program. -/
def systemIsWritable (place : List String) : Bool :=
  place.dropLast != ["dev", "fd"]

/-- The room of a place unless something else is said. -/
def systemRoom (place : List String) : Room :=
  if place = ["dev", "full"] then .atMost 0 else .all

/-- The files and directories, under the components that lead to them from the root, and
the streams of the program. -/
structure Files where
  entries : List (List String × Entry) := system
  /-- Other names of places, with the place that each of them stands for. -/
  links : List (List String × List String) := systemLinks
  isReadable : List String → Bool := fun _ => true
  /-- Whether what stands at a place can be opened for writing, or a file made there. -/
  isWritable : List String → Bool := systemIsWritable
  room : List String → Room := systemRoom
  /-- The standard output. -/
  output : Stream := {}
  /-- Whether the error stream takes a message. -/
  isTold : Message → Bool := fun _ => true

namespace Files

/-! ## Places -/

/-- The working directory. -/
def workplace : List String := ["tmp", ""]

/-- The place that a name stands for. -/
def canonical (files : Files) (place : List String) : List String :=
  (files.links.lookup place).getD place

/-- What stands at a place. -/
def entry? (files : Files) (place : List String) : Option Entry :=
  files.entries.lookup place

/-- Whether a directory stands at a place. -/
def isDirectory (files : Files) (place : List String) : Bool :=
  match files.entry? place with
  | some .directory => true
  | _ => false

/-! ## Paths -/

/-- The greatest number of bytes in the name of a file. -/
def greatestName : Nat := 255

/-- Whether a file can have this name. -/
def isName (name : String) : Bool :=
  name.utf8ByteSize ≤ greatestName && !name.toList.contains '\x00'

/-- The place that components lead to from a directory.  The root is its own
parent. -/
def follow (files : Files) (place : List String) : List String → Option (List String)
  | [] => some place
  | component :: rest =>
      if !files.isDirectory place then none
      else if component = "" ∨ component = "." then files.follow place rest
      else if component = ".." then files.follow place.dropLast rest
      else if isName component then files.follow (files.canonical (place ++ [component])) rest
      else none

/-- The greatest number of bytes in a path. -/
def greatestPath : Nat := 4095

/-- The directory that a path begins in. -/
def start (path : String) : List String :=
  if path.startsWith "/" then [] else workplace

/-- The components of a path, which slashes separate. -/
def components (path : String) : List String :=
  (path.toList.splitOnP (· == '/')).map .ofList

/-- The place that a path leads to. -/
def place? (files : Files) (path : String) : Option (List String) :=
  if path.isEmpty || greatestPath < path.utf8ByteSize then none
  else files.follow (start path) (components path)

/-! ## Reading -/

/-- What a reader gets at a place. -/
def contents? (files : Files) (place : List String) : Option ByteArray :=
  match files.entry? place with
  | some (.file bytes) => some bytes
  | some (.device bytes) => bytes
  | some .output => if files.output.isFile then some files.output.bytes else none
  | _ => none

/-- The bytes of a file, if it can be read. -/
def read? (files : Files) (path : String) : Option ByteArray := do
  let place ← files.place? path
  if files.isReadable place then files.contents? place else none

/-! ## Writing -/

/-- Put an entry into the tree, in place of the one that is there. -/
def put (files : Files) (place : List String) (entry : Entry) : Files :=
  { files with entries := (place, entry) :: files.entries.filter (·.1 != place) }

/-- An entry that was put stands at its place, and every other place keeps its
entry. -/
theorem entry?_put (files : Files) (place asked : List String) (entry : Entry) :
    entry? (files.put place entry) asked =
      if asked = place then some entry else files.entry? asked := by
  unfold entry? put
  by_cases isAsked : asked = place
  · simp [isAsked]
  · have different : (asked == place) = false := by simpa using isAsked
    simp only [List.lookup_cons, isAsked, if_false, different]
    induction files.entries with
    | nil => rfl
    | cons first rest inductionHypothesis =>
        grind

/-- Write a text to a file, or as much of it as there is room for.  The answer says
whether all of it could be written. -/
def store (files : Files) (place : List String) (text : String) : Bool × Files :=
  ((files.room place).holds text.toUTF8,
    files.put place (.file ((files.room place).front text.toUTF8)))

/-- Write a text to a place that is open to writing.  A file is made only in a
directory. -/
def writeAt (files : Files) (place : List String) (text : String) : Bool × Files :=
  match files.entry? place with
  | some (.file _) => files.store place text
  | some .directory => (false, files)
  | some (.device _) => ((files.room place).holds text.toUTF8, files)
  | some .output =>
      (files.output.takes text, { files with output := files.output.rewrite text })
  | none => if files.isDirectory place.dropLast then files.store place text else (false, files)

/-- Write a text to the place that a path leads to. -/
def write (files : Files) (path text : String) : Bool × Files :=
  match files.place? path with
  | some place => if files.isWritable place then files.writeAt place text else (false, files)
  | none => (false, files)

/-- Write texts one after another up to the first one that cannot be written.
The answer says whether all of them were. -/
def writeAll (files : Files) : List (String × String) → Bool × Files
  | [] => (true, files)
  | (path, text) :: rest =>
      match files.write path text with
      | (true, next) => next.writeAll rest
      | (false, next) => (false, next)

/-- The tree with an entry at a place below the working directory, and with the
directories that lead there. -/
def make (files : Files) (place : List String) (entry : Entry) : Files :=
  let parents := (List.range place.length).map fun count => workplace ++ place.take count
  let files := parents.foldl
    (fun files parent => if files.isDirectory parent then files else files.put parent .directory)
    files
  files.put (workplace ++ place) entry

end Files

end CppModel.Command
