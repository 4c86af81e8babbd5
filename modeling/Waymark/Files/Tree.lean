import Waymark.Files.Path
import Waymark.Text.Lines
import Waymark.Text.Quoted

/-! # Trees of files

    What a run reads and writes: files with their bytes, and directories, each at its
    place. The root is always a directory. Looking something up follows a path name by
    name, and every name that is passed on the way must be a directory's. A directory
    cannot be asked for a name that is too long, not even whether it is there.

    Writing changes one place only (`node?_set`).
-/

namespace Waymark.Files

/-- What stands at a place. -/
inductive Node where
  | directory
  | file (octets : ByteArray)

/-- Files and directories by place. -/
structure Tree where
  nodes : List (Place × Node) := []

/-- What went wrong with a file. -/
inductive FileError where
  | missing
  | exists
  | notDirectory
  | isDirectory
  | nameTooLong
  deriving Repr, DecidableEq

/-- The number of an error. -/
def FileError.number : FileError → Nat
  | .missing => 2
  | .exists => 17
  | .notDirectory => 20
  | .isDirectory => 21
  | .nameTooLong => 36

/-- The words for an error. -/
def FileError.words : FileError → String
  | .missing => "No such file or directory"
  | .exists => "File exists"
  | .notDirectory => "Not a directory"
  | .isDirectory => "Is a directory"
  | .nameTooLong => "File name too long"

/-- An error, and the path that it is about. -/
structure FileFault where
  error : FileError
  path : String
  deriving Repr, DecidableEq

/-- What is said about a fault. -/
def FileFault.message (f : FileFault) : String :=
  "[Errno " ++ toString f.error.number ++ "] " ++ f.error.words ++ ": " ++ Text.quoted f.path

namespace Tree

/-! ### Looking up -/

/-- What stands at a place. -/
def node? (t : Tree) : Place → Option Node
  | [] => some .directory
  | place => t.nodes.lookup place

/-- Is there a directory at the place? -/
def isDirectoryAt (t : Tree) (place : Place) : Bool :=
  match t.node? place with
  | some .directory => true
  | _ => false

/-- The bytes of the file at a place. -/
def octetsAt? (t : Tree) (place : Place) : Option ByteArray :=
  match t.node? place with
  | some (.file octets) => some octets
  | _ => none

/-- Is there a file at the place? -/
def isFileAt (t : Tree) (place : Place) : Bool :=
  (t.octetsAt? place).isSome

/-- Follows names from a place. Only the last of them may be missing. -/
def walk (t : Tree) (place : Place) : List String → Except FileError Place
  | [] => .ok place
  | name :: rest =>
    match t.node? place with
    | none => .error .missing
    | some (.file _) => .error .notDirectory
    | some .directory =>
      if isLongName name then .error .nameTooLong else t.walk (Path.step place name) rest

/-- The place of a path that is used at the place `current`. -/
def place (t : Tree) (current : Place) (p : Path) : Except FileFault Place :=
  (if p.isLong then .error .nameTooLong else t.walk (p.start current) p.names).mapError
    fun error => { error, path := p.text }

/-- What is found out about the place of a path: nothing is where it leads nowhere, and it
    is an error to ask for a name that is too long. -/
def ask (t : Tree) (current : Place) (p : Path) (question : Place → Bool) :
    Except FileFault Bool :=
  match t.place current p with
  | .ok place => .ok (question place)
  | .error fault => if fault.error = .nameTooLong then .error fault else .ok false

/-- Does the path lead to a file? -/
def isFile (t : Tree) (current : Place) (p : Path) : Except FileFault Bool :=
  t.ask current p t.isFileAt

/-- Does the path lead to a directory? -/
def isDirectory (t : Tree) (current : Place) (p : Path) : Except FileFault Bool :=
  t.ask current p t.isDirectoryAt

/-- Is a name on the way down to the place too long for the directory that is asked for it? -/
def bars (t : Tree) (place : Place) : Bool :=
  match t.place [] (.ofPlace place) with
  | .ok _ => false
  | .error fault => fault.error = .nameTooLong

/-- What is found out about a place. -/
def askAt (t : Tree) (place : Place) (answer : Bool) : Except FileFault Bool :=
  if t.bars place then .error { error := .nameTooLong, path := (Path.ofPlace place).text }
  else .ok answer

/-- The bytes of a file. -/
def read (t : Tree) (current : Place) (p : Path) : Except FileFault ByteArray := do
  match t.node? (← t.place current p) with
  | none => throw { error := .missing, path := p.text }
  | some .directory => throw { error := .isDirectory, path := p.text }
  | some (.file octets) => return octets

/-! ### Changing -/

/-- Puts something at a place. -/
def set (t : Tree) (place : Place) (node : Node) : Tree where
  nodes := (place, node) :: t.nodes.filter fun entry => entry.1 != place

/-- Writes the bytes of a file, which need not exist. -/
def write (t : Tree) (current : Place) (p : Path) (octets : ByteArray) :
    Except FileFault Tree := do
  let place ← t.place current p
  if t.isDirectoryAt place then throw { error := .isDirectory, path := p.text }
  return t.set place (.file octets)

/-- Makes a directory in one that exists. -/
def makeDirectory (t : Tree) (current : Place) (p : Path) : Except FileFault Tree := do
  let place ← t.place current p
  if (t.node? place).isSome then throw { error := .exists, path := p.text }
  return t.set place .directory

/-- A directory could not be made, which does not matter if it is there. -/
def sparing (t : Tree) (fault : FileFault) (current : Place) (p : Path) :
    Except FileFault Tree := do
  if ← t.isDirectory current p then return t else throw fault

/-- Makes a directory unless it exists, where `make` makes those above it that are
    missing. -/
def makeDirectoryWith (make : Tree → Except FileFault Tree) (t : Tree) (current : Place)
    (p : Path) : Except FileFault Tree :=
  match t.makeDirectory current p with
  | .ok t => .ok t
  | .error fault =>
    if fault.error = .missing then do
      let t ← make t
      match t.makeDirectory current p with
      | .ok t => return t
      | .error fault => t.sparing fault current p
    else t.sparing fault current p

/-- Makes the directory of the names, and those above it, unless they exist. The names are
    listed last one first. -/
def makeDirectoriesAt (t : Tree) (current : Place) (root : String) :
    List String → Except FileFault Tree
  | [] => t.makeDirectoryWith .ok current { root, names := [] }
  | name :: above =>
    t.makeDirectoryWith (fun t => t.makeDirectoriesAt current root above) current
      { root, names := (name :: above).reverse }

/-- Makes a directory, and those above it, unless they exist. -/
def makeDirectories (t : Tree) (current : Place) (p : Path) : Except FileFault Tree :=
  t.makeDirectoriesAt current p.root p.names.reverse

/-- Removes what stands at a place and everything below it. -/
def remove (t : Tree) (place : Place) : Tree where
  nodes := t.nodes.filter fun entry => !place.isPrefixOf entry.1

/-- Puts something at a place, with the directories above it. -/
def plant (t : Tree) (place : Place) (node : Node) : Tree :=
  let above := ((List.range place.length).map place.take).filter fun p => (t.node? p).isNone
  (above.foldl (fun t p => t.set p .directory) t).set place node

/-- The places below a place. -/
def below (t : Tree) (place : Place) : List Place :=
  (t.nodes.map Prod.fst).filter fun p => place.isPrefixOf p && p != place

/-! ### Texts -/

/-- The text that some bytes encode, with its line ends unified; nothing if they encode
    none. -/
def textOf? (octets : ByteArray) : Option String :=
  (String.fromUTF8? octets).map fun s => String.ofList (Text.unifyLineEnds s.toList)

/-- A text without carriage returns is read from its bytes as it is. -/
theorem textOf?_toUTF8 {s : String} (h : '\r' ∉ s.toList) : textOf? s.toUTF8 = some s := by
  have hread : String.fromUTF8? s.toUTF8 = some s := dif_pos s.isValidUTF8
  unfold textOf?
  rw [hread, Option.map_some, Text.unifyLineEnds_eq_self h, String.ofList_toList]

/-- Dropping the entries of one place leaves those of the others. -/
theorem lookup_filter_ne (nodes : List (Place × Node)) {place p : Place} (h : p ≠ place) :
    (nodes.filter fun entry => entry.1 != place).lookup p = nodes.lookup p := by
  induction nodes with
  | nil => rfl
  | cons entry rest ih =>
    obtain ⟨q, node⟩ := entry
    by_cases hq : q = place
    · have hp : (p == q) = false := by simpa [hq] using h
      simp [List.lookup_cons, hq ▸ hp, hq, ih]
    · simp [List.lookup_cons, hq, ih]

/-- What stands at a place after a change: the new node there, and all else as it was. -/
theorem node?_set (t : Tree) {place : Place} (node : Node) (h : place ≠ []) (p : Place) :
    (t.set place node).node? p = if p = place then some node else t.node? p := by
  cases p with
  | nil => simp [node?, Ne.symm h]
  | cons name rest =>
    by_cases hp : name :: rest = place
    · simp [node?, set, hp]
    · have hne : ((name :: rest) == place) = false := by simpa using hp
      simp [node?, set, List.lookup_cons, hne, hp, lookup_filter_ne t.nodes hp]

end Tree

end Waymark.Files
