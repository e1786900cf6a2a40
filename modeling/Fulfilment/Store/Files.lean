import Fulfilment.Store.Error

/-!
An object store kept as files: the object `key` of `bucket` is the file at `bucket/key` under the
store's root, and the files are a tree of directories with the failures a POSIX file system
reports.
-/

namespace Fulfilment

/-- An entry of the tree: a directory, or a file with its bytes. -/
inductive FileNode where
  | dir
  | file (body : List UInt8)
  deriving DecidableEq, Repr

/-- What the file system reports when an operation fails. -/
inductive FsFault where
  | noEntry
  | notDir
  | isDir
  | alreadyExists
  | nameTooLong
  | nulByte
  deriving DecidableEq, Repr

/-- The text of a file system fault, as the operating system words it. -/
def FsFault.message : FsFault → String
  | .noEntry => "No such file or directory (os error 2)"
  | .notDir => "Not a directory (os error 20)"
  | .isDir => "Is a directory (os error 21)"
  | .alreadyExists => "File exists (os error 17)"
  | .nameTooLong => "File name too long (os error 36)"
  | .nulByte => "file name contained an unexpected NUL byte"

def nameMax : Nat := 255

/-- A tree of files under a root: each entry by its path of names. -/
structure FileTree where
  entries : List (List String × FileNode) := []
  deriving DecidableEq, Repr

/-- The parts of a relative path, or `none` when a part is not a name. -/
def pathNames (p : String) : Option (List String) :=
  if p.isEmpty || p.startsWith "/" || p = "." || p.startsWith "./" then none else
  let parts := (p.splitOn "/").filter fun s => s ≠ "" ∧ s ≠ "."
  if parts.contains ".." then none else some parts

/-- How a key ends after its last name. -/
inductive PathEnd where
  /-- With the name itself. -/
  | name
  /-- With a slash: the name must be a directory. -/
  | slash
  /-- With a `.` part: the name is looked up as a directory. -/
  | dot
  deriving DecidableEq, Repr

def pathEnd (key : String) : PathEnd :=
  match (key.splitOn "/").reverse.dropWhile (· = "") with
  | "." :: _ => .dot
  | _ => if key.endsWith "/" then .slash else .name

/-- Whether the last name of a path is too long to be looked up. -/
def lastTooLong (path : List String) : Bool :=
  match path.getLast? with
  | some n => n.utf8ByteSize > nameMax
  | none => false

def hasNul (n : String) : Bool := n.contains (Char.ofNat 0)

namespace FileTree

/-- The entry at a path; the root is a directory. -/
def node? (t : FileTree) (path : List String) : Option FileNode :=
  if path.isEmpty then some .dir else (t.entries.find? (·.1 == path)).map (·.2)

/-- Walks to a path: a fault at the first part that is too long, missing or not a directory,
else the entry at the path if there is one. -/
def walk (t : FileTree) (path : List String) : Except FsFault (Option FileNode) :=
  let leads := (List.range path.length).map fun k => path.take (k + 1)
  let rec go : List (List String) → Except FsFault (Option FileNode)
    | [] => .ok (some .dir)
    | [p] => if lastTooLong p then .error .nameTooLong else .ok (t.node? p)
    | p :: ps =>
      if lastTooLong p then .error .nameTooLong else
      match t.node? p with
      | none => .error .noEntry
      | some (.file _) => .error .notDir
      | some .dir => go ps
  go leads

/-- The entry at a path, which must exist; a file named as a directory is a fault. -/
def lookup (t : FileTree) (path : List String) (dirOnly : Bool) : Except FsFault FileNode := do
  match ← t.walk path with
  | none => throw .noEntry
  | some (.file b) => if dirOnly then throw .notDir else return .file b
  | some .dir => return .dir

def isDir (t : FileTree) (path : List String) : Bool :=
  match t.lookup path false with
  | .ok .dir => true
  | _ => false

def mkdir (t : FileTree) (path : List String) : Except FsFault FileTree := do
  match ← t.walk path with
  | some _ => throw .alreadyExists
  | none => return ⟨t.entries ++ [(path, .dir)]⟩

/-- Makes a directory and the missing directories above it: the tree after the attempt, and
the fault that stopped it. Directories made before a fault stay. -/
def mkdirAll (t : FileTree) (path : List String) : FileTree × Option FsFault :=
  let rec go : Nat → FileTree → List String → FileTree × Option FsFault
    | 0, t, _ => (t, none)
    | fuel + 1, t, p =>
      if p.isEmpty then (t, none) else
      match t.mkdir p with
      | .ok t' => (t', none)
      | .error .noEntry =>
        match go fuel t p.dropLast with
        | (t', some e) => (t', some e)
        | (t', none) =>
          match t'.mkdir p with
          | .ok t'' => (t'', none)
          | .error e => if t'.isDir p then (t', none) else (t', some e)
      | .error e => if t.isDir p then (t, none) else (t, some e)
  go (path.length + 1) t path

/-- Writes a file, creating or emptying it; a key ending with a slash or a `.` part cannot
name a file. -/
def write (t : FileTree) (path : List String) (e : PathEnd) (body : List UInt8) :
    Except FsFault FileTree := do
  match ← t.walk path, e with
  | some .dir, _ => throw .isDir
  | some (.file _), .name => return ⟨t.entries.map fun x => if x.1 == path then (path, .file body) else x⟩
  | some (.file _), _ => throw .notDir
  | none, .name => return ⟨t.entries ++ [(path, .file body)]⟩
  | none, .slash => throw .isDir
  | none, .dot => throw .noEntry

end FileTree

/-- An object store over a file tree. -/
structure FileStore where
  tree : FileTree := {}
  deriving DecidableEq, Repr

namespace FileStore

def locate (bucket key : String) : Except ObjectStoreError (List String × PathEnd) :=
  match pathNames bucket, pathNames key with
  | some b, some k => .ok (b ++ k, pathEnd key)
  | _, _ => .error (.invalidKey (bucket ++ "/" ++ key))

def readFault (bucket key : String) : FsFault → ObjectStoreError
  | .noEntry => .notFound bucket key
  | f => .io f.message

/-- The entry an object's path leads to, when the path can be handed to the system. -/
def find (s : FileStore) (bucket key : String) : Except ObjectStoreError FileNode := do
  let (path, e) ← locate bucket key
  if path.any hasNul then throw (.io FsFault.nulByte.message)
  match s.tree.lookup path (e != .name) with
  | .ok n => return n
  | .error f => throw (readFault bucket key f)

/-- The size of an object; a directory is not an object. -/
def head (s : FileStore) (bucket key : String) : Except ObjectStoreError Nat := do
  match ← s.find bucket key with
  | .file b => return b.length
  | .dir => throw (.notFound bucket key)

def get (s : FileStore) (bucket key : String) : Except ObjectStoreError (List UInt8) := do
  match ← s.find bucket key with
  | .file b => return b
  | .dir => throw (.io FsFault.isDir.message)

/-- Puts an object, making the directories above it: the store after the attempt, and the
failure if there was one. -/
def put (s : FileStore) (bucket key : String) (body : List UInt8) :
    FileStore × Except ObjectStoreError Unit :=
  match locate bucket key with
  | .error err => (s, .error err)
  | .ok (path, e) =>
    if path.dropLast.any hasNul then (s, .error (.io FsFault.nulByte.message)) else
    match s.tree.mkdirAll path.dropLast with
    | (t, some f) => (⟨t⟩, .error (.io f.message))
    | (t, none) =>
      if path.any hasNul then (⟨t⟩, .error (.io FsFault.nulByte.message)) else
      match t.write path e body with
      | .ok t' => (⟨t'⟩, .ok ())
      | .error f => (⟨t⟩, .error (.io f.message))

end FileStore

end Fulfilment
