import Retrace.Text.Quoted
import Retrace.Text.Utf8

/-!
# Files

A file tree is what a run can see of the files: the files and directories by their places, and the
directory that the run starts in.  A place is the list of the names on the way to it from the
root.

A path is a text that leads to a place, from the root if it starts with a slash, else from where
the run starts.  `FileTree.read` and `FileTree.write` take paths; `FileTree.changedSince` says
which places a run has written to.
-/

namespace Retrace

/-- A place: the names on the way to it from the root. -/
abbrev Place := List Text

/-- What stands at a place. -/
inductive FileItem
  | file (bytes : List UInt8)
  | directory
deriving DecidableEq, Repr

/-- What a run can see of the files. -/
structure FileTree where
  items : List (Place × FileItem) := []
  /-- The directory that the run starts in. -/
  here : Place := []
deriving Repr

/-- Why a file cannot be used. -/
inductive FileFault
  | notFound
  | notDirectory
  | isDirectory
  /-- A name of more than 255 bytes, or a path of more than 4095. -/
  | nameTooLong
  /-- A path holds the character of code zero. -/
  | zeroInPath
deriving DecidableEq, Repr

namespace FileFault

/-- The name of the kind of a fault. -/
def name : FileFault → Text
  | .notFound => "FileNotFoundError".toList
  | .notDirectory => "NotADirectoryError".toList
  | .isDirectory => "IsADirectoryError".toList
  | .nameTooLong => "OSError".toList
  | .zeroInPath => "ValueError".toList

/-- The wording of a fault at a path. -/
def message (path : Text) : FileFault → Text
  | .notFound => "[Errno 2] No such file or directory: ".toList ++ Text.quoted path
  | .notDirectory => "[Errno 20] Not a directory: ".toList ++ Text.quoted path
  | .isDirectory => "[Errno 21] Is a directory: ".toList ++ Text.quoted path
  | .nameTooLong => "[Errno 36] File name too long: ".toList ++ Text.quoted path
  | .zeroInPath => "embedded null byte".toList

end FileFault

namespace FilePath

/-- What an absolute path starts with: a slash, or exactly two. -/
def root (t : Text) : Text :=
  match t with
  | '/' :: '/' :: '/' :: _ => ['/']
  | '/' :: '/' :: _ => ['/', '/']
  | '/' :: _ => ['/']
  | _ => []

/-- Whether a path starts from the root. -/
def isAbsolute (t : Text) : Bool := !(root t).isEmpty

/-- The names of a path, without those that are empty or a single dot. -/
def names (t : Text) : List Text :=
  (Text.splitOn ['/'] t).filter fun name => !name.isEmpty && name ≠ ['.']

/-- A path with its names joined by single slashes; one without names is a dot. -/
def normalize (t : Text) : Text :=
  match root t ++ Text.join ['/'] (names t) with
  | [] => ['.']
  | path => path

/-- The number of bytes that a name may have. -/
def nameLimit : Nat := 255

/-- The number of bytes that a path may have. -/
def pathLimit : Nat := 4095

end FilePath

namespace Place

/-- The place that a name leads to: two dots lead back. -/
def step (place : Place) (name : Text) : Place :=
  if name = "..".toList then place.dropLast else place ++ [name]

/-- The places that names lead over, one after the other. -/
def waypoints (place : Place) : List Text → List Place
  | [] => []
  | name :: names => place.step name :: waypoints (place.step name) names

/-- The absolute path of a place. -/
def path (place : Place) : Text := '/' :: Text.join ['/'] place

/-- The path of a place from a directory that it lies in. -/
def pathFrom? (place here : Place) : Option Text :=
  if here.isPrefixOf place then some (Text.join ['/'] (place.drop here.length)) else none

end Place

namespace FileTree

/-- What stands at a place.  Where the run starts, and all that is on the way to a place, is a
directory. -/
def item? (tree : FileTree) (place : Place) : Option FileItem :=
  match tree.items.lookup place with
  | some item => some item
  | none =>
    if place.isPrefixOf tree.here || tree.items.any fun (other, _) => place.isPrefixOf other then
      some .directory
    else none

/-- The place that a name leads to from another. -/
def enter (tree : FileTree) (place : Place) (name : Text) : Except FileFault Place :=
  match tree.item? place with
  | none => .error .notFound
  | some (.file _) => .error .notDirectory
  | some .directory =>
    if (Utf8.encode name).length > FilePath.nameLimit then .error .nameTooLong
    else .ok (place.step name)

/-- Where a path starts. -/
def start (tree : FileTree) (path : Text) : Place :=
  if FilePath.isAbsolute path then [] else tree.here

/-- The place of a path. -/
def locate (tree : FileTree) (path : Text) : Except FileFault Place :=
  if '\x00' ∈ path then .error .zeroInPath
  else if (Utf8.encode path).length > FilePath.pathLimit then .error .nameTooLong
  else (FilePath.names path).foldlM tree.enter (tree.start path)

/-- What stands at a path. -/
def find (tree : FileTree) (path : Text) : Except FileFault FileItem := do
  let place ← tree.locate path
  match tree.item? place with
  | none => throw .notFound
  | some item => pure item

/-- The names in the directory at a path. -/
def namesAt (tree : FileTree) (path : Text) : List Text :=
  match tree.locate path with
  | .error _ => []
  | .ok place =>
    tree.items.filterMap fun (other, _) =>
      if place.isPrefixOf other then other[place.length]? else none

/-- The bytes of the file at a path. -/
def read (tree : FileTree) (path : Text) : Except FileFault (List UInt8) := do
  match ← tree.find path with
  | .directory => throw .isDirectory
  | .file bytes => pure bytes

/-- Sets what stands at a place among others. -/
def setItem (place : Place) (item : FileItem) : List (Place × FileItem) → List (Place × FileItem)
  | [] => [(place, item)]
  | (other, old) :: items =>
    if other = place then (place, item) :: items else (other, old) :: setItem place item items

/-- A tree with something else at a place. -/
def set (tree : FileTree) (place : Place) (item : FileItem) : FileTree :=
  { tree with items := setItem place item tree.items }

/-- The tree after bytes are written to the file at a path, which may be new. -/
def write (tree : FileTree) (path : Text) (bytes : List UInt8) : Except FileFault FileTree := do
  let place ← tree.locate path
  match tree.item? place with
  | some .directory => throw .isDirectory
  | _ => pure (tree.set place (.file bytes))

/-- The files of a tree that another tree does not have, or has with other bytes. -/
def changedSince (before after : FileTree) : List (Place × List UInt8) :=
  after.items.filterMap fun (place, item) =>
    match item with
    | .directory => none
    | .file bytes => if before.items.lookup place = some item then none else some (place, bytes)

end FileTree

end Retrace
