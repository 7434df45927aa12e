import FlowCorrelation.Dict
import FlowCorrelation.Text.Split

namespace FlowCorrelation

inductive DiskFault where
  | missing
  | notDirectory
  | isDirectory
  | notText
  | refused (reason : String)
deriving DecidableEq, Repr

def DiskFault.message : DiskFault → String
  | .missing => "No such file or directory (os error 2)"
  | .notDirectory => "Not a directory (os error 20)"
  | .isDirectory => "Is a directory (os error 21)"
  | .notText => "stream did not contain valid UTF-8"
  | .refused reason => reason

inductive DiskEntry where
  | directory
  | file (content : ByteArray)

class MonadDisk (m : Type → Type) where
  find : String → m (Except DiskFault DiskEntry)
  /-- Makes the file under a path hold the content, in a directory that is there. -/
  write : String → ByteArray → m (Except DiskFault Unit)
  /-- Makes the directory under a path and those above it. -/
  makeDirectory : String → m (Except DiskFault Unit)

export MonadDisk (makeDirectory)

/-- A place on a disk: the names on the way to it. -/
abbrev Place := List String

structure Disk where
  files : List (Place × ByteArray) := []
  made : List Place := []

def pathNames (path : String) : List String :=
  let parts := (Text.splitAll (· = '/') path.toList).map String.ofList
  let root := if path.toList.head? = some '/' then ["/"] else []
  let dot := if parts.length > 1 ∧ parts.getLast? = some "" then ["."] else []
  root ++ parts.filter (· ≠ "") ++ dot

def parentPath (path : String) : String :=
  match Text.splitLast '/' path.toList with
  | some ([], _) => "/"
  | some (above, _) => String.ofList above
  | none => ""

def joinPath (above path : String) : String :=
  if path.toList.head? = some '/' || above.isEmpty then path
  else if above.toList.getLast? = some '/' then above ++ path
  else above ++ "/" ++ path

namespace Disk

def isDirectory (d : Disk) (p : Place) : Bool :=
  p = [] || p = ["/"] || d.made.any (fun q ↦ p.isPrefixOf q) ||
    d.files.any (fun e ↦ p.isPrefixOf e.1 && p ≠ e.1)

def content? (d : Disk) (p : Place) : Option ByteArray := (d.files.find? (·.1 = p)).map Prod.snd

def entry? (d : Disk) (p : Place) : Option DiskEntry :=
  if d.isDirectory p then some .directory else (d.content? p).map .file

/-- Follows names from a place; all but the last must lead to directories. -/
def follow (d : Disk) : Place → List String → Except DiskFault Place
  | p, [] => .ok p
  | p, name :: names =>
    match d.entry? p with
    | none => .error .missing
    | some (.file _) => .error .notDirectory
    | some .directory =>
      if name = "." then d.follow p names
      else if name = ".." then d.follow p.dropLast names
      else d.follow (p ++ [name]) names

def locate (d : Disk) (path : String) : Except DiskFault Place :=
  if path.isEmpty then .error .missing else d.follow [] (pathNames path)

def find (d : Disk) (path : String) : Except DiskFault DiskEntry := do
  match d.entry? (← d.locate path) with
  | some e => .ok e
  | none => .error .missing

def write (d : Disk) (path : String) (content : ByteArray) : Except DiskFault Disk := do
  let p ← d.locate path
  if d.isDirectory p then .error .isDirectory
  else .ok { d with files := (p, content) :: d.files.filter (·.1 ≠ p) }

def makeAlong (d : Disk) : Place → List String → Except DiskFault Disk
  | _, [] => .ok d
  | p, name :: names =>
    if name = "." then d.makeAlong p names
    else if name = ".." then d.makeAlong p.dropLast names
    else
      let q := p ++ [name]
      match d.entry? q with
      | some .directory => d.makeAlong q names
      | some (.file _) => .error .notDirectory
      | none => makeAlong { d with made := q :: d.made } q names

def makeDirectory (d : Disk) (path : String) : Except DiskFault Disk := d.makeAlong [] (pathNames path)

def change (f : Disk → Except DiskFault Disk) : StateM Disk (Except DiskFault Unit) := fun d ↦
  match f d with
  | .ok d => (.ok (), d)
  | .error e => (.error e, d)

instance : MonadDisk (StateM Disk) where
  find path := fun d ↦ (d.find path, d)
  write path content := change (·.write path content)
  makeDirectory path := change (·.makeDirectory path)

end Disk

variable {m : Type → Type} [Monad m] [MonadDisk m]

def pathExists (path : String) : m Bool := do return (← MonadDisk.find path) matches .ok _

def readBytes (path : String) : m (Except DiskFault ByteArray) := do
  return match ← MonadDisk.find path with
    | .ok (.file content) => .ok content
    | .ok .directory => .error .isDirectory
    | .error e => .error e

def readText (path : String) : m (Except DiskFault String) := do
  return (← readBytes path).bind (fun b ↦ match String.fromUTF8? b with
    | some s => .ok s
    | none => .error .notText)

def appendBytes (path : String) (content : ByteArray) : m (Except DiskFault Unit) := do
  match ← readBytes path with
  | .ok before => MonadDisk.write path (before ++ content)
  | .error .missing => MonadDisk.write path content
  | .error e => return .error e

end FlowCorrelation
