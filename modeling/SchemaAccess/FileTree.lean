import SchemaAccess.Text.Line
import SchemaAccess.Text.Quoted

namespace SchemaAccess

/-- A path as it is shown: without empty parts and without single dots. -/
structure Path where
  /-- The slashes that an absolute path starts with. -/
  root : String
  parts : List String
deriving Repr, DecidableEq

namespace Path

/-- Exactly two slashes at the start are kept apart from one. -/
def rootOf (text : List Char) : String :=
  match text.takeWhile (· == '/') with
  | [] => ""
  | ['/', '/'] => "//"
  | _ => "/"

def partsOf (text : List Char) : List String := (Text.partsAt '/' text).map String.ofList

def ofText (text : String) : Path :=
  ⟨rootOf text.toList, (partsOf text.toList).filter fun part => part != "" && part != "."⟩

def shown (p : Path) : String :=
  if p.root = "" ∧ p.parts = [] then "." else p.root ++ "/".intercalate p.parts

def child (p : Path) (name : String) : Path := { p with parts := p.parts ++ [name] }

end Path

inductive FileNode where
  | missing
  | file (text : String)
  | directory
deriving Repr, DecidableEq

namespace FileNode

def text? : FileNode → Option String
  | .file text => some (String.ofList (Text.unifyLineEnds text.toList))
  | _ => none

end FileNode

inductive FileCause where
  | missing
  | present
  | notADirectory
  | isADirectory
  | nameTooLong
deriving Repr, DecidableEq

structure FileFault where
  cause : FileCause
  path : Path
deriving Repr, DecidableEq

def FileCause.message : FileCause → String
  | .missing => "[Errno 2] No such file or directory"
  | .present => "[Errno 17] File exists"
  | .notADirectory => "[Errno 20] Not a directory"
  | .isADirectory => "[Errno 21] Is a directory"
  | .nameTooLong => "[Errno 36] File name too long"

def FileFault.message (f : FileFault) : String := f.cause.message ++ ": " ++ Text.quoted f.path.shown

/-- A place in a tree, by the names that lead to it; a directory that holds the tree; or anything
else, of which nothing is known. -/
inductive TreePlace where
  | inside (names : List String)
  | above
  | elsewhere
deriving Repr, DecidableEq

def TreePlace.step (place : TreePlace) (part : String) : TreePlace :=
  if part = "" ∨ part = "." then place
  else match place with
    | .inside names =>
      if part = ".." then (if names = [] then .above else .inside names.dropLast)
      else .inside (names ++ [part])
    | .above => if part = ".." then .above else .elsewhere
    | .elsewhere => .elsewhere

/-- Files by the names that lead to them, and directories that hold none. -/
structure FileTree where
  files : List (List String × String)
  directories : List (List String)

namespace FileTree

def ofFiles (files : List (String × String)) : FileTree :=
  ⟨files.map fun (path, text) => ((Path.ofText path).parts, text), []⟩

/-- Every file implies the directories on the way to it. -/
def isDirectory (t : FileTree) (names : List String) : Bool :=
  names.isEmpty || t.directories.any (names.isPrefixOf ·) ||
    t.files.any fun f => names.isPrefixOf f.1 && names.length < f.1.length

def node (t : FileTree) : TreePlace → FileNode
  | .above => .directory
  | .elsewhere => .missing
  | .inside names =>
    match t.files.find? (·.1 = names) with
    | some (_, text) => .file text
    | none => if t.isDirectory names then .directory else .missing

/-- The greatest length of one name, in bytes. -/
def nameLimit : Nat := 255

/-- The greatest length of a whole path, in bytes. -/
def pathLimit : Nat := 4095

/-- Follow the parts of a path. Only the last of them may be missing or a file. -/
def follow (t : FileTree) (place : TreePlace) : List String → Except FileCause TreePlace
  | [] => return place
  | part :: rest =>
    match place, t.node place with
    | .elsewhere, _ => return .elsewhere
    | _, .missing => throw .missing
    | _, .file _ => throw .notADirectory
    | _, .directory =>
      if nameLimit < part.utf8ByteSize then throw .nameTooLong else t.follow (place.step part) rest

def start (root : String) : TreePlace := if root = "" then .inside [] else .above

/-- What a path leads to as it is written. The empty path leads nowhere. -/
def look (t : FileTree) (path : String) : FileNode :=
  if path = "" ∨ pathLimit < path.utf8ByteSize then .missing
  else match t.follow (start (Path.rootOf path.toList)) (Path.partsOf path.toList) with
    | .ok place => t.node place
    | .error _ => .missing

def place (t : FileTree) (p : Path) : Except FileCause TreePlace :=
  if pathLimit < p.shown.utf8ByteSize then throw .nameTooLong else t.follow (start p.root) p.parts

/-- What a path leads to. That nothing is there is no fault, but a name too long for anything is. -/
def find (t : FileTree) (p : Path) : Except FileFault FileNode :=
  if p.shown.toList.contains '\x00' then return .missing
  else match t.place p with
    | .ok place => return t.node place
    | .error .nameTooLong => throw ⟨.nameTooLong, p⟩
    | .error _ => return .missing

/-- Make the directory, if everything before the last part of its path is there. -/
def addDirectory (t : FileTree) (p : Path) : Except FileCause FileTree := do
  let place ← t.place p
  match t.node place, place with
  | .missing, .inside names => return { t with directories := t.directories ++ [names] }
  | .missing, _ => return t
  | _, _ => throw .present

/-- An obstacle is none if it is a directory already. -/
def tolerate (t : FileTree) (p : Path) (cause : FileCause) : Except FileFault FileTree :=
  match (t.place p).map t.node with
  | .ok .directory => return t
  | _ => throw ⟨cause, p⟩

/-- Make a directory along with those on the way to it. The parts of its path are taken backwards. -/
def makeWithParents (t : FileTree) (root : String) : List String → Except FileFault FileTree
  | [] => return t
  | last :: before =>
    let p : Path := ⟨root, (last :: before).reverse⟩
    match t.addDirectory p with
    | .ok t => return t
    | .error .missing => do
      let t ← t.makeWithParents root before
      match t.addDirectory p with
      | .ok t => return t
      | .error cause => t.tolerate p cause
    | .error cause => t.tolerate p cause

/-- Make a directory, unless it is there, along with those on the way to it. -/
def makeDirectory (t : FileTree) (p : Path) : Except FileFault FileTree :=
  t.makeWithParents p.root p.parts.reverse

/-- Put a text into a file, which may be new. A file elsewhere leaves the tree as it is. -/
def writeFile (t : FileTree) (p : Path) (text : String) : Except FileFault FileTree :=
  match t.place p with
  | .error cause => throw ⟨cause, p⟩
  | .ok place =>
    match t.node place, place with
    | .directory, _ => throw ⟨.isADirectory, p⟩
    | .file _, .inside names =>
      return { t with files := t.files.map fun f => if f.1 = names then (names, text) else f }
    | .missing, .inside names => return { t with files := t.files ++ [(names, text)] }
    | _, _ => return t

end FileTree

end SchemaAccess
