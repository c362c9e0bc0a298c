import LazyBundle.FileReader
import LazyBundle.FileSystem

/-!
# Disks

A tree of directories and files, with a working directory. A path is walked
piece by piece: a name leads into a directory that has to exist, two dots lead
back. Writing a file makes the directories above it.
-/

namespace LazyBundle

structure Disk where
  /-- Files by their names from the root. -/
  files : List (List String × ByteArray) := []
  directories : List (List String) := []
  working : List String := []

namespace Disk

inductive Kind
  | file (content : ByteArray)
  | directory

def lookup? (d : Disk) (place : List String) : Option Kind :=
  match d.files.lookup place with
  | some content => some (.file content)
  | none => if place = [] ∨ place ∈ d.directories ∨ place <+: d.working then some .directory else none

/-- How many bytes a name may take. -/
def maxName : Nat := 255

/-- How many bytes a whole path may take. -/
def maxPath : Nat := 4095

/-- Goes from a directory along the pieces of a path; every piece has to lead to a directory. -/
def walk (d : Disk) : List String → List String → Except IoError (List String)
  | place, [] => .ok place
  | place, piece :: pieces =>
    if piece = "" ∨ piece = "." then d.walk place pieces
    else if piece = ".." then d.walk place.dropLast pieces
    else if maxName < piece.utf8ByteSize then .error .nameTooLong
    else
      let next := place ++ [piece]
      match d.lookup? next with
      | none => .error .notFound
      | some (.file _) => .error .notDirectory
      | some .directory => d.walk next pieces

inductive Goal
  /-- A directory that the path names by its dots or its root. -/
  | known (place : List String)
  /-- A name in a directory; `slash` tells whether a slash follows it. -/
  | named (directory : List String) (name : String) (slash : Bool)

def pieces (p : Path) : List String :=
  (p.text.toList.splitOn '/').map String.ofList

def goal (d : Disk) (p : Path) : Except IoError Goal :=
  if p.text.isEmpty then .error .notFound
  else if p.text.toList.contains '\x00' then .error .zeroInName
  else if maxPath < p.text.utf8ByteSize then .error .nameTooLong
  else
    let all := pieces p
    let body := (all.reverse.dropWhile (· == "")).reverse
    let start := if p.isAbsolute then [] else d.working
    match body.getLast? with
    | none => .ok (.known [])
    | some last => do
      let place ← d.walk start body.dropLast
      if last = "." then pure (.known place)
      else if last = ".." then pure (.known place.dropLast)
      else pure (.named place last (body.length < all.length))

def entry (d : Disk) (directory : List String) (name : String) : Except IoError (Option Kind) :=
  if maxName < name.utf8ByteSize then .error .nameTooLong
  else .ok (d.lookup? (directory ++ [name]))

def find (d : Disk) (p : Path) : Except IoError Kind := do
  match ← d.goal p with
  | .known _ => pure .directory
  | .named place name slash =>
    match ← d.entry place name with
    | none => throw .notFound
    | some (.file content) => if slash then throw .notDirectory else pure (.file content)
    | some .directory => pure .directory

def isFile (d : Disk) (p : Path) : Bool :=
  match d.find p with
  | .ok (.file _) => true
  | _ => false

def isDirectory (d : Disk) (p : Path) : Bool :=
  match d.find p with
  | .ok .directory => true
  | _ => false

def readText (d : Disk) (p : Path) : Except IoError String := do
  match ← d.find p with
  | .directory => throw .isDirectory
  | .file content =>
    match String.fromUTF8? content with
    | some s => pure s
    | none => throw .notUtf8

def makeDirectory (d : Disk) (p : Path) : Except IoError Disk := do
  match ← d.goal p with
  | .known _ => throw .alreadyExists
  | .named place name _ =>
    match ← d.entry place name with
    | some _ => throw .alreadyExists
    | none => pure { d with directories := d.directories ++ [place ++ [name]] }

/-- Makes a directory and those above it. The fuel bounds the number of segments. -/
def makeDirectories (fuel : Nat) (d : Disk) (p : Path) : Disk × Except IoError Unit :=
  match d.makeDirectory p with
  | .ok d => (d, .ok ())
  | .error .notFound =>
    match fuel, p.parent? with
    | fuel + 1, some above =>
      if above.text.isEmpty then (d, .error .notFound)
      else
        match makeDirectories fuel d above with
        | (d, .error e) => (d, .error e)
        | (d, .ok ()) =>
          match d.makeDirectory p with
          | .ok d => (d, .ok ())
          | .error e => (d, if d.isDirectory p then .ok () else .error e)
    | _, _ => (d, .error .notFound)
  | .error e => (d, if d.isDirectory p then .ok () else .error e)

def setFile (place : List String) (content : ByteArray) :
    List (List String × ByteArray) → List (List String × ByteArray)
  | [] => [(place, content)]
  | (q, old) :: rest =>
    if q = place then (q, content) :: rest else (q, old) :: setFile place content rest

/-- Creates a file or replaces its content. A slash at the end asks for a directory, whatever stands
in front of it. -/
def putFile (d : Disk) (p : Path) (content : ByteArray) : Except IoError Disk := do
  match ← d.goal p with
  | .known _ => throw .isDirectory
  | .named place name slash =>
    if slash then throw .isDirectory
    match ← d.entry place name with
    | some .directory => throw .isDirectory
    | _ => pure { d with files := setFile (place ++ [name]) content d.files }

def writeIn (d : Disk) (p : Path) (content : ByteArray) : Disk × Except WriteError Unit :=
  match d.putFile p content with
  | .ok d => (d, .ok ())
  | .error e => (d, .error (.writeFile p e))

def write (d : Disk) (p : Path) (content : String) : Disk × Except WriteError Unit :=
  match p.parent? with
  | none => d.writeIn p content.toUTF8
  | some above =>
    if above.text.isEmpty then d.writeIn p content.toUTF8
    else
      match makeDirectories above.text.length d above with
      | (d, .error e) => (d, .error (.createDirectory above e))
      | (d, .ok ()) => d.writeIn p content.toUTF8

def fileSystem : FileSystem (StateM Disk) where
  write p content := fun d => let r := d.write p content; (r.2, r.1)

def fileReader : FileReader (StateM Disk) where
  isFile p := fun d => (d.isFile p, d)
  readText p := fun d => (d.readText p, d)

end Disk

end LazyBundle
