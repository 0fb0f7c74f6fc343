/-
**Files by their paths.**

What a program reads of the disk is a function from paths, `Files`.  The program itself asks the
system for it; a run without a disk has files that are held in memory.

* `Files.text` is the text of a file, or why it cannot be read;
* `Files.ofEntries` are files in memory: those of a working folder.  Outside of it only the folders
  that every system has are known, and the device that reads as nothing.  A path is walked step by
  step as a system does: a step leads into a folder only, is no longer than 255 octets, and stays
  where it is if it is empty or a dot.
-/

import ClientAssertion.Bytes
import ClientAssertion.Text.Parts

namespace ClientAssertion

/-- What stands at a path. -/
inductive Stored where
  | folder
  | file (octets : Bytes)
  /-- No file, though it can be read as an empty one. -/
  | device
deriving DecidableEq, Repr

/-- Why nothing stands at a path. -/
inductive PathError where
  | absent
  /-- A step leads on from what is no folder. -/
  | notFolder
  | tooLong
deriving DecidableEq, Repr

/-- What stands at each path. -/
abbrev Files := (path : String) → Except PathError Stored

/-- Why a text cannot be read. -/
inductive ReadError where
  | path (error : PathError)
  | folder
  | notText
deriving DecidableEq, Repr

/-- The text of an error. -/
def ReadError.message : ReadError → String
  | .path .absent => "No such file or directory (os error 2)"
  | .path .notFolder => "Not a directory (os error 20)"
  | .path .tooLong => "File name too long (os error 36)"
  | .folder => "Is a directory (os error 21)"
  | .notText => "stream did not contain valid UTF-8"

namespace Files

/-- The text at a path. -/
def text (files : Files) (path : String) : Except ReadError String :=
  match files path with
  | .error error => .error (.path error)
  | .ok .folder => .error .folder
  | .ok .device => .ok ""
  | .ok (.file octets) =>
    match Bytes.text? octets with
    | some text => .ok text
    | none => .error .notText

/-- The steps of a path that do not stay where they are. -/
def steps (path : String) : List String :=
  ((splitAt '/' path.toList).map String.ofList).filter fun step => step ≠ "" ∧ step ≠ "."

/-! ### Files in memory

No more of a system is known here than a run needs that has its files in memory.  The program reads
the files of the disk instead. -/

/-- The names of the folders from a starting point, the last one first. -/
abbrev Trail := List String

/-- Where a walk has led. -/
inductive Place where
  /-- A folder below the working folder, or that one itself. -/
  | inside (trail : Trail)
  /-- A folder below the root, or that one itself. -/
  | below (trail : Trail)
  /-- A folder above the working folder. -/
  | above
  | file (octets : Bytes)
  | device
deriving DecidableEq, Repr

/-- What stands at a place. -/
def Place.stored : Place → Stored
  | .inside _ | .below _ | .above => .folder
  | .file octets => .file octets
  | .device => .device

/-- A place is a folder. -/
def Place.isFolder (place : Place) : Bool := place.stored == .folder

/-- The folders that every system has below its root, so far as a run in memory knows them. -/
def systemFolders : List String :=
  ["bin", "dev", "etc", "home", "lib", "opt", "proc", "root", "run", "sbin", "sys", "tmp", "usr", "var"]

/-- What a name leads to from a folder below the working folder, which holds files at some
paths. -/
def enter? (entries : List (List String × Bytes)) (trail : Trail) (name : String) : Option Place :=
  let path := (name :: trail).reverse
  match entries.find? fun entry => entry.1 = path with
  | some (_, octets) => some (.file octets)
  | none => if entries.any fun entry => path.isPrefixOf entry.1 then some (.inside (name :: trail)) else none

/-- What a name leads to from a folder. -/
def next? (entries : List (List String × Bytes)) (place : Place) (name : String) : Option Place :=
  match place with
  | .inside trail => enter? entries trail name
  | .below [] => if name ∈ systemFolders then some (.below [name]) else none
  | .below ["dev"] => if name = "null" then some .device else none
  | _ => none

/-- The folder that a folder stands in; the root stands in itself. -/
def parent : Place → Place
  | .inside [] => .above
  | .inside (_ :: trail) => .inside trail
  | .below (_ :: trail) => .below trail
  | place => place

/-- How many octets a step may have. -/
def maxStep : Nat := 255

/-- How many octets a path may have. -/
def maxPath : Nat := 4095

/-- Where a step leads. -/
def step (entries : List (List String × Bytes)) (place : Place) (name : String) : Except PathError Place :=
  if !place.isFolder then .error .notFolder
  else if name = "" ∨ name = "." then .ok place
  else if name = ".." then .ok (parent place)
  else if maxStep < name.utf8ByteSize then .error .tooLong
  else
    match next? entries place name with
    | some place => .ok place
    | none => .error .absent

/-- Where steps lead. -/
def walk (entries : List (List String × Bytes)) (place : Place) (names : List String) :
    Except PathError Place :=
  names.foldlM (step entries) place

/-- Files in memory: what stands at a path where a working folder holds some files. -/
def ofEntries (entries : List (String × Bytes)) : Files := fun path => do
  if maxPath < path.utf8ByteSize then .error .tooLong
  else if path = "" then .error .absent
  else
    let entries := entries.map fun (path, octets) => (steps path, octets)
    let start := if path.startsWith "/" then .below [] else .inside []
    return (← walk entries start ((splitAt '/' path.toList).map String.ofList)).stored

end Files

end ClientAssertion
