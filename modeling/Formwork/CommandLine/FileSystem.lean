import Formwork.Text.Basic

/-!
# File systems

A tree of folders, files and links, as a program finds it. The program works in one of the folders,
and the system may refuse to let it into a folder, to hand out what a file holds, and to take what it
writes.

A path is followed name by name, from the root if it begins with a slash and from the working folder
otherwise. The empty name and `.` stay where they are, `..` goes up, but not above the root, and a
link is followed where it is met. What is on the way has to be a folder. A name takes at most 255
bytes and a path at most 4095, and at most 40 links are followed.

* `FileSystem.locate` — the place that a path leads to. There may be nothing yet.
* `FileSystem.read` — what there is to read at a path.
* `FileSystem.write?` — the file system with a file written, unless that fails.
-/

namespace Formwork.CommandLine

/-- What there is to read at a path. -/
inductive Reading
  | absent
  /-- There is something, and it cannot be read. -/
  | unreadable
  | content (bytes : ByteArray)

/-- The names on the way from the root to an entry. -/
abbrev Place := List String

/-- What lies at a place. -/
inductive Entry
  | folder
  | file (bytes : ByteArray)
  /-- A link to what lies at a path, seen from the folder that the link is in. -/
  | link (target : String)

/-- A tree of folders and files around a program. -/
structure FileSystem where
  /-- The entries with their places; of several for one place, the first counts. -/
  entries : List (Place × Entry)
  /-- The working folder of the program. -/
  home : Place
  /-- Whether the program may pass through a folder. -/
  enters : Place → Bool
  /-- Whether the program gets the content of the file at a place. -/
  reads : Place → Bool
  /-- Whether a file with these bytes can be written at a place. The program may lack the right, or
  the system the room. -/
  takes : Place → ByteArray → Bool

namespace FileSystem

/-- What lies at a place. The root is always there. -/
def entry (fs : FileSystem) (place : Place) : Option Entry :=
  if place = [] then some .folder else fs.entries.lookup place

/-- Whether there is a way on from a place: it is a folder that the program may pass through. -/
def opens (fs : FileSystem) (place : Place) : Bool :=
  match fs.entry place with
  | some .folder => fs.enters place
  | _ => false

/-- The target of the link at a place, if one is there. -/
def link? (fs : FileSystem) (place : Place) : Option String :=
  match fs.entry place with
  | some (.link target) => some target
  | _ => none

/-! ## Paths -/

/-- The most bytes that a name in a path takes. -/
def nameLimit : Nat := 255

/-- The most bytes that a path takes. -/
def pathLimit : Nat := 4095

/-- The most links that are followed along a path. -/
def linkLimit : Nat := 40

/-- The names in a path. -/
def names (path : String) : List String :=
  (Text.segments '/' path.toList).map String.ofList

/-- Where a path begins for one who is at a place. -/
def origin (place : Place) (path : String) : Place :=
  if path.toList.head? = some '/' then [] else place

/-- The place that some names lead to from another. At a link it is left to `follow` to go on: from
the folder that the link is in, along its target and then the names that are left. -/
def walk (fs : FileSystem) (follow : Place → String → List String → Option Place) (place : Place) :
    List String → Option Place
  | [] => some place
  | name :: rest =>
    if fs.opens place = false ∨ nameLimit < name.utf8ByteSize then none
    else if name = "" ∨ name = "." then fs.walk follow place rest
    else if name = ".." then fs.walk follow place.dropLast rest
    else match fs.link? (place ++ [name]) with
      | some target => follow place target rest
      | none => fs.walk follow (place ++ [name]) rest

/-- The place that some names lead to from another, over at most so many links. -/
def walkLinks (fs : FileSystem) : Nat → Place → List String → Option Place
  | 0 => fs.walk fun _ _ _ => none
  | links + 1 => fs.walk fun place target rest =>
    fs.walkLinks links (origin place target) (names target ++ rest)

/-- The place that a path leads to. -/
def locate (fs : FileSystem) (path : String) : Option Place :=
  if path = "" ∨ pathLimit < path.utf8ByteSize then none
  else fs.walkLinks linkLimit (origin fs.home path) (names path)

/-! ## Reading and writing -/

/-- What there is to read at a path. -/
def read (fs : FileSystem) (path : String) : Reading :=
  match fs.locate path with
  | none => .absent
  | some place =>
    match fs.entry place with
    | none => .absent
    | some (.file bytes) => if fs.reads place then .content bytes else .unreadable
    | some _ => .unreadable

/-- Whether a file may be written at a place: nothing lies there, or a file, which it replaces. -/
def isFree (fs : FileSystem) (place : Place) : Bool :=
  match fs.entry place with
  | none => true
  | some (.file _) => true
  | some _ => false

/-- Entries with one of them set. -/
def setEntry (place : Place) (e : Entry) : List (Place × Entry) → List (Place × Entry)
  | [] => [(place, e)]
  | f :: fs => if f.1 = place then (place, e) :: fs else f :: setEntry place e fs

/-- The file system with a file at a place. -/
def put (fs : FileSystem) (place : Place) (bytes : ByteArray) : FileSystem :=
  { fs with entries := setEntry place (.file bytes) fs.entries }

/-- The file system with a file written, or nothing where that fails. -/
def write? (fs : FileSystem) (path : String) (bytes : ByteArray) : Option FileSystem :=
  match fs.locate path with
  | none => none
  | some place =>
    if fs.isFree place ∧ fs.takes place bytes then some (fs.put place bytes) else none

end FileSystem

end Formwork.CommandLine
