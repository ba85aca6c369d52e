/-
# GrammarQueries.FileSystem.Basic -- a tree of named nodes in listing order

A file system is a list of entries.  An entry's location is the list of names
that leads to it, innermost first, so the parent of `n :: at` is `at` and the
root is `[]`.  The location is the identity of a directory: links are nodes of
their own and never give a directory a second location.

A name can hold anything but what a path reads otherwise (`isName`); the type
`Name` carries this, so every listed name, appended to a path, is read back as
itself.  The entries of one directory are listed in the order in which they
stand here.
-/
import GrammarQueries.Path

namespace GrammarQueries

set_option autoImplicit false

/-! ## Why the system refuses a path -/

/-- The reasons for which the system refuses to open, list or make something. -/
inductive FileError where
  | notFound
  | noSuchDevice
  | alreadyExists
  | notADirectory
  | isADirectory
  | nameTooLong
  | directoryNotEmpty
  | tooManyLinks
  /-- The path holds a zero byte, which the system cannot be given. -/
  | zeroByte
  deriving DecidableEq, Repr

def FileError.message : FileError → String
  | .notFound => "No such file or directory (os error 2)"
  | .noSuchDevice => "No such device or address (os error 6)"
  | .alreadyExists => "File exists (os error 17)"
  | .notADirectory => "Not a directory (os error 20)"
  | .isADirectory => "Is a directory (os error 21)"
  | .nameTooLong => "File name too long (os error 36)"
  | .directoryNotEmpty => "Directory not empty (os error 39)"
  | .tooManyLinks => "Too many levels of symbolic links (os error 40)"
  | .zeroByte => "file name contained an unexpected NUL byte"

/-! ## Names, nodes and entries -/

def longestName : Nat := 255

/-- Bytes that can name an entry: some, not too many, without a separator or a
zero byte, and other than `.` and `..`. -/
def isName (bytes : List UInt8) : Bool :=
  bytes ≠ [] && bytes ≠ [dot] && bytes ≠ [dot, dot] && !bytes.contains separator &&
    !bytes.contains 0 && bytes.length ≤ longestName

structure Name where
  bytes : List UInt8
  valid : isName bytes = true
  deriving DecidableEq

/-- A hidden name begins with a dot. -/
def Name.isHidden (n : Name) : Bool := n.bytes.head? == some dot

/-- What stands at a location once links are followed. -/
inductive Object where
  | directory
  | file (content : List UInt8)
  /-- Neither a file nor a directory. -/
  | socket
  deriving DecidableEq

/-- What stands at a location: an object, or a link with its stored path. -/
inductive Node where
  | object (o : Object)
  | link (target : Path)
  deriving DecidableEq

/-- The names from an entry up to the root, innermost first. -/
abbrev Location := List Name

structure Entry where
  location : Location
  node : Node
  deriving DecidableEq

def Path.ofLocation (location : Location) : Path :=
  location.reverse.foldl (fun p name => p.child name.bytes) ⟨[separator]⟩

/-- Where something is that may have been removed: the part of its location that
still stands in the tree, and below that the names that went.  A removed entry
keeps its last names, and what is above them can still move. -/
structure Whereabouts where
  standing : Location
  gone : List Name
  deriving DecidableEq

/-- All names of the way, innermost first. -/
def Whereabouts.location (w : Whereabouts) : Location := w.gone ++ w.standing

/-- The entries below the root in listing order, the directory in which relative
paths begin, and where the running executable is, or why that is not known. -/
structure FileSystem where
  entries : List Entry
  workingDirectory : Location
  executable : Except FileError Whereabouts

namespace FileSystem

/-! ## Looking at one location -/

/-- The node at a location; the root is a directory. -/
def node? (fs : FileSystem) (location : Location) : Option Node :=
  if location = [] then some (.object .directory)
  else (fs.entries.find? (fun e => decide (e.location = location))).map Entry.node

/-- The name under which an entry stands directly in `directory`. -/
def nameIn? (directory : Location) (e : Entry) : Option Name :=
  match e.location with
  | [] => none
  | name :: parent => if parent = directory then some name else none

def names (fs : FileSystem) (directory : Location) : List Name :=
  fs.entries.filterMap (nameIn? directory)

/-- The locations of all directories, the root first. -/
def directories (fs : FileSystem) : List Location :=
  [] :: (fs.entries.filter (fun e => decide (e.node = .object .directory))).map Entry.location

/-- No location of an entry is longer than this. -/
def height (fs : FileSystem) : Nat :=
  fs.entries.foldr (fun e n => max e.location.length n) 0

/-! ## Small facts -/

theorem node?_eq_some_of_ne_nil {fs : FileSystem} {location : Location} {n : Node}
    (hl : location ≠ []) (h : fs.node? location = some n) :
    ∃ e ∈ fs.entries, e.location = location ∧ e.node = n := by
  rw [node?, if_neg hl, Option.map_eq_some_iff] at h
  obtain ⟨e, he, rfl⟩ := h
  exact ⟨e, List.mem_of_find?_eq_some he, by simpa using List.find?_some he, rfl⟩

theorem mem_directories {fs : FileSystem} {location : Location}
    (h : fs.node? location = some (.object .directory)) : location ∈ fs.directories := by
  by_cases hl : location = []
  · simp [hl, directories]
  · obtain ⟨e, he, rfl, hn⟩ := node?_eq_some_of_ne_nil hl h
    simp only [directories, List.mem_cons, List.mem_map, List.mem_filter]
    exact .inr ⟨e, ⟨he, by simpa using hn⟩, rfl⟩

theorem length_le_height {fs : FileSystem} {location : Location} {n : Node}
    (h : fs.node? location = some n) : location.length ≤ fs.height := by
  by_cases hl : location = []
  · simp [hl]
  · obtain ⟨e, he, rfl, _⟩ := node?_eq_some_of_ne_nil hl h
    have key : ∀ es : List Entry, e ∈ es →
        e.location.length ≤ es.foldr (fun e n => max e.location.length n) 0 := by
      intro es
      induction es with
      | nil => intro hm; cases hm
      | cons a es ih =>
        intro hm
        rcases List.mem_cons.1 hm with rfl | hm
        · exact Nat.le_max_left _ _
        · exact Nat.le_trans (ih hm) (Nat.le_max_right _ _)
    exact key _ he

end FileSystem

end GrammarQueries
