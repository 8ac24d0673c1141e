import LexicalPass.Path

/-!
Files and directories by their places.  A tree knows what was put into it; of
all else it only knows that the directories around the working directory are
there.
-/

set_option autoImplicit false

namespace LexicalPass

/-- Where the names of a place start: the root, or so many levels above the
working directory. -/
inductive Place.Start where
  | above (levels : Nat)
  | root
deriving DecidableEq, Repr

/-- The names lead from the start to the place, the innermost in front. -/
structure Place where
  start : Place.Start
  names : List CodePoints := []
deriving DecidableEq, Repr

namespace Place

def ofAnchor : Path.Anchor → Place
  | .working => { start := .above 0 }
  | .root => { start := .root }
  | .doubleRoot => { start := .root }

/-- The root is its own parent. -/
def parent : Place → Place
  | ⟨start, _ :: names⟩ => ⟨start, names⟩
  | ⟨.above levels, []⟩ => { start := .above (levels + 1) }
  | ⟨.root, []⟩ => { start := .root }

def child (place : Place) (name : CodePoints) : Place := { place with names := name :: place.names }

end Place

inductive FileTree.Node where
  | file (bytes : List UInt8)
  | directory
deriving DecidableEq, Repr

/-- The latest entry for a place counts. -/
structure FileTree where
  entries : List (Place × FileTree.Node) := []
deriving DecidableEq, Repr

/-- What stands at a path. -/
inductive Lookup where
  | file (bytes : List UInt8)
  | directory
  | missing
  /-- A component before the last is a file. -/
  | notDirectory
  /-- The path or a component that was reached has too many bytes. -/
  | tooLong
  /-- The system cannot give what is there and says why. -/
  | failed (reason : String)
deriving DecidableEq, Repr

namespace FileTree

def put (tree : FileTree) (place : Place) (node : Node) : FileTree :=
  ⟨(place, node) :: tree.entries⟩

/-- Every name on the way becomes a directory, also one that double dots leave
again. -/
def insertFrom (node : Node) : FileTree → Place → List CodePoints → FileTree
  | tree, _, [] => tree
  | tree, place, name :: rest =>
      if name = ".." then insertFrom node tree place.parent rest
      else
        let here := place.child name
        insertFrom node (tree.put here (if rest = [] then node else .directory)) here rest

/-- Add an entry together with the directories that lead to it. -/
def insert (tree : FileTree) (path : Path) (node : Node) : FileTree :=
  insertFrom node tree (.ofAnchor path.anchor) path.parts

def find (tree : FileTree) : Place → List CodePoints → Lookup
  | _, [] => .directory
  | place, name :: rest =>
      if name = ".." then tree.find place.parent rest
      else if Path.partLimit < name.byteSize then .tooLong
      else
        match tree.entries.lookup (place.child name) with
        | none => .missing
        | some .directory => tree.find (place.child name) rest
        | some (.file bytes) => if rest = [] then .file bytes else .notDirectory

def lookup (tree : FileTree) (path : Path) : Lookup :=
  if Path.sizeLimit ≤ path.render.byteSize then .tooLong
  else tree.find (.ofAnchor path.anchor) path.parts

end FileTree

end LexicalPass
