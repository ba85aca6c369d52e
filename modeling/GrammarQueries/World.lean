/-
# GrammarQueries.World -- what lookups see of their surroundings

A lookup depends on two things outside the grammar: the files, the running
executable among them, and the variable that names a directory of bundles.
-/
import GrammarQueries.FileSystem.Basic

namespace GrammarQueries

set_option autoImplicit false

/-- The environment variable that names the directory of bundles. -/
def resourceVariable : String := "LINGO_RESOURCE_ROOT"

/-- The surroundings of a lookup. -/
structure World where
  files : FileSystem
  /-- The value of `resourceVariable`, absent when it is unset. -/
  variableValue? : Option Path

def World.executable (w : World) : Except FileError Path :=
  w.files.executable.map (fun place => Path.ofLocation place.location)

end GrammarQueries
