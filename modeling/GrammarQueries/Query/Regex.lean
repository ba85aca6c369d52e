/-
# GrammarQueries.Query.Regex -- which texts are regular expressions

A text is a regular expression when it spells one whose parts do not stand too
deep in one another, and the automata that search for it, one for each
direction, are not too large.
-/
import GrammarQueries.Query.Regex.Reader

namespace GrammarQueries.Query.Regex

set_option autoImplicit false

/-- How deep the parts of an expression can stand in one another. -/
def mostDepth : Nat := 250

/-- The most bytes that an automaton can take. -/
def mostRoom : Nat := 10 * 1024 * 1024

def Expression.isUsable (e : Expression) : Bool :=
  e.depth ≤ mostDepth && e.size .forward ≤ mostRoom && e.size .backward ≤ mostRoom

def isValid (text : String) : Bool := (Expression.ofText? text).any Expression.isUsable

end GrammarQueries.Query.Regex
