import SexprQuery.Regex.Meaning
import SexprQuery.Regex.Automaton

/-!
# Compiling regular expressions

A source compiles where it is well formed, has a meaning for text, and its automata
do not grow too large. Every text has a source that matches it literally.
-/

namespace SexprQuery.Regex

/-- Compile a regular expression. -/
def compile? (source : String) : Option Regex := do
  let r ← ofSource? source
  if r.fits then some r else none

/-- Source that matches a text literally: a backslash before each character that has
a meaning of its own. -/
def escape (cs : List Char) : List Char :=
  cs.flatMap fun c => if isMeta c then ['\\', c] else [c]

end SexprQuery.Regex
