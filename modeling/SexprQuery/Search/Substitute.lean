import SexprQuery.Search.Match

/-!
# Substitution

Matches are found in the whole tree first, and only the outermost ones count:
what lies inside a match goes with it. Then each is replaced at its path, so what
is put in is never searched. A match of the root makes the replacement the
result.

`Node.replaceAtoms` is another kind of substitution: it renames an atom
wherever it stands.
-/

namespace SexprQuery

/-- Leave out what lies inside the match before; `last` is the path of that. -/
def outermostAfter : Option Path → List (Path × Node) → List (Path × Node)
  | _, [] => []
  | last, found :: rest =>
    if last.any fun p => p.isPrefixOf found.1 then outermostAfter last rest
    else found :: outermostAfter (some found.1) rest

namespace Node

/-- The matches that lie in no other match, in pre-order. -/
def outermost (n : Node) (p : Pattern) : List (Path × Node) := outermostAfter none (n.search p)

/-- Put data at paths, none of which leads into another. -/
def putAll (n : Node) : List (Path × Datum) → Datum
  | ([], d) :: _ => d
  | replacements => (replacements.foldl (fun tree r => tree.replaceAt r.1 r.2) n).toDatum

/-- Replace the given matches by what a transformation makes of them. It is called
once for each, in order, and may carry a state along. -/
def replaceFound {σ : Type} (n : Node) (found : List (Path × Node))
    (transform : Match → StateM σ Datum) : StateM σ Datum := do
  let replacements ← found.mapM fun f => do return (f.1, ← transform (Match.ofFound f))
  return n.putAll replacements

/-- Replace every outermost match. -/
def replaceWith {σ : Type} (n : Node) (p : Pattern) (transform : Match → StateM σ Datum) :
    StateM σ Datum :=
  n.replaceFound (n.outermost p) transform

/-- Replace every outermost match by the same datum. -/
def replaceAll (n : Node) (p : Pattern) (d : Datum) : Datum :=
  n.putAll ((n.outermost p).map fun f => (f.1, d))

/-- Replace the first match by a datum. -/
def replaceFirst (n : Node) (p : Pattern) (d : Datum) : Datum :=
  n.putAll (((n.outermost p).take 1).map fun f => (f.1, d))

end Node

mutual
/-- A slot with an atom renamed in it, and how often that was. -/
def Datum.replaceAtoms (old new : Datum) : Datum → Datum × Nat
  | .list line slots =>
    let renamed := slotsReplaceAtoms old new slots
    (.list line renamed.1, renamed.2)
  | d => if d == old then (new, 1) else (d, 0)
termination_by structural d => d

/-- A row of slots with an atom renamed in it, and how often that was. -/
def slotsReplaceAtoms (old new : Datum) : List Datum → List Datum × Nat
  | [] => ([], 0)
  | d :: ds =>
    let head := Datum.replaceAtoms old new d
    let tail := slotsReplaceAtoms old new ds
    (head.1 :: tail.1, head.2 + tail.2)
termination_by structural ds => ds
end

/-- The tree with every atom equal to `old` replaced by `new`, at any depth, and how
often that was. Lists are not renamed, and what is put in is not looked into. -/
def Node.replaceAtoms (n : Node) (old new : Datum) : Node × Nat :=
  let renamed := slotsReplaceAtoms old new n.slots
  ({ n with slots := renamed.1 }, renamed.2)

end SexprQuery
