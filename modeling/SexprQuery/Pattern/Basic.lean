import SexprQuery.Datum.Walk
import SexprQuery.Datum.Printer
import SexprQuery.Regex.Compile
import SexprQuery.Regex.Match

/-!
# Patterns

A pattern tests data and never changes it. `Pattern.satisfies` is total: where a
pattern asks for a shape that a datum does not have, the answer is no.

The patterns of a shape are matched slot by slot. A `remaining` at its end takes
every slot that is left; anywhere else it takes exactly one, like `wild`.
-/

namespace SexprQuery

/-- A regular expression that has been compiled. -/
structure TextPattern where
  source : String
  regex : Regex
  /-- The expression is what the source compiles to. -/
  compiled : Regex.compile? source = some regex

namespace TextPattern

/-- Two of them are equal when their sources are. -/
instance : BEq TextPattern := ⟨fun a b => a.source == b.source⟩

/-- Compile a source. -/
def ofSource? (source : String) : Option TextPattern :=
  match h : Regex.compile? source with
  | some regex => some ⟨source, regex, h⟩
  | none => none

/-- The source of the expression that matches exactly one text. -/
def exactSource (text : String) : String :=
  "\\A" ++ String.ofList (Regex.escape text.toList) ++ "\\z"

/-- True if some part of the text matches. -/
def isMatch (p : TextPattern) (text : String) : Bool := p.regex.isMatch text

end TextPattern

/-- What a datum can be tested for. -/
inductive Pattern where
  /-- Anything. -/
  | wild
  /-- Anything; at the end of a shape, all slots that are left. -/
  | remaining
  /-- Any atom. -/
  | atom
  /-- A list whose first slot equals the tag. -/
  | tagged (tag : Datum)
  /-- An atom whose text matches a regular expression. -/
  | text (re : TextPattern)
  /-- A list with a slot that satisfies the inner pattern. -/
  | includes (inner : Pattern)
  /-- A datum that satisfies the inner pattern, or that has a node inside it that
  does. -/
  | within (inner : Pattern)
  /-- A list with a slot that satisfies `subject` and, at least `gap` places behind
  it, one that satisfies `follower`. -/
  | sibling (subject follower : Pattern) (gap : Nat)
  | not (inner : Pattern)
  | any (options : List Pattern)
  | all (required : List Pattern)
  /-- A list, slot by slot. -/
  | shape (elements : List Pattern)
  /-- A datum equal to this one. -/
  | equals (value : Datum)

/-- The slots of a list; an atom has none. -/
def Datum.slots : Datum → List Datum
  | .list _ slots => slots
  | _ => []

namespace Pattern

/-! ## Equality -/

mutual
/-- Equality of patterns: data in them compare as data, regular expressions by
their sources. -/
protected def beq : Pattern → Pattern → Bool
  | .wild, .wild => true
  | .remaining, .remaining => true
  | .atom, .atom => true
  | .tagged a, .tagged b => a == b
  | .text a, .text b => a == b
  | .includes a, .includes b => Pattern.beq a b
  | .within a, .within b => Pattern.beq a b
  | .sibling a b g, .sibling c d h => Pattern.beq a c && Pattern.beq b d && g == h
  | .not a, .not b => Pattern.beq a b
  | .any a, .any b => beqList a b
  | .all a, .all b => beqList a b
  | .shape a, .shape b => beqList a b
  | .equals a, .equals b => a == b
  | _, _ => false
termination_by structural p => p

/-- Pattern by pattern, and equally many. -/
def beqList : List Pattern → List Pattern → Bool
  | [], [] => true
  | a :: as, b :: bs => Pattern.beq a b && beqList as bs
  | _, _ => false
termination_by structural ps => ps
end

instance : BEq Pattern := ⟨Pattern.beq⟩

/-! ## Satisfaction -/

/-- Two slots in this order and at least `gap` apart, at least one place in any
case, of which the first passes one test and the second another. -/
def hasPair (first second : Datum → Bool) (gap : Nat) : List Datum → Bool
  | [] => false
  | d :: ds => (first d && (ds.drop (gap - 1)).any second) || hasPair first second gap ds

mutual
/-- Test a datum. -/
def satisfies : Pattern → Datum → Bool
  | .wild, _ | .remaining, _ => true
  | .atom, d => !d.isList
  | .tagged tag, d => d.slots.head?.any (· == tag)
  | .text re, d => !d.isList && re.isMatch d.text
  | .includes inner, d => d.slots.any inner.satisfies
  | .within inner, d =>
    inner.satisfies d || (d.nodes.drop 1).any fun n => inner.satisfies n.toDatum
  | .sibling subject follower gap, d =>
    hasPair subject.satisfies follower.satisfies gap d.slots
  | .not inner, d => !inner.satisfies d
  | .any options, d => anySatisfied options d
  | .all required, d => allSatisfied required d
  | .shape elements, d => d.isList && fits elements d.slots
  | .equals value, d => d == value
termination_by structural p => p

/-- Some pattern of a list is satisfied. -/
def anySatisfied : List Pattern → Datum → Bool
  | [], _ => false
  | p :: ps, d => p.satisfies d || anySatisfied ps d
termination_by structural ps => ps

/-- Every pattern of a list is satisfied. -/
def allSatisfied : List Pattern → Datum → Bool
  | [], _ => true
  | p :: ps, d => p.satisfies d && allSatisfied ps d
termination_by structural ps => ps

/-- The elements of a shape against the slots of a list. -/
def fits : List Pattern → List Datum → Bool
  | [], slots => slots.isEmpty
  | [.remaining], _ => true
  | p :: ps, d :: ds => p.satisfies d && fits ps ds
  | _ :: _, [] => false
termination_by structural ps => ps
end

/-- Test a node. -/
def satisfiesNode (p : Pattern) (n : Node) : Bool := p.satisfies n.toDatum

/-- True for `remaining` and for shapes that end in it: the patterns that take any
number of slots. -/
def isGreedy : Pattern → Bool
  | .remaining => true
  | .shape elements =>
    match elements.getLast? with
    | some .remaining => true
    | _ => false
  | _ => false

/-- True if an atom, or some node of a list, satisfies the pattern. -/
def matchesWithin (p : Pattern) (d : Datum) : Bool :=
  if d.isList then d.nodes.any p.satisfiesNode else p.satisfies d

/-! ## Construction -/

/-- A list tagged with a symbol. -/
def tag (name : String) : Pattern := .tagged (.sym name)

/-- A symbol. -/
def sym (name : String) : Pattern := .equals (.sym name)

/-- Either of two patterns; a chain on the left grows instead of nesting. -/
def or : Pattern → Pattern → Pattern
  | .any options, q => .any (options ++ [q])
  | p, q => .any [p, q]

/-- Both of two patterns; a chain on the left grows instead of nesting. -/
def and : Pattern → Pattern → Pattern
  | .all required, q => .all (required ++ [q])
  | p, q => .all [p, q]

/-- One pattern before another. -/
def before (p q : Pattern) : Pattern := .sibling p q 1

end Pattern
end SexprQuery
