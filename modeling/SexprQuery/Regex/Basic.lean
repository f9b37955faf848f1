import SexprQuery.Unicode.CharSet

/-!
# Regular expressions

A `Regex` is built of literals, sets of characters and conditions on places. It is
kept in a reduced form by the functions `ofSet`, `concat`, `alternate` and
`repeated`: no row or choice stands directly in another one, literals that follow
each other are one literal, a choice between sets is a set, and a start that all
branches share stands in front of them.

How much room the automaton of an expression takes depends on this form; see
`Regex.Automaton`. What an expression matches does not.
-/

namespace SexprQuery

namespace Regex

/-- A condition on the characters before and behind a place. -/
inductive Look where
  | start
  | stop
  | lineStart (crlf : Bool)
  | lineStop (crlf : Bool)
  | wordBoundary (unicode : Bool)
  | notWordBoundary (unicode : Bool)
  | wordStart (unicode : Bool)
  | wordEnd (unicode : Bool)
  | wordStartHalf (unicode : Bool)
  | wordEndHalf (unicode : Bool)
deriving DecidableEq, Repr

end Regex

/-- A regular expression over sets of characters. -/
inductive Regex where
  /-- The empty text. -/
  | empty
  /-- These characters in a row. -/
  | literal (cs : List Char)
  /-- One character of a set; `bytes` says that it was given as a set of bytes. -/
  | set (s : Unicode.CharSet) (bytes : Bool)
  | look (l : Regex.Look)
  | seq (parts : List Regex)
  | alt (branches : List Regex)
  /-- As many rounds as the bounds allow; a greedy one tries more rounds first. -/
  | repetition (r : Regex) (least : Nat) (most : Option Nat) (greedy : Bool)
  /-- A group that remembers what it matches. -/
  | group (r : Regex)

namespace Regex

open Unicode

/-! ## Properties -/

mutual
/-- True for expressions that match the empty text only. -/
def isEmptyOnly : Regex → Bool
  | .empty | .look _ => true
  | .literal _ | .set _ _ => false
  | .seq rs | .alt rs => allEmptyOnly rs
  | .repetition r _ most _ => r.isEmptyOnly && most.isSome
  | .group r => r.isEmptyOnly
termination_by structural r => r

/-- True if all of several expressions match the empty text only. -/
def allEmptyOnly : List Regex → Bool
  | [] => true
  | r :: rs => r.isEmptyOnly && allEmptyOnly rs
termination_by structural rs => rs
end

mutual
/-- The fewest characters of a match. It is not known for an expression with a set
in it that has no members. -/
def minLength? : Regex → Option Nat
  | .empty | .look _ => some 0
  | .literal cs => some cs.length
  | .set s _ => if s.ranges.isEmpty then none else some 1
  | .seq rs => (minLengths? rs).map List.sum
  | .alt rs => (minLengths? rs).map fun ns => ns.min?.getD 0
  | .repetition r least _ _ => r.minLength?.map (least * ·)
  | .group r => r.minLength?
termination_by structural r => r

/-- The fewest characters of a match for each of several expressions. -/
def minLengths? : List Regex → Option (List Nat)
  | [] => some []
  | r :: rs =>
    match r.minLength?, minLengths? rs with
    | some n, some ns => some (n :: ns)
    | _, _ => none
termination_by structural rs => rs
end

mutual
/-- True if every match is seen to begin at the start of the text. -/
def startsAtStart : Regex → Bool
  | .look l => l = .start
  | .empty | .literal _ | .set _ _ => false
  | .seq rs => rowStartsAtStart rs
  | .alt rs => allStartAtStart rs
  | .repetition r least _ _ => 0 < least && r.startsAtStart
  | .group r => r.startsAtStart
termination_by structural r => r

/-- The same of a row: parts that match the empty text only do not hide those behind
them. -/
def rowStartsAtStart : List Regex → Bool
  | [] => false
  | r :: rs => r.startsAtStart || (r.isEmptyOnly && rowStartsAtStart rs)
termination_by structural rs => rs

/-- The same of every branch. -/
def allStartAtStart : List Regex → Bool
  | [] => true
  | r :: rs => r.startsAtStart && allStartAtStart rs
termination_by structural rs => rs
end

mutual
/-- True if every match is seen to end at the end of the text. -/
def endsAtStop : Regex → Bool
  | .look l => l = .stop
  | .empty | .literal _ | .set _ _ => false
  | .seq rs => rowEndsAtStop rs
  | .alt rs => allEndAtStop rs
  | .repetition r least _ _ => 0 < least && r.endsAtStop
  | .group r => r.endsAtStop
termination_by structural r => r

/-- The same of a row: parts that match the empty text only do not hide those in
front of them. -/
def rowEndsAtStop : List Regex → Bool
  | [] => false
  | r :: rs => rowEndsAtStop rs || (allEmptyOnly rs && r.endsAtStop)
termination_by structural rs => rs

/-- The same of every branch. -/
def allEndAtStop : List Regex → Bool
  | [] => true
  | r :: rs => r.endsAtStop && allEndAtStop rs
termination_by structural rs => rs
end

mutual
/-- True for expressions of the same form. Two groups differ even so, since each
remembers a match of its own. -/
def sameForm : Regex → Regex → Bool
  | .empty, .empty => true
  | .literal a, .literal b => a = b
  | .set s u, .set t v => s = t && u = v
  | .look l, .look m => l = m
  | .seq as, .seq bs => allSameForm as bs
  | .alt as, .alt bs => allSameForm as bs
  | .repetition a m n g, .repetition b m' n' g' => m = m' && n = n' && g = g' && a.sameForm b
  | _, _ => false
termination_by structural r => r

/-- The same of two rows, part by part. -/
def allSameForm : List Regex → List Regex → Bool
  | [], [] => true
  | a :: as, b :: bs => a.sameForm b && allSameForm as bs
  | _, _ => false
termination_by structural as => as
end

/-! ## Building -/

/-- No text at all. -/
def never : Regex := .set CharSet.empty true

/-- One character of a set. A set with one member is a literal. -/
def ofSet (s : CharSet) (bytes : Bool) : Regex :=
  match s.scalars.ranges with
  | [] => never
  | [(lo, hi)] => if lo = hi then .literal [Char.ofNat lo] else .set s.scalars bytes
  | _ => .set s.scalars bytes

/-- The parts of a row. -/
def parts : Regex → List Regex
  | .empty => []
  | .seq rs => rs
  | r => [r]

/-- Put a part in front of a row, joining literals. -/
def consPart (r : Regex) (rs : List Regex) : List Regex :=
  match r, rs with
  | .literal a, .literal b :: rest => .literal (a ++ b) :: rest
  | r, rs => r :: rs

/-- Expressions in a row. -/
def concat (rs : List Regex) : Regex :=
  match (rs.flatMap parts).foldr consPart [] with
  | [] => .empty
  | [r] => r
  | rs => .seq rs

/-- The branches of a choice. -/
def branches : Regex → List Regex
  | .alt rs => rs
  | r => [r]

/-- The single character of a literal. -/
def singleChar? : Regex → Option Char
  | .literal [c] => some c
  | _ => none

/-- The set of an expression that is one. -/
def charSet? : Regex → Option CharSet
  | .set s _ => some s
  | _ => none

/-- A choice between branches that are no choices themselves. Single characters come
together in a set, and so do sets. -/
def choose (rs : List Regex) : Regex :=
  match rs with
  | [] => never
  | [r] => r
  | rs =>
    match rs.mapM singleChar?, rs.mapM charSet? with
    | some cs, _ => ofSet (CharSet.ofRanges (cs.map fun c => (c.toNat, c.toNat))) false
    | none, some sets => ofSet (sets.foldl CharSet.union CharSet.empty) false
    | none, none => .alt rs

/-- The start that two rows share. -/
def sharedStart : List Regex → List Regex → List Regex
  | a :: as, b :: bs => if a.sameForm b then a :: sharedStart as bs else []
  | _, _ => []

/-- The parts of an expression that is a row. -/
def row? : Regex → Option (List Regex)
  | .seq rs => some rs
  | _ => none

/-- A choice of expressions. Where all branches are rows with a common start, that
stands in front; what is left of them has none. -/
def alternate (rs : List Regex) : Regex :=
  match choose (rs.flatMap branches) with
  | .alt rs =>
    match rs.mapM row? with
    | some (first :: rest) =>
      let start := rest.foldl sharedStart first
      if start.isEmpty then .alt rs
      else
        let ends := (first :: rest).map fun row => concat (row.drop start.length)
        concat (start ++ [choose (ends.flatMap branches)])
    | _ => .alt rs
  | r => r

/-- Rounds of an expression. One that matches the empty text only needs no second
round. -/
def repeated (r : Regex) (least : Nat) (most : Option Nat) (greedy : Bool) : Regex :=
  let (least, most) :=
    if r.isEmptyOnly then (min least 1, some (min (most.getD 1) 1)) else (least, most)
  if most = some 0 then .empty
  else if least = 1 ∧ most = some 1 then r
  else .repetition r least most greedy

end Regex
end SexprQuery
