import SexprQuery.Regex.Meaning

/-!
# Matching

Whether a regular expression matches somewhere in a text. Places of a text are
numbered by the characters before them, and a set of places is a number with a
bit for each. An expression takes the places where it may begin to the places
where it may end: a character moves the places at which it stands, a condition
keeps the places where it holds, and a repetition adds up rounds until nothing
new comes.
-/

namespace SexprQuery.Regex

-- powers are those of the core library, also beside a library with others
attribute [local instance (2000)] instPowNat

open Unicode

/-- The places of a text with what stands there, as bits: the test is given the
character before the place and the one behind it. -/
def placesWhere (test : Option Char → Option Char → Bool) : Option Char → List Char → Nat
  | before, [] => if test before none then 1 else 0
  | before, c :: cs =>
    (if test before (some c) then 1 else 0) + 2 * placesWhere test (some c) cs

/-- A character that belongs to words. -/
def isWordChar (unicode : Bool) : Option Char → Bool
  | none => false
  | some c => (PerlClass.word.set unicode).contains c.toNat

/-- When a condition holds between two characters. -/
def Look.holds (l : Look) (before behind : Option Char) : Bool :=
  match l with
  | .start => before.isNone
  | .stop => behind.isNone
  | .lineStart false => before.isNone || before == some '\n'
  | .lineStop false => behind.isNone || behind == some '\n'
  | .lineStart true =>
    before.isNone || before == some '\n' || (before == some '\r' && behind != some '\n')
  | .lineStop true =>
    behind.isNone || behind == some '\r' || (behind == some '\n' && before != some '\r')
  | .wordBoundary u => isWordChar u before != isWordChar u behind
  | .notWordBoundary u => isWordChar u before == isWordChar u behind
  | .wordStart u => !isWordChar u before && isWordChar u behind
  | .wordEnd u => isWordChar u before && !isWordChar u behind
  | .wordStartHalf u => !isWordChar u before
  | .wordEndHalf u => !isWordChar u behind

/-- An expression with its sets and conditions evaluated on one text. -/
inductive Plan where
  /-- Move on from these places by one character. -/
  | move (places : Nat)
  /-- Keep these places. -/
  | keep (places : Nat)
  | seq (steps : List Plan)
  | alt (branches : List Plan)
  | repetition (p : Plan) (least : Nat) (most : Option Nat)

/-- Evaluate a test of the next character at every place of a text. -/
def Plan.moveWhere (cs : List Char) (test : Char → Bool) : Plan :=
  .move (placesWhere (fun _ c => c.any test) none cs)

mutual
/-- Evaluate the sets and conditions of an expression on a text. -/
def plan (cs : List Char) : Regex → Plan
  | .empty => .seq []
  | .literal ds => .seq (ds.map fun d => .moveWhere cs (· == d))
  | .set s _ => .moveWhere cs fun c => s.contains c.toNat
  | .look l => .keep (placesWhere l.holds none cs)
  | .seq rs => .seq (plans cs rs)
  | .alt rs => .alt (plans cs rs)
  | .repetition r least most _ => .repetition (plan cs r) least most
  | .group r => plan cs r
termination_by structural r => r

/-- The plans of several expressions. -/
def plans (cs : List Char) : List Regex → List Plan
  | [] => []
  | r :: rs => plan cs r :: plans cs rs
termination_by structural rs => rs
end

/-- Apply a function a number of times, stopping where nothing changes. -/
def iterate (f : Nat → Nat) : Nat → Nat → Nat
  | 0, places => places
  | n + 1, places =>
    let next := f places
    if next = places then places else iterate f n next

mutual
/-- The places where a plan may end that begins at one of the given places; `last` is
the last place of the text. Past one round more than the text has places, further
rounds change nothing. -/
def Plan.ends (last : Nat) : Plan → Nat → Nat
  | .move at_, places => (places &&& at_) <<< 1
  | .keep at_, places => places &&& at_
  | .seq steps, places => endsOfRow last steps places
  | .alt branches, places => endsOfChoice last branches places
  | .repetition p least most, places =>
    let rounds := last + 2
    let first := iterate (p.ends last) (min least rounds) places
    let more := match most with
      | some n => min (n - least) rounds
      | none => rounds
    iterate (fun places => places ||| p.ends last places) more first
termination_by structural p => p

/-- The places where a row of steps may end. -/
def endsOfRow (last : Nat) : List Plan → Nat → Nat
  | [], places => places
  | p :: ps, places => endsOfRow last ps (p.ends last places)
termination_by structural ps => ps

/-- The places where any of several plans may end. -/
def endsOfChoice (last : Nat) : List Plan → Nat → Nat
  | [], _ => 0
  | p :: ps, places => p.ends last places ||| endsOfChoice last ps places
termination_by structural ps => ps
end

/-- True if the expression matches some part of the text. -/
def isMatch (r : Regex) (text : String) : Bool :=
  let cs := text.toList
  (plan cs r).ends cs.length (2 ^ (cs.length + 1) - 1) != 0

end SexprQuery.Regex
