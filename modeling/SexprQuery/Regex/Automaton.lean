import SexprQuery.Regex.Basic
import SexprQuery.Regex.Bytes
import Std.Data.HashMap

/-!
# The room of an automaton

Text is matched by two automata that read bytes: one reads forward and one reads
backward from the end of a match. Both have to fit into `Room.limit`. What is
computed here is how much room they take, not the automata themselves.

The states of an automaton are numbered in the order in which they are made. A
state takes 32 bytes, eight more for each edge of a state with a list of edges, and
four more for each branch of a state that branches. Repetitions are written out,
round by round. States of a set are shared through a memory that holds one state in
each of its slots, and which slot that is depends on the numbers of other states; so
two copies of one set may differ in size, and each is counted by itself.
-/

namespace SexprQuery.Regex

open Unicode

/-- What has been made of an automaton. -/
structure Room where
  /-- The number of states, which is the number of the next one. -/
  states : Nat
  bytes : Nat
deriving DecidableEq, Repr

namespace Room

/-- The most room that an automaton may take: ten mebibytes. -/
def limit : Nat := 10 * 1024 * 1024

/-- Nothing. -/
def empty : Room := ⟨0, 0⟩

/-- Make some states, with `extra` bytes for edges and branches, within the limit. -/
def add? (room : Room) (states extra : Nat) : Option Room :=
  let bytes := room.bytes + 32 * states + extra
  if bytes ≤ limit then some ⟨room.states + states, bytes⟩ else none

/-- Do something a number of times, as long as there is room. -/
def times (step : Room → Option Room) : Nat → Room → Option Room
  | 0, room => some room
  | n + 1, room =>
    match step room with
    | some room => times step n room
    | none => none

end Room

/-! ## Shared states -/

/-- A memory of states by what they are made of, with one place in each slot. -/
structure Memory where
  size : Nat
  slots : Std.HashMap Nat (List Nat × Nat)

namespace Memory

/-- Nothing is remembered. -/
def empty (size : Nat) : Memory := ⟨size, ∅⟩

/-- The slot of a key: its numbers are mixed into a word one by one. -/
def slot (m : Memory) (key : List Nat) : Nat :=
  let mix (word : UInt64) (n : Nat) : UInt64 := (word ^^^ UInt64.ofNat n) * 1099511628211
  (key.foldl mix 14695981039346656037).toNat % m.size

/-- The state of a key, while nothing has taken its slot. -/
def find? (m : Memory) (key : List Nat) : Option Nat :=
  match m.slots[m.slot key]? with
  | some (held, state) => if held = key then some state else none
  | none => none

/-- Remember the state of a key in place of what its slot holds. -/
def insert (m : Memory) (key : List Nat) (state : Nat) : Memory :=
  { m with slots := m.slots.insert (m.slot key) (key, state) }

end Memory

/-- An automaton in the making with the states that may be shared. -/
structure Draft where
  room : Room
  memory : Memory

/-- The state of a key; a new one, with `extra` bytes, where none is remembered. -/
def Draft.state? (d : Draft) (key : List Nat) (extra : Nat) : Option (Nat × Draft) :=
  match d.memory.find? key with
  | some state => some (state, d)
  | none => do
    let state := d.room.states
    return (state, ⟨← d.room.add? 1 extra, d.memory.insert key state⟩)

/-! ## Sets -/

/-- Make the states that read one of several rows and then go on to `target`. Rows with
the same range in front go on together. `depth` is at least the length of a row. -/
def readRows? (target : Nat) : Nat → List ByteRow → Draft → Option (Nat × Draft)
  | 0, _, d => some (target, d)
  | depth + 1, rows, d =>
    if rows.all List.isEmpty then some (target, d)
    else do
      let groups := rows.splitBy fun a b => a.head? = b.head?
      let (key, d) ← groups.foldlM (fun (key, d) group => do
        let range ← group.head?.bind List.head?
        let (next, d) ← readRows? target depth (group.map List.tail) d
        return (key ++ [range.lo, range.hi, next], d)) (([] : List Nat), d)
      d.state? key (8 * groups.length)

/-- The most states of a set that are remembered when reading forward. -/
def forwardMemory : Nat := 10000

/-- Make the states of a set that is read forward: one where it ends, and a tree of
states with lists of edges. -/
def forwardSet? (rows : List ByteRow) (room : Room) : Option Room := do
  let draft : Draft := ⟨← room.add? 1 0, Memory.empty forwardMemory⟩
  let (_, draft) ← readRows? room.states 4 rows draft
  return draft.room

/-- The most states of a set that are remembered when reading backward. -/
def backwardMemory : Nat := 1000

/-- Make the states of a set that is read backward: one that branches, one where the
set ends, and for each row a chain of states that ends there. -/
def backwardSet? (rows : List ByteRow) (room : Room) : Option Room := do
  let draft : Draft := ⟨← room.add? 2 (4 * rows.length), Memory.empty backwardMemory⟩
  let draft ← rows.foldlM (fun (d : Draft) row => do
    let (_, d) ← row.foldlM (fun (next, d) range =>
      d.state? [next, range.lo, range.hi] 0) (room.states + 1, d)
    return d) draft
  return draft.room

/-! ## Choices between literals -/

/-- Cut a list of words where one of them is empty. -/
def cutAtEmpty : List (List Nat) → List (List (List Nat))
  | [] => [[]]
  | [] :: words => [] :: cutAtEmpty words
  | word :: words =>
    match cutAtEmpty words with
    | [] => [[word]]
    | chunk :: chunks => (word :: chunk) :: chunks

/-- What stands behind a byte in the words that begin with it. -/
def tailsBehind (byte : Nat) (words : List (List Nat)) : List (List Nat) :=
  words.filterMap fun word =>
    match word with
    | b :: rest => if b = byte then some rest else none
    | [] => none

/-- The states, and the bytes besides, of the place from where one of several words is
read. An empty word ends here; the words before it are tried before, those behind it
after. A further empty word adds nothing while no other word has come. -/
def wordsRoom : Nat → List (List Nat) → Nat × Nat
  | 0, _ => (0, 0)
  | depth + 1, words =>
    let ends := words.takeWhile List.isEmpty
    let chunks := cutAtEmpty (ends.take 1 ++ words.drop ends.length)
    let full := chunks.filter fun chunk => !chunk.isEmpty
    let branches := full.length + (chunks.length - 1)
    full.foldl (fun total chunk =>
      let heads := (chunk.filterMap List.head?).eraseDups
      let edges := if heads.length = 1 then 0 else 8 * heads.length
      heads.foldl (fun (states, bytes) head =>
        let tails := tailsBehind head chunk
        if tails.all List.isEmpty then (states, bytes)
        else
          let inner := wordsRoom depth tails
          (states + inner.1, bytes + inner.2)) (total.1 + 1, total.2 + edges)) (1, 4 * branches)

/-- Make the states of a choice between words. -/
def words? (words : List (List Nat)) (room : Room) : Option Room :=
  let depth := (words.map List.length).foldl max 0
  let (states, bytes) := wordsRoom depth words
  room.add? (1 + states) bytes

/-- The characters of a literal. -/
def chars? : Regex → Option (List Char)
  | .literal cs => some cs
  | _ => none

/-! ## Expressions -/

mutual
/-- Make the states of an expression. -/
def room? (backward : Bool) : Regex → Room → Option Room
  | .empty | .look _ => fun room => room.add? 1 0
  | .literal cs => fun room => room.add? (encodeAll cs).length 0
  | .set s _ =>
    if s.isAscii then fun room => room.add? 2 (8 * s.ranges.length)
    else if backward then backwardSet? (setRows s)
    else forwardSet? (setRows s)
  | .seq rs => rowRoom? backward rs
  | .alt rs =>
    match rs.mapM chars? with
    | some texts =>
      words? (texts.map fun cs =>
        if backward then (encodeAll cs).reverse else encodeAll cs)
    | none => branchesRoom? backward (4 * rs.length) 0 rs
  | .repetition r least most _ =>
    let once := r.room? backward
    let optional (room : Room) : Option Room := do once (← room.add? 1 8)
    match most with
    | none =>
      if 0 < least then fun room => do (← Room.times once least room).add? 1 8
      else if r.minLength?.any (0 < ·) then optional
      else fun room => do (← once room).add? 3 16
    | some most =>
      if least = most then Room.times once least
      else if least = 0 ∧ most = 1 then fun room => do (← optional room).add? 1 0
      else fun room => do
        let room ← if least = 0 then room.add? 1 0 else Room.times once least room
        Room.times optional (most - least) (← room.add? 1 0)
  | .group r =>
    if backward then r.room? backward
    else fun room => do (← r.room? backward (← room.add? 1 0)).add? 1 0
termination_by structural r => r

/-- Make the states of a row, in the order in which its parts are read. -/
def rowRoom? (backward : Bool) : List Regex → Room → Option Room
  | [] => some
  | r :: rs => fun room =>
    if backward then do r.room? backward (← rowRoom? backward rs room)
    else do rowRoom? backward rs (← r.room? backward room)
termination_by structural rs => rs

/-- Make the states of branches. The state that branches off and the one where they
meet again, which take `extra` bytes, come behind the second branch. -/
def branchesRoom? (backward : Bool) (extra : Nat) (seen : Nat) :
    List Regex → Room → Option Room
  | [] => some
  | r :: rs => fun room => do
    let room ← r.room? backward room
    let room ← if seen = 1 then room.add? 2 extra else some room
    branchesRoom? backward extra (seen + 1) rs room
termination_by structural rs => rs
end

/-- The room of the automaton that reads forward. In front of the expression it skips
text, unless a match can only begin at the start; around it are the marks of the
whole match. -/
def forwardRoom? (r : Regex) : Option Room := do
  let room ← if r.startsAtStart then Room.empty.add? 1 0 else Room.empty.add? 3 16
  (← r.room? false (← room.add? 1 0)).add? 2 0

/-- The room of the automaton that reads backward, which keeps no marks. -/
def backwardRoom? (r : Regex) : Option Room := do
  let room ← if r.endsAtStop then Room.empty.add? 1 0 else Room.empty.add? 3 16
  (← r.room? true room).add? 1 0

/-- True if both automata keep within the limit. -/
def fits (r : Regex) : Bool := r.forwardRoom?.isSome && r.backwardRoom?.isSome

end SexprQuery.Regex
