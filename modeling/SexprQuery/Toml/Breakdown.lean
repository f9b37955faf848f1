import SexprQuery.Toml.Event

/-!
# Breakdown

A text that is no document is put together all the same, to find more faults: each
setting goes into its table as far as it can. A value that was never closed stays in its
place unfinished. Nothing can be put into such a value later on, nor can it be said what
stands in the way: at a dotted key or a header that leads into it, reading breaks down.

`breaksDown` is asked of texts that are no documents.
-/

namespace SexprQuery.Toml

/-- What is known of a place in a document. -/
inductive Outline where
  | value (finished : Bool)
  | table (origin : Origin) (entries : List (String × Outline))
  /-- The tables of a double-bracket header, by the latest of them. -/
  | tables (latest : List (String × Outline))

namespace Outline

/-- The places of a table. -/
abbrev Entries := List (String × Outline)

/-- What is at a key. -/
def lookup? (key : String) (es : Entries) : Option Outline :=
  (es.find? fun e => e.1 = key).map Prod.snd

/-- The places of a table with one of them changed. -/
def put (key : String) (o : Outline) (es : Entries) : Entries :=
  (key, o) :: es.filter fun e => e.1 ≠ key

/-- Change the table at a path, making the tables on the way. The path ends in front of
what it may not lead through, and nothing is changed; into an unfinished value, reading
breaks down. -/
def changeAt? (byKey : Bool) (change : Origin → Entries → Entries) :
    List String → Origin → Entries → Option Entries
  | [], origin, es => some (change origin es)
  | key :: path, _, es =>
    match lookup? key es with
    | none => do
      let made : Origin := if byKey then .dotted else .passing
      return put key (.table made (← changeAt? byKey change path made [])) es
    | some (.value finished) => if finished then some es else none
    | some (.table inner found) =>
      if inner.isOpen byKey then do
        return put key (.table inner (← changeAt? byKey change path inner found)) es
      else some es
    | some (.tables latest) => do
      return put key (.tables (← changeAt? byKey change path .header latest)) es

/-- The places of the table at a path; none if there is no table. -/
def tableAt : List String → Entries → Entries
  | [], es => es
  | key :: path, es =>
    match lookup? key es with
    | some (.table _ found) => tableAt path found
    | some (.tables latest) => if path.isEmpty then [] else tableAt path latest
    | _ => []

/-- Put a value at a dotted key, if it is free. -/
def putValue? (path : List String) (key : String) (finished : Bool) : Entries → Option Entries :=
  changeAt? true (fun origin es =>
    if (origin = .dotted) = path.isEmpty ∨ (lookup? key es).isSome then es
    else put key (.value finished) es) path .header

/-- Put the table of a header where it belongs. A value or a table that has its place
goes, but does not make way for double brackets. -/
def putTable? (many : Bool) (path : List String) (key : String) (own : Entries) :
    Entries → Option Entries :=
  changeAt? false (fun _ es =>
    if many then
      match lookup? key es with
      | none | some (.tables _) => put key (.tables own) es
      | some _ => es
    else put key (.table .header own) es) path .header

end Outline

/-- A key of at least one part: the parts before the last one, and that one. A key with
too many parts is lost. -/
def keyParts? (parts : List String) : Option (List String × String) :=
  if parts.length ≤ longestKey then
    match parts.reverse with
    | [] => none
    | last :: path => some (path.reverse, last)
  else none

/-- The parts of a key behind its first one. -/
def moreParts : List Event → List String × List Event
  | .dot :: .part name :: es =>
    let (names, behind) := moreParts es
    (name :: names, behind)
  | es => ([], es)

/-- The events behind the end of the line. -/
def behindLine (es : List Event) : List Event := (es.dropWhile (· != .lineEnd)).drop 1

/-- Follow lists and tables to their end: whether the outermost of them was closed, and
the events behind it. What cannot stand in one of them ends it unclosed. -/
def follow : List Bool → List Event → Bool × List Event
  | _, [] => (false, [])
  | [], es => (true, es)
  | inner :: outer, e :: es =>
    let ended (closed : Bool) : Bool × List Event :=
      if outer.isEmpty then (closed, es) else follow outer es
    match e, inner with
    | .opened brace, _ => follow (brace :: inner :: outer) es
    | .closed brace, _ => ended (brace == inner)
    | .part _, true =>
      match es with
      | .dot :: behind => follow (inner :: outer) behind
      | es => follow (inner :: outer) es
    | .value, _ | .comma, _ | .lineEnd, _ | .passed, _ | .equals, true => follow (inner :: outer) es
    | .header _, _ | .headerEnd, _ | .dot, _ | .part _, false | .equals, false => ended false

/-- The value that events begin with: whether it is finished, and the events behind it.
What is no value stands for one that is not finished. -/
def valueOf : List Event → Bool × List Event
  | .opened brace :: es => follow [brace] es
  | .value :: es => (true, es)
  | es => (false, es.drop 1)

/-- The key of a header and the events behind the header. Of several keys the last one
counts. `fuel` bounds the steps; each one takes at least one event. -/
def headerKey (key : Option (List String × String)) :
    Nat → List Event → Option (List String × String) × List Event
  | 0, es => (key, es)
  | _, [] => (key, [])
  | _, .headerEnd :: es => (key, es)
  | fuel + 1, .part name :: es =>
    let (names, behind) := moreParts es
    headerKey (keyParts? (name :: names)) fuel behind
  | fuel + 1, _ :: es => headerKey key fuel es

/-- The table that settings go into. -/
inductive Heading where
  /-- The top table. -/
  | top
  /-- The table of a header; `many` for double brackets. -/
  | table (many : Bool) (path : List String) (key : String)
  /-- A table whose header has no key. -/
  | lost

/-- A document that is put together: the tables that are complete, the heading of the
one that is open, and what is in that. -/
structure Assembly where
  done : Outline.Entries
  heading : Heading
  entries : Outline.Entries

namespace Assembly

/-- The tables with the open one in its place. -/
def close? (a : Assembly) : Option Outline.Entries :=
  match a.heading with
  | .top => some a.entries
  | .table many path key => Outline.putTable? many path key a.entries a.done
  | .lost => some a.done

/-- Open the table of a header. With single brackets it takes over what is in a table
that has its place. -/
def open? (many : Bool) (key : Option (List String × String)) (done : Outline.Entries) :
    Option Assembly :=
  match key with
  | none => some ⟨done, .lost, []⟩
  | some (path, key) =>
    if many then some ⟨done, .table many path key, []⟩
    else do
      let without (_ : Origin) (es : Outline.Entries) := es.filter fun e => e.1 ≠ key
      let left ← Outline.changeAt? false without path .header done
      return ⟨left, .table many path key, Outline.tableAt (path ++ [key]) done⟩

/-- Follow the events of a text; true if reading breaks down. Where a key is not followed
by an equals sign, the rest of the text is left. `fuel` bounds the steps; each one takes
at least one event. -/
def breaksDown : Nat → List Event → Assembly → Bool
  | 0, _, a | _, [], a => a.close?.isNone
  | fuel + 1, .header many :: es, a =>
    let (key, behind) := headerKey none es.length es
    match a.close? >>= open? many key with
    | none => true
    | some a => breaksDown fuel (behindLine behind) a
  | fuel + 1, .part name :: es, a =>
    let (names, behind) := moreParts es
    match keyParts? (name :: names), behind with
    | some (path, key), .equals :: es =>
      let (finished, behind) := valueOf es
      match Outline.putValue? path key finished a.entries with
      | none => true
      | some entries => breaksDown fuel (behindLine behind) { a with entries }
    | _, _ => a.close?.isNone
  | fuel + 1, _ :: es, a => breaksDown fuel es a

end Assembly

/-- True if reading a text breaks down. -/
def breaksDown (text : String) : Bool :=
  let es := eventsOf (characters text)
  Assembly.breaksDown (es.length + 1) es ⟨[], .top, []⟩

end SexprQuery.Toml
