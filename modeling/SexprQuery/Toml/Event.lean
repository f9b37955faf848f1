import SexprQuery.Toml.Piece

/-!
# What a faulty text reports

Reading does not stop at a fault: it reports what it meets, in order, and finds its way
back. A missing key or value is made up, a missing comma is left out, and behind a piece
that cannot stand where it does reading goes on as if it had not been there.

A bracket where a table between braces needs a key is passed over with all that it
encloses, but its partner is reported as if it closed a list. Apart from that, and from
headers that are never closed, what is opened is closed again, at the latest by the end
of the text.

`Reading.step` says what each piece does. A stack of frames holds what is open: the line
at the bottom, above it lists and tables.
-/

namespace SexprQuery.Toml

/-- What reading reports. -/
inductive Event where
  /-- A header begins; `many` for double brackets. -/
  | header (many : Bool)
  | headerEnd
  /-- A part of a key. -/
  | part (name : String)
  /-- The dot between two parts. -/
  | dot
  | equals
  /-- A value that is neither a list nor a table. -/
  | value
  /-- A list begins, or a table between braces. -/
  | opened (brace : Bool)
  /-- A list ends, or a table between braces. -/
  | closed (brace : Bool)
  | comma
  | lineEnd
  /-- A comment, or a piece that cannot stand where it does. -/
  | passed
deriving DecidableEq, Repr

/-- Where in a setting reading is. -/
inductive Stage where
  | start
  /-- Behind a part of the key. -/
  | part
  /-- Behind a dot of the key. -/
  | dot
  /-- Behind the key. -/
  | key
  | equals
  /-- Behind the value. -/
  | value
deriving DecidableEq, Repr

/-- Something open. -/
inductive Frame where
  /-- A line, in its setting or behind a header. -/
  | line (stage : Stage)
  /-- A header behind its first bracket. -/
  | bracket
  /-- A header; the stage is `dot` where a part of the key must follow, and `key` behind
  the first closing bracket of two. -/
  | header (many : Bool) (stage : Stage)
  /-- The rest of a line that is passed over. -/
  | rest
  /-- A list; `full` behind an item. -/
  | brackets (full : Bool)
  /-- A table between braces. -/
  | braces (stage : Stage)
  /-- What is passed over up to a closing bracket, or a closing brace, with the number of
  brackets and of braces that were opened in it. -/
  | ignored (brace : Bool) (brackets braces : Nat)
  /-- An unquoted value, which bare words and dots go on with. -/
  | unquoted
deriving DecidableEq, Repr

/-- A reading: how deep it is in lists and tables, what is open, innermost first, and
what it has reported, latest first. -/
structure Reading where
  depth : Int
  frames : List Frame
  events : List Event

namespace Reading

/-- Report an event. -/
def emit (r : Reading) (e : Event) : Reading := { r with events := e :: r.events }

/-- Open a frame. -/
def push (r : Reading) (f : Frame) : Reading := { r with frames := f :: r.frames }

/-- Open a list or a table. Where it is nested too deep it is passed over. -/
def enter (r : Reading) (brace : Bool) : Reading :=
  let inner : Frame :=
    if (depthLimit : Int) ≤ r.depth then .ignored brace 0 0
    else if brace then .braces .start
    else .brackets false
  { (r.emit (.opened brace)).push inner with depth := r.depth + 1 }

/-- Report the end of a list or a table, whose frame is gone. -/
def leave (r : Reading) (brace : Bool) : Reading :=
  { r.emit (.closed brace) with depth := r.depth - 1 }

/-- A piece of a line that is passed over. -/
def passLine (r : Reading) : Piece → Reading
  | .lineEnd => (r.emit .lineEnd).push (.line .start)
  | _ => (r.emit .passed).push .rest

/-- The first piece of a value, above the frame that goes on behind the value. A closing
bracket or brace stands for an empty list or table. -/
def startValue (r : Reading) : Piece → Reading
  | .bare _ | .sign '.' => (r.emit .value).push .unquoted
  | .sign '[' => r.enter false
  | .sign '\x7b' => r.enter true
  | .sign ']' => (r.emit (.opened false)).emit (.closed false)
  | .sign '\x7d' => (r.emit (.opened true)).emit (.closed true)
  | _ => r.emit .value

/-- A piece behind the key of a line. -/
def stepLineKey (r : Reading) : Piece → Reading
  | .sign '=' => (r.emit .equals).push (.line .equals)
  | p => r.passLine p

/-- A piece behind the value of a line. -/
def stepLineEnd (r : Reading) : Piece → Reading
  | .comment => (r.emit .passed).push (.line .value)
  | p => r.passLine p

/-- A piece of a line; its frame is gone. -/
def stepLine (r : Reading) (stage : Stage) (p : Piece) : Reading :=
  match stage, p with
  | .start, .bare name | .start, .quoted name | .dot, .bare name | .dot, .quoted name =>
    (r.emit (.part name)).push (.line .part)
  | .start, .sign '.' | .dot, .sign '.' => ((r.emit (.part "")).emit .dot).push (.line .dot)
  | .start, .sign '=' => ((r.emit (.part "")).emit .equals).push (.line .equals)
  | .start, .sign '[' => r.push .bracket
  | .start, .comment => (r.emit .passed).push (.line .start)
  | .start, p => r.passLine p
  | .dot, p => (r.emit (.part "")).stepLineKey p
  | .part, .sign '.' => (r.emit .dot).push (.line .dot)
  | .part, p | .key, p => r.stepLineKey p
  | .equals, .sign '=' => (r.emit .passed).push (.line .equals)
  | .equals, .sign ',' | .equals, .comment | .equals, .lineEnd => (r.emit .value).stepLineEnd p
  | .equals, p => (r.push (.line .value)).startValue p
  | .value, p => r.stepLineEnd p

/-- A piece behind the key of a header. -/
def stepHeaderKey (r : Reading) (many : Bool) : Piece → Reading
  | .sign ']' =>
    if many then r.push (.header many .key) else (r.emit .headerEnd).push (.line .value)
  | p => r.passLine p

/-- A piece of a header; its frame is gone. -/
def stepHeader (r : Reading) (many : Bool) (stage : Stage) (spaced : Bool) (p : Piece) :
    Reading :=
  match stage, p with
  | .dot, .bare name | .dot, .quoted name => (r.emit (.part name)).push (.header many .part)
  | .dot, .sign '.' => ((r.emit (.part "")).emit .dot).push (.header many .dot)
  | .dot, p => (r.emit (.part "")).stepHeaderKey many p
  | .part, .sign '.' => (r.emit .dot).push (.header many .dot)
  | .key, .sign ']' =>
    if spaced then r.passLine p else (r.emit .headerEnd).push (.line .value)
  | .key, p => r.passLine p
  | _, p => r.stepHeaderKey many p

/-- The second piece of a header: one more bracket is read with the first. -/
def stepBracket (r : Reading) (spaced : Bool) (p : Piece) : Reading :=
  if p = .sign '[' ∧ !spaced then (r.emit (.header true)).push (.header true .dot)
  else (r.emit (.header false)).stepHeader false .dot spaced p

/-- A piece of a list; its frame is gone. -/
def stepBrackets (r : Reading) (full : Bool) (p : Piece) : Reading :=
  match p with
  | .lineEnd => (r.emit .lineEnd).push (.brackets full)
  | .comment | .sign '=' => (r.emit .passed).push (.brackets full)
  | .sign ',' => (r.emit (if full then .comma else .passed)).push (.brackets false)
  | .sign ']' => r.leave false
  | p => ((if full then r.emit .comma else r).push (.brackets true)).startValue p

/-- A piece behind the key of a table between braces. -/
def stepBracesKey (r : Reading) : Piece → Reading
  | .sign '=' => (r.emit .equals).push (.braces .equals)
  | .sign '\x7d' => ((r.emit .equals).emit .value).leave true
  | .sign ',' | .sign ']' | .comment => (r.emit .passed).push (.braces .key)
  | .lineEnd => (r.emit .lineEnd).push (.braces .key)
  | p => (r.push (.braces .value)).startValue p

/-- A piece of a table between braces; its frame is gone. -/
def stepBraces (r : Reading) (stage : Stage) (p : Piece) : Reading :=
  match stage, p with
  | .start, .bare name | .start, .quoted name | .value, .bare name | .value, .quoted name
  | .dot, .bare name | .dot, .quoted name => (r.emit (.part name)).push (.braces .part)
  | .start, .sign '.' | .value, .sign '.' | .dot, .sign '.' =>
    ((r.emit (.part "")).emit .dot).push (.braces .dot)
  | .start, .sign '=' => ((r.emit (.part "")).emit .equals).push (.braces .equals)
  | .value, .sign ',' => (r.emit .comma).push (.braces .start)
  | .start, .sign '[' | .value, .sign '[' =>
    ((r.emit .passed).push (.braces stage)).push (.ignored false 0 0)
  | .start, .sign '\x7b' | .value, .sign '\x7b' =>
    ((r.emit .passed).push (.braces stage)).push (.ignored true 0 0)
  | .start, .sign '\x7d' | .value, .sign '\x7d' => r.leave true
  | .equals, .sign '\x7d' => (r.emit .value).leave true
  | .start, .lineEnd | .value, .lineEnd | .equals, .lineEnd =>
    (r.emit .lineEnd).push (.braces stage)
  | .start, _ | .value, _ | .equals, .comment | .equals, .sign ',' | .equals, .sign '=' =>
    (r.emit .passed).push (.braces stage)
  | .equals, p => (r.push (.braces .value)).startValue p
  | .part, .sign '.' => (r.emit .dot).push (.braces .dot)
  | .dot, p => (r.emit (.part "")).stepBracesKey p
  | .part, p | .key, p => r.stepBracesKey p

/-- A piece that is passed over with what a bracket encloses; the frame is gone. -/
def stepIgnored (r : Reading) (brace : Bool) (brackets braces : Nat) (p : Piece) : Reading :=
  match p with
  | .lineEnd => (r.emit .lineEnd).push (.ignored brace brackets braces)
  | .sign '[' => (r.emit .passed).push (.ignored brace (brackets + 1) braces)
  | .sign '\x7b' => (r.emit .passed).push (.ignored brace brackets (braces + 1))
  | .sign ']' =>
    if !brace ∧ brackets = 0 then r.leave false
    else (r.emit .passed).push (.ignored brace (brackets - 1) braces)
  | .sign '\x7d' =>
    if brace ∧ braces = 0 then r.leave true
    else (r.emit .passed).push (.ignored brace brackets (braces - 1))
  | _ => (r.emit .passed).push (.ignored brace brackets braces)

/-- A piece with some frames open. -/
def stepOn (r : Reading) (p : Placed) : List Frame → Reading
  | [] => r
  | .unquoted :: outer =>
    match p.piece with
    | .bare _ => { r with frames := .unquoted :: outer }
    | .sign '.' => if p.spaced then r.stepOn p outer else { r with frames := .unquoted :: outer }
    | _ => r.stepOn p outer
  | .line stage :: outer => { r with frames := outer }.stepLine stage p.piece
  | .bracket :: outer => { r with frames := outer }.stepBracket p.spaced p.piece
  | .header many stage :: outer =>
    { r with frames := outer }.stepHeader many stage p.spaced p.piece
  | .rest :: outer => { r with frames := outer }.passLine p.piece
  | .brackets full :: outer => { r with frames := outer }.stepBrackets full p.piece
  | .braces stage :: outer => { r with frames := outer }.stepBraces stage p.piece
  | .ignored brace brackets braces :: outer =>
    { r with frames := outer }.stepIgnored brace brackets braces p.piece

/-- The effect of a piece. -/
def step (r : Reading) (p : Placed) : Reading := r.stepOn p r.frames

/-- What the end of the text still reports for a frame. -/
def closing : Frame → List Event
  | .line .dot | .header _ .dot => [.part ""]
  | .line .equals => [.value]
  | .bracket => [.header false, .part ""]
  | .brackets _ => [.closed false]
  | .braces .dot => [.part "", .equals, .value, .closed true]
  | .braces .part | .braces .key => [.equals, .value, .closed true]
  | .braces .equals => [.value, .closed true]
  | .braces _ => [.closed true]
  | _ => []

end Reading

/-- The events of a text. -/
def eventsOf (cs : List Char) : List Event :=
  let r := (pieces cs).foldl Reading.step ⟨0, [.line .start], []⟩
  r.events.reverse ++ r.frames.flatMap Reading.closing

end SexprQuery.Toml
