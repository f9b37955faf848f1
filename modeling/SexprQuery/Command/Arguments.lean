/-!
# Arguments of the command line

What is asked for is one of the commands `search`, `parse` and `apply`, or a help or
version text. Arguments are read from left to right, and the first fault, or the
first question for help or version, ends the reading:

* an argument that starts with two dashes is an option by its name, `--rules FILE` or
  `--rules=FILE`;
* an argument that starts with one dash has options by their letters, `-nd`, where a
  value follows the last of them, `-rFILE`, `-r=FILE` or `-r FILE`;
* behind a lone `--`, and for a lone dash, an argument is a word.

An option may be given once, and a name of a file is never empty.
-/

namespace SexprQuery.Command

/-- How the matches of a search are shown. -/
inductive SearchStyle where
  | lines
  | count
  | json
deriving DecidableEq, Repr

/-- What is asked for. -/
inductive Request where
  | search (pattern : String) (paths : List String) (style : SearchStyle)
  | parse (pattern : String)
  | apply (rules : String) (paths : List String) (dryRun showDiff : Bool)
  | help
  | version
deriving DecidableEq, Repr

/-- An option. -/
structure Flag where
  name : String
  letter : Option Char
  takesFile : Bool
deriving DecidableEq, Repr

/-- An option that says yes. -/
def switch (name : String) (letter : Option Char) : Flag := ⟨name, letter, false⟩

/-- What one of the commands allows. -/
structure Grammar where
  flags : List Flag
  /-- The largest number of words, where there is one. -/
  mostWords : Option Nat
  /-- True where the first word is a text and not the name of a file. -/
  startsWithText : Bool

/-- Options of every command. -/
def commonFlags : List Flag := [switch "verbose" (some 'v'), switch "help" (some 'h')]

/-- What stands before the command. -/
def frontGrammar : Grammar := ⟨commonFlags ++ [switch "version" (some 'V')], some 0, false⟩

/-- What `search` allows. -/
def searchGrammar : Grammar :=
  ⟨commonFlags ++ [switch "count" (some 'c'), switch "json" none], none, true⟩

/-- What `parse` allows. -/
def parseGrammar : Grammar := ⟨commonFlags, some 1, true⟩

/-- What `apply` allows. -/
def applyGrammar : Grammar :=
  ⟨commonFlags ++ [⟨"rules", some 'r', true⟩, switch "dry-run" (some 'n'),
    switch "diff" (some 'd')], none, false⟩

/-- Why reading ends early. -/
inductive Stop where
  | misuse
  | help
  | version
deriving DecidableEq, Repr

/-- What has been read: the options with their values, and the words. -/
structure Reading where
  given : List (Flag × String)
  words : List String

namespace Reading

/-- Nothing. -/
def empty : Reading := ⟨[], []⟩

/-- True if an option has been given. -/
def has (r : Reading) (name : String) : Bool := r.given.any fun g => g.1.name = name

/-- The value of an option. -/
def value? (r : Reading) (name : String) : Option String :=
  (r.given.find? fun g => g.1.name = name).map Prod.snd

/-- Take in an option with its value. -/
def give (r : Reading) (flag : Flag) (value : String) : Except Stop Reading :=
  if r.has flag.name || (flag.takesFile && value.isEmpty) then .error .misuse
  else if flag.name = "help" then .error .help
  else if flag.name = "version" then .error .version
  else .ok { r with given := r.given ++ [(flag, value)] }

/-- Take in a word. -/
def addWord (g : Grammar) (r : Reading) (word : String) : Except Stop Reading :=
  let isFull := g.mostWords.any fun most => most ≤ r.words.length
  let isFile := !(g.startsWithText && r.words.isEmpty)
  if isFull || (isFile && word.isEmpty) then .error .misuse
  else .ok { r with words := r.words ++ [word] }

/-- Take in the options of some letters; gives also an option whose value has to
follow. -/
def addLetters (g : Grammar) (r : Reading) : List Char → Except Stop (Reading × Option Flag)
  | [] => .ok (r, none)
  | c :: cs =>
    match g.flags.find? fun flag => flag.letter = some c with
    | none => .error .misuse
    | some flag =>
      if flag.takesFile then
        match cs with
        | [] => .ok (r, some flag)
        | '=' :: value => do return (← r.give flag (String.ofList value), none)
        | value => do return (← r.give flag (String.ofList value), none)
      else do addLetters g (← r.give flag "") cs

/-- Take in an option by its name, and the value behind an equals sign; gives also an
option whose value has to follow. -/
def addNamed (g : Grammar) (r : Reading) (cs : List Char) : Except Stop (Reading × Option Flag) :=
  let name := String.ofList (cs.takeWhile (· != '='))
  match g.flags.find? fun flag => flag.name = name, cs.dropWhile (· != '=') with
  | none, _ => .error .misuse
  | some flag, [] => if flag.takesFile then .ok (r, some flag) else do
    return (← r.give flag "", none)
  | some flag, _ :: value => if flag.takesFile then do
      return (← r.give flag (String.ofList value), none)
    else .error .misuse

/-- Take in the arguments; `pending` is an option whose value has to follow. -/
def addAll (g : Grammar) (r : Reading) (pending : Option Flag) :
    List String → Except Stop Reading
  | [] => if pending.isSome then .error .misuse else .ok r
  | argument :: rest =>
    match argument.toList, pending with
    | ['-', '-'], none => rest.foldlM (addWord g) r
    | '-' :: '-' :: cs, none => do
      let (r, pending) ← r.addNamed g cs
      addAll g r pending rest
    | '-' :: c :: cs, none => do
      let (r, pending) ← r.addLetters g (c :: cs)
      addAll g r pending rest
    | '-' :: _ :: _, some _ => .error .misuse
    | _, some flag => do addAll g (← r.give flag argument) none rest
    | _, none => do addAll g (← r.addWord g argument) none rest

end Reading

/-- True for an argument that has options, and for a lone `--`. -/
def hasDash (argument : String) : Bool :=
  argument.toList.head? = some '-' && argument != "-"

/-- A search, from what follows the command. -/
def readSearch (arguments : List String) : Except Stop Request := do
  let r ← Reading.empty.addAll searchGrammar none arguments
  match r.words with
  | pattern :: path :: paths =>
    if r.has "count" && r.has "json" then throw .misuse
    return .search pattern (path :: paths)
      (if r.has "count" then .count else if r.has "json" then .json else .lines)
  | _ => throw .misuse

/-- The parsing of a pattern, from what follows the command. -/
def readParse (arguments : List String) : Except Stop Request := do
  let r ← Reading.empty.addAll parseGrammar none arguments
  match r.words with
  | [pattern] => return .parse pattern
  | _ => throw .misuse

/-- The application of rules, from what follows the command. -/
def readApply (arguments : List String) : Except Stop Request := do
  let r ← Reading.empty.addAll applyGrammar none arguments
  match r.value? "rules", r.words with
  | some rules, path :: paths =>
    return .apply rules (path :: paths) (r.has "dry-run") (r.has "diff")
  | _, _ => throw .misuse

/-- The names of the commands. -/
def commandNames : List String := ["search", "parse", "apply", "help"]

/-- A command by its name, from what follows it. -/
def readCommand (name : String) (arguments : List String) : Except Stop Request :=
  if name = "search" then readSearch arguments
  else if name = "parse" then readParse arguments
  else if name = "apply" then readApply arguments
  else if name = "help" then
    match arguments with
    | [] => .error .help
    | [topic] => .error (if commandNames.contains topic then .help else .misuse)
    | _ => .error .misuse
  else .error .misuse

/-- What the arguments ask for; none for arguments that make no sense. -/
def readArguments (arguments : List String) : Option Request :=
  let front := arguments.takeWhile hasDash
  let result : Except Stop Request := do
    let _ ← Reading.empty.addAll frontGrammar none front
    match arguments.dropWhile hasDash with
    | name :: rest => if front.contains "--" then throw .misuse else readCommand name rest
    | [] => throw .misuse
  match result with
  | .ok request => some request
  | .error .help => some .help
  | .error .version => some .version
  | .error .misuse => none

end SexprQuery.Command
