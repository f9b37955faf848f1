import SexprQuery.Toml.Build
import SexprQuery.Toml.Scalar

/-!
# Reading a rule file

A TOML document: settings and headers, one a line. Each function takes the
characters that are left and gives what it has read with the characters behind
it, or nothing where the text is not well formed.

Between braces, line breaks, comments and a last comma are allowed as they are
between brackets, around an equals sign too, but not inside a key. Lists and
tables are nested at most eighty deep, and a key has at most eighty parts.
-/

namespace SexprQuery.Toml

/-! ## Blanks and comments -/

/-- Skip spaces and tabs. -/
def skipSpaces (cs : List Char) : List Char := cs.dropWhile fun c => c == ' ' || c == '\t'

/-- A control character other than a tab. -/
def isControl (c : Char) : Bool := (c.toNat < 0x20 && c != '\t') || c.toNat == 0x7F

/-- The rest of a line that ends behind a comment or at once, from behind its end. -/
def restOfLine? (inComment : Bool) : List Char → Option (List Char)
  | [] => some []
  | '\n' :: rest => some rest
  | '\r' :: '\n' :: rest => some rest
  | c :: rest =>
    if inComment then if isControl c then none else restOfLine? true rest
    else if c = '#' then restOfLine? true rest
    else none

/-- Skip blanks, line breaks and comments. -/
def skipLines? (inComment : Bool) : List Char → Option (List Char)
  | [] => some []
  | '\n' :: rest => skipLines? false rest
  | '\r' :: '\n' :: rest => skipLines? false rest
  | c :: rest =>
    if inComment then if isControl c then none else skipLines? true rest
    else if c = ' ' ∨ c = '\t' then skipLines? false rest
    else if c = '#' then skipLines? true rest
    else some (c :: rest)

/-! ## Strings -/

/-- The character of an escape by its code. -/
def codeChar? (digits : List Char) : Option Char :=
  if digits.all Hexadecimal.isDigit then Hexadecimal.character? digits else none

/-- The character of a one-letter escape. -/
def escapeLetter? : Char → Option Char
  | 'b' => some '\x08'
  | 't' => some '\t'
  | 'n' => some '\n'
  | 'f' => some '\x0c'
  | 'r' => some '\r'
  | 'e' => some '\x1b'
  | '"' => some '"'
  | '\\' => some '\\'
  | _ => none

/-- Up to two quotes in front of the closing ones belong to the text. -/
def closeQuotes (quote : Char) (rest : List Char) : List Char × List Char :=
  let extra := (rest.take 2).takeWhile (· == quote)
  (extra, rest.drop extra.length)

/-- A string behind its opening quotes. `skipping` says that blanks are skipped up to
the next other character, as they are behind a backslash at the end of a line. -/
def basicString? (multi skipping : Bool) : List Char → Option (List Char × List Char)
  | [] => none
  | '"' :: rest =>
    if multi then
      match rest with
      | '"' :: '"' :: behind => some (closeQuotes '"' behind)
      | _ => (basicString? multi false rest).map fun (s, behind) => ('"' :: s, behind)
    else some ([], rest)
  | '\\' :: 'x' :: a :: b :: rest => do
    let c ← codeChar? [a, b]
    let (s, behind) ← basicString? multi false rest
    return (c :: s, behind)
  | '\\' :: 'u' :: a :: b :: c :: d :: rest => do
    let c ← codeChar? [a, b, c, d]
    let (s, behind) ← basicString? multi false rest
    return (c :: s, behind)
  | '\\' :: 'U' :: a :: b :: c :: d :: e :: f :: g :: h :: rest => do
    let c ← codeChar? [a, b, c, d, e, f, g, h]
    let (s, behind) ← basicString? multi false rest
    return (c :: s, behind)
  | '\\' :: l :: rest =>
    match escapeLetter? l with
    | some c => (basicString? multi false rest).map fun (s, behind) => (c :: s, behind)
    | none =>
      if multi then
        match skipSpaces (l :: rest) with
        | '\n' :: _ => basicString? multi true (l :: rest)
        | '\r' :: '\n' :: _ => basicString? multi true (l :: rest)
        | _ => none
      else none
  | '\r' :: '\n' :: rest =>
    if !multi then none
    else if skipping then basicString? multi true rest
    else (basicString? multi false rest).map fun (s, behind) => ('\r' :: '\n' :: s, behind)
  | c :: rest =>
    if skipping && (c == ' ' || c == '\t' || c == '\n') then basicString? multi true rest
    else if (multi && c == '\n') || !isControl c then
      (basicString? multi false rest).map fun (s, behind) => (c :: s, behind)
    else none

/-- A literal string behind its opening quotes. -/
def literalString? (multi : Bool) : List Char → Option (List Char × List Char)
  | [] => none
  | '\'' :: rest =>
    if multi then
      match rest with
      | '\'' :: '\'' :: behind => some (closeQuotes '\'' behind)
      | _ => (literalString? multi rest).map fun (s, behind) => ('\'' :: s, behind)
    else some ([], rest)
  | '\r' :: '\n' :: rest =>
    if multi then
      (literalString? multi rest).map fun (s, behind) => ('\r' :: '\n' :: s, behind)
    else none
  | c :: rest =>
    if (multi && c == '\n') || !isControl c then
      (literalString? multi rest).map fun (s, behind) => (c :: s, behind)
    else none

/-- A line break at once behind three opening quotes does not count. -/
def dropFirstBreak : List Char → List Char
  | '\n' :: rest => rest
  | '\r' :: '\n' :: rest => rest
  | rest => rest

/-- A string of one of the four forms. -/
def quoted? : List Char → Option (String × List Char)
  | '"' :: '"' :: '"' :: rest =>
    (basicString? true false (dropFirstBreak rest)).map fun (s, behind) => (String.ofList s, behind)
  | '\'' :: '\'' :: '\'' :: rest =>
    (literalString? true (dropFirstBreak rest)).map fun (s, behind) => (String.ofList s, behind)
  | '"' :: rest =>
    (basicString? false false rest).map fun (s, behind) => (String.ofList s, behind)
  | '\'' :: rest =>
    (literalString? false rest).map fun (s, behind) => (String.ofList s, behind)
  | _ => none

/-! ## Keys -/

/-- A character of a bare key. -/
def isKeyChar (c : Char) : Bool := c.isAlphanum || c == '_' || c == '-'

/-- One part of a key: bare, or a string on one line. -/
def keyPart? (cs : List Char) : Option (String × List Char) :=
  match cs with
  | '"' :: rest =>
    (basicString? false false rest).map fun (s, behind) => (String.ofList s, behind)
  | '\'' :: rest =>
    (literalString? false rest).map fun (s, behind) => (String.ofList s, behind)
  | cs =>
    let part := cs.takeWhile isKeyChar
    if part.isEmpty then none else some (String.ofList part, cs.dropWhile isKeyChar)

/-- A key of at most so many parts: the parts before the last one, that one, and what is
behind the key and the blanks that follow. -/
def keyOf? : Nat → List Char → Option (List String × String × List Char)
  | 0, _ => none
  | parts + 1, cs => do
    let (part, behind) ← keyPart? (skipSpaces cs)
    match skipSpaces behind with
    | '.' :: rest =>
      let (path, last, behind) ← keyOf? parts rest
      return (part :: path, last, behind)
    | behind => return ([], part, behind)

/-- The most parts of a key. -/
def longestKey : Nat := 80

/-- A key. -/
def key? (cs : List Char) : Option (List String × String × List Char) := keyOf? longestKey cs

/-! ## Values -/

/-- A character of an unquoted value. -/
def isScalarChar (c : Char) : Bool :=
  c.isAlphanum || c == '_' || c == '-' || c == '+' || c == '.' || c == ':'

/-- An unquoted value. A date takes a time behind one space with it. -/
def unquoted? (cs : List Char) : Option (Toml × List Char) :=
  let word := cs.takeWhile isScalarChar
  let behind := cs.dropWhile isScalarChar
  match date? word, behind with
  | some [], ' ' :: d :: rest =>
    if Decimal.isDigit d then
      let time := (d :: rest).takeWhile isScalarChar
      (scalar? (word ++ ' ' :: time)).map fun v => (v, (d :: rest).dropWhile isScalarChar)
    else some (.dateTime, behind)
  | _, _ => (scalar? word).map fun v => (v, behind)

/-- The deepest nesting of lists and tables between braces. -/
def depthLimit : Nat := 80

mutual
/-- A value. `fuel` bounds the steps, and `depth` is how much deeper lists and tables
may be nested. -/
def value? (fuel depth : Nat) (cs : List Char) : Option (Toml × List Char) :=
  match fuel with
  | 0 => none
  | fuel + 1 =>
    match cs with
    | '"' :: _ | '\'' :: _ => (quoted? cs).map fun (s, behind) => (.string s, behind)
    | '[' :: rest =>
      match depth with
      | 0 => none
      | depth + 1 => do
        let (items, behind) ← listItems? fuel depth rest
        return (.array items, behind)
    | '\x7b' :: rest =>
      match depth with
      | 0 => none
      | depth + 1 => do
        let (settings, behind) ← settings? fuel depth rest
        return (← braces? settings, behind)
    | cs => unquoted? cs

/-- The items of a list and its closing bracket. -/
def listItems? (fuel depth : Nat) (cs : List Char) : Option (List Toml × List Char) :=
  match fuel with
  | 0 => none
  | fuel + 1 => do
    match ← skipLines? false cs with
    | ']' :: rest => return ([], rest)
    | cs =>
      let (v, behind) ← value? fuel depth cs
      match ← skipLines? false behind with
      | ']' :: rest => return ([v], rest)
      | ',' :: rest =>
        let (vs, behind) ← listItems? fuel depth rest
        return (v :: vs, behind)
      | _ => none

/-- The settings of a table between braces, and the closing brace. -/
def settings? (fuel depth : Nat) (cs : List Char) : Option (List Setting × List Char) :=
  match fuel with
  | 0 => none
  | fuel + 1 => do
    match ← skipLines? false cs with
    | '\x7d' :: rest => return ([], rest)
    | cs =>
      let (s, behind) ← setting? fuel depth cs
      match ← skipLines? false behind with
      | '\x7d' :: rest => return ([s], rest)
      | ',' :: rest =>
        let (ss, behind) ← settings? fuel depth rest
        return (s :: ss, behind)
      | _ => none

/-- A key, an equals sign, and a value, in a table between braces. -/
def setting? (fuel depth : Nat) (cs : List Char) : Option (Setting × List Char) :=
  match fuel with
  | 0 => none
  | fuel + 1 => do
    let (path, key, behind) ← key? cs
    match ← skipLines? false behind with
    | '=' :: rest =>
      let (v, behind) ← value? fuel depth (← skipLines? false rest)
      return (⟨path, key, v⟩, behind)
    | _ => none
end

/-! ## Documents -/

/-- A header: its key between single or double brackets. -/
def header? : List Char → Option (Section × List Char)
  | '[' :: '[' :: rest => do
    let (path, key, behind) ← key? rest
    match behind with
    | ']' :: ']' :: behind => some (⟨true, path, key, []⟩, behind)
    | _ => none
  | '[' :: rest => do
    let (path, key, behind) ← key? rest
    match behind with
    | ']' :: behind => some (⟨false, path, key, []⟩, behind)
    | _ => none
  | _ => none

/-- A key, an equals sign, and a value on one line. -/
def lineSetting? (cs : List Char) : Option (Setting × List Char) := do
  let (path, key, behind) ← key? cs
  match behind with
  | '=' :: rest =>
    let (v, behind) ← value? (2 * cs.length + 1) depthLimit (skipSpaces rest)
    return (⟨path, key, v⟩, behind)
  | _ => none

/-- The settings up to the next header, and the sections from there on. `fuel` bounds
the lines. -/
def lines? : Nat → List Char → Option (List Setting × List Section)
  | 0, _ => none
  | fuel + 1, cs => do
    match ← skipLines? false cs with
    | [] => return ([], [])
    | '[' :: rest =>
      let (s, behind) ← header? ('[' :: rest)
      let (settings, sections) ← lines? fuel (← restOfLine? false (skipSpaces behind))
      return ([], { s with settings := settings } :: sections)
    | cs =>
      let (s, behind) ← lineSetting? cs
      let (settings, sections) ← lines? fuel (← restOfLine? false (skipSpaces behind))
      return (s :: settings, sections)

/-- The characters of a text. A byte-order mark in front does not count. -/
def characters (text : String) : List Char :=
  match text.toList with
  | '\uFEFF' :: cs => cs
  | cs => cs

/-- The top table of a document. -/
def parse? (text : String) : Option Entries := do
  let cs := characters text
  let (settings, sections) ← lines? (cs.length + 1) cs
  document? settings sections

end SexprQuery.Toml
