import SexprQuery.File.Name

/-!
# File trees

A file tree is the directories and files that a program can reach, as a value. A
file has a place, which is the names on the way to it from the root, and bytes.
Whatever stands before the last name of a place is a directory.

There are no links, symbolic or hard: a place is a file, and a file has no other place.
In a file system with links one file can have several, and what is said here of the
file that a name leads to holds of the place only.

* `FileTree.locate` follows a name to a place, and fails the way a file system
  does: at a piece behind a file, at a missing entry, at a name that is too long.
* `FileTree.read` and `FileTree.readText` give what is in a file.
* `FileTree.write` puts a whole new content in the place of a file, or fails and
  changes nothing. Reading after it gives what was written, and every other place
  is as it was.
-/

namespace SexprQuery

/-- The names on the way from the root to an entry. -/
abbrev Place := List String

/-- Why a name does not lead to what is asked for. -/
inductive FileFault where
  | notFound
  | notDirectory
  | isDirectory
  | nameTooLong
  /-- A name with a character of number zero. -/
  | badName
  /-- Bytes that are no UTF-8. -/
  | notText
deriving DecidableEq, Repr

/-- The text of the fault. -/
def FileFault.message : FileFault → String
  | .notFound => "No such file or directory (os error 2)"
  | .notDirectory => "Not a directory (os error 20)"
  | .isDirectory => "Is a directory (os error 21)"
  | .nameTooLong => "File name too long (os error 36)"
  | .badName => "file name contained an unexpected NUL byte"
  | .notText => "stream did not contain valid UTF-8"

/-- Directories and files, without links. -/
structure FileTree where
  /-- Directories that need not hold anything. -/
  directories : List Place
  files : List (Place × ByteArray)
  workingDirectory : Place

namespace FileTree

/-- A tree without files. -/
def empty (workingDirectory : Place) : FileTree := ⟨[], [], workingDirectory⟩

/-- The content of the file at a place. -/
def file? (t : FileTree) (p : Place) : Option ByteArray :=
  (t.files.find? fun f => f.1 = p).map Prod.snd

/-- True for the place of a directory: the root, a directory that is listed, and what
stands above one or above a file. -/
def isDirectory (t : FileTree) (p : Place) : Bool :=
  p.isPrefixOf t.workingDirectory || t.directories.any (fun d => p.isPrefixOf d) ||
    t.files.any fun f => p.isPrefixOf f.1 && p != f.1

/-- Put a content at a place in a list of files. -/
def putIn (p : Place) (content : ByteArray) : List (Place × ByteArray) → List (Place × ByteArray)
  | [] => [(p, content)]
  | f :: rest => if f.1 = p then (p, content) :: rest else f :: putIn p content rest

/-- The tree with a file of the given content. -/
def put (t : FileTree) (p : Place) (content : ByteArray) : FileTree :=
  { t with files := putIn p content t.files }

/-- The tree with a directory. -/
def addDirectory (t : FileTree) (p : Place) : FileTree :=
  { t with directories := t.directories ++ [p] }

/-! ## Following names -/

/-- The place that a piece of a name leads to from a directory. -/
def step (p : Place) (piece : String) : Place :=
  if piece = "" || piece = "." then p
  else if piece = ".." then p.dropLast
  else p ++ [piece]

/-- The place that the following of a name starts from. -/
def start (t : FileTree) (name : String) : Place :=
  if isRooted name then [] else t.workingDirectory

/-- The place that a name leads to if there is a directory wherever it needs one. -/
def place (t : FileTree) (name : String) : Place := (namePieces name).foldl step (t.start name)

/-- The largest number of bytes in an entry's name. -/
def longestEntry : Nat := 255

/-- The largest number of bytes in a name. -/
def longestName : Nat := 4095

/-- Check that there is a directory at a place. -/
def expectDirectory (t : FileTree) (p : Place) : Except FileFault Unit :=
  if t.isDirectory p then .ok ()
  else if (t.file? p).isSome then .error .notDirectory
  else .error .notFound

/-- Follow pieces from a place. Every piece needs a directory to start from, also an
empty one and a dot. -/
def follow (t : FileTree) : Place → List String → Except FileFault Place
  | p, [] => .ok p
  | p, piece :: rest => do
    t.expectDirectory p
    if longestEntry < piece.utf8ByteSize then throw .nameTooLong
    follow t (step p piece) rest

/-- Check the text of a name by itself. -/
def checkName (name : String) : Except FileFault Unit :=
  if name.toList.contains '\x00' then .error .badName
  else if name = "" then .error .notFound
  else if longestName < name.utf8ByteSize then .error .nameTooLong
  else .ok ()

/-- The place of a name. Nothing needs to be there. -/
def locate (t : FileTree) (name : String) : Except FileFault Place := do
  checkName name
  t.follow (t.start name) (namePieces name)

/-! ## Reading and writing -/

/-- The content of the file of a name. -/
def read (t : FileTree) (name : String) : Except FileFault ByteArray := do
  let p ← t.locate name
  if t.isDirectory p then throw .isDirectory
  match t.file? p with
  | some content => return content
  | none => throw .notFound

/-- The content of the file of a name as a text. -/
def readText (t : FileTree) (name : String) : Except FileFault String := do
  match String.fromUTF8? (← t.read name) with
  | some text => return text
  | none => throw .notText

/-- The name in full, from the root on, of the directory that a name leads through.
Empty pieces and dots at its end do not count; the working directory itself has a dot
there. -/
def directoryName (t : FileTree) (name : String) : String :=
  let isPart (piece : String) : Bool := piece != "" && piece != "."
  let parts := ((namePieces name).dropLast.reverse.dropWhile fun piece => !isPart piece).reverse
  if isRooted name then "/".intercalate parts
  else "/".intercalate ("" :: t.workingDirectory ++ if parts.isEmpty then ["."] else parts)

/-- The number of bytes that a fresh entry adds to the name of its directory: a slash and
ten characters. -/
def freshEntry : Nat := 11

/-- The place where a file of a name can be written: an entry of a directory, and not
itself a directory. The content goes to a fresh entry of the directory first, whose name
in full must not be too long. -/
def target (t : FileTree) (name : String) : Except FileFault Place := do
  checkName name
  if longestName < (t.directoryName name).utf8ByteSize + freshEntry then throw .nameTooLong
  let pieces := namePieces name
  let directory ← t.follow (t.start name) pieces.dropLast
  t.expectDirectory directory
  let entry := pieces.getLast?.getD ""
  if longestEntry < entry.utf8ByteSize then throw .nameTooLong
  if step directory entry != directory ++ [entry] || t.isDirectory (directory ++ [entry]) then
    throw .isDirectory
  return directory ++ [entry]

/-- Put a text in the place of the whole content of a file, or make the file. -/
def write (t : FileTree) (name text : String) : Except FileFault FileTree := do
  return t.put (← t.target name) text.toUTF8

/-- The places of the files below a directory, from there on. -/
def filesBelow (t : FileTree) (p : Place) : List Place :=
  t.files.filterMap fun f => if p.isPrefixOf f.1 then some (f.1.drop p.length) else none

/-! ## Laws of writing -/

theorem find?_putIn (p q : Place) (content : ByteArray) (files : List (Place × ByteArray)) :
    ((putIn p content files).find? fun f => f.1 = q).map Prod.snd =
      if p = q then some content else (files.find? fun f => f.1 = q).map Prod.snd := by
  induction files with
  | nil => by_cases h : p = q <;> simp [putIn, h]
  | cons f rest ih =>
    by_cases hf : f.1 = p
    · by_cases h : p = q <;> simp [putIn, hf, h]
    · by_cases hq : f.1 = q
      · subst hq
        simp [putIn, hf, Ne.symm hf]
      · simpa [putIn, hf, hq] using ih

/-- A written file holds what was written, and no other file changes. -/
theorem file?_put (t : FileTree) (p q : Place) (content : ByteArray) :
    (t.put p content).file? q = if p = q then some content else t.file? q :=
  find?_putIn p q content t.files

end FileTree
end SexprQuery
