import SexprQuery.Toml.Value

/-!
# Putting a document together

Keys and headers name places in a tree of tables. A table is defined once: a
header may pass through any table but one between braces, and opens a table
that it finds only where that was made in passing; a dotted key passes only
through tables that were not given a header.
-/

namespace SexprQuery.Toml

/-- A table with its origin. -/
abbrev Scope := Origin × Entries

/-- True if a path may lead through a table: the path of a dotted key, or else of a
header. -/
def Origin.isOpen (byKey : Bool) : Origin → Bool
  | .braces => false
  | .header => !byKey
  | .passing | .dotted => true

/-- Change the table at a path, making the tables on the way. -/
def changeAt? (byKey : Bool) (change : Scope → Option Scope) :
    List String → Scope → Option Scope
  | [], scope => change scope
  | key :: path, (origin, es) =>
    match lookup? key es with
    | none => do
      let made ← changeAt? byKey change path (if byKey then .dotted else .passing, [])
      return (origin, put key (.table made.1 made.2) es)
    | some (.table inner entries) =>
      if inner.isOpen byKey then do
        let changed ← changeAt? byKey change path (inner, entries)
        return (origin, put key (.table changed.1 changed.2) es)
      else none
    | some (.tables (latest :: earlier)) => do
      let changed ← changeAt? byKey change path (.header, latest)
      return (origin, put key (.tables (changed.2 :: earlier)) es)
    | some _ => none

/-- Put a value at a dotted key, which must be free, into a table that was made for
such keys if there is a path to it. -/
def putKey? (path : List String) (key : String) (value : Toml) : Scope → Option Scope :=
  changeAt? true (fun (origin, es) =>
    if (origin = .dotted) = path.isEmpty then none
    else if (lookup? key es).isSome then none
    else some (origin, put key value es)) path

/-- A key with its value, as it is written. -/
structure Setting where
  path : List String
  key : String
  value : Toml

/-- Put settings into a table, in order. -/
def putAll? (settings : List Setting) (scope : Scope) : Option Scope :=
  settings.foldlM (fun scope s => putKey? s.path s.key s.value scope) scope

/-- A header with the settings below it; `many` for double brackets. -/
structure Section where
  many : Bool
  path : List String
  key : String
  settings : List Setting

/-- Put the table of a header where it belongs. -/
def putSection? (s : Section) : Scope → Option Scope :=
  changeAt? false (fun (origin, es) =>
    if s.many then
      match lookup? s.key es with
      | none => do
        let (_, entries) ← putAll? s.settings (.header, [])
        return (origin, put s.key (.tables [entries]) es)
      | some (.tables ts) => do
        let (_, entries) ← putAll? s.settings (.header, [])
        return (origin, put s.key (.tables (entries :: ts)) es)
      | some _ => none
    else
      match lookup? s.key es with
      | none => do
        let (_, entries) ← putAll? s.settings (.header, [])
        return (origin, put s.key (.table .header entries) es)
      | some (.table .passing found) => do
        let (_, entries) ← putAll? s.settings (.header, found)
        return (origin, put s.key (.table .header entries) es)
      | some _ => none) s.path

/-- The table of settings between braces. -/
def braces? (settings : List Setting) : Option Toml := do
  let (_, entries) ← putAll? settings (.braces, [])
  return .table .braces entries

/-- A document: settings before the first header, and the sections. -/
def document? (settings : List Setting) (sections : List Section) : Option Entries := do
  let top ← putAll? settings (.header, [])
  let (_, entries) ← sections.foldlM (fun scope s => putSection? s scope) top
  return entries

end SexprQuery.Toml
