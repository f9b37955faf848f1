import SexprQuery.Rule.Validation
import SexprQuery.Toml.Breakdown

/-!
# Rule files

A rule file is a TOML document with the tables `meta` and `rules`. Keys that
rules do not know are left alone. Where a table with known fields is expected, a
list of their values in order serves as well.

A file that is read has been checked: `RuleSet.ofText` gives valid rule sets
only.
-/

namespace SexprQuery

/-- Why a text is no rule file. -/
inductive RuleTextError where
  /-- Not a document, or not one with the fields of rules. -/
  | toml
  /-- Not a document, and what is wrong cannot be told. -/
  | breakdown
  | invalid (issues : List RuleIssue)
deriving DecidableEq, Repr

namespace Toml

/-- The values of fields, by their keys or by their order; none for other values. A date
or time serves as a table of parts of its own, which has none of the fields. -/
def fields? (names : List String) : Toml → Option (List (Option Toml))
  | .table _ es => some (names.map fun name => lookup? name es)
  | .dateTime => some (names.map fun _ => none)
  | v => v.items?.map fun items => names.zipIdx.map fun (_, i) => items[i]?

/-- A field that may be missing. -/
def optional? {α : Type} (decode : Toml → Option α) : Option Toml → Option (Option α)
  | none => some none
  | some v => (decode v).map some

/-- A text. -/
def asString? : Toml → Option String
  | .string s => some s
  | _ => none

/-- A truth value. -/
def asBoolean? : Toml → Option Bool
  | .boolean b => some b
  | _ => none

/-- A natural number. -/
def asNatural? : Toml → Option Nat
  | .integer n => if 0 ≤ n then some n.toNat else none
  | _ => none

/-- The fields of an action of the given type, by their order. -/
def actionOf? (type : String) (field : String → Nat → Option Toml) : Option (Action × Nat) :=
  if type = "replace" then do
    return (.replace (← asString? (← field "with" 0)), 1)
  else if type = "replace-first" then do
    return (.replaceFirst (← asString? (← field "with" 0)), 1)
  else if type = "rename" then do
    return (.rename (← asString? (← field "from" 0)) (← asString? (← field "to" 1)), 2)
  else if type = "expect" then do
    return (.expect (← asNatural? (← field "count" 0)), 1)
  else none

/-- An action: its type and the fields of that. In a list the type comes first, and
there is nothing behind the last field. -/
def action? : Toml → Option Action
  | .table _ es => do
    let type ← asString? (← lookup? "type" es)
    return (← actionOf? type fun name _ => lookup? name es).1
  | v => do
    match ← v.items? with
    | first :: rest =>
      let (action, count) ← actionOf? (← asString? first) fun _ i => rest[i]?
      if rest.length = count then some action else none
    | [] => none

/-- A guard. -/
def guard? (v : Toml) : Option Guard := do
  match ← v.fields? ["ensure_absent", "ensure_present"] with
  | [absent, present] =>
    return ⟨(← optional? asBoolean? absent).getD false, (← optional? asBoolean? present).getD false⟩
  | _ => none

/-- A rule. -/
def rule? (v : Toml) : Option Rule := do
  match ← v.fields? ["id", "pattern", "action", "constraint"] with
  | [id, pattern, action, guard] =>
    return ⟨← asString? (← id), ← optional? asString? pattern, ← action? (← action),
      ← optional? guard? guard⟩
  | _ => none

/-- The name and the description of a rule set. -/
def names? (v : Toml) : Option (String × Option String) := do
  match ← v.fields? ["name", "description"] with
  | [name, description] =>
    return ((← optional? asString? name).getD "", ← optional? asString? description)
  | _ => none

/-- The rule set of a document. -/
def ruleSet? (es : Entries) : Option RuleSet := do
  let names ← optional? names? (lookup? "meta" es)
  let rules ← optional? (fun v => do (← v.items?).mapM rule?) (lookup? "rules" es)
  let (name, description) := names.getD ("", none)
  return ⟨name, description, rules.getD []⟩

end Toml

/-- Read and check a rule file. -/
def RuleSet.ofText (text : String) : Except RuleTextError RuleSet :=
  match Toml.parse? text with
  | none => .error (if Toml.breaksDown text then .breakdown else .toml)
  | some document =>
    match Toml.ruleSet? document with
    | none => .error .toml
    | some s => if s.IsValid then .ok s else .error (.invalid s.issues)

end SexprQuery
