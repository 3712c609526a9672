namespace TokenSigner.Toml

inductive Origin where
  | header
  | implied
  | dotted
  | inline
  deriving DecidableEq, Repr

inductive Value where
  | string (text : String)
  | integer (n : Int)
  | float
  | boolean (b : Bool)
  | dateTime
  | array (items : List Value)
  | table (origin : Origin) (entries : List (String × Value))
  | tables (elements : List (List (String × Value)))

abbrev Entries := List (String × Value)

namespace Entries

def put (entries : Entries) (key : String) (value : Value) : Entries :=
  if entries.any (·.1 == key) then
    entries.map fun entry => if entry.1 == key then (key, value) else entry
  else entries ++ [(key, value)]

def alter (dotted : Bool) (change : Origin → Entries → Option Entries) :
    (path : List String) → Origin → Entries → Option Entries
  | [], origin, entries => change origin entries
  | key :: path, _, entries =>
    match entries.lookup key with
    | none => do
      let origin := if dotted then Origin.dotted else Origin.implied
      let inner ← alter dotted change path origin []
      return entries.put key (.table origin inner)
    | some (.table origin inner) =>
      if origin = .inline ∨ (dotted ∧ origin = .header) then none
      else do
        let inner ← alter dotted change path origin inner
        return entries.put key (.table origin inner)
    | some (.tables (latest :: others)) => do
      let inner ← alter dotted change path .header latest
      return entries.put key (.tables (inner :: others))
    | some _ => none

def define (keys : List String) (value : Value) (origin : Origin) (entries : Entries) :
    Option Entries := do
  let key ← keys.getLast?
  let path := keys.dropLast
  alter true (fun origin inner =>
    if decide (origin = .dotted) = path.isEmpty || inner.any (·.1 == key) then none
    else some (inner ++ [(key, value)])) path origin entries

def openTable (keys : List String) (entries : Entries) : Option Entries := do
  let key ← keys.getLast?
  alter false (fun _ inner =>
    match inner.lookup key with
    | none => some (inner.put key (.table .header []))
    | some (.table .implied entries) => some (inner.put key (.table .header entries))
    | some _ => none) keys.dropLast .header entries

def openElement (keys : List String) (entries : Entries) : Option Entries := do
  let key ← keys.getLast?
  alter false (fun _ inner =>
    match inner.lookup key with
    | none => some (inner.put key (.tables [[]]))
    | some (.tables elements) => some (inner.put key (.tables ([] :: elements)))
    | some _ => none) keys.dropLast .header entries

end Entries

inductive Statement where
  | table (keys : List String)
  | element (keys : List String)
  | define (keys : List String) (value : Value)

def build : (current : List String) → Entries → List Statement → Option Entries
  | _, entries, [] => some entries
  | _, entries, .table keys :: rest => do build keys (← entries.openTable keys) rest
  | _, entries, .element keys :: rest => do build keys (← entries.openElement keys) rest
  | current, entries, .define keys value :: rest => do
    build current (← entries.alter false (Entries.define keys value) current .header) rest

end TokenSigner.Toml
