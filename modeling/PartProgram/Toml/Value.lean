namespace PartProgram.Toml

/-- How a table came to be, which decides what may still be added to it. -/
inductive Origin where
  /-- By a header of its own; the document itself is one such table. -/
  | header
  /-- As a step in the header of another table. -/
  | passed
  /-- As a step in a dotted key. -/
  | dotted
  /-- Between braces. -/
  | inline
deriving DecidableEq, Repr

inductive Value where
  | string (text : String)
  | integer (value : Int)
  | float (value : Float)
  | boolean (value : Bool)
  | dateTime (text : List Char)
  | array (elements : List Value)
  | table (origin : Origin) (entries : List (String × Value))
  /-- Tables of one name, each with a header in double brackets. -/
  | tables (elements : List Value)

def Value.empty (origin : Origin) : Value :=
  table origin []

/-- Gives a key the value that `f` makes of the one it has; a new key goes to the end. -/
def alter (key : String) (f : Option Value → Option Value) :
    List (String × Value) → Option (List (String × Value))
  | [] => (f none).map fun v => [(key, v)]
  | (k, v) :: rest =>
    if k = key then (f (some v)).map fun v => (k, v) :: rest
    else (alter key f rest).map ((k, v) :: ·)

def alterLast (f : Value → Option Value) : List Value → Option (List Value)
  | [] => none
  | [v] => (f v).map ([·])
  | v :: rest => (alterLast f rest).map (v :: ·)

namespace Value

/-- Changes the table at the end of a path. Missing tables are made on the way. The path of a
header passes through any table but an inline one, a dotted key only through tables that no
header has defined, and both through the last of the tables of one name. -/
def within (dotted : Bool) (f : Value → Option Value) : List String → Value → Option Value
  | [], t => f t
  | key :: path, table origin entries =>
    let step : Option Value → Option Value
      | none => within dotted f path (empty (if dotted then .dotted else .passed))
      | some (tables elements) => (alterLast (within dotted f path) elements).map tables
      | some (table o es) =>
        if o = .inline ∨ dotted ∧ o = .header then none else within dotted f path (table o es)
      | some _ => none
    (alter key step entries).map (table origin)
  | _ :: _, _ => none

def insert (t : Value) (key : String) (v : Value) : Option Value :=
  match t with
  | table origin entries =>
    (alter key (fun old => if old.isSome then none else some v) entries).map (table origin)
  | _ => none

/-- Gives a dotted key a value. A table made by a dotted key takes keys of that kind only, and no
other table does. -/
def assign (t : Value) (path : List String) (key : String) (v : Value) : Option Value :=
  t.within true (fun
    | table origin entries =>
      if decide (origin = .dotted) == path.isEmpty then none
      else (table origin entries).insert key v
    | _ => none) path

/-- Defines the table of a header: a new one, or one that other headers have passed. -/
def define (t : Value) (path : List String) (key : String) : Option Value :=
  t.within false (fun
    | table origin entries =>
      let step : Option Value → Option Value
        | none => some (empty .header)
        | some (table .passed es) => some (table .header es)
        | some _ => none
      (alter key step entries).map (table origin)
    | _ => none) path

def append (t : Value) (path : List String) (key : String) : Option Value :=
  t.within false (fun
    | table origin entries =>
      let step : Option Value → Option Value
        | none => some (tables [empty .header])
        | some (tables elements) => some (tables (elements ++ [empty .header]))
        | some _ => none
      (alter key step entries).map (table origin)
    | _ => none) path

def get? (key : String) : Value → Option Value
  | table _ entries => entries.lookup key
  | _ => none

end Value

end PartProgram.Toml
