import PartProgram.Toml.Quoted
import PartProgram.Toml.Scalar

namespace PartProgram.Toml

/-- What is left after some input was read, with its meaning. -/
abbrev Reader (α : Type) := List Char → Option (α × List Char)

def skipBlanks (text : List Char) : List Char :=
  text.dropWhile fun c => c == ' ' || c == '\t'

def skipComment : List Char → List Char
  | '#' :: rest => rest.dropWhile (· != '\n')
  | text => text

/-- Leaves out white space, line feeds and comments; `commented` tells whether one is open. -/
def skipGaps (text : List Char) (commented : Bool := false) : List Char :=
  match text with
  | [] => []
  | c :: rest =>
    if commented then skipGaps rest (c != '\n')
    else if c = '#' then skipGaps rest true
    else if c = ' ' ∨ c = '\t' ∨ c = '\n' then skipGaps rest
    else c :: rest

def isBareKey (c : Char) : Bool :=
  c.isAlphanum || c == '_' || c == '-'

def key? : Reader String := fun text =>
  match text with
  | '"' :: _ | '\'' :: _ => (line? text).map fun (key, rest) => (String.ofList key, rest)
  | _ =>
    let key := text.takeWhile isBareKey
    if key.isEmpty then none else some (String.ofList key, text.dropWhile isBareKey)

/-- A dotted key: the steps of its path, the last of them apart, and what follows with blanks left
out. -/
def dottedKey? (text : List Char) : Option (List String × String × List Char) :=
  go text.length text
where
  go : Nat → List Char → Option (List String × String × List Char)
    | 0, _ => none
    | fuel + 1, text => do
      let (key, rest) ← key? text
      match skipBlanks rest with
      | '.' :: rest =>
        let (path, last, rest) ← go fuel (skipBlanks rest)
        return (key :: path, last, rest)
      | rest => return ([], key, rest)

/-- The text of a value without quotes. A date takes a time along that follows one blank. -/
def splitScalar (text : List Char) : List Char × List Char :=
  let isPart (c : Char) := !(" \t\n,]#\x7d".toList.contains c)
  let first := text.takeWhile isPart
  let rest := text.dropWhile isPart
  match afterDate? first, rest with
  | some [], ' ' :: c :: rest =>
    if c.isDigit then (first ++ ' ' :: c :: rest.takeWhile isPart, rest.dropWhile isPart)
    else (first, ' ' :: c :: rest)
  | _, _ => (first, rest)

mutual

/-- A value, nested at most `depth` levels. -/
def value? (depth : Nat) : (fuel : Nat) → Reader Value
  | 0, _ => none
  | fuel + 1, text =>
    match text with
    | '[' :: rest =>
      if depth = 0 then none
      else (elements? (depth - 1) fuel rest).map fun (vs, rest) => (.array vs, rest)
    | '\x7b' :: rest =>
      if depth = 0 then none else members? (depth - 1) fuel (.empty .inline) rest
    | '"' :: _ | '\'' :: _ =>
      (quoted? text).map fun (s, rest) => (.string (String.ofList s), rest)
    | _ =>
      let (scalar, rest) := splitScalar text
      (scalar? scalar).map (·, rest)

/-- The elements of an array up to its bracket; a comma may follow the last. -/
def elements? (depth : Nat) : (fuel : Nat) → Reader (List Value)
  | 0, _ => none
  | fuel + 1, text =>
    match skipGaps text with
    | ']' :: rest => some ([], rest)
    | text => do
      let (v, rest) ← value? depth fuel text
      match skipGaps rest with
      | ',' :: rest => (elements? depth fuel rest).map fun (vs, rest) => (v :: vs, rest)
      | ']' :: rest => return ([v], rest)
      | _ => none

/-- The members of an inline table up to its brace; a comma may follow the last. -/
def members? (depth : Nat) : (fuel : Nat) → Value → Reader Value
  | 0, _, _ => none
  | fuel + 1, table, text =>
    match skipGaps text with
    | '\x7d' :: rest => some (table, rest)
    | text => do
      let (path, key, rest) ← dottedKey? text
      let '=' :: rest := rest | none
      let (v, rest) ← value? depth fuel (skipBlanks rest)
      let table ← table.assign path key v
      match skipGaps rest with
      | ',' :: rest => members? depth fuel table rest
      | '\x7d' :: rest => return (table, rest)
      | _ => none

end

def maxDepth : Nat :=
  80

/-- A document in the making, and the path of the last header. -/
structure Draft where
  root : Value := .empty .header
  path : List String := []

namespace Draft

/-- Gives a dotted key a value in the table of the last header. -/
def assign (d : Draft) (path : List String) (key : String) (v : Value) : Option Draft := do
  let root ← d.root.within false (fun t => t.assign path key v) d.path
  return { d with root }

/-- Reads a header, whose first bracket has been read. -/
def header? (d : Draft) (text : List Char) : Option (Draft × List Char) :=
  match text with
  | '[' :: rest => do
    let (path, key, rest) ← dottedKey? (skipBlanks rest)
    let ']' :: ']' :: rest := rest | none
    let root ← d.root.append path key
    return ({ root, path := path ++ [key] }, rest)
  | rest => do
    let (path, key, rest) ← dottedKey? (skipBlanks rest)
    let ']' :: rest := rest | none
    let root ← d.root.define path key
    return ({ root, path := path ++ [key] }, rest)

def entry? (d : Draft) (text : List Char) : Option (Draft × List Char) := do
  let (path, key, rest) ← dottedKey? text
  let '=' :: rest := rest | none
  let (v, rest) ← value? maxDepth (2 * rest.length + 2) (skipBlanks rest)
  return (← d.assign path key v, rest)

def finish? (d : Draft) : (fuel : Nat) → List Char → Option Value
  | 0, _ => none
  | fuel + 1, text =>
    match skipGaps text with
    | [] => some d.root
    | text => do
      let (d, rest) ← match text with
        | '[' :: rest => d.header? rest
        | text => d.entry? text
      match skipComment (skipBlanks rest) with
      | [] => return d.root
      | '\n' :: rest => d.finish? fuel rest
      | _ => none

end Draft

/-- A carriage return may only stand before a line feed, and is left out there. -/
def dropReturns : List Char → Option (List Char)
  | [] => some []
  | '\r' :: '\n' :: rest => (dropReturns rest).map ('\n' :: ·)
  | c :: rest => if c = '\r' then none else (dropReturns rest).map (c :: ·)

/-- Control characters stand nowhere, tabs and line feeds apart. -/
def isAllowed (c : Char) : Bool :=
  c == '\t' || c == '\n' || (0x20 ≤ c.toNat && c.toNat != 0x7F)

/-- The table of a document of TOML 1.1. A byte order mark in front is left out. -/
def read? (text : List Char) : Option Value := do
  let text ← dropReturns (match text with
    | '\uFEFF' :: rest => rest
    | text => text)
  guard (text.all isAllowed)
  Draft.finish? {} (text.length + 1) text

end PartProgram.Toml
