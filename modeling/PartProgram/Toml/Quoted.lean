import PartProgram.Number.Literal

namespace PartProgram.Toml

/-- The text up to the quote that closes it, and what follows, all on one line. A basic string may
hold the quote after a backslash. -/
def untilQuote (quote : Char) (escaped : Bool) : List Char → Option (List Char × List Char)
  | [] => none
  | c :: rest =>
    if c = quote then some ([], rest)
    else if c = '\n' then none
    else if escaped && c == '\\' then
      match rest with
      | '\n' :: _ | [] => none
      | d :: rest => (untilQuote quote escaped rest).map fun (text, rest) => (c :: d :: text, rest)
    else (untilQuote quote escaped rest).map fun (text, rest) => (c :: text, rest)

/-- The text up to the three quotes that close it, and what follows. Up to two quotes right
before them belong to the text. -/
def untilQuotes (quote : Char) (escaped : Bool) : List Char → Option (List Char × List Char)
  | [] => none
  | c :: rest =>
    if c = quote ∧ rest.take 2 = [quote, quote] then
      let more := ((rest.drop 2).take 2).takeWhile (· == quote)
      some (more, rest.drop (2 + more.length))
    else if escaped && c == '\\' then
      match rest with
      | d :: rest => (untilQuotes quote escaped rest).map fun (text, rest) => (c :: d :: text, rest)
      | [] => none
    else (untilQuotes quote escaped rest).map fun (text, rest) => (c :: text, rest)

/-- What a backslash has begun. -/
inductive Escape where
  | none
  | begun
  /-- A code of so many more digits, and its value so far. -/
  | code (due value : Nat)
  /-- White space that is left out, and whether its line feed has come. -/
  | gap (broken : Bool)
deriving DecidableEq, Repr

/-- What a character right after a backslash stands for, or begins. -/
def escapeOf (c : Char) : Option (List Char × Escape) :=
  match c with
  | 'b' => some (['\x08'], .none)
  | 't' => some (['\t'], .none)
  | 'n' => some (['\n'], .none)
  | 'f' => some (['\x0c'], .none)
  | 'r' => some (['\r'], .none)
  | 'e' => some (['\x1b'], .none)
  | '"' => some (['"'], .none)
  | '\\' => some (['\\'], .none)
  | 'x' => some ([], .code 2 0)
  | 'u' => some ([], .code 4 0)
  | 'U' => some ([], .code 8 0)
  | ' ' => some ([], .gap false)
  | '\t' => some ([], .gap false)
  | '\n' => some ([], .gap true)
  | _ => none

/-- Takes a character: what it adds to the text, and what it leaves begun. -/
def Escape.take (e : Escape) (c : Char) : Option (List Char × Escape) :=
  let plain := if c = '\\' then some ([], begun) else some ([c], none)
  match e with
  | none => plain
  | begun => escapeOf c
  | code due value => do
    let value := 16 * value + (← Number.digitValue? 16 c)
    if due = 1 then
      if value.isValidChar then some ([Char.ofNat value], none) else failure
    else some ([], code (due - 1) value)
  | gap broken =>
    if c = '\n' then some ([], gap true)
    else if c = ' ' ∨ c = '\t' then some ([], gap broken)
    else if broken then plain
    else failure

def unescape : Escape → List Char → Option (List Char)
  | .none, [] | .gap true, [] => some []
  | _, [] => failure
  | e, c :: rest => do
    let (text, e) ← e.take c
    return text ++ (← unescape e rest)

/-- A line feed right after the opening quotes is left out. -/
def dropFirstLineFeed : List Char → List Char
  | '\n' :: rest => rest
  | rest => rest

def line? : List Char → Option (List Char × List Char)
  | '"' :: rest => do
    let (text, rest) ← untilQuote '"' true rest
    return (← unescape .none text, rest)
  | '\'' :: rest => untilQuote '\'' false rest
  | _ => none

def quoted? : List Char → Option (List Char × List Char)
  | '"' :: '"' :: '"' :: rest => do
    let (text, rest) ← untilQuotes '"' true (dropFirstLineFeed rest)
    return (← unescape .none text, rest)
  | '\'' :: '\'' :: '\'' :: rest => untilQuotes '\'' false (dropFirstLineFeed rest)
  | text => line? text

end PartProgram.Toml
