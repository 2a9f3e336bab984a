import PartProgram.Number.Shortest

namespace PartProgram

inductive Json where
  | null
  | bool (value : Bool)
  | integer (value : Int)
  | number (value : Float)
  | string (value : String)
  | array (elements : List Json)
  | object (members : List (String × Json))

namespace Json

/-- Numbers are written positionally from 0.00001 up to sixteen digits before the point, and
always show that they are no integers. -/
def layout : Number.Layout :=
  ⟨-5, 16, true, true⟩

/-- The shortest digits that read back. Values that are not finite have no text in JSON. -/
def numberText (x : Float) : String :=
  if x.isFinite then Number.signed (fun b => layout.write (b.shortest .toEven)) x else "null"

def escape (c : Char) : List Char :=
  if c = '"' then ['\\', '"']
  else if c = '\\' then ['\\', '\\']
  else if 0x20 ≤ c.toNat then [c]
  else match c with
    | '\x08' => ['\\', 'b']
    | '\x0c' => ['\\', 'f']
    | '\n' => ['\\', 'n']
    | '\r' => ['\\', 'r']
    | '\t' => ['\\', 't']
    | c => ['\\', 'u', '0', '0', Nat.digitChar (c.toNat / 16), Nat.digitChar (c.toNat % 16)]

def quote (s : String) : String :=
  String.ofList ('"' :: s.toList.flatMap escape ++ ['"'])

def newline (level : Nat) : String :=
  String.ofList ('\n' :: List.replicate (2 * level) ' ')

mutual

/-- The text of a value that begins on a line of the given level. -/
def text (level : Nat) : Json → String
  | null => "null"
  | bool value => if value then "true" else "false"
  | integer value => toString value
  | number value => numberText value
  | string value => quote value
  | array [] => "[]"
  | array (v :: rest) =>
    "[" ++ newline (level + 1) ++ text (level + 1) v ++ elementsText (level + 1) rest ++
      newline level ++ "]"
  | object [] => "\x7b\x7d"
  | object ((key, v) :: rest) =>
    "\x7b" ++ newline (level + 1) ++ quote key ++ ": " ++ text (level + 1) v ++
      membersText (level + 1) rest ++ newline level ++ "\x7d"

/-- The elements after the first. -/
def elementsText (level : Nat) : List Json → String
  | [] => ""
  | v :: rest => "," ++ newline level ++ text level v ++ elementsText level rest

/-- The members after the first. -/
def membersText (level : Nat) : List (String × Json) → String
  | [] => ""
  | (key, v) :: rest =>
    "," ++ newline level ++ quote key ++ ": " ++ text level v ++ membersText level rest

end

def pretty (v : Json) : String :=
  v.text 0

end Json

end PartProgram
