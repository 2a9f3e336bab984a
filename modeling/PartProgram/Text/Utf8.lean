namespace PartProgram.Text

/-- A character some of whose bytes have been read: the bits so far, how many bytes are still due,
and the range of the next one. -/
structure Opening where
  value : Nat
  due : Nat
  low : UInt8
  high : UInt8
deriving DecidableEq, Repr

inductive Lead where
  | whole (c : Char)
  | opening (o : Opening)
  | malformed
deriving DecidableEq, Repr

/-- The narrowed ranges after E0, ED, F0 and F4 keep out overlong forms, surrogates and values
beyond U+10FFFF. -/
def Lead.ofByte (b : UInt8) : Lead :=
  if b < 0x80 then .whole (Char.ofNat b.toNat)
  else if b < 0xC2 then .malformed
  else if b < 0xE0 then .opening ⟨b.toNat - 0xC0, 1, 0x80, 0xBF⟩
  else if b = 0xE0 then .opening ⟨0, 2, 0xA0, 0xBF⟩
  else if b = 0xED then .opening ⟨0xD, 2, 0x80, 0x9F⟩
  else if b < 0xF0 then .opening ⟨b.toNat - 0xE0, 2, 0x80, 0xBF⟩
  else if b = 0xF0 then .opening ⟨0, 3, 0x90, 0xBF⟩
  else if b < 0xF4 then .opening ⟨b.toNat - 0xF0, 3, 0x80, 0xBF⟩
  else if b = 0xF4 then .opening ⟨4, 3, 0x80, 0x8F⟩
  else .malformed

/-- A reading in progress: the character that is open, and the pieces read, the last one first.
`none` stands for a malformed piece. -/
structure Decoder where
  opening : Option Opening := none
  pieces : List (Option Char) := []
deriving DecidableEq, Repr

namespace Decoder

def start (pieces : List (Option Char)) (b : UInt8) : Decoder :=
  match Lead.ofByte b with
  | .whole c => ⟨none, some c :: pieces⟩
  | .opening o => ⟨some o, pieces⟩
  | .malformed => ⟨none, none :: pieces⟩

/-- Takes the next byte. A byte that cannot continue the open character ends it as malformed and
begins another. -/
def feed (d : Decoder) (b : UInt8) : Decoder :=
  match d.opening with
  | none => start d.pieces b
  | some o =>
    if o.low ≤ b ∧ b ≤ o.high then
      let value := o.value * 64 + (b.toNat - 0x80)
      if o.due = 1 then ⟨none, some (Char.ofNat value) :: d.pieces⟩
      else ⟨some ⟨value, o.due - 1, 0x80, 0xBF⟩, d.pieces⟩
    else start (none :: d.pieces) b

/-- The pieces in order; a character still open is malformed. -/
def finish (d : Decoder) : List (Option Char) :=
  match d.opening with
  | none => d.pieces.reverse
  | some _ => (none :: d.pieces).reverse

end Decoder

/-- The characters of the bytes, with `none` for each malformed piece, which is as long as a
character could have begun. -/
def pieces (bytes : List UInt8) : List (Option Char) :=
  (bytes.foldl Decoder.feed {}).finish

/-- The text of the bytes, if they are UTF-8 throughout. -/
def decode? (bytes : List UInt8) : Option (List Char) :=
  (pieces bytes).mapM id

/-- The text of the bytes, with U+FFFD for each malformed piece. -/
def decodeLossy (bytes : List UInt8) : List Char :=
  (pieces bytes).map (·.getD '\uFFFD')

end PartProgram.Text
