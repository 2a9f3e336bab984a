namespace PartProgram.Text

variable {α : Type}

/-- The pieces of a list, each up to and with the first member that ends it. What follows the last
end is a piece of its own unless it is empty. -/
def cutAfter (ends : α → Bool) (l : List α) : List (List α) :=
  go [] [] l
where
  /-- What has been read is in `piece` and `cut`, the last part first. -/
  go (piece : List α) (cut : List (List α)) : List α → List (List α)
    | [] => (if piece.isEmpty then cut else piece.reverse :: cut).reverse
    | a :: l =>
      if ends a then go [] ((a :: piece).reverse :: cut) l
      else go (a :: piece) cut l

theorem cutAfter.flatten_go (ends : α → Bool) (piece : List α) (cut : List (List α)) (l : List α) :
    (cutAfter.go ends piece cut l).flatten = cut.reverse.flatten ++ piece.reverse ++ l := by
  induction l generalizing piece cut with
  | nil => cases piece <;> simp [cutAfter.go]
  | cons a l ih => by_cases h : ends a = true <;> simp [cutAfter.go, h, ih]

/-- Cutting loses nothing. -/
theorem flatten_cutAfter (ends : α → Bool) (l : List α) : (cutAfter ends l).flatten = l := by
  simp [cutAfter, cutAfter.flatten_go]

/-- A line without its line feed and the carriage return right before it. A carriage return that
no line feed follows stays. -/
def dropTerminator (line : List Char) : List Char :=
  match line.reverse with
  | '\n' :: '\r' :: rest => rest.reverse
  | '\n' :: rest => rest.reverse
  | _ => line

def lines (text : List Char) : List String :=
  (cutAfter (· == '\n') text).map fun line => String.ofList (dropTerminator line)

/-- A line without any line feeds and carriage returns at its end. -/
def trimEnd (line : List Char) : List Char :=
  (line.reverse.dropWhile fun c => c == '\n' || c == '\r').reverse

end PartProgram.Text
