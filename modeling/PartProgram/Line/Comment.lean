import PartProgram.Text.Blank
import PartProgram.Text.UpperCase

namespace PartProgram.Line

/-- What stands before the tail, which the first semicolon begins. -/
def code (line : List Char) : List Char :=
  line.takeWhile (· != ';')

def tail (line : List Char) : List Char :=
  (line.dropWhile (· != ';')).drop 1

/-- The content of the first span, if it is closed. -/
def firstSpan? (code : List Char) : Option (List Char) :=
  let opened := (code.dropWhile (· != '(')).drop 1
  if opened.contains ')' then some (opened.takeWhile (· != ')')) else none

def trim (text : List Char) : List Char :=
  let trimFront (text : List Char) := text.dropWhile fun c => c == ' ' || c == '\t'
  (trimFront (trimFront text).reverse).reverse

/-- The comment of a line: the tail, then the first span, a space between them. Other spans are
not kept. -/
def comment (line : List Char) : List Char :=
  let tail := tail line
  match firstSpan? (code line) with
  | some span => trim (tail ++ (if tail.isEmpty then [] else [' ']) ++ span)
  | none => trim tail

/-- Drops the spans; `inside` tells whether one is open. They do not nest, and one that is not
closed runs to the end. -/
def dropSpans : (inside : Bool) → List Char → List Char
  | _, [] => []
  | false, c :: rest => if c = '(' then dropSpans true rest else c :: dropSpans false rest
  | true, c :: rest => dropSpans (c != ')') rest

/-- The line without comments and white space, in upper case. -/
def bare (line : List Char) : List Char :=
  ((dropSpans false (code line)).filter fun c => !Text.isBlank c).flatMap Text.upperCase

end PartProgram.Line
