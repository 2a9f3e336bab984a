import PartProgram.Text.Blank
import PartProgram.Text.DecimalDigit

namespace PartProgram.Text

/-- The characters behind which a new line begins. -/
def lineBreaks : List Char :=
  ['\n', '\u000b', '\u000c', '\r', '\u0085', '\u2028', '\u2029']

def isPlainChar (c : Char) : Bool :=
  !isBlank c || c == ' '

def isPlain (s : String) : Bool :=
  s.toList.all isPlainChar

theorem not_mem_of_isPlain {s : String} (plain : isPlain s = true) :
    ∀ c ∈ lineBreaks, c ∉ s.toList := by
  intro c mem here
  have breaks : lineBreaks.all (fun c => !isPlainChar c) = true := by decide
  have no := List.all_eq_true.mp breaks c mem
  rw [List.all_eq_true.mp plain c here] at no
  cases no

theorem isPlain_append (s t : String) : isPlain (s ++ t) = (isPlain s && isPlain t) := by
  rw [isPlain, String.toList_append, List.all_append]
  rfl

theorem isPlain_ofList (l : List Char) :
    isPlain (String.ofList l) = l.all isPlainChar := by
  rw [isPlain, String.toList_ofList]

theorem isPlain_singleton (c : Char) : isPlain (String.singleton c) = isPlainChar c := by
  rw [isPlain, String.toList_singleton]
  exact Bool.and_true _

theorem isPlain_intercalate {separator : String} {parts : List String}
    (between : isPlain separator = true) (plain : ∀ part ∈ parts, isPlain part = true) :
    isPlain (separator.intercalate parts) = true := by
  induction parts with
  | nil => rfl
  | cons part rest ih =>
    have first := plain part (List.mem_cons_self ..)
    have others := ih fun part mem => plain part (List.mem_cons_of_mem _ mem)
    cases rest with
    | nil => simpa using first
    | cons next rest =>
      rw [String.intercalate_cons_cons, isPlain_append, isPlain_append, first, between, others]
      rfl

/-- No digit of any script is white space. -/
theorem isPlainChar_of_isDecimalDigit {c : Char} (digit : isDecimalDigit c = true) :
    isPlainChar c = true := by
  -- each run of ten digits lies between two blanks
  have apart : ∀ z ∈ digitZeros, 0x20 < z ∧ (z + 10 ≤ 0x85 ∨ 0xA0 < z) ∧
      (z + 10 ≤ 0x1680 ∨ 0x1680 < z) ∧ (z + 10 ≤ 0x2000 ∨ 0x3000 < z) := by
    decide
  obtain ⟨z, mem, range⟩ := List.any_eq_true.mp digit
  simp only [Bool.and_eq_true, decide_eq_true_eq] at range
  have := apart z mem
  have solid : isBlank c = false := by
    rw [Bool.eq_false_iff]
    intro blank
    simp only [isBlank, Bool.or_eq_true, Bool.and_eq_true, decide_eq_true_eq, beq_iff_eq] at blank
    omega
  rw [isPlainChar, solid]
  rfl

theorem isPlainChar_of_isDigit {c : Char} (digit : c.isDigit = true) : isPlainChar c = true :=
  isPlainChar_of_isDecimalDigit (isDecimalDigit_of_isDigit digit)

theorem all_isPlainChar_toDigits (n : Nat) : (Nat.toDigits 10 n).all isPlainChar = true := by
  rw [List.all_eq_true]
  intro c mem
  exact isPlainChar_of_isDigit (Nat.isDigit_of_mem_toDigits (by decide) (by decide) mem)

theorem isPlain_natural (n : Nat) : isPlain (toString n) = true := by
  have written : toString n = String.ofList (Nat.toDigits 10 n) := rfl
  rw [written, isPlain_ofList]
  exact all_isPlainChar_toDigits n

theorem isPlain_integer (n : Int) : isPlain (toString n) = true := by
  cases n with
  | ofNat n => exact isPlain_natural n
  | negSucc n =>
    have minus : isPlain "-" = true := by decide
    have written : toString (Int.negSucc n) = "-" ++ toString (n + 1) := rfl
    rw [written, isPlain_append, isPlain_natural, minus, Bool.and_self]

end PartProgram.Text
