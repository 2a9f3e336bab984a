import PartProgram.Proofs.Controller.LineLog
import PartProgram.Proofs.Line.Reading
import PartProgram.Proofs.Text.Plain

namespace PartProgram

open Text

namespace Line

theorem isPlainChar_of_isWordLetter {c : Char} (letter : isWordLetter c = true) :
    isPlainChar c = true := by
  have all : wordLetters.all isPlainChar = true := by decide
  exact List.all_eq_true.mp all c (isWordLetter_iff.mp letter)

theorem IsNumberText.all_isPlainChar {text : List Char}
    (number : IsNumberText isDecimalDigit text) : text.all isPlainChar = true := by
  rw [List.all_eq_true]
  intro c mem
  rcases number.mem_cases c mem with digit | rfl | rfl | rfl
  · exact isPlainChar_of_isDecimalDigit digit
  all_goals decide

variable {text : List Char}

theorem isPlainChar_of_missing {words : List Word} (scanned : ∀ w ∈ words, w ∈ scan text) :
    ∀ letter ∈ (words.filter (·.text = [])).map (·.letter), isPlainChar letter = true := by
  intro letter mem
  obtain ⟨w, here, rfl⟩ := List.mem_map.mp mem
  have word := of_mem_scan (scanned w (List.mem_of_mem_filter here))
  exact isPlainChar_of_isWordLetter word.1

end Line

namespace Fault

theorem isPlain_missingValue {letter : Char} (plain : isPlainChar letter = true) :
    isPlain (missingValue letter).message = true := by
  have front : isPlain "Missing value for " = true := by decide
  have text : (missingValue letter).message = "Missing value for " ++ String.singleton letter := rfl
  rw [text, isPlain_append, isPlain_singleton, front, plain, Bool.and_self]

theorem isPlain_badNumber {number : Line.BadNumber} (letter : isPlainChar number.letter = true)
    (numeral : number.text.all isPlainChar = true) :
    isPlain (badNumber number).message = true := by
  have front : isPlain "Parse error: " = true := by decide
  have opening : isPlain "invalid number '" = true := by decide
  have closing : isPlain "' for " = true := by decide
  have text : (badNumber number).message = "Parse error: " ++ ("invalid number '" ++
    String.ofList number.text ++ "' for " ++ String.singleton number.letter) := rfl
  have quoted : isPlain (String.ofList number.text) = true :=
    (isPlain_ofList number.text).trans numeral
  simp only [text, isPlain_append, isPlain_singleton, front, opening, closing, quoted, letter,
    Bool.and_self]

theorem isPlain_code {front : String} (plain : isPlain front = true) (code : Int) :
    isPlain (front ++ toString code) = true := by
  rw [isPlain_append, isPlain_integer, plain, Bool.and_self]

end Fault

open Line

/-- What is reported of a line when it is read is plain, whatever characters the line holds. -/
theorem Block.isPlain_of_mem_faults {text : String} {line : Nat} {implied : Operation}
    {strict : Bool} {fault : Fault} (mem : fault ∈ (parse text line implied strict).faults) :
    isPlain fault.message = true := by
  have made := Words.isMadeOf_ofList fun w (mem : w ∈ scan (bare text.toList)) =>
    isMalformed_of_mem_scan mem
  unfold parse Words.read at mem
  generalize Words.ofList _ = result at made mem
  cases made with
  | gathered readable gathers =>
    rcases List.mem_append.mp mem with known | unknown
    · rcases List.mem_append.mp known with missing | unknown
      · obtain ⟨letter, here, rfl⟩ := List.mem_map.mp missing
        rw [gathers.missing] at here
        exact Fault.isPlain_missingValue
          (isPlainChar_of_missing (fun _ => id) letter here)
      · obtain ⟨code, -, rfl⟩ := List.mem_map.mp unknown
        exact Fault.isPlain_code (by decide) code
    · obtain ⟨code, -, rfl⟩ := List.mem_map.mp unknown
      exact Fault.isPlain_code (by decide) code
  | broken whole readable bad =>
    rcases List.mem_append.mp mem with missing | bad
    · obtain ⟨letter, here, rfl⟩ := List.mem_map.mp missing
      have scanned := fun v (mem : v ∈ _) => whole ▸ List.mem_append_left _ mem
      exact Fault.isPlain_missingValue
        (isPlainChar_of_missing scanned letter here)
    · rw [List.mem_singleton.mp bad]
      have word := of_mem_scan (whole ▸ List.mem_append_right _ (List.mem_cons_self ..))
      exact Fault.isPlain_badNumber (isPlainChar_of_isWordLetter word.1) word.2.all_isPlainChar

theorem Instruction.isPlain_of_fault? {i : Instruction} {fault : Fault}
    (found : i.fault? = some fault) : isPlain fault.message = true := by
  obtain rfl | rfl | rfl := fault?_cases found <;> decide

/-- The log of a run holds plain messages only. -/
theorem Controller.isPlain_of_mem_log (c : Controller) (text : List Char) :
    ∀ e ∈ (c.runText text).log.toList, isPlain e.fault.message = true := by
  apply runLines_invariant (P := fun d => ∀ e ∈ d.log.toList, isPlain e.fault.message = true)
  · intro d text n total plain e mem
    rw [openLine_log, Array.toList_appendList] at mem
    rcases List.mem_append.mp mem with old | new
    · exact plain e old
    · obtain ⟨fault, here, rfl⟩ := List.mem_map.mp new
      exact Block.isPlain_of_mem_faults here
  · intro d i plain e mem
    rw [execute_log, Array.toList_appendList] at mem
    rcases List.mem_append.mp mem with old | new
    · exact plain e old
    · obtain ⟨fault, here, rfl⟩ := List.mem_map.mp new
      exact Instruction.isPlain_of_fault? (Option.mem_toList.mp here)
  · intro e mem
    cases mem

end PartProgram
