import Mathlib.Data.List.TakeWhile
import PartProgram.Block

namespace PartProgram

namespace Line

namespace Word

/-- The word has no number, or one that cannot be read. -/
def isFlawed (w : Word) : Bool :=
  w.isEmpty || w.isMalformed

/-- The word is a code of the letter that stands for no operation. -/
def isUnknown (letter : Char) (of? : Int → Option Operation) (w : Word) : Bool :=
  w.letter == letter && w.value?.any fun value => (of? (Number.toCode value)).isNone

def isUnlisted (w : Word) : Bool :=
  w.isUnknown 'G' Operation.ofG? || w.isUnknown 'M' Operation.ofM?

end Word

/-- The words of a line as far as it is read: a malformed one is the last. -/
def wordsRead (text : String) : List Word :=
  let words := scan (bare text.toList)
  words.takeWhile (!·.isMalformed) ++ (words.find? (·.isMalformed)).toList

def isFlawed (text : String) : Bool :=
  (wordsRead text).any (·.isFlawed)

def namesUnlisted (text : String) : Bool :=
  (wordsRead text).any (·.isUnlisted)

theorem wordsRead_of_find? {text : String}
    (found : (scan (bare text.toList)).find? (·.isMalformed) = none) :
    wordsRead text = scan (bare text.toList) := by
  have sound : ∀ w ∈ scan (bare text.toList), (!w.isMalformed) = true := by
    intro w mem
    simpa using List.find?_eq_none.mp found w mem
  rw [wordsRead, found, List.takeWhile_eq_self_iff.mpr sound]
  exact List.append_nil _

theorem isFlawed_of_find? {text : String} {w : Word}
    (found : (scan (bare text.toList)).find? (·.isMalformed) = some w) : isFlawed text = true := by
  have read : w ∈ wordsRead text := by simp [wordsRead, found]
  have malformed : w.isMalformed = true := List.find?_some found
  exact List.any_eq_true.mpr ⟨w, read, by simp [Word.isFlawed, malformed]⟩

/-- If no word that is read is malformed, the flawed ones are those without a number. -/
theorem isFlawed_of_sound {text : String} (sound : ∀ w ∈ wordsRead text, w.isMalformed = false) :
    isFlawed text = false ↔ lettersWithoutValue (wordsRead text) = [] := by
  have empty (w : Word) (mem : w ∈ wordsRead text) : w.isFlawed = w.isEmpty := by
    rw [Word.isFlawed, sound w mem, Bool.or_false]
  rw [isFlawed, List.any_eq_false, lettersWithoutValue, List.map_eq_nil_iff,
    List.filter_eq_nil_iff]
  exact forall₂_congr fun w mem => by rw [empty w mem]

end Line

namespace Block

open Line

theorem unknownCodes_eq_nil {of? : Int → Option Operation} {letter : Char} {words : List Word} :
    unknownCodes of? ((valuesOf letter words).map Number.toCode) = [] ↔
      ∀ w ∈ words, w.isUnknown letter of? = false := by
  rw [unknownCodes, List.filter_eq_nil_iff]
  constructor
  · intro known w mem
    cases value : w.value? with
    | none => simp [Word.isUnknown, value]
    | some v =>
      by_cases own : w.letter = letter
      · have given : v ∈ valuesOf letter words :=
          List.mem_filterMap.mpr ⟨w, mem, by rw [if_pos own, value]⟩
        have listed := known _ (List.mem_map_of_mem given)
        simpa [Word.isUnknown, value, own, Option.isSome_iff_ne_none] using listed
      · simp [Word.isUnknown, own]
  · intro known code mem
    obtain ⟨v, given, rfl⟩ := List.mem_map.mp mem
    obtain ⟨w, here, value⟩ := List.mem_filterMap.mp given
    split at value
    · rename_i own
      simpa [Word.isUnknown, value, own, Option.isSome_iff_ne_none] using known w here
    · cases value

theorem namesUnlisted_eq_false {text : String} : namesUnlisted text = false ↔
    unknownCodes Operation.ofG? ((valuesOf 'G' (wordsRead text)).map Number.toCode) = [] ∧
    unknownCodes Operation.ofM? ((valuesOf 'M' (wordsRead text)).map Number.toCode) = [] := by
  simp [unknownCodes_eq_nil, namesUnlisted, Word.isUnlisted, forall_and]

variable (text : String) (line : Nat) (implied : Operation) (strict : Bool)

/-- A line is either broken off by a malformed word, or its faults are those of all its words. -/
theorem faults_cases :
    (∃ (missing : List Char) (bad : BadNumber), (parse text line implied strict).faults =
        missing.map .missingValue ++ [.badNumber bad] ∧ isFlawed text = true) ∨
      ((∀ w ∈ wordsRead text, w.isMalformed = false) ∧ (parse text line implied strict).faults =
        (lettersWithoutValue (wordsRead text)).map .missingValue ++
          (unknownCodes Operation.ofG?
            ((valuesOf 'G' (wordsRead text)).map Number.toCode)).map .unknownG ++
          (unknownCodes Operation.ofM?
            ((valuesOf 'M' (wordsRead text)).map Number.toCode)).map .unknownM) := by
  cases found : (scan (bare text.toList)).find? (·.isMalformed) with
  | some w =>
    left
    simp only [parse, Words.read, Words.ofList, found]
    exact ⟨_, _, rfl, isFlawed_of_find? found⟩
  | none =>
    right
    rw [wordsRead_of_find? found]
    constructor
    · intro w mem
      simpa using List.find?_eq_none.mp found w mem
    · simp only [parse, Words.read, Words.ofList, found, faultsOf]

/-- A line is an error line just if a word that is read has no number or a malformed one. -/
theorem parse_isErrorLine : (parse text line implied strict).isErrorLine = isFlawed text := by
  rw [isErrorLine]
  rcases faults_cases text line implied strict with ⟨missing, bad, faults, flawed⟩ | ⟨sound, faults⟩
  · rw [faults, flawed]
    simp [Fault.marksLine]
  · have flawed := isFlawed_of_sound sound
    cases missing : lettersWithoutValue (wordsRead text) with
    | nil =>
      rw [faults, flawed.mpr missing, missing]
      simp [Fault.marksLine]
    | cons letter letters =>
      have flawed : isFlawed text = true := by simpa [missing] using flawed
      rw [faults, flawed, missing]
      simp [Fault.marksLine]

/-- A line is read without a fault just if no word that is read is flawed or unlisted. -/
theorem parse_faults_eq_nil : (parse text line implied strict).faults = [] ↔
    isFlawed text = false ∧ namesUnlisted text = false := by
  rcases faults_cases text line implied strict with ⟨missing, bad, faults, flawed⟩ | ⟨sound, faults⟩
  · rw [faults, flawed]
    simp
  · rw [faults, isFlawed_of_sound sound, namesUnlisted_eq_false]
    simp

end Block

end PartProgram
