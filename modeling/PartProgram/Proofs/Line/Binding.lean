import PartProgram.Proofs.Controller.Agreement
import PartProgram.Proofs.Line.Reading

namespace PartProgram

namespace Line

/-- The last value that a line gives a letter. -/
def last? (letter : Char) (text : String) : Option Float :=
  (values letter text).getLast?

/-- The codes of a letter on a line. -/
def codes (letter : Char) (text : String) : List Int :=
  (values letter text).map Number.toCode

/-- The line gives an axis a value. -/
def namesAxis (text : String) : Bool :=
  ['X', 'Y', 'Z', 'A', 'B', 'C'].any fun letter => !(values letter text).isEmpty

/-- The letters of the words that have no number, in order. -/
def unvalued (text : String) : List Char :=
  lettersWithoutValue (scan (bare text.toList))

/-- The letters that begin a word but mean nothing to any operation. -/
def idleLetters : List Char :=
  "DEHLNUVW".toList

/-- The words are made of the values that the line gives each letter. -/
structure Yields (text : String) (words : Words) : Prop where
  gcodes : words.gcodes = codes 'G' text
  mcodes : words.mcodes = codes 'M' text
  parameter : ∀ letter, letter ≠ 'G' → letter ≠ 'M' →
    words.parameters.get? letter = last? letter text
  missing : words.missing = unvalued text

theorem exists_yields {text : String} (readable : (Words.read (bare text.toList)).isOk = true) :
    ∃ words, Words.read (bare text.toList) = .ok words ∧ Yields text words := by
  have sound : ∀ w ∈ scan (bare text.toList), w.isMalformed = false := by
    have made := Words.isMadeOf_ofList fun w (mem : w ∈ scan (bare text.toList)) =>
      isMalformed_of_mem_scan mem
    exact fun w mem => (isMalformed_of_mem_scan mem).mpr (made.isOk_iff.mp readable w mem)
  have given (letter : Char) :
      values letter text = valuesOf letter (scan (bare text.toList)) := by
    have none : (scan (bare text.toList)).any (·.isMalformed) = false := by simpa using sound
    simp [values, none]
  refine ⟨_, Words.ofList_of_sound sound, by rw [codes, given],
    by rw [codes, given], ?_, rfl⟩
  intro letter noG noM
  rw [Words.get?_parameters, if_neg (not_or.mpr ⟨noG, noM⟩), last?, given]

theorem Yields.hasAxes {text : String} {words : Words} (h : Yields text words) :
    words.hasAxes = namesAxis text := by
  have given (letter : Char) (noG : letter ≠ 'G') (noM : letter ≠ 'M') :
      words.parameters.contains letter = !(values letter text).isEmpty := by
    rw [Table.contains, h.parameter letter noG noM, last?]
    cases values letter text <;> simp
  simp [Words.hasAxes, namesAxis, given]

end Line

namespace Block

/-- The operations that codes ask for: those they stand for, in order. A code that stands for none
asks for an unknown operation, or for nothing if it is `strict`. -/
def askedBy (of? : Int → Option Operation) (strict : Bool) (codes : List Int) : List Operation :=
  if strict then codes.filterMap of? else codes.map fun code => (of? code).getD .unknown

theorem operations_eq (of? : Int → Option Operation) (strict : Bool) (codes : List Int) :
    operations of? strict codes = askedBy of? strict codes := by
  unfold operations askedBy
  cases strict with
  | true =>
    apply List.filterMap_congr
    intro code _
    cases of? code <;> rfl
  | false =>
    rw [← List.filterMap_eq_map]
    apply List.filterMap_congr
    intro code _
    cases known : of? code <;> simp [known]

end Block

open Line

/-- What an instruction of a line holds: its label, and the last value of each letter that means
something to its operation. R is the radius of an arc and the retract height of all else. -/
structure Instruction.Holds (i : Instruction) (t : String) (n : Nat) (carries : Bool) : Prop where
  label : i.line = n ∧ i.text = t ∧ i.comment = String.ofList (Line.comment t.toList)
  axes : ∀ axis : Axis, i.axes.get axis = if carries then last? axis.letter t else none
  arc : i.arc = ⟨last? 'I' t, last? 'J' t, last? 'K' t,
    if i.operation.isArc then last? 'R' t else none⟩
  retract : i.retract = if i.operation.isArc then none else last? 'R' t
  rates : i.feed = last? 'F' t ∧ i.speed = last? 'S' t ∧ i.dwell = last? 'P' t ∧
    i.peck = last? 'Q' t
  tool : Option.Rel Number.IsCodeOf i.tool (last? 'T' t)

/-- An instruction never has both a radius and a retract height. -/
theorem Instruction.Holds.radius_or_retract {i : Instruction} {t : String} {n : Nat}
    {carries : Bool} (h : i.Holds t n carries) : i.arc.r = none ∨ i.retract = none := by
  rw [h.arc, h.retract]
  cases i.operation.isArc with
  | true => exact .inr rfl
  | false => exact .inl rfl

namespace Block

section read

variable {text : String} {words : Words} (yields : Yields text words)

include yields

theorem holds_of_labelled {line : Nat} {operations : List Operation} {i : Instruction}
    (mem : i ∈ labelled text line words operations) :
    i.Holds text line (carries operations i.operation) := by
  obtain ⟨operation, -, rfl⟩ := List.mem_map.mp mem
  have word (letter : Char) (noCode : letter ≠ 'G' ∧ letter ≠ 'M') :
      words.parameters.get? letter = last? letter text :=
    yields.parameter letter noCode.1 noCode.2
  constructor
  case label => exact ⟨rfl, rfl, rfl⟩
  case axes =>
    intro axis
    have noCode : axis.letter ≠ 'G' ∧ axis.letter ≠ 'M' := by cases axis <;> decide
    show (Instruction.ofWords operation words.parameters
      (carries operations operation)).axes.get axis =
        if carries operations operation then last? axis.letter text else none
    cases carries operations operation with
    | true =>
      rw [Instruction.ofWords_axes_get, word axis.letter noCode]
      rfl
    | false => exact AxisWords.get_none axis
  case arc =>
    show ArcWords.mk (words.parameters.get? 'I') (words.parameters.get? 'J')
      (words.parameters.get? 'K') (if operation.isArc then words.parameters.get? 'R' else none) =
        ⟨_, _, _, if operation.isArc then last? 'R' text else none⟩
    rw [word 'I' (by decide), word 'J' (by decide), word 'K' (by decide), word 'R' (by decide)]
  case retract =>
    show (if operation.isArc then none else words.parameters.get? 'R') =
      if operation.isArc then none else last? 'R' text
    rw [word 'R' (by decide)]
  case rates =>
    exact ⟨word 'F' (by decide), word 'S' (by decide), word 'P' (by decide), word 'Q' (by decide)⟩
  case tool =>
    show Option.Rel _ ((words.parameters.get? 'T').map Number.toCode) _
    rw [word 'T' (by decide)]
    cases last? 'T' text with
    | none => exact .none
    | some value => exact .some (Number.isCodeOf_toCode value)

theorem requested_eq (implied : Operation) (strict : Bool) :
    requested words implied strict =
      if words.gcodes = [] ∧ words.mcodes = [] then if namesAxis text then [implied] else []
      else askedBy Operation.ofG? strict words.gcodes ++
        askedBy Operation.ofM? strict words.mcodes := by
  unfold requested
  simp [yields.hasAxes, operations_eq]

end read

/-- What a letter gives without meaning anything to an operation reaches no instruction. -/
theorem instructions_congr {t u : String} {v w : Words} (first : Yields t v) (second : Yields u w)
    (same : ∀ letter ∉ idleLetters, values letter t = values letter u) (line : Nat)
    (implied : Operation) (strict : Bool) :
    (labelled t line v (requested v implied strict)).map (·.unlabelled) =
      (labelled u line w (requested w implied strict)).map (·.unlabelled) := by
  have gcodes : v.gcodes = w.gcodes := by
    rw [first.gcodes, second.gcodes, codes, codes, same 'G' (by decide)]
  have mcodes : v.mcodes = w.mcodes := by
    rw [first.mcodes, second.mcodes, codes, codes, same 'M' (by decide)]
  have axes : namesAxis t = namesAxis u := by
    have means : ['X', 'Y', 'Z', 'A', 'B', 'C'].all fun letter => !idleLetters.contains letter := by
      decide
    have given (letter : Char) (mem : letter ∈ ['X', 'Y', 'Z', 'A', 'B', 'C']) :
        values letter t = values letter u :=
      same letter (by simpa using List.all_eq_true.mp means letter mem)
    simp [namesAxis, given]
  have asked : requested v implied strict = requested w implied strict := by
    rw [requested_eq first, requested_eq second, gcodes, mcodes, axes]
  have word (letter : Char)
      (means : letter ∉ idleLetters ∧ letter ≠ 'G' ∧ letter ≠ 'M') :
      v.parameters.get? letter = w.parameters.get? letter := by
    obtain ⟨own, noG, noM⟩ := means
    rw [first.parameter letter noG noM, second.parameter letter noG noM, last?, last?,
      same letter own]
  have bound (operation : Operation) (takesAxes : Bool) :
      Instruction.ofWords operation v.parameters takesAxes =
        Instruction.ofWords operation w.parameters takesAxes := by
    unfold Instruction.ofWords
    simp (disch := decide) only [word]
  unfold labelled
  rw [asked, List.map_map, List.map_map]
  apply List.map_congr_left
  intro operation _
  simp only [Function.comp_apply, Instruction.unlabelled, bound]

section faults

variable {text : String} {words : Words} (yields : Yields text words)

include yields

/-- The faults of a line that can be read: letters without a value, then codes that stand for no
operation. -/
theorem faultsOf_eq : faultsOf words = (unvalued text).map .missingValue ++
    (words.gcodes.filter fun code => (Operation.ofG? code).isNone).map .unknownG ++
    (words.mcodes.filter fun code => (Operation.ofM? code).isNone).map .unknownM := by
  rw [faultsOf, yields.missing]
  rfl

/-- Of these only the letters without a value make it an error line. -/
theorem filter_marksLine_faultsOf :
    (faultsOf words).filter (·.marksLine) = (unvalued text).map .missingValue := by
  have marked : ((unvalued text).map Fault.missingValue).filter (·.marksLine) =
      (unvalued text).map .missingValue := by
    rw [List.filter_eq_self]
    simp [Fault.marksLine]
  have unmarked {α : Type} {f : α → Fault} (l : List α) (h : ∀ a, (f a).marksLine = false) :
      (l.map f).filter (·.marksLine) = [] := by
    simp [List.filter_eq_nil_iff, h]
  rw [faultsOf_eq yields, List.filter_append, List.filter_append, marked,
    unmarked _ fun _ => rfl, unmarked _ fun _ => rfl, List.append_nil, List.append_nil]

end faults

end Block

open Block

/-- Binding loses and misplaces no word of a line that can be read. The line asks for the operations
of its G codes and then of its M codes; or for the motion in force if it has no code but an axis
word. Each instruction holds the last value of every letter that means something to it, and axis
words go to all instructions, or to those that take them if there are any. The faults are the
letters without a value and the codes that stand for no operation, and only the former make it an
error line. Lines that differ only in letters without a meaning have the same instructions. -/
theorem line_binds_words {text : String}
    (readable : (Words.read (bare text.toList)).isOk = true) (line : Nat) (implied : Operation)
    (strict : Bool) :
    let block := Block.parse text line implied strict
    let asked := block.instructions.map (·.operation)
    (∃ gcodes mcodes, List.Forall₂ Number.IsCodeOf gcodes (values 'G' text) ∧
      List.Forall₂ Number.IsCodeOf mcodes (values 'M' text) ∧
      asked = (if gcodes = [] ∧ mcodes = [] then if namesAxis text then [implied] else []
        else askedBy Operation.ofG? strict gcodes ++ askedBy Operation.ofM? strict mcodes) ∧
      block.faults = (unvalued text).map .missingValue ++
        (gcodes.filter fun code => (Operation.ofG? code).isNone).map .unknownG ++
        (mcodes.filter fun code => (Operation.ofM? code).isNone).map .unknownM) ∧
    (∀ i ∈ block.instructions, i.Holds text line (carries asked i.operation) ∧
      (i.arc.r = none ∨ i.retract = none)) ∧
    (block.isErrorLine = true ↔ ∃ fault ∈ block.faults, fault.marksLine = true) ∧
    (block.isErrorLine = true ↔ unvalued text ≠ []) ∧
    block.errorMessage = ((unvalued text).getLast?.map fun letter =>
      (Fault.missingValue letter).message).getD "" ∧
    ∀ other : String, (Words.read (bare other.toList)).isOk = true →
      (∀ letter ∉ idleLetters, values letter other = values letter text) →
      (Block.parse other line implied strict).instructions.map (·.unlabelled) =
        block.instructions.map (·.unlabelled) := by
  intro block asked
  obtain ⟨words, read, yields⟩ := exists_yields readable
  have instructions : block.instructions =
      labelled text line words (requested words implied strict) := parse_of_ok read
  have faults : block.faults = faultsOf words := by
    simp only [block, Block.parse, read]
  have operations : asked = requested words implied strict := by
    simp only [asked, instructions, labelled, List.map_map]
    exact List.map_id _
  have marking : block.faults.filter (·.marksLine) = (unvalued text).map .missingValue := by
    rw [faults, filter_marksLine_faultsOf yields]
  have marked : block.isErrorLine = true ↔ ∃ fault ∈ block.faults, fault.marksLine = true :=
    List.any_eq_true
  refine ⟨⟨words.gcodes, words.mcodes, ?_, ?_, ?_, ?_⟩, ?_, marked, ?_, ?_, ?_⟩
  · rw [yields.gcodes]
    exact Number.forall₂_toCode (values 'G' text)
  · rw [yields.mcodes]
    exact Number.forall₂_toCode (values 'M' text)
  · rw [operations, requested_eq yields]
  · rw [faults, faultsOf_eq yields]
  · intro i mem
    rw [instructions] at mem
    rw [operations]
    have holds := holds_of_labelled yields mem
    exact ⟨holds, holds.radius_or_retract⟩
  · have some : (∃ fault ∈ block.faults, fault.marksLine = true) ↔
        block.faults.filter (·.marksLine) ≠ [] := by
      rw [ne_eq, List.filter_eq_nil_iff]
      simp
    rw [marked, some, marking, ne_eq, List.map_eq_nil_iff]
  · rw [errorMessage, marking, List.getLast?_map]
    cases (unvalued text).getLast? <;> rfl
  · intro other readable same
    obtain ⟨words', read', yields'⟩ := exists_yields readable
    rw [parse_of_ok read', instructions]
    exact instructions_congr yields' yields same line implied strict

/-- An arc among codes of other groups, with a letter without a value and one without a meaning. -/
def mixedLine : String :=
  "g90 G2 X10 M8 (arc) R5 T3.7 D4 K G99"

/-- Only the arc gets the axis word and the radius; all others take it for a retract height. -/
theorem mixedLine_binds :
    let block := Block.parse mixedLine 7 (.move .rapid) false
    block.instructions.map (·.operation) =
      [.distanceMode .absolute, .move .clockwise, .unknown, .flood] ∧
    (∀ i ∈ block.instructions, i.Holds mixedLine 7 i.operation.takesAxes) ∧
    block.instructions.map (·.retract) = [some 5.0, none, some 5.0, some 5.0] ∧
    block.faults = [.missingValue 'K', .unknownG 99] ∧
    block.isErrorLine = true ∧ block.errorMessage = "Missing value for K" := by
  intro block
  have readable : (Words.read (bare mixedLine.toList)).isOk = true := by decide +kernel
  obtain ⟨-, holds, -, marked, message, -⟩ :=
    line_binds_words readable 7 (.move .rapid) false
  have asked : block.instructions.map (·.operation) =
      [.distanceMode .absolute, .move .clockwise, .unknown, .flood] := by decide +kernel
  have missing : unvalued mixedLine = ['K'] := by decide +kernel
  refine ⟨asked, fun i mem => ?_, by decide +kernel, by decide +kernel, ?_, ?_⟩
  · have own := (holds i mem).1
    rw [asked] at own
    exact own
  · exact marked.mpr (by rw [missing]; simp)
  · rw [message, missing]
    decide +kernel

end PartProgram
