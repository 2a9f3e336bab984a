import PartProgram.Block
import PartProgram.Proofs.Machine.Axis

namespace PartProgram

theorem Table.get?_ofList {κ α : Type} [Ranked κ] (l : List (κ × α)) (k : κ) :
    (ofList l).get? k =
      ((l.filter fun e => Ranked.rank k = Ranked.rank e.1).map (·.2)).getLast? := by
  induction l using List.reverseRecOn with
  | nil => rfl
  | append_singleton earlier e ih =>
    have last : ofList (earlier ++ [e]) = (ofList earlier).insert e.1 e.2 := by
      simp [ofList]
    rw [last, get?_insert, ih]
    by_cases same : Ranked.rank k = Ranked.rank e.1
    · simp [same]
    · simp [same]

namespace Line

/-- The values that the words of a line give a letter, in order; none if one of its words is
malformed. -/
def values (letter : Char) (text : String) : List Float :=
  let words := scan (bare text.toList)
  if words.any (·.isMalformed) then [] else valuesOf letter words

/-- The list of parameters keeps the values of a letter that stands for no code. -/
theorem parameters_of_letter {letter : Char} (noG : letter ≠ 'G') (noM : letter ≠ 'M')
    (words : List Word) :
    ((words.filterMap parameter?).filter fun e => Ranked.rank letter = Ranked.rank e.1).map (·.2) =
      valuesOf letter words := by
  have same (w : Word) : Ranked.rank letter = Ranked.rank w.letter ↔ w.letter = letter :=
    ⟨fun h => (Ranked.rank_injective h).symm, fun h => by rw [h]⟩
  unfold valuesOf parameter?
  induction words with
  | nil => rfl
  | cons w words ih =>
    by_cases own : w.letter = letter
    · have noCode : ¬(w.letter = 'G' ∨ w.letter = 'M') := by
        rw [own]
        simp [noG, noM]
      cases value : w.value? <;> simp_all
    · have other : ¬Ranked.rank letter = Ranked.rank w.letter := fun h => own ((same w).mp h)
      by_cases code : w.letter = 'G' ∨ w.letter = 'M'
      · simp_all
      · cases value : w.value? <;> simp_all

/-- The words are those of the line: its G codes and, for each axis, its last value. -/
structure Reads (text : String) (words : Words) : Prop where
  gcodes : words.gcodes = (values 'G' text).map Number.toCode
  axis : ∀ axis : Axis, words.parameters.get? axis.letter = (values axis.letter text).getLast?

/-- A line either cannot be read and gives no letter a value, or its words say what it gives. -/
theorem read_cases (text : String) :
    (∃ bad, Words.read (bare text.toList) = .error bad ∧ ∀ letter, values letter text = []) ∨
      ∃ words, Words.read (bare text.toList) = .ok words ∧ Reads text words := by
  cases found : (scan (bare text.toList)).find? (·.isMalformed) with
  | some w =>
    have malformed : (scan (bare text.toList)).any (·.isMalformed) = true :=
      List.any_eq_true.mpr ⟨w, List.mem_of_find?_eq_some found, List.find?_some found⟩
    left
    refine ⟨_, by rw [Words.read, Words.ofList, found], ?_⟩
    intro letter
    unfold values
    rw [if_pos malformed]
  | none =>
    have sound : (scan (bare text.toList)).any (·.isMalformed) = false := by
      simpa using List.find?_eq_none.mp found
    have given (letter : Char) :
        values letter text = valuesOf letter (scan (bare text.toList)) := by
      simp [values, sound]
    right
    refine ⟨_, by rw [Words.read, Words.ofList, found], ?_, ?_⟩
    · rw [given]
    · intro axis
      have noG : axis.letter ≠ 'G' := by cases axis <;> decide
      have noM : axis.letter ≠ 'M' := by cases axis <;> decide
      rw [given, Table.get?_ofList, parameters_of_letter noG noM]

end Line

/-- What takes no axis words is no motion. -/
theorem Operation.isMotion_of_takesAxes {o : Operation} (h : o.takesAxes = false) :
    o.isMotion = false := by
  cases o <;> first | rfl | cases h

namespace Instruction

variable (operation : Operation) (words : Table Char Float)

theorem ofWords_axes_get (axis : Axis) :
    (ofWords operation words true).axes.get axis = words.get? axis.letter := by
  cases axis <;> rfl

theorem ofWords_axes_none : (ofWords operation words false).axes = .none := rfl

end Instruction

namespace Block

/-- The number of instructions that carry the axis words of the line: of those that take axis
words, or of all if none does. -/
def carriers (b : Block) : Nat :=
  if b.instructions.any (·.operation.takesAxes) then
    b.instructions.countP (·.operation.takesAxes)
  else b.instructions.length

/-- What a line asks for: the motion in force, or what its codes stand for. -/
theorem mem_requested {words : Line.Words} {implied : Operation} {strict : Bool} {o : Operation}
    (mem : o ∈ requested words implied strict) :
    o = implied ∨ o = .unknown ∨ (∃ code ∈ words.gcodes, Operation.ofG? code = some o) ∨
      ∃ code ∈ words.mcodes, Operation.ofM? code = some o := by
  have classified {of? : Int → Option Operation} {codes : List Int}
      (mem : o ∈ operations of? strict codes) :
      o = .unknown ∨ ∃ code ∈ codes, of? code = some o := by
    obtain ⟨code, here, found⟩ := List.mem_filterMap.mp mem
    cases known : of? code with
    | some p =>
      rw [known] at found
      exact .inr ⟨code, here, known.trans found⟩
    | none =>
      rw [known] at found
      cases strict with
      | true => cases found
      | false => exact .inl (Option.some.inj found).symm
  unfold requested at mem
  split at mem
  · split at mem
    · exact .inl (List.mem_singleton.mp mem)
    · cases mem
  · rcases List.mem_append.mp mem with g | m
    · rcases classified g with unknown | known
      · exact .inr (.inl unknown)
      · exact .inr (.inr (.inl known))
    · rcases classified m with unknown | known
      · exact .inr (.inl unknown)
      · exact .inr (.inr (.inr known))

/-- Whether an operation gets the axis words of a line with the given operations. -/
def carries (operations : List Operation) (operation : Operation) : Bool :=
  !operations.any (·.takesAxes) || operation.takesAxes

theorem countP_carries (operations : List Operation) : operations.countP (carries operations) =
    if operations.any (·.takesAxes) then operations.countP (·.takesAxes)
    else operations.length := by
  unfold carries
  cases owned : operations.any (·.takesAxes) with
  | true => simp
  | false => simp

/-- Where there are operations, one of them gets the axis words. -/
theorem exists_carries {operations : List Operation} (some : operations ≠ []) :
    ∃ operation ∈ operations, carries operations operation = true := by
  unfold carries
  cases owned : operations.any (·.takesAxes) with
  | true =>
    obtain ⟨operation, mem, takes⟩ := List.any_eq_true.mp owned
    exact ⟨operation, mem, by simp [takes]⟩
  | false =>
    obtain ⟨operation, mem⟩ := List.exists_mem_of_ne_nil operations some
    exact ⟨operation, mem, by simp⟩

section parse

variable {text : String} {line : Nat} {implied : Operation} {strict : Bool} {words : Line.Words}

theorem parse_of_error {bad : Line.BadNumber}
    (read : Line.Words.read (Line.bare text.toList) = .error bad) :
    (parse text line implied strict).instructions = [] := by
  unfold parse
  rw [read]

/-- The instructions of a line that can be read. -/
def labelled (text : String) (line : Nat) (words : Line.Words) (requested : List Operation) :
    List Instruction :=
  requested.map fun operation =>
    { Instruction.ofWords operation words.parameters (carries requested operation) with
      line, text, comment := String.ofList (Line.comment text.toList) }

theorem parse_of_ok (read : Line.Words.read (Line.bare text.toList) = .ok words) :
    (parse text line implied strict).instructions =
      labelled text line words (requested words implied strict) := by
  unfold parse
  rw [read]
  simp [bind, labelled, carries, Function.comp_def]

end parse

section labelled

variable (text : String) (line : Nat) (words : Line.Words) {operations : List Operation}

theorem labelled_axes {i : Instruction} (mem : i ∈ labelled text line words operations) :
    (∀ axis : Axis, i.axes.get axis = words.parameters.get? axis.letter) ∨
      (i.operation.isMotion = false ∧ i.axes = .none) := by
  obtain ⟨operation, here, rfl⟩ := List.mem_map.mp mem
  cases takes : carries operations operation with
  | true => exact .inl fun axis => Instruction.ofWords_axes_get operation words.parameters axis
  | false =>
    have no : operation.takesAxes = false := (Bool.or_eq_false_iff.mp takes).2
    exact .inr ⟨Operation.isMotion_of_takesAxes no, rfl⟩

theorem carriers_of_labelled {b : Block}
    (instructions : b.instructions = labelled text line words operations) :
    b.carriers = operations.countP (carries operations) := by
  have operation (o : Operation) (axes : Bool) :
      (Instruction.ofWords o words.parameters axes).operation = o := rfl
  unfold carriers
  rw [instructions, countP_carries]
  simp [labelled, Function.comp_def, operation]

/-- A word for an axis is carried by all that carry axis words. -/
theorem countP_labelled {axis : Axis} {v : Float}
    (given : words.parameters.get? axis.letter = some v) :
    (labelled text line words operations).countP (·.axes.any) =
      operations.countP (carries operations) := by
  unfold labelled
  rw [List.countP_map]
  apply List.countP_congr
  intro operation _
  cases takes : carries operations operation with
  | true =>
    have word := Instruction.ofWords_axes_get operation words.parameters axis
    rw [given] at word
    simp [takes, AxisWords.any_of_get word]
  | false =>
    have any : (Instruction.ofWords operation words.parameters false).axes.any = false :=
      AxisWords.any_eq_false.mpr (Instruction.ofWords_axes_none _ _)
    simp [takes, any]

/-- The last word that the instructions carry for an axis is the one of the line, if there are any
instructions to carry it. -/
theorem latest_labelled {axis : Axis}
    (carried : (words.parameters.get? axis.letter).isSome → operations ≠ []) :
    latest (·.axes.get axis) (labelled text line words operations) =
      words.parameters.get? axis.letter := by
  cases given : words.parameters.get? axis.letter with
  | none =>
    apply latest_eq_none
    intro i mem
    rcases labelled_axes text line words mem with own | ⟨-, none⟩
    · rw [own, given]
    · rw [none, AxisWords.get_none]
  | some v =>
    obtain ⟨operation, mem, takes⟩ := exists_carries (carried (by rw [given]; rfl))
    have here := List.mem_map_of_mem (f := fun operation =>
      { Instruction.ofWords operation words.parameters (carries operations operation) with
        line, text, comment := String.ofList (Line.comment text.toList) }) mem
    have own : (Instruction.ofWords operation words.parameters
        (carries operations operation)).axes.get axis = some v := by
      rw [takes, Instruction.ofWords_axes_get, given]
    apply latest_eq_some here own
    intro j there u word
    -- no instruction carries another word, so that any of them decides
    rcases labelled_axes text line words there with own | ⟨-, none⟩
    · rw [own, given] at word
      exact (Option.some.inj word).symm
    · rw [none, AxisWords.get_none] at word
      cases word

end labelled

section tolerant

variable {text : String} {line : Nat} {implied : Operation} {words : Line.Words}

/-- Where unknown codes count, each code asks for an operation. -/
theorem operations_length (of? : Int → Option Operation) (codes : List Int) :
    (operations of? false codes).length = codes.length := by
  unfold operations
  induction codes with
  | nil => rfl
  | cons code codes ih =>
    cases known : of? code with
    | none => simpa [known] using ih
    | some operation => simpa [known] using ih

/-- A line with an axis word asks for an operation, with a code or without. -/
theorem requested_ne_nil {axis : Axis} (given : (words.parameters.get? axis.letter).isSome) :
    requested words implied false ≠ [] := by
  have axes : words.hasAxes = true := by
    unfold Line.Words.hasAxes
    rw [List.any_eq_true]
    exact ⟨axis.letter, axis.letter_mem, given⟩
  unfold requested
  rw [if_pos axes]
  split
  next => simp
  next codes =>
    intro none
    obtain ⟨gnone, mnone⟩ := List.append_eq_nil_iff.mp none
    have g := operations_length Operation.ofG? words.gcodes
    have m := operations_length Operation.ofM? words.mcodes
    rw [gnone, List.length_nil] at g
    rw [mnone, List.length_nil] at m
    apply codes
    simp [List.eq_nil_of_length_eq_zero g.symm, List.eq_nil_of_length_eq_zero m.symm]

/-- Where faults are tolerated, no axis word of a line is lost. -/
theorem latest_parse (axis : Axis) :
    latest (·.axes.get axis) (parse text line implied false).instructions =
      (Line.values axis.letter text).getLast? := by
  rcases Line.read_cases text with ⟨bad, read, silent⟩ | ⟨words, read, given⟩
  · rw [parse_of_error read, silent]
    rfl
  · rw [parse_of_ok read, ← given.axis]
    exact latest_labelled text line words requested_ne_nil

end tolerant

end Block

end PartProgram
