import PartProgram.Proofs.Controller.Halting
import PartProgram.Proofs.Line.Binding

namespace PartProgram

open Line

namespace Operation

theorem isArc_of_ofG? {code : Int} {o : Operation} (known : ofG? code = some o) :
    o.isArc = true ↔ code = 2 ∨ code = 3 := by
  unfold ofG? at known
  split at known <;> cases known <;> simp [isArc]

theorem isArc_of_ofM? {code : Int} {o : Operation} (known : ofM? code = some o) :
    o.isArc = false := by
  unfold ofM? at known
  split at known <;> cases known <;> rfl

end Operation

namespace Machine

/-- The retract height is the last one that the instructions give. -/
theorem foldl_apply_retract (history : List Instruction) (m : Machine) :
    (history.foldl apply m).retract = (latest (·.retract) history).getD m.retract := by
  induction history using List.reverseRecOn with
  | nil => rfl
  | append_singleton earlier i ih =>
    rw [List.foldl_append, List.foldl_cons, List.foldl_nil, apply_eq, latest_snoc, ← ih]

end Machine

namespace Block

/-- The codes of the line stand for arcs only. Those that stand for nothing count as something else
unless they are left out. -/
def namesArcsOnly (strict : Bool) (text : String) : Bool :=
  (codes 'G' text).all (fun code =>
    code == 2 || code == 3 || (strict && (Operation.ofG? code).isNone)) &&
  (codes 'M' text).all fun code => strict && (Operation.ofM? code).isNone

/-- A condition that the unknown operation fails holds of what codes ask for, if it holds of what
each of them stands for. -/
theorem all_askedBy {p : Operation → Bool} (unknown : p .unknown = false)
    (of? : Int → Option Operation) (strict : Bool) (codes : List Int) :
    (askedBy of? strict codes).all p = codes.all fun code => (of? code).elim strict p := by
  have one (code : Int) : (askedBy of? strict [code]).all p = (of? code).elim strict p := by
    cases known : of? code <;> cases strict <;> simp [askedBy, known, unknown]
  induction codes with
  | nil => cases strict <;> rfl
  | cons code codes ih =>
    have split : askedBy of? strict (code :: codes) =
        askedBy of? strict [code] ++ askedBy of? strict codes := by
      cases strict with
      | true => exact List.filterMap_append (l := [code])
      | false => rfl
    rw [split, List.all_append, one, ih, List.all_cons]

/-- Each instruction of a line takes R for its retract height unless it is an arc. -/
theorem retract_of_mem_parse {text : String} {line : Nat} {implied : Operation} {strict : Bool}
    {i : Instruction} (mem : i ∈ (parse text line implied strict).instructions) :
    i.retract = if i.operation.isArc then none else last? 'R' text := by
  rcases read_cases text with ⟨bad, read, -⟩ | ⟨words, read, -⟩
  · rw [parse_of_error read] at mem
    cases mem
  · have readable : (Words.read (bare text.toList)).isOk = true := by rw [read]; rfl
    obtain ⟨words, read, yields⟩ := exists_yields readable
    rw [parse_of_ok read] at mem
    exact (holds_of_labelled yields mem).retract

/-- On a line with an arc all instructions are arcs just if all its codes are. -/
theorem all_isArc_parse {text : String} (arc : 2 ∈ codes 'G' text ∨ 3 ∈ codes 'G' text)
    (line : Nat) (implied : Operation) (strict : Bool) :
    (parse text line implied strict).instructions.all (·.operation.isArc) =
      namesArcsOnly strict text := by
  rcases read_cases text with ⟨bad, -, silent⟩ | ⟨words, read, -⟩
  · simp [codes, silent] at arc
  · have readable : (Words.read (bare text.toList)).isOk = true := by rw [read]; rfl
    obtain ⟨words, read, yields⟩ := exists_yields readable
    have some : words.gcodes ≠ [] := by
      rw [yields.gcodes]
      rcases arc with arc | arc
      · exact List.ne_nil_of_mem arc
      · exact List.ne_nil_of_mem arc
    have asked : requested words implied strict = askedBy Operation.ofG? strict (codes 'G' text) ++
        askedBy Operation.ofM? strict (codes 'M' text) := by
      rw [requested_eq yields, if_neg fun none => some none.1, yields.gcodes, yields.mcodes]
    have operations : (parse text line implied strict).instructions.all (·.operation.isArc) =
        (requested words implied strict).all (·.isArc) := by
      rw [parse_of_ok read, labelled, List.all_map]
      rfl
    have g (code : Int) : (Operation.ofG? code).elim strict (·.isArc) =
        (code == 2 || code == 3 || (strict && (Operation.ofG? code).isNone)) := by
      cases known : Operation.ofG? code with
      | some o =>
        have arc := Operation.isArc_of_ofG? known
        rw [Bool.eq_iff_iff, Option.elim_some, arc]
        simp
      | none =>
        have other : code ≠ 2 ∧ code ≠ 3 := by
          constructor <;> rintro rfl <;> cases known
        simp [other]
    have m (code : Int) : (Operation.ofM? code).elim strict (·.isArc) =
        (strict && (Operation.ofM? code).isNone) := by
      cases known : Operation.ofM? code with
      | some o => simp [Operation.isArc_of_ofM? known]
      | none => simp
    have unknown : Operation.unknown.isArc = false := rfl
    rw [operations, asked, List.all_append, all_askedBy unknown, all_askedBy unknown,
      namesArcsOnly]
    simp only [g, m]

end Block

namespace Controller

/-- Unless all instructions of a line are arcs, it sets the retract height by its last R. -/
theorem runLine_retract (c : Controller) (text : String) (line total : Nat) :
    (c.runLine text line total).1.machine.retract =
      if (c.read text line).instructions.all (·.operation.isArc) then c.machine.retract
      else (last? 'R' text).getD c.machine.retract := by
  have given (i : Instruction) (mem : i ∈ (c.read text line).instructions) :
      i.retract = if i.operation.isArc then none else last? 'R' text :=
    Block.retract_of_mem_parse mem
  rw [runLine_machine, Machine.foldl_apply_retract]
  generalize (c.read text line).instructions = instructions at given
  cases arcs : instructions.all (·.operation.isArc) with
  | true =>
    have none : latest (·.retract) instructions = none := by
      apply latest_eq_none
      intro i mem
      rw [given i mem, if_pos (List.all_eq_true.mp arcs i mem)]
    rw [none]
    rfl
  | false =>
    obtain ⟨i, mem, other⟩ := List.all_eq_false.mp arcs
    have height : latest (·.retract) instructions = last? 'R' text := by
      cases word : last? 'R' text with
      | none =>
        apply latest_eq_none
        intro j there
        rw [given j there, word, ite_self]
      | some r =>
        apply latest_eq_some mem
        · rw [given i mem, if_neg other, word]
        · intro j there u own
          rw [given j there, word] at own
          split at own
          · cases own
          · exact (Option.some.inj own).symm
    rw [height]
    rfl

end Controller

/-- When a line sets the retract height. It leaves it as it is if all instructions of the line are
arcs, and otherwise sets it to the last R of the line, if there is one: each instruction but an arc
takes R for its retract height. On a line with an arc, all are arcs just if all its codes are. -/
theorem retract_height_beside_arcs (c : Controller) (text : String) (line total : Nat) :
    let instructions := (c.read text line).instructions
    (c.runLine text line total).1.machine.retract =
      (if instructions.all (·.operation.isArc) then c.machine.retract
        else (last? 'R' text).getD c.machine.retract) ∧
    (∀ i ∈ instructions, i.retract = if i.operation.isArc then none else last? 'R' text) ∧
    (2 ∈ codes 'G' text ∨ 3 ∈ codes 'G' text →
      instructions.all (·.operation.isArc) = Block.namesArcsOnly c.settings.strict text) := by
  refine ⟨c.runLine_retract text line total, ?_, ?_⟩
  · intro i mem
    exact Block.retract_of_mem_parse mem
  · intro arc
    exact Block.all_isArc_parse arc line _ _

/-- The distance mode on the line of an arc takes its radius for a retract height. -/
theorem radius_becomes_retract_height :
    ¬∀ (c : Controller) (text : String) (line total : Nat),
      (2 ∈ codes 'G' text ∨ 3 ∈ codes 'G' text) → last? 'R' text ≠ none →
      (∀ code ∈ codes 'G' text, code < 81 ∨ 85 < code) →
      (c.runLine text line total).1.machine.retract = c.machine.retract := by
  intro kept
  have codes : codes 'G' "G90 G2 X10 R5" = [90, 2] := by decide +kernel
  have same := kept {} "G90 G2 X10 R5" 1 1 (by simp [codes]) (by decide +kernel) (by simp [codes])
  have set : (({} : Controller).runLine "G90 G2 X10 R5" 1 1).1.machine.retract ≠
      ({} : Controller).machine.retract := by
    decide +kernel
  exact set same

end PartProgram
