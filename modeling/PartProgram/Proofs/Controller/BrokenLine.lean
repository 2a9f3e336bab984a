import PartProgram.Proofs.Controller.Narration
import PartProgram.Proofs.Controller.Wording
import PartProgram.Proofs.Line.Reading

namespace PartProgram

namespace Line

/-- Of all the words of a line that cannot be read this one is the first. -/
structure BreaksAt (text : String) (front : List Word) (bad : Word) : Prop where
  whole : ∃ back, scan (bare text.toList) = front ++ bad :: back
  readable : ∀ w ∈ front, w.IsReadable
  unreadable : ¬bad.IsReadable

theorem exists_breaksAt {text : String}
    (broken : ∃ w ∈ scan (bare text.toList), ¬w.IsReadable) :
    ∃ front bad, BreaksAt text front bad := by
  obtain ⟨w, mem, unreadable⟩ := broken
  have made := Words.isMadeOf_ofList fun w (mem : w ∈ scan (bare text.toList)) =>
    isMalformed_of_mem_scan mem
  generalize Words.ofList _ = result at made
  cases made with
  | gathered readable => exact absurd (readable w mem) unreadable
  | broken whole readable bad => exact ⟨_, _, ⟨_, whole⟩, readable, bad⟩

variable {text : String} {front : List Word} {bad : Word}

theorem BreaksAt.read (h : BreaksAt text front bad) : Words.read (bare text.toList) =
    .error ⟨bad.letter, bad.text, lettersWithoutValue front⟩ := by
  obtain ⟨back, whole⟩ := h.whole
  have malformed (w : Word) (here : w ∈ front ++ bad :: back) :
      w.isMalformed = false ↔ w.IsReadable :=
    isMalformed_of_mem_scan (whole ▸ here)
  have sound (w : Word) (mem : w ∈ front) : w.isMalformed = false :=
    (malformed w (List.mem_append_left _ mem)).mpr (h.readable w mem)
  have stop : bad.isMalformed = true := by
    have unread := mt (malformed bad (by simp)).mp h.unreadable
    simpa using unread
  rw [Words.read, whole, Words.ofList_of_malformed sound stop]

end Line

open Line

/-- What is wrong with a line that breaks off: the letters without a value on the way to the number
that cannot be read, in order, and then that number. -/
def faultsUpTo (front : List Word) (bad : Word) : List Fault :=
  (lettersWithoutValue front).map .missingValue ++
    [.badNumber ⟨bad.letter, bad.text, lettersWithoutValue front⟩]

variable {text : String} {front : List Word} {bad : Word}

theorem Line.BreaksAt.parse (h : BreaksAt text front bad) (line : Nat) (implied : Operation)
    (strict : Bool) : (Block.parse text line implied strict).instructions = [] ∧
      (Block.parse text line implied strict).faults = faultsUpTo front bad ∧
      (Block.parse text line implied strict).isErrorLine = true := by
  rw [Block.parse, h.read]
  refine ⟨rfl, rfl, ?_⟩
  simp [Block.isErrorLine, Fault.marksLine]

/-- A line with a number that cannot be read has no effect, wherever in the line the number stands.
The machine only takes the number of the line, which is counted as an error line. Nothing is handed
out, and the log and the observer are told which letters before the number have no value and then of
the number. -/
theorem broken_line_has_no_effect (c : Controller) (text : String) (line total : Nat)
    (broken : ∃ w ∈ scan (bare text.toList), ¬w.IsReadable) :
    ∃ front bad, BreaksAt text front bad ∧
      let entries := (faultsUpTo front bad).map (Entry.mk line text)
      c.runLine text line total = ({ c with
        machine := { c.machine with line }
        summary := { c.summary with
          totalLines := c.summary.totalLines + 1
          errorLines := c.summary.errorLines + 1 }
        log := c.log ++ entries
        observer := c.observer.map (·.tellAll (.progress line total :: entries.map .fault)) }, []) ∧
      entries.map (·.shown) =
        (lettersWithoutValue front).map
            (fun letter => (line, s!"Missing value for {letter}", .parseError)) ++
          [(line, "Parse error: " ++ ("invalid number '" ++ String.ofList bad.text ++ "' for " ++
            String.singleton bad.letter), .parseError)] := by
  obtain ⟨front, bad, breaks⟩ := exists_breaksAt broken
  refine ⟨front, bad, breaks, ?_, ?_⟩
  · obtain ⟨instructions, faults, errorLine⟩ :=
      breaks.parse line (.move c.machine.motion) c.settings.strict
    have counted : c.summary.countLine (c.read text line) = { c.summary with
        totalLines := c.summary.totalLines + 1
        errorLines := c.summary.errorLines + 1 } := by
      rw [Controller.read, Summary.countLine_eq, Block.isCommandLine, Block.isCommentLine,
        errorLine]
      rfl
    have told := c.tells_openLine text line total
    obtain ⟨o, opened⟩ := c.openLine_eq text line total
    rw [Controller.Tells, opened, Controller.read, faults] at told
    rw [Controller.runLine_eq, opened, counted, Controller.read, instructions, faults]
    obtain rfl : o = _ := told
    rfl
  · rw [faultsUpTo, List.map_append, List.map_append, List.map_map, List.map_map]
    rfl

/-- Two letters without a value, a mode, a rate and a tool before the number, and one more after. -/
def halfReadLine : String :=
  "G91 X F2 M6 T3 A Y. Z"

theorem halfReadLine_has_no_effect :
    (∃ w ∈ scan (bare halfReadLine.toList), ¬w.IsReadable) ∧
    (({} : Controller).runLine halfReadLine 7 9).1.machine = { line := 7 } ∧
    (({} : Controller).runLine halfReadLine 7 9).1.log.toList.map (·.shown) =
      [(7, "Missing value for X", .parseError), (7, "Missing value for A", .parseError),
        (7, "Parse error: invalid number '.' for Y", .parseError)] := by
  have broken : ∃ w ∈ scan (bare halfReadLine.toList), ¬w.IsReadable := by
    refine ⟨⟨'Y', ['.']⟩, by decide +kernel, ?_⟩
    simp [Word.IsReadable]
  obtain ⟨front, bad, -, run, -⟩ := broken_line_has_no_effect {} halfReadLine 7 9 broken
  refine ⟨broken, ?_, by decide +kernel⟩
  rw [run]

end PartProgram
