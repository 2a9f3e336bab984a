import PartProgram.Proofs.Report.Messages
import PartProgram.Report.Text

namespace PartProgram

open Text

namespace Number

theorem isPlain_pointed {digits : List Char} (plain : digits.all isPlainChar = true)
    (whole : Nat) : isPlain (Layout.pointed digits whole) = true := by
  rw [List.all_eq_true] at plain
  unfold Layout.pointed
  split
  · rw [isPlain_ofList, List.all_eq_true]
    exact plain
  · rw [isPlain_ofList, List.all_append, List.all_cons, Bool.and_eq_true, Bool.and_eq_true]
    refine ⟨?_, by decide, ?_⟩
    · exact List.all_eq_true.mpr fun c mem => plain c (List.mem_of_mem_take mem)
    · exact List.all_eq_true.mpr fun c mem => plain c (List.mem_of_mem_drop mem)

theorem isPlain_fixedPlaces (places : Nat) (b : Binary) :
    isPlain (fixedPlaces places b) = true := by
  have zeros (n : Nat) : (List.replicate n '0').all isPlainChar = true := by
    rw [List.all_replicate]
    split <;> decide
  unfold fixedPlaces
  exact isPlain_pointed (by rw [List.all_append, zeros, all_isPlainChar_toDigits]; rfl) _

theorem isPlain_signed {finite : Binary → String} (plain : ∀ b, isPlain (finite b) = true)
    (x : Float) : isPlain (signed finite x) = true := by
  unfold signed
  split
  · decide
  · rw [isPlain_append, Bool.and_eq_true]
    constructor
    · split <;> decide
    · split
      · decide
      · exact plain _

end Number

namespace Report

theorem isPlain_places (x : Float) : isPlain (places x) = true :=
  Number.isPlain_signed (Number.isPlain_fixedPlaces 3) x

theorem isPlain_duration (seconds : Float) : isPlain (duration seconds) = true := by
  have two (n : Nat) : isPlain (twoDigits n) = true := by
    unfold twoDigits
    split
    · rw [isPlain_append, isPlain_natural]
      decide
    · exact isPlain_natural n
  simp only [duration, isPlain_append, isPlain_natural, two]
  decide

theorem isPlain_of_mem_heading (c : Controller) (success : Bool) :
    ∀ line ∈ heading c success, isPlain line = true := by
  have result : isPlain (if success then "ok" else "failed") = true := by
    cases success <;> decide
  have units : isPlain c.machine.units.name = true := by
    cases c.machine.units <;> decide
  have written (s : String) : toString s = s := rfl
  unfold heading
  simp only [List.forall_mem_cons, isPlain_append, written, isPlain_natural, isPlain_places,
    isPlain_duration, result, units]
  decide

theorem isPlain_boxLine (b : Box) : isPlain (boxLine b) = true := by
  unfold boxLine boxLine.range
  simp only [isPlain_append, isPlain_places]
  decide

theorem isPlain_toolsLine (s : Summary) : isPlain (toolsLine s) = true := by
  have tools : isPlain (", ".intercalate (s.tools.keys.map fun tool => s!"T{tool}")) = true := by
    apply isPlain_intercalate (by decide)
    rw [List.forall_mem_map]
    intro tool _
    rw [isPlain_append, isPlain_integer]
    decide
  unfold toolsLine
  simp only [isPlain_append, isPlain_natural, tools]
  decide

theorem isPlain_entryLine {e : Entry} (plain : isPlain e.fault.message = true) :
    isPlain (entryLine e) = true := by
  have severity : isPlain e.fault.severity.name = true := by
    cases e.fault.severity <;> decide
  have written (s : String) : toString s = s := rfl
  unfold entryLine Entry.display
  simp only [isPlain_append, written, isPlain_natural, severity, plain]
  decide

/-- Every line of a report is plain if the messages of the log are. -/
theorem isPlain_of_mem_lines {c : Controller}
    (plain : ∀ e ∈ c.log.toList, isPlain e.fault.message = true) (success : Bool) :
    ∀ line ∈ lines c success, isPlain line = true := by
  intro line mem
  simp only [lines, List.mem_append] at mem
  rcases mem with ((fixed | box) | tools) | entry
  · exact isPlain_of_mem_heading c success line fixed
  · obtain ⟨b, -, rfl⟩ := Option.map_eq_some_iff.mp (Option.mem_toList.mp box)
    exact isPlain_boxLine b
  · split at tools
    · cases tools
    · rw [List.mem_singleton.mp tools]
      exact isPlain_toolsLine c.summary
  · obtain ⟨e, here, rfl⟩ := List.mem_map.mp entry
    exact isPlain_entryLine (plain e here)

end Report

/-- A split at the ends gives back the pieces that were ended, and nothing behind the last end. -/
theorem splitOn_flatMap {α : Type} [BEq α] [LawfulBEq α] {stop : α} {pieces : List (List α)}
    (endless : ∀ piece ∈ pieces, stop ∉ piece) :
    (pieces.flatMap (· ++ [stop])).splitOn stop = pieces ++ [[]] := by
  induction pieces with
  | nil => rfl
  | cons piece pieces ih =>
    have first : ∀ a ∈ piece, (a == stop) = false := by
      intro a mem
      have here := endless piece (List.mem_cons_self ..)
      rw [beq_eq_false_iff_ne]
      rintro rfl
      exact here mem
    have rest := ih fun piece mem => endless piece (List.mem_cons_of_mem _ mem)
    rw [List.splitOn_eq_splitOnP] at rest ⊢
    rw [List.flatMap_cons, List.append_assoc, List.singleton_append,
      List.splitOnP_append_cons_of_forall_mem first stop (beq_self_eq_true stop), rest,
      List.cons_append]

namespace Report

theorem splitOn_text {c : Controller} (plain : ∀ e ∈ c.log.toList, isPlain e.fault.message = true)
    (success : Bool) :
    (text c success).toList.splitOn '\n' = (lines c success).map String.toList ++ [[]] := by
  have characters : (text c success).toList =
      ((lines c success).map String.toList).flatMap (· ++ ['\n']) := by
    rw [text, String.toList_join, List.flatMap_map, List.flatMap_map]
    simp [String.toList_append]
  rw [characters]
  apply splitOn_flatMap
  rw [List.forall_mem_map]
  intro line mem
  exact not_mem_of_isPlain (isPlain_of_mem_lines plain success line mem) '\n' (by decide)

/-- What a line of the report is about: the text before its first colon. -/
def caption (line : String) : String :=
  String.ofList (line.toList.takeWhile (· != ':'))

theorem caption_append {front : String} (named : ':' ∈ front.toList) (rest : String) :
    caption (front ++ rest) = caption front := by
  have stops : (front.toList.takeWhile (· != ':')).length ≠ front.toList.length := by
    intro whole
    have none := List.takeWhile_eq_self_iff.mp ((List.takeWhile_prefix _).eq_of_length whole)
    simpa using none ':' named
  rw [caption, String.toList_append, List.takeWhile_append, if_neg stops]
  rfl

theorem caption_heading (c : Controller) (success : Bool) : (heading c success).map caption =
    ["Result", "Lines", "Moves", "Distance", "Est. time", "Units"] := by
  unfold heading
  simp (disch := decide) only [List.map_cons, List.map_nil, String.append_assoc, caption_append]
  decide

theorem caption_boxLine (b : Box) : caption (boxLine b) = "Bounds" := by
  unfold boxLine
  simp (disch := decide) only [String.append_assoc, caption_append]
  decide

theorem caption_toolsLine (s : Summary) : caption (toolsLine s) = "Tools" := by
  unfold toolsLine
  simp (disch := decide) only [String.append_assoc, caption_append]
  decide

theorem entryLine_eq (e : Entry) : entryLine e =
    e.fault.severity.name ++ ": line " ++ toString e.line ++ ": " ++ e.fault.message := by
  have joined : ": line " = ": " ++ "line " := by decide
  have display : e.display = "line " ++ toString e.line ++ ": " ++ e.fault.message := rfl
  unfold entryLine
  rw [display, joined]
  simp only [String.append_assoc]

end Report

/-- The report of a run lists each fault of the log once and in order, on a line of its own. Split
at line feeds it is six lines on the program, one on the box if there is one, one on the tools if
there are any, and a line for each entry, with its severity, its line and its message; behind the
last line feed stands nothing. Nor can a message break its line: neither those of the log nor those
of any line that is read, whatever it holds, have a character behind which a new line begins. -/
theorem report_lists_each_fault (c : Controller) (text : List Char) (success : Bool) :
    let after := c.runText text
    let fixed := Report.heading after success
    let box := (after.summary.box.map Report.boxLine).toList
    let tools := if after.summary.tools.isEmpty then [] else [Report.toolsLine after.summary]
    let entries := after.log.toList.map fun e =>
      e.fault.severity.name ++ ": line " ++ toString e.line ++ ": " ++ e.fault.message
    (Report.text after success).toList.splitOn '\n' =
        (fixed ++ box ++ tools ++ entries).map String.toList ++ [[]] ∧
      fixed.map Report.caption =
        ["Result", "Lines", "Moves", "Distance", "Est. time", "Units"] ∧
      box.map Report.caption = (if after.summary.box.isSome then ["Bounds"] else []) ∧
      tools.map Report.caption = (if after.summary.tools.isEmpty then [] else ["Tools"]) ∧
      (∀ e ∈ after.log.toList, ∀ mark ∈ lineBreaks, mark ∉ e.fault.message.toList) ∧
      ∀ (line : String) (n : Nat), ∀ fault ∈ (c.read line n).faults,
        ∀ mark ∈ lineBreaks, mark ∉ fault.message.toList := by
  have plain := c.isPlain_of_mem_log text
  generalize c.runText text = after at plain
  refine ⟨?_, Report.caption_heading after success, ?_, ?_, ?_, ?_⟩
  · have entries : after.log.toList.map Report.entryLine = after.log.toList.map fun e =>
        e.fault.severity.name ++ ": line " ++ toString e.line ++ ": " ++ e.fault.message :=
      List.map_congr_left fun e _ => Report.entryLine_eq e
    rw [Report.splitOn_text plain success, Report.lines, entries]
  · cases after.summary.box with
    | none => rfl
    | some b => exact congrArg (fun caption => [caption]) (Report.caption_boxLine b)
  · cases after.summary.tools.isEmpty with
    | true => rfl
    | false => exact congrArg (fun caption => [caption]) (Report.caption_toolsLine after.summary)
  · intro e mem
    exact not_mem_of_isPlain (plain e mem)
  · intro line n fault mem
    exact not_mem_of_isPlain (Block.isPlain_of_mem_faults mem)

-- an unlisted code in front, and an arc that cannot be resolved
example : (Report.lines (({} : Controller).runText "G99\nT2 M6\nG1 X10 F100\nG2 X20".toList)
    true).drop 6 = ["Bounds:        X 10.000..20.000  Y 0.000..0.000  Z 0.000..0.000",
      "Tools:         T2 (1 changes)", "ParseError: line 1: Unknown G-code: G99",
      "ParseError: line 4: Arc command missing I/J or R parameter"] := by
  decide +kernel

end PartProgram
