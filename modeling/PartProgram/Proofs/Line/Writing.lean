import PartProgram.Proofs.Line.Reading
import PartProgram.Proofs.Line.Regions

namespace PartProgram

namespace Line

open Text

/-- The characters of which words are made. -/
def wordChars : List Char :=
  wordLetters ++ "0123456789+-.".toList

theorem mem_wordChars_of_isDigit {c : Char} (digit : c.isDigit = true) : c ∈ wordChars := by
  have listed : c.isDigit = true → c ∈ wordChars :=
    forall_of_lt (P := fun c => c.isDigit = true → c ∈ wordChars) (by decide)
      (Nat.lt_succ_of_le (toNat_of_isDigit digit).2)
  exact listed digit

namespace Word

/-- A letter with no number or an ASCII one that has a digit. -/
def IsPrintable (w : Word) : Prop :=
  w.letter ∈ wordLetters ∧
    (w.text = [] ∨ IsNumberText Char.isDigit w.text ∧ ∃ c ∈ w.text, c.isDigit = true)

variable {w : Word}

theorem IsPrintable.isNumberText (h : w.IsPrintable) : IsNumberText isDecimalDigit w.text := by
  rcases h.2 with empty | ⟨number, -⟩
  · rw [empty]
    exact ⟨[], [], [], [], rfl, .inl rfl, .inl rfl, by simp, by simp⟩
  · exact number.congr fun c _ => isDecimalDigit_of_isDigit

theorem IsPrintable.isMalformed (h : w.IsPrintable) : w.isMalformed = false := by
  unfold Word.isMalformed Word.isEmpty Word.value?
  rcases h.2 with empty | number
  · rw [empty]
    rfl
  · rw [Option.isNone_eq_false_iff.mpr (read?_isSome_iff.mpr number), Bool.and_false]

theorem IsPrintable.text_wordChars (h : w.IsPrintable) : ∀ c ∈ w.text, c ∈ wordChars := by
  intro c mem
  rcases h.2 with empty | ⟨number, -⟩
  · rw [empty] at mem
    cases mem
  · rcases number.mem_cases c mem with digit | rfl | rfl | rfl
    · exact mem_wordChars_of_isDigit digit
    all_goals decide

end Word

/-- The words one after another. -/
def printed (ws : List Word) : List Char :=
  ws.flatMap fun w => w.letter :: w.text

theorem printed_wordChars {ws : List Word} (printable : ∀ w ∈ ws, w.IsPrintable) :
    ∀ c ∈ printed ws, c ∈ wordChars := by
  intro c mem
  obtain ⟨w, here, mem⟩ := List.mem_flatMap.mp mem
  rcases List.mem_cons.mp mem with rfl | mem
  · exact List.mem_append_left _ (printable w here).1
  · exact (printable w here).text_wordChars c mem

/-- The ways of writing a text as a line: each character in either case, with white space, closed
comments and a tail anywhere. -/
inductive Written : (text line : List Char) → Prop
  | done : Written [] []
  | remark (tail : List Char) : Written [] (';' :: tail)
  | blank {text line : List Char} {c : Char} (blank : isBlank c = true) (h : Written text line) :
    Written text (c :: line)
  | comment {text line content : List Char} (plain : ∀ d ∈ content, d ≠ ';' ∧ d ≠ ')')
    (h : Written text line) : Written text ('(' :: (content ++ ')' :: line))
  | char {text line : List Char} (c : Char) (h : Written text line) :
    Written (c :: text) (c :: line)
  | small {text line : List Char} (c : Char) (h : Written text line) :
    Written (c :: text) (c.toLower :: line)

theorem bare_cons {c : Char} (noTail : c ≠ ';') (noSpan : c ≠ '(') (line : List Char) :
    bare (c :: line) = (if isBlank c then [] else upperCase c) ++ bare line := by
  have first : codeOf (c :: line) = c :: codeOf line := by
    rw [codeOf, regions, regionsFrom, if_neg noTail, if_neg noSpan, List.filterMap_cons]
    rfl
  rw [bare_eq, bare_eq, first]
  cases blank : isBlank c <;> simp [blank]

theorem bare_cons_of_blank {c : Char} (blank : isBlank c = true) (line : List Char) :
    bare (c :: line) = bare line := by
  have noTail : c ≠ ';' := by
    rintro rfl
    exact absurd blank (by decide)
  have noSpan : c ≠ '(' := by
    rintro rfl
    exact absurd blank (by decide)
  rw [bare_cons noTail noSpan, blank]
  rfl

/-- A character of a word stands for itself in either case. -/
theorem bare_cons_of_wordChar {c d : Char} (mem : c ∈ wordChars) (same : d = c ∨ d = c.toLower)
    (line : List Char) : bare (d :: line) = c :: bare line := by
  have all : (wordChars.all fun c => [c, c.toLower].all fun d =>
      d ≠ ';' ∧ d ≠ '(' ∧ isBlank d = false ∧ d.toNat < 128 ∧ d.toUpper = c) = true := by decide
  have here := List.all_eq_true.mp (List.all_eq_true.mp all c mem) d (by simpa using same)
  obtain ⟨noTail, noSpan, noBlank, ascii, upper⟩ := of_decide_eq_true here
  rw [bare_cons noTail noSpan, noBlank, upperCase_ascii ascii, upper]
  rfl

/-- Cleaning a line gives back the text that was written. -/
theorem bare_of_written {text line : List Char} (written : Written text line)
    (chars : ∀ c ∈ text, c ∈ wordChars) : bare line = text := by
  induction written with
  | done => rfl
  | remark tail => rw [bare_eq, codeOf, regions, regionsFrom, if_pos rfl]; rfl
  | blank blank _ ih => rw [bare_cons_of_blank blank, ih chars]
  | comment plain _ ih => rw [bare_span plain, ih chars]
  | char c _ ih =>
    rw [bare_cons_of_wordChar (chars c (List.mem_cons_self ..)) (.inl rfl),
      ih fun d mem => chars d (List.mem_cons_of_mem _ mem)]
  | small c _ ih =>
    rw [bare_cons_of_wordChar (chars c (List.mem_cons_self ..)) (.inr rfl),
      ih fun d mem => chars d (List.mem_cons_of_mem _ mem)]

namespace Reading

theorem textOf_closed (ws : List Word) : textOf (ws.map (·, [])) = printed ws := by
  induction ws with
  | nil => rfl
  | cons w ws ih =>
    rw [List.map_cons, textOf, ih, List.append_nil]
    rfl

/-- A number ends where the next word begins. -/
theorem isSound_closed {ws : List Word} (printable : ∀ w ∈ ws, w.IsPrintable) :
    IsSound (ws.map (·, [])) := by
  induction ws with
  | nil => trivial
  | cons w ws ih =>
    have behind := ih fun v mem => printable v (List.mem_cons_of_mem _ mem)
    have here := printable w (List.mem_cons_self ..)
    refine ⟨here.1, ?_, by simp [IsGap], behind⟩
    rw [List.append_nil, isLongestNumber_iff]
    -- what the number text would hold beyond the word has no letter in it, and a letter comes next
    let rest := textOf (ws.map (·, []))
    obtain ⟨beyond, whole⟩ := here.isNumberText.prefix_numeral rest
    have front : beyond <+: rest := by
      have front := numeral_in_front (w.text ++ rest)
      rwa [← whole, List.prefix_append_right_inj] at front
    have silent : ∀ c ∈ beyond, isWordLetter c = false := fun c mem =>
      (isNumberText_numeral (w.text ++ rest)).isWordLetter_eq_false c (by simp [← whole, mem])
    have none : beyond = [] := List.prefix_nil.mp (prefix_lead front silent behind)
    rw [← whole, none, List.append_nil]

end Reading

theorem scan_printed {ws : List Word} (printable : ∀ w ∈ ws, w.IsPrintable) :
    scan (printed ws) = ws := by
  have closed : Reading.IsOf ⟨[], ws.map (·, [])⟩ (printed ws) :=
    ⟨Reading.textOf_closed ws, by simp [IsGap], Reading.isSound_closed printable⟩
  rw [Reading.scan_eq, ← closed.eq_ofText, List.map_map]
  exact List.map_id ws

namespace Words

/-- What is read of two lists of words, one behind the other: parameters of the second come before
those of the first. -/
structure IsMergeOf (whole first second : Words) : Prop where
  gcodes : whole.gcodes = first.gcodes ++ second.gcodes
  mcodes : whole.mcodes = first.mcodes ++ second.mcodes
  parameter : ∀ letter, whole.parameters.get? letter =
    (second.parameters.get? letter).or (first.parameters.get? letter)
  missing : whole.missing = first.missing ++ second.missing

theorem read_of_written {ws : List Word} {line : List Char}
    (printable : ∀ w ∈ ws, w.IsPrintable) (written : Written (printed ws) line) :
    read (bare line) = ofList ws := by
  rw [read, bare_of_written written (printed_wordChars printable), scan_printed printable]

theorem isMergeOf_append {p q : List Word} {whole first second : Words}
    (sound : ∀ w ∈ p ++ q, w.isMalformed = false) (all : ofList (p ++ q) = .ok whole)
    (front : ofList p = .ok first) (back : ofList q = .ok second) :
    whole.IsMergeOf first second := by
  rw [ofList_of_sound sound] at all
  rw [ofList_of_sound fun w mem => sound w (List.mem_append_left _ mem)] at front
  rw [ofList_of_sound fun w mem => sound w (List.mem_append_right _ mem)] at back
  cases all
  cases front
  cases back
  have values (letter : Char) :
      valuesOf letter (p ++ q) = valuesOf letter p ++ valuesOf letter q := List.filterMap_append
  refine ⟨by simp [values], by simp [values], fun letter => ?_, by simp [lettersWithoutValue]⟩
  rw [get?_parameters, get?_parameters, get?_parameters]
  split
  · rfl
  · rw [values, List.getLast?_append]

end Words

/-- Words that are written as a line in any way are read back, and those of two lists, written one
behind the other, give what the lists give apart. -/
theorem written_words_read_back {ws : List Word} {line : List Char}
    (printable : ∀ w ∈ ws, w.IsPrintable) (written : Written (printed ws) line) :
    ∃ words, Words.read (bare line) = .ok words ∧ words.Gathers ws ∧
      ∀ p q front back, ws = p ++ q → Written (printed p) front → Written (printed q) back →
        ∃ first second, Words.read (bare front) = .ok first ∧
          Words.read (bare back) = .ok second ∧ words.IsMergeOf first second := by
  have sound : ∀ w ∈ ws, w.isMalformed = false := fun w mem => (printable w mem).isMalformed
  obtain ⟨words, whole, gathers⟩ := Words.exists_gathers sound
  refine ⟨words, by rw [Words.read_of_written printable written, whole], gathers, ?_⟩
  rintro p q front back rfl inFront behind
  have left : ∀ w ∈ p, w ∈ p ++ q := fun w => List.mem_append_left _
  have right : ∀ w ∈ q, w ∈ p ++ q := fun w => List.mem_append_right _
  obtain ⟨first, one, -⟩ := Words.exists_gathers fun w mem => sound w (left w mem)
  obtain ⟨second, two, -⟩ := Words.exists_gathers fun w mem => sound w (right w mem)
  refine ⟨first, second, ?_, ?_, Words.isMergeOf_append sound whole one two⟩
  · rw [Words.read_of_written (fun w mem => printable w (left w mem)) inFront, one]
  · rw [Words.read_of_written (fun w mem => printable w (right w mem)) behind, two]

def scatteredWords : List Word :=
  [⟨'G', ['1']⟩, ⟨'X', ['-', '.', '5']⟩, ⟨'G', []⟩]

def scatteredLine : List Char :=
  ['g', '(', 'f', ')', '1', ' ', 'x', '-', '.', '5', 'G', ';', 'd']

theorem scatteredLine_written : Written (printed scatteredWords) scatteredLine :=
  .small 'G' <| @Written.comment _ _ ['f'] (by simp) <| .char '1' <| .blank (by decide) <|
    .small 'X' <| .char '-' <| .char '.' <| .char '5' <| .char 'G' <| .remark ['d']

theorem scatteredWords_read_back : ∃ words, Words.read (bare scatteredLine) = .ok words ∧
    words.Gathers scatteredWords ∧ words.gcodes = [1] ∧ words.mcodes = [] ∧
    words.parameters.entries = [('X', -0.5)] ∧ words.missing = ['G'] ∧
    ∃ first second, Words.read (bare ['G', '1']) = .ok first ∧
      Words.read (bare ['X', '-', '.', '5', '\t', 'G']) = .ok second ∧
        words.IsMergeOf first second := by
  have printable : ∀ w ∈ scatteredWords, w.IsPrintable := by
    intro w mem
    simp only [scatteredWords, List.mem_cons, List.not_mem_nil, or_false] at mem
    rcases mem with rfl | rfl | rfl
    · have number : IsNumberText Char.isDigit ['1'] :=
        ⟨[], ['1'], [], [], rfl, .inl rfl, .inl rfl, List.forall_mem_singleton.mpr rfl, nofun⟩
      exact ⟨by decide, .inr ⟨number, '1', by simp, rfl⟩⟩
    · have number : IsNumberText Char.isDigit ['-', '.', '5'] :=
        ⟨['-'], [], ['.'], ['5'], rfl, .inr (.inr rfl), .inr rfl, nofun,
          List.forall_mem_singleton.mpr rfl⟩
      exact ⟨by decide, .inr ⟨number, '5', by simp, rfl⟩⟩
    · exact ⟨by decide, .inl rfl⟩
  obtain ⟨words, read, gathers, merge⟩ :=
    written_words_read_back printable scatteredLine_written
  have front : Written (printed [⟨'G', ['1']⟩]) ['G', '1'] := .char 'G' <| .char '1' .done
  have back : Written (printed [⟨'X', ['-', '.', '5']⟩, ⟨'G', []⟩])
      ['X', '-', '.', '5', '\t', 'G'] :=
    .char 'X' <| .char '-' <| .char '.' <| .char '5' <| .blank (by decide) <| .char 'G' .done
  have values : (Words.read (bare scatteredLine)).toOption.map
      (fun words => (words.gcodes, words.mcodes, words.parameters.entries)) =
        some ([1], [], [('X', -0.5)]) := by decide +kernel
  rw [read, Except.toOption, Option.map_some, Option.some.injEq, Prod.mk.injEq, Prod.mk.injEq]
    at values
  obtain ⟨gcodes, mcodes, parameters⟩ := values
  exact ⟨words, read, gathers, gcodes, mcodes, parameters, gathers.missing,
    merge _ _ _ _ rfl front back⟩

end Line

end PartProgram
