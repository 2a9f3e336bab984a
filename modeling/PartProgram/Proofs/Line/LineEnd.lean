import PartProgram.Line.Comment
import PartProgram.Text.Line

namespace PartProgram

open Text

namespace Text

/-- The characters that end a line, in whatever number. -/
def IsLineEnd (s : List Char) : Prop :=
  ∀ c ∈ s, c = '\n' ∨ c = '\r'

/-- Cutting the terminator off takes away line ends only. -/
theorem exists_dropTerminator (line : List Char) :
    ∃ s, IsLineEnd s ∧ line = dropTerminator line ++ s := by
  unfold dropTerminator
  split
  · rename_i rest h
    refine ⟨['\r', '\n'], by simp [IsLineEnd], ?_⟩
    rw [← List.reverse_reverse line, h]
    simp
  · rename_i rest _ h
    refine ⟨['\n'], by simp [IsLineEnd], ?_⟩
    rw [← List.reverse_reverse line, h]
    simp
  · exact ⟨[], by simp [IsLineEnd], by simp⟩

theorem exists_trimEnd (line : List Char) :
    ∃ s, IsLineEnd s ∧ line = trimEnd line ++ s := by
  let p : Char → Bool := fun c => c == '\n' || c == '\r'
  refine ⟨(line.reverse.takeWhile p).reverse, ?_, ?_⟩
  · intro c hc
    have ends := List.all_takeWhile (p := p) (l := line.reverse)
    have hp : p c = true := List.all_eq_true.mp ends c (by simpa using hc)
    simpa [p] using hp
  · have whole : line.reverse.takeWhile p ++ line.reverse.dropWhile p = line.reverse :=
      List.takeWhile_append_dropWhile
    show line = (line.reverse.dropWhile p).reverse ++ (line.reverse.takeWhile p).reverse
    rw [← List.reverse_append, whole, List.reverse_reverse]

end Text

namespace Line

theorem code_append_lineEnd (line : List Char) {s : List Char} (hs : IsLineEnd s) :
    code (line ++ s) = code line ∨ code (line ++ s) = code line ++ s := by
  have away : s.takeWhile (· != ';') = s := by
    have pass : ∀ c ∈ s, (c != ';') = true := by
      intro c hc
      rcases hs c hc with h | h <;> rw [h] <;> rfl
    have whole : (s ++ []).takeWhile (· != ';') = s ++ [].takeWhile (· != ';') :=
      List.takeWhile_append_of_pos pass
    simpa using whole
  unfold code
  rw [List.takeWhile_append]
  split
  · rename_i full
    have all : line.takeWhile (· != ';') = line :=
      (List.takeWhile_prefix _).eq_of_length full
    right
    rw [away, all]
  · exact .inl rfl

/-- Inside a span line ends are dropped with it; outside they are white space. -/
theorem filter_dropSpans_lineEnd (inside : Bool) {s : List Char} (hs : IsLineEnd s) :
    (dropSpans inside s).filter (fun c => !isBlank c) = [] := by
  induction s generalizing inside with
  | nil => cases inside <;> rfl
  | cons c s ih =>
    have rest := fun inside => ih inside fun x hx => hs x (by simp [hx])
    cases inside with
    | false =>
      rcases hs c (by simp) with h | h <;> subst h <;> simpa [dropSpans, isBlank] using rest false
    | true =>
      rcases hs c (by simp) with h | h <;> subst h <;> simpa [dropSpans] using rest true

theorem filter_dropSpans_append (inside : Bool) (line : List Char) {s : List Char}
    (hs : IsLineEnd s) :
    (dropSpans inside (line ++ s)).filter (fun c => !isBlank c) =
      (dropSpans inside line).filter (fun c => !isBlank c) := by
  induction line generalizing inside with
  | nil =>
    have none : dropSpans inside [] = [] := by cases inside <;> rfl
    rw [List.nil_append, filter_dropSpans_lineEnd inside hs, none, List.filter_nil]
  | cons c line ih =>
    cases inside with
    | false =>
      by_cases opens : c = '('
      · simpa [dropSpans, opens] using ih true
      · simp only [List.cons_append, dropSpans, opens, if_false, List.filter_cons, ih false]
    | true => simpa only [List.cons_append, dropSpans] using ih (c != ')')

theorem bare_append_lineEnd (line : List Char) {s : List Char} (hs : IsLineEnd s) :
    bare (line ++ s) = bare line := by
  unfold bare
  rcases code_append_lineEnd line hs with h | h
  · rw [h]
  · rw [h, filter_dropSpans_append false _ hs]

theorem bare_dropTerminator (line : List Char) : bare (dropTerminator line) = bare line := by
  obtain ⟨s, hs, whole⟩ := exists_dropTerminator line
  have h := bare_append_lineEnd (dropTerminator line) hs
  rw [← whole] at h
  exact h.symm

theorem bare_trimEnd (line : List Char) : bare (trimEnd line) = bare line := by
  obtain ⟨s, hs, whole⟩ := exists_trimEnd line
  have h := bare_append_lineEnd (trimEnd line) hs
  rw [← whole] at h
  exact h.symm

end Line

end PartProgram
