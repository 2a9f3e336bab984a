import Mathlib.Data.List.DropRight
import PartProgram.Proofs.Line.LineEnd
import PartProgram.Proofs.Line.Regions
import PartProgram.Proofs.Text.Cutting

namespace PartProgram

namespace Text

/-- A line without any carriage returns at its end. -/
def withoutReturns (line : String) : String :=
  String.ofList (line.toList.rdropWhile (· == '\r'))

def EndsInReturn (line : String) : Prop :=
  line.toList.getLast? = some '\r'

instance (line : String) : Decidable (EndsInReturn line) :=
  inferInstanceAs (Decidable (_ = _))

theorem withoutReturns_toList (line : String) :
    (withoutReturns line).toList = line.toList.rdropWhile (· == '\r') :=
  String.toList_ofList

theorem withoutReturns_eq_self {line : String} :
    withoutReturns line = line ↔ ¬EndsInReturn line := by
  rw [← String.toList_inj, withoutReturns_toList, List.rdropWhile_eq_self_iff, EndsInReturn]
  cases line.toList using List.reverseRecOn <;> simp

theorem exists_returns (line : String) :
    ∃ s, (∀ c ∈ s, c = '\r') ∧ line.toList = (withoutReturns line).toList ++ s := by
  refine ⟨line.toList.rtakeWhile (· == '\r'), ?_, ?_⟩
  · intro c mem
    simpa using List.mem_rtakeWhile_imp mem
  · rw [withoutReturns_toList]
    exact (List.rdropWhile_append_rtakeWhile ..).symm

/-- Line feeds and carriage returns are both cut off, but a line without its line feed has only the
latter. -/
theorem trimEnd_of_no_lineFeed {line : List Char} (h : ∀ c ∈ line, (c == '\n') = false) :
    trimEnd line = line.rdropWhile (· == '\r') := by
  have same : ∀ l : List Char, (∀ c ∈ l, (c == '\n') = false) →
      (l.dropWhile fun c => c == '\n' || c == '\r') = l.dropWhile (· == '\r') := by
    intro l hl
    induction l with
    | nil => rfl
    | cons c l ih =>
      rw [List.dropWhile_cons, List.dropWhile_cons, hl c (List.mem_cons_self ..), Bool.false_or,
        ih fun d mem => hl d (List.mem_cons_of_mem _ mem)]
  exact congrArg List.reverse (same line.reverse fun c mem => h c (List.mem_reverse.mp mem))

theorem dropTerminator_of_no_lineFeed {line : List Char} (h : ∀ c ∈ line, (c == '\n') = false) :
    dropTerminator line = line := by
  have no (rest : List Char) : line.reverse ≠ '\n' :: rest := by
    intro found
    have mem : '\n' ∈ line := List.mem_reverse.mp (by simp [found])
    exact absurd (h _ mem) (by decide)
  unfold dropTerminator
  split
  · rename_i found
    exact absurd found (no _)
  · rename_i found
    exact absurd found (no _)
  · rfl

theorem dropTerminator_lineFeed (line : List Char) :
    (dropTerminator (line ++ ['\n'])).rdropWhile (· == '\r') = line.rdropWhile (· == '\r') := by
  cases line using List.reverseRecOn with
  | nil => rfl
  | append_singleton front c =>
    by_cases ret : c = '\r'
    · subst ret
      have dropped : dropTerminator (front ++ ['\r'] ++ ['\n']) = front := by
        simp [dropTerminator]
      rw [dropped, List.rdropWhile_concat_pos _ _ _ rfl]
    · have dropped : dropTerminator (front ++ [c] ++ ['\n']) = front ++ [c] := by
        simp [dropTerminator, ret]
      rw [dropped]

/-- Of a line of a text all line ends are cut off just if, after the terminator, all carriage
returns are. -/
theorem trimEnd_cutAfter (text : List Char) :
    (cutAfter (· == '\n') text).map trimEnd = (cutAfter (· == '\n') text).map
      fun piece => (dropTerminator piece).rdropWhile (· == '\r') := by
  induction text using cut_induction (· == '\n') with
  | endless l hl =>
    by_cases empty : l = []
    · rw [empty]
      rfl
    · rw [cutAfter_endless _ hl empty, List.map_singleton, List.map_singleton,
        trimEnd_of_no_lineFeed hl, dropTerminator_of_no_lineFeed hl]
  | more l a rest hl ha ih =>
    obtain rfl : a = '\n' := by simpa using ha
    have trimmed : trimEnd (l ++ ['\n']) = trimEnd l := List.rdropWhile_concat_pos _ _ _ rfl
    rw [cutAfter_append_cons _ hl ha, List.map_cons, List.map_cons, ih, trimmed,
      trimEnd_of_no_lineFeed hl, dropTerminator_lineFeed]

end Text

namespace Line

open Text

theorem bare_withoutReturns (line : String) :
    bare (withoutReturns line).toList = bare line.toList := by
  obtain ⟨s, returns, whole⟩ := exists_returns line
  have ends : IsLineEnd s := fun c mem => .inr (returns c mem)
  rw [whole, bare_append_lineEnd _ ends]

/-- What opens a span and does not close it adds no first span. -/
theorem firstSpan?_append {opened : Option (List Char)} (line : List Char) {s : List Char}
    (plain : ')' ∉ s) : Region.firstSpan? (regionsFrom opened (line ++ s)) =
      Region.firstSpan? (regionsFrom opened line) := by
  have none (opened : Option (List Char)) : Region.firstSpan? (regionsFrom opened s) = none := by
    fun_induction regionsFrom opened s <;> simp_all [Region.firstSpan?]
  fun_induction regionsFrom opened line <;> simp_all [regionsFrom, Region.firstSpan?]

theorem tail_append (line s : List Char) : tail line <+: tail (line ++ s) := by
  unfold tail
  induction line with
  | nil => exact List.nil_prefix
  | cons c rest ih => by_cases mark : c = ';' <;> simp_all

theorem trim_eq_nil_iff {text : List Char} : trim text = [] ↔ ∀ c ∈ text, c = ' ' ∨ c = '\t' := by
  have trimmed := isTrimOf_trim text
  obtain ⟨front, back, whole, margins⟩ := trimmed.whole
  constructor
  · intro none
    rw [none, List.append_nil] at whole
    rwa [whole]
  · intro all
    cases kept : trim text with
    | nil => rfl
    | cons c rest =>
      have first := trimmed.first c (by rw [kept]; rfl)
      have blank := all c (by rw [whole, kept]; simp)
      exact absurd blank (not_or.mpr first)

/-- Without the returns there may be no comment left, but there is never a new one. -/
theorem comment_withoutReturns {line : String} (none : comment line.toList = []) :
    comment (withoutReturns line).toList = [] := by
  obtain ⟨s, returns, whole⟩ := exists_returns line
  have plain : ')' ∉ s := fun mem => absurd (returns _ mem) (by decide)
  have span : Region.firstSpan? (regions line.toList) =
      Region.firstSpan? (regions (withoutReturns line).toList) := by
    rw [whole]
    exact firstSpan?_append _ plain
  have tails : tail (withoutReturns line).toList <+: tail line.toList := by
    rw [whole]
    exact tail_append _ _
  rw [comment_eq, trim_eq_nil_iff, Region.remark] at none ⊢
  rw [span] at none
  simp only [regions, tailOf_regionsFrom] at none ⊢
  cases first : Region.firstSpan? (regionsFrom Option.none (withoutReturns line).toList) with
  | none =>
    rw [first] at none
    exact fun c mem => none c (tails.subset mem)
  | some content =>
    rw [first] at none
    intro c mem
    simp only [List.mem_append] at none mem
    rcases mem with (inTail | joining) | inSpan
    · exact none c (.inl (.inl (tails.subset inTail)))
    · split at joining
      · cases joining
      · exact .inl (List.mem_singleton.mp joining)
    · exact none c (.inr inSpan)

end Line

end PartProgram
