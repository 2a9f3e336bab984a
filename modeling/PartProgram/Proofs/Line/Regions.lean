import PartProgram.Line.Comment
import PartProgram.Proofs.Text.Characters

namespace PartProgram

namespace Line

open Text

/-- A stretch of a line. -/
inductive Region
  /-- A character outside all comments. -/
  | code (c : Char)
  | span (content : List Char)
  /-- A span that is not closed. -/
  | unclosed (content : List Char)
  | tail (content : List Char)
deriving DecidableEq, Repr

namespace Region

def text : Region → List Char
  | .code c => [c]
  | .span content => '(' :: content ++ [')']
  | .unclosed content => '(' :: content
  | .tail content => ';' :: content

def code? : Region → Option Char
  | .code c => some c
  | _ => none

@[simp] theorem code?_code (c : Char) : code? (.code c) = some c := rfl

@[simp] theorem code?_span (content : List Char) : code? (.span content) = none := rfl

@[simp] theorem code?_unclosed (content : List Char) : code? (.unclosed content) = none := rfl

@[simp] theorem code?_tail (content : List Char) : code? (.tail content) = none := rfl

theorem code?_eq_some {r : Region} {c : Char} : r.code? = some c ↔ r = .code c := by
  cases r <;> simp

/-- The content of the first span, if it is closed. -/
def firstSpan? : List Region → Option (List Char)
  | [] => none
  | .code _ :: rest => firstSpan? rest
  | .span content :: _ => some content
  | _ :: _ => none

/-- What follows the semicolon. -/
def tailOf : List Region → List Char
  | [] => []
  | .tail content :: _ => content
  | _ :: rest => tailOf rest

/-- The tail, then the first span, with a space between them. -/
def remark (regions : List Region) : List Char :=
  match firstSpan? regions with
  | some first => tailOf regions ++ (if tailOf regions = [] then [] else [' ']) ++ first
  | none => tailOf regions

end Region

/-- The regions from here on, where the content of a span that is open is known so far. -/
def regionsFrom : (opened : Option (List Char)) → List Char → List Region
  | none, [] => []
  | some content, [] => [.unclosed content]
  | none, c :: rest =>
    if c = ';' then [.tail rest]
    else if c = '(' then regionsFrom (some []) rest
    else .code c :: regionsFrom none rest
  | some content, c :: rest =>
    if c = ';' then [.unclosed content, .tail rest]
    else if c = ')' then .span content :: regionsFrom none rest
    else regionsFrom (some (content ++ [c])) rest

def regions (line : List Char) : List Region :=
  regionsFrom none line

/-- What has been read of a span that is open. -/
def openedText : Option (List Char) → List Char
  | none => []
  | some content => '(' :: content

theorem regionsFrom_text (opened : Option (List Char)) (line : List Char) :
    (regionsFrom opened line).flatMap Region.text = openedText opened ++ line := by
  fun_induction regionsFrom opened line <;> simp_all [openedText, Region.text]

theorem dropSpans_true_cons (c : Char) (rest : List Char) : dropSpans true (c :: rest) =
    if c = ')' then dropSpans false rest else dropSpans true rest := by
  rw [dropSpans]
  split
  next closes => rw [closes, bne_self_eq_false]
  next other => rw [bne_iff_ne.mpr other]

theorem dropSpans_code (opened : Option (List Char)) (line : List Char) :
    dropSpans opened.isSome (code line) = (regionsFrom opened line).filterMap Region.code? := by
  unfold code
  fun_induction regionsFrom opened line <;>
    simp_all [dropSpans, dropSpans_true_cons, List.filterMap_cons]

theorem tailOf_regionsFrom (opened : Option (List Char)) (line : List Char) :
    Region.tailOf (regionsFrom opened line) = tail line := by
  unfold tail
  fun_induction regionsFrom opened line <;> simp_all [Region.tailOf]

theorem firstSpan?_regionsFrom_some (content line : List Char) :
    Region.firstSpan? (regionsFrom (some content) line) =
      if (code line).contains ')' then some (content ++ (code line).takeWhile (· != ')'))
      else none := by
  unfold code
  induction line generalizing content with
  | nil => rfl
  | cons c rest ih =>
    by_cases tail : c = ';'
    · simp [regionsFrom, tail, Region.firstSpan?]
    · by_cases closes : c = ')'
      · simp [regionsFrom, closes, Region.firstSpan?]
      · simp [regionsFrom, ih, tail, closes, Ne.symm closes]

theorem firstSpan?_regions (line : List Char) :
    Region.firstSpan? (regions line) = firstSpan? (code line) := by
  unfold regions
  induction line with
  | nil => rfl
  | cons c rest ih =>
    unfold firstSpan? code at ih ⊢
    by_cases tail : c = ';'
    · simp [regionsFrom, tail, Region.firstSpan?]
    · by_cases opens : c = '('
      · simp [regionsFrom, firstSpan?_regionsFrom_some, opens, code]
      · simp_all [regionsFrom, Region.firstSpan?]

/-- The code of a line: its characters outside all comments. -/
def codeOf (line : List Char) : List Char :=
  (regions line).filterMap Region.code?

theorem bare_eq (line : List Char) :
    bare line = ((codeOf line).filter fun c => !isBlank c).flatMap upperCase := by
  rw [bare, codeOf, regions, ← dropSpans_code none line]
  rfl

theorem comment_eq (line : List Char) : comment line = trim (Region.remark (regions line)) := by
  rw [comment, Region.remark, firstSpan?_regions, regions, tailOf_regionsFrom]
  cases firstSpan? (code line) with
  | none => rfl
  | some first => cases tail line <;> rfl

/-- No mark of a comment is code. -/
theorem ne_of_mem_codeOf {line : List Char} {c : Char} (mem : c ∈ codeOf line) :
    c ≠ ';' ∧ c ≠ '(' := by
  have all (opened : Option (List Char)) (line : List Char) :
      ∀ c, .code c ∈ regionsFrom opened line → c ≠ ';' ∧ c ≠ '(' := by
    fun_induction regionsFrom opened line <;> simp_all
  obtain ⟨r, here, code⟩ := List.mem_filterMap.mp mem
  rw [Region.code?_eq_some.mp code] at here
  exact all none line c here

/-- Of what stands in the bare line below the letters, nothing was brought in by upper case. -/
theorem mem_codeOf_of_mem_bare {line : List Char} {mark : Char} (some : 0 < mark.toNat)
    (low : mark.toNat < 'A'.toNat) (mem : mark ∈ bare line) : mark ∈ codeOf line := by
  rw [bare_eq] at mem
  obtain ⟨c, here, upper⟩ := List.mem_flatMap.mp mem
  rw [← eq_of_mem_upperCase some low upper]
  exact (List.mem_filter.mp here).1

/-- A text without a tail in which all spans are closed is scanned by itself. -/
theorem regionsFrom_append {opened : Option (List Char)} {a : List Char} (noTail : ';' ∉ a)
    (closed : ∀ content, Region.unclosed content ∉ regionsFrom opened a) (rest : List Char) :
    regionsFrom opened (a ++ rest) = regionsFrom opened a ++ regions rest := by
  unfold regions
  fun_induction regionsFrom opened a <;> simp_all [regionsFrom]

theorem regionsFrom_some_append (content : List Char) {c : List Char}
    (plain : ∀ d ∈ c, d ≠ ';' ∧ d ≠ ')') (rest : List Char) :
    regionsFrom (some content) (c ++ ')' :: rest) = .span (content ++ c) :: regions rest := by
  induction c generalizing content with
  | nil => simp [regionsFrom, regions]
  | cons d c ih =>
    obtain ⟨noTail, open_⟩ := plain d (List.mem_cons_self ..)
    rw [List.cons_append, regionsFrom, if_neg noTail, if_neg open_,
      ih _ fun e mem => plain e (List.mem_cons_of_mem _ mem), List.append_assoc,
      List.singleton_append]

theorem regions_span {c : List Char} (plain : ∀ d ∈ c, d ≠ ';' ∧ d ≠ ')') (rest : List Char) :
    regions ('(' :: (c ++ ')' :: rest)) = .span c :: regions rest :=
  regionsFrom_some_append [] plain rest

theorem bare_append {a : List Char} (noTail : ';' ∉ a)
    (closed : ∀ content, Region.unclosed content ∉ regions a) (rest : List Char) :
    bare (a ++ rest) = bare a ++ bare rest := by
  simp [bare_eq, codeOf, regions, regionsFrom_append noTail closed]

theorem bare_span {c : List Char} (plain : ∀ d ∈ c, d ≠ ';' ∧ d ≠ ')') (rest : List Char) :
    bare ('(' :: (c ++ ')' :: rest)) = bare rest := by
  simp [bare_eq, codeOf, regions_span plain, List.filterMap_cons]

/-- What is left of a text without the spaces and tabs at its ends. -/
structure IsTrimOf (trimmed text : List Char) : Prop where
  whole : ∃ front back, text = front ++ trimmed ++ back ∧ ∀ c ∈ front ++ back, c = ' ' ∨ c = '\t'
  first : ∀ c ∈ trimmed.head?, c ≠ ' ' ∧ c ≠ '\t'
  last : ∀ c ∈ trimmed.getLast?, c ≠ ' ' ∧ c ≠ '\t'

theorem isTrimOf_trim (text : List Char) : IsTrimOf (trim text) text := by
  let p : Char → Bool := fun c => c == ' ' || c == '\t'
  have margin (text : List Char) : ∀ c ∈ text.takeWhile p, c = ' ' ∨ c = '\t' := by
    intro c mem
    simpa [p] using List.all_eq_true.mp List.all_takeWhile c mem
  have head (text : List Char) : ∀ c ∈ (text.dropWhile p).head?, c ≠ ' ' ∧ c ≠ '\t' := by
    intro c mem
    have stop := List.head?_dropWhile_not p text
    rw [Option.mem_def.mp mem] at stop
    simpa [p] using stop
  let front := text.takeWhile p
  let kept := text.dropWhile p
  let back := kept.reverse.takeWhile p
  have kept_eq : kept = trim text ++ back.reverse := by
    have whole : back ++ kept.reverse.dropWhile p = kept.reverse :=
      List.takeWhile_append_dropWhile
    show kept = (kept.reverse.dropWhile p).reverse ++ back.reverse
    rw [← List.reverse_append, whole, List.reverse_reverse]
  refine ⟨⟨front, back.reverse, ?_, ?_⟩, ?_, ?_⟩
  · rw [List.append_assoc, ← kept_eq]
    exact List.takeWhile_append_dropWhile.symm
  · intro c mem
    rcases List.mem_append.mp mem with mem | mem
    · exact margin text c mem
    · exact margin kept.reverse c (List.mem_reverse.mp mem)
  · intro c mem
    apply head text c
    show c ∈ kept.head?
    rw [kept_eq, List.head?_append, Option.mem_def.mp mem]
    rfl
  · intro c mem
    apply head kept.reverse c
    have last : (trim text).getLast? = (kept.reverse.dropWhile p).head? :=
      List.getLast?_reverse
    rwa [← last]

/-- One scan explains both what is left of a line without its comments and what is kept of them. A
closed span can be cut out: what stands before it and what stands behind it are cleaned on their
own. -/
theorem one_scan_explains (line : List Char) :
    (regions line).flatMap Region.text = line ∧
    bare line = ((codeOf line).filter fun c => !isBlank c).flatMap upperCase ∧
    ';' ∉ bare line ∧ '(' ∉ bare line ∧
    IsTrimOf (comment line) (Region.remark (regions line)) ∧
    ∀ a c b, line = a ++ '(' :: (c ++ ')' :: b) → ';' ∉ a →
      (∀ content, Region.unclosed content ∉ regions a) → (∀ d ∈ c, d ≠ ';' ∧ d ≠ ')') →
      bare line = bare a ++ bare b := by
  refine ⟨regionsFrom_text none line, bare_eq line, ?_, ?_, ?_, ?_⟩
  · intro mem
    exact (ne_of_mem_codeOf (mem_codeOf_of_mem_bare (by decide) (by decide) mem)).1 rfl
  · intro mem
    exact (ne_of_mem_codeOf (mem_codeOf_of_mem_bare (by decide) (by decide) mem)).2 rfl
  · rw [comment_eq]
    exact isTrimOf_trim _
  · rintro a c b rfl noTail closed plain
    rw [bare_append noTail closed, bare_span plain]

/-- Parentheses do not nest, and the second span is closed by nothing. -/
theorem nestedSpans_scanned :
    regions "g1(a(b)x2(c;d".toList = [.code 'g', .code '1', .span "a(b".toList, .code 'x',
      .code '2', .unclosed ['c'], .tail ['d']] ∧
    bare "g1(a(b)x2(c;d".toList = bare "g1".toList ++ bare "x2(c;d".toList ∧
    IsTrimOf (comment "g1(a(b)x2(c;d".toList) "d a(b".toList := by
  have scan := one_scan_explains "g1(a(b)x2(c;d".toList
  have front : regions "g1".toList = [.code 'g', .code '1'] := by decide
  have whole : regions "g1(a(b)x2(c;d".toList = [.code 'g', .code '1', .span "a(b".toList,
      .code 'x', .code '2', .unclosed ['c'], .tail ['d']] := by decide
  obtain ⟨-, -, -, -, trimmed, cut⟩ := scan
  refine ⟨whole, ?_, ?_⟩
  · exact cut "g1".toList "a(b".toList "x2(c;d".toList rfl (by decide)
      (fun content => by rw [front]; simp) (by simp)
  · rwa [whole] at trimmed

end Line

end PartProgram
