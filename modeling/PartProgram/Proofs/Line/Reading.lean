import PartProgram.Proofs.Line.AxisWords
import PartProgram.Proofs.Line.Numeral
import PartProgram.Proofs.Number.Code

namespace PartProgram.Line

open Text

/-- The letters that begin a word. -/
def wordLetters : List Char :=
  "GMXYZIJKRFSTPQABCUVWDEFHLN".toList

theorem isWordLetter_iff {c : Char} : isWordLetter c = true ↔ c ∈ wordLetters := by
  constructor
  · intro letter
    have listed : isWordLetter c = true → c ∈ wordLetters :=
      forall_of_lt (P := fun c => isWordLetter c = true → c ∈ wordLetters) (by decide)
        (Nat.lt_succ_of_le (toNat_of_isWordLetter letter).2)
    exact listed letter
  · intro mem
    have all : wordLetters.all isWordLetter = true := by decide
    exact List.all_eq_true.mp all c mem

/-- No word begins in the text. -/
def IsGap (text : List Char) : Prop :=
  ∀ c ∈ text, c ∉ wordLetters

/-- A gap, and words with the gap that follows each of them. -/
structure Reading where
  lead : List Char
  words : List (Word × List Char)

namespace Reading

/-- The text from the first word on. -/
def textOf : List (Word × List Char) → List Char
  | [] => []
  | (w, gap) :: rest => w.letter :: (w.text ++ gap ++ textOf rest)

/-- Each word is a letter and the longest number text behind it, and a gap follows. -/
def IsSound : List (Word × List Char) → Prop
  | [] => True
  | (w, gap) :: rest => w.letter ∈ wordLetters ∧
      IsLongestNumber w.text (w.text ++ gap ++ textOf rest) ∧ IsGap gap ∧ IsSound rest

/-- The text is read so. -/
structure IsOf (r : Reading) (text : List Char) : Prop where
  whole : r.lead ++ textOf r.words = text
  lead : IsGap r.lead
  words : IsSound r.words

/-- A text read from its end: each letter makes a word of the number text behind it, and leaves the
rest of the gap. -/
def ofText : List Char → Reading
  | [] => ⟨[], []⟩
  | c :: rest =>
    let r := ofText rest
    if isWordLetter c then
      ⟨[], (⟨c, numeral rest⟩, r.lead.drop (numeral rest).length) :: r.words⟩
    else ⟨c :: r.lead, r.words⟩

theorem scan_eq (text : List Char) : scan text = (ofText text).words.map (·.1) := by
  induction text with
  | nil => rfl
  | cons c rest ih =>
    rw [scan, ofText]
    split
    · rw [ih]
      rfl
    · exact ih

/-- What holds no letter and stands in front, stands in the gap. -/
theorem prefix_lead {number lead : List Char} {words : List (Word × List Char)}
    (front : number <+: lead ++ textOf words) (silent : ∀ c ∈ number, isWordLetter c = false)
    (sound : IsSound words) : number <+: lead := by
  induction lead generalizing number with
  | nil =>
    cases number with
    | nil => exact List.nil_prefix
    | cons c number =>
      -- the text would begin with a letter
      cases words with
      | nil => exact front
      | cons word rest =>
        obtain ⟨rfl, -⟩ := List.cons_prefix_cons.mp front
        have letter := isWordLetter_iff.mpr sound.1
        rw [silent _ (List.mem_cons_self ..)] at letter
        cases letter
  | cons a lead ih =>
    cases number with
    | nil => exact List.nil_prefix
    | cons c number =>
      obtain ⟨rfl, behind⟩ := List.cons_prefix_cons.mp front
      exact List.cons_prefix_cons.mpr
        ⟨rfl, ih behind fun c mem => silent c (List.mem_cons_of_mem _ mem)⟩

theorem isOf_ofText (text : List Char) : (ofText text).IsOf text := by
  induction text with
  | nil => exact ⟨rfl, by simp [IsGap, ofText], trivial⟩
  | cons c rest ih =>
    rw [ofText]
    cases letter : isWordLetter c with
    | true =>
      have silent := (isNumberText_numeral rest).isWordLetter_eq_false
      have front : numeral rest <+: (ofText rest).lead :=
        prefix_lead (by rw [ih.whole]; exact numeral_in_front rest) silent ih.words
      have gap : numeral rest ++ (ofText rest).lead.drop (numeral rest).length =
          (ofText rest).lead := List.prefix_iff_eq_append.mp front
      have whole : numeral rest ++ (ofText rest).lead.drop (numeral rest).length ++
          textOf (ofText rest).words = rest := by rw [gap, ih.whole]
      refine ⟨congrArg (c :: ·) whole, by simp [IsGap], isWordLetter_iff.mp letter, ?_, ?_,
        ih.words⟩
      · rw [whole]
        exact isLongestNumber_iff.mpr rfl
      · exact fun c mem => ih.lead c (List.mem_of_mem_drop mem)
    | false =>
      refine ⟨congrArg (c :: ·) ih.whole, ?_, ih.words⟩
      intro d mem
      rcases List.mem_cons.mp mem with rfl | mem
      · exact fun bad => by simp [isWordLetter_iff.mpr bad] at letter
      · exact ih.lead d mem

theorem ofText_append_gap {gap : List Char} (silent : IsGap gap) (text : List Char) :
    ofText (gap ++ text) = ⟨gap ++ (ofText text).lead, (ofText text).words⟩ := by
  induction gap with
  | nil => rfl
  | cons c gap ih =>
    have no : isWordLetter c = false := by
      rw [Bool.eq_false_iff, ne_eq, isWordLetter_iff]
      exact silent c (List.mem_cons_self ..)
    rw [List.cons_append, ofText, ih fun d mem => silent d (List.mem_cons_of_mem _ mem), no]
    rfl

theorem ofText_textOf {words : List (Word × List Char)} (sound : IsSound words) :
    ofText (textOf words) = ⟨[], words⟩ := by
  induction words with
  | nil => rfl
  | cons word rest ih =>
    obtain ⟨w, gap⟩ := word
    obtain ⟨letter, number, after, tail⟩ := sound
    have taken : numeral (w.text ++ gap ++ textOf rest) = w.text :=
      (isLongestNumber_iff.mp number).symm
    have silent : IsGap (w.text ++ gap) := by
      intro c mem
      rcases List.mem_append.mp mem with own | mem
      · have no := number.form.isWordLetter_eq_false c own
        exact fun bad => by simp [isWordLetter_iff.mpr bad] at no
      · exact after c mem
    rw [textOf, ofText, taken, ofText_append_gap silent, ih tail, isWordLetter_iff.mpr letter]
    simp

/-- There is no other way to read a text. -/
theorem IsOf.eq_ofText {r : Reading} {text : List Char} (h : r.IsOf text) : r = ofText text := by
  rw [← h.whole, ofText_append_gap h.lead, ofText_textOf h.words, List.append_nil]

end Reading

namespace Word

/-- The word has no number text, or one in ASCII that has a digit. -/
def IsReadable (w : Word) : Prop :=
  w.text = [] ∨ (∀ c ∈ w.text, c.toNat < 128) ∧ ∃ c ∈ w.text, c.isDigit = true

theorem isMalformed_eq_false {w : Word} (number : IsNumberText isDecimalDigit w.text) :
    w.isMalformed = false ↔ w.IsReadable := by
  have value := number.read?_isSome
  have malformed : w.isMalformed = false ↔ w.text = [] ∨ (Number.read? w.text).isSome = true := by
    unfold isMalformed isEmpty value?
    cases w.text <;> cases Number.read? _ <;> simp
  rw [malformed, value, IsReadable]

end Word

/-- A word that is scanned is a letter and a text that has the form of a number. -/
theorem of_mem_scan {text : List Char} {w : Word} (mem : w ∈ scan text) :
    isWordLetter w.letter = true ∧ IsNumberText isDecimalDigit w.text := by
  induction text with
  | nil => cases mem
  | cons c rest ih =>
    rw [scan] at mem
    split at mem
    next letter =>
      rcases List.mem_cons.mp mem with rfl | mem
      · exact ⟨letter, isNumberText_numeral rest⟩
      · exact ih mem
    next => exact ih mem

theorem isMalformed_of_mem_scan {text : List Char} {w : Word} (mem : w ∈ scan text) :
    w.isMalformed = false ↔ w.IsReadable :=
  Word.isMalformed_eq_false (of_mem_scan mem).2

namespace Words

/-- The number texts behind a letter, in order, where there are any. -/
def numberTexts (letter : Char) (ws : List Word) : List (List Char) :=
  (ws.filter fun w => w.letter = letter ∧ w.text ≠ []).map (·.text)

/-- The number text has a value, and the code is that of the value. -/
def HasCode (code : Int) (text : List Char) : Prop :=
  ∃ v, Number.IsValueOf v text ∧ Number.IsCodeOf code v

/-- The words give the codes, the parameters, which are the last values of the other letters, and
the letters without a number. -/
structure Gathers (words : Words) (ws : List Word) : Prop where
  gcodes : List.Forall₂ HasCode words.gcodes (numberTexts 'G' ws)
  mcodes : List.Forall₂ HasCode words.mcodes (numberTexts 'M' ws)
  parameter : ∀ letter v, words.parameters.get? letter = some v ↔
    letter ≠ 'G' ∧ letter ≠ 'M' ∧
      ∃ text, (numberTexts letter ws).getLast? = some text ∧ Number.IsValueOf v text
  missing : words.missing = (ws.filter (·.text = [])).map (·.letter)

/-- What is made of words: all is gathered, or the first that cannot be read is told, with the
letters without a number before it. -/
inductive IsMadeOf (ws : List Word) : Except BadNumber Words → Prop
  | gathered {words : Words} (readable : ∀ w ∈ ws, w.IsReadable) (gathers : words.Gathers ws) :
    IsMadeOf ws (.ok words)
  | broken {front back : List Word} {w : Word} (whole : ws = front ++ w :: back)
    (readable : ∀ v ∈ front, v.IsReadable) (bad : ¬w.IsReadable) :
    IsMadeOf ws (.error ⟨w.letter, w.text, (front.filter (·.text = [])).map (·.letter)⟩)

theorem IsMadeOf.isOk_iff {ws : List Word} {result : Except BadNumber Words}
    (h : IsMadeOf ws result) : result.isOk = true ↔ ∀ w ∈ ws, w.IsReadable := by
  cases h with
  | gathered readable gathers => exact iff_of_true rfl readable
  | broken whole readable bad =>
    exact iff_of_false Bool.false_ne_true fun all => bad (all _ (by simp [whole]))

/-- A letter that stands for a code is no parameter. -/
theorem get?_parameters (ws : List Word) (letter : Char) :
    (Table.ofList (ws.filterMap parameter?)).get? letter =
      if letter = 'G' ∨ letter = 'M' then none else (valuesOf letter ws).getLast? := by
  rw [Table.get?_ofList]
  split
  next code =>
    have none : (ws.filterMap parameter?).filter
        (fun e => Ranked.rank letter = Ranked.rank e.1) = [] := by
      rw [List.filter_eq_nil_iff]
      intro e mem same
      obtain ⟨w, -, given⟩ := List.mem_filterMap.mp mem
      obtain rfl : letter = e.1 := Ranked.rank_injective (of_decide_eq_true same)
      unfold parameter? at given
      split at given
      · cases given
      · rename_i noCode
        obtain ⟨v, -, rfl⟩ := Option.map_eq_some_iff.mp given
        exact noCode code
    rw [none]
    rfl
  next noCode =>
    obtain ⟨noG, noM⟩ := not_or.mp noCode
    rw [parameters_of_letter noG noM]

theorem ofList_of_sound {ws : List Word} (sound : ∀ w ∈ ws, w.isMalformed = false) :
    ofList ws = .ok {
      gcodes := (valuesOf 'G' ws).map Number.toCode
      mcodes := (valuesOf 'M' ws).map Number.toCode
      parameters := .ofList (ws.filterMap parameter?)
      missing := lettersWithoutValue ws } := by
  have found : ws.find? (·.isMalformed) = none := by simpa using sound
  rw [ofList, found]

/-- Reading ends at the first malformed word. -/
theorem ofList_of_malformed {front back : List Word} {w : Word}
    (sound : ∀ v ∈ front, v.isMalformed = false) (bad : w.isMalformed = true) :
    ofList (front ++ w :: back) = .error ⟨w.letter, w.text, lettersWithoutValue front⟩ := by
  have passed (v : Word) (mem : v ∈ front) : (!v.isMalformed) = true := by
    rw [sound v mem]
    rfl
  have found : (front ++ w :: back).find? (·.isMalformed) = some w :=
    List.find?_eq_some_iff_append.mpr ⟨bad, front, back, rfl, passed⟩
  have taken : (front ++ w :: back).takeWhile (!·.isMalformed) = front := by
    rw [List.takeWhile_append_of_pos passed]
    simp [bad]
  rw [ofList, found, taken]

theorem lettersWithoutValue_eq (ws : List Word) :
    lettersWithoutValue ws = (ws.filter (·.text = [])).map (·.letter) := by
  unfold lettersWithoutValue
  congr 2
  funext w
  rw [Word.isEmpty]
  cases w.text <;> rfl

/-- If no word is malformed, each number text gives its value. -/
theorem forall₂_valuesOf (letter : Char) {ws : List Word}
    (sound : ∀ w ∈ ws, w.isMalformed = false) :
    List.Forall₂ Number.IsValueOf (valuesOf letter ws) (numberTexts letter ws) := by
  induction ws with
  | nil => exact .nil
  | cons w ws ih =>
    have rest := ih fun v mem => sound v (List.mem_cons_of_mem _ mem)
    have here := sound w (List.mem_cons_self ..)
    unfold valuesOf numberTexts
    rw [List.filterMap_cons, List.filter_cons]
    by_cases own : w.letter = letter
    · by_cases empty : w.text = []
      · have none : w.value? = none := by rw [Word.value?, empty, Number.read?_nil]
        rw [if_pos own, none, if_neg (by simp [empty])]
        exact rest
      · have some : w.value?.isSome = true := by
          simpa [Word.isMalformed, Word.isEmpty, empty] using here
        obtain ⟨v, value⟩ := Option.isSome_iff_exists.mp some
        rw [if_pos own, value, if_pos (by simp [own, empty])]
        exact .cons (Number.read?_eq_some_iff.mp value) rest
    · rw [if_neg own, if_neg (by simp [own])]
      exact rest

theorem hasCode_toCode {letter : Char} {ws : List Word}
    (sound : ∀ w ∈ ws, w.isMalformed = false) :
    List.Forall₂ HasCode ((valuesOf letter ws).map Number.toCode) (numberTexts letter ws) := by
  rw [List.forall₂_map_left_iff]
  exact (forall₂_valuesOf letter sound).imp fun v _ value => ⟨v, value, Number.isCodeOf_toCode v⟩

theorem getLast?_of_forall₂ {α β : Type} {R : α → β → Prop} {l : List α} {k : List β}
    (related : List.Forall₂ R l k) : Option.Rel R l.getLast? k.getLast? := by
  have reversed := List.forall₂_reverse_iff.mpr related
  rw [← List.head?_reverse, ← List.head?_reverse]
  generalize l.reverse = front at reversed
  generalize k.reverse = front' at reversed
  cases reversed with
  | nil => exact .none
  | cons head _ => exact .some head

theorem exists_gathers {ws : List Word} (sound : ∀ w ∈ ws, w.isMalformed = false) :
    ∃ words, ofList ws = .ok words ∧ words.Gathers ws := by
  refine ⟨_, ofList_of_sound sound, hasCode_toCode sound, hasCode_toCode sound, ?_,
    lettersWithoutValue_eq ws⟩
  intro letter v
  have last := getLast?_of_forall₂ (forall₂_valuesOf letter sound)
  rw [get?_parameters]
  split
  · next code =>
    refine iff_of_false nofun ?_
    rintro ⟨noG, noM, -⟩
    exact code.elim noG noM
  · next noCode =>
    obtain ⟨noG, noM⟩ := not_or.mp noCode
    generalize (valuesOf letter ws).getLast? = value at last
    generalize (numberTexts letter ws).getLast? = text at last
    cases last with
    | none =>
      refine iff_of_false nofun ?_
      rintro ⟨-, -, _, given, -⟩
      cases given
    | @some u text value =>
      rw [Option.some.injEq]
      constructor
      · rintro rfl
        exact ⟨noG, noM, text, rfl, value⟩
      · rintro ⟨-, -, _, same, value'⟩
        obtain rfl := Option.some.inj same
        exact value.unique value'

/-- The words up to the first that is malformed. -/
theorem isMadeOf_ofList {ws : List Word}
    (malformed : ∀ w ∈ ws, w.isMalformed = false ↔ w.IsReadable) : IsMadeOf ws (ofList ws) := by
  cases found : ws.find? (·.isMalformed) with
  | none =>
    have sound : ∀ w ∈ ws, w.isMalformed = false := by simpa using found
    obtain ⟨words, read, gathers⟩ := exists_gathers sound
    rw [read]
    exact .gathered (fun w mem => (malformed w mem).mp (sound w mem)) gathers
  | some w =>
    obtain ⟨bad, front, back, whole, passed⟩ := List.find?_eq_some_iff_append.mp found
    have sound (v : Word) (mem : v ∈ front) : v.isMalformed = false := by simpa using passed v mem
    have here (v : Word) (mem : v ∈ front) : v ∈ ws := whole ▸ List.mem_append_left _ mem
    have made := IsMadeOf.broken whole (fun v mem => (malformed v (here v mem)).mp (sound v mem))
      (fun good => by
        have fine := (malformed w (by simp [whole])).mpr good
        rw [bad] at fine
        cases fine)
    rwa [← lettersWithoutValue_eq, ← ofList_of_malformed sound bad, ← whole] at made

end Words

/-- A text is read in one way only, and its words alone decide what is made of it. All are gathered
just if each of them can be read. -/
theorem text_reads_one_way (text : List Char) : ∃ r : Reading,
    (∀ s : Reading, s.IsOf text ↔ s = r) ∧ scan text = r.words.map (·.1) ∧
      Words.IsMadeOf (r.words.map (·.1)) (Words.read text) ∧
      ((Words.read text).isOk = true ↔ ∀ word ∈ r.words, word.1.IsReadable) := by
  have words := Reading.scan_eq text
  have malformed : ∀ w ∈ scan text, w.isMalformed = false ↔ w.IsReadable :=
    fun w => isMalformed_of_mem_scan
  have made := Words.isMadeOf_ofList malformed
  refine ⟨.ofText text, fun s => ⟨Reading.IsOf.eq_ofText, ?_⟩, words, words ▸ made, ?_⟩
  · rintro rfl
    exact Reading.isOf_ofText text
  · rw [Words.read, made.isOk_iff, words, List.forall_mem_map]

-- a second point is passed over, a lone sign is text, and E begins a word
example : scan "G1X-1.5.2E+O7".toList =
    [⟨'G', ['1']⟩, ⟨'X', ['-', '1', '.', '5']⟩, ⟨'E', ['+']⟩] := by decide

end PartProgram.Line
