import Mathlib.Data.List.TakeWhile
import Mathlib.Data.Nat.Digits.Defs
import PartProgram.Line.Words
import PartProgram.Proofs.Text.Characters

namespace PartProgram

namespace Line

open Text

theorem toNat_of_isWordLetter {c : Char} (letter : isWordLetter c = true) :
    65 ≤ c.toNat ∧ c.toNat ≤ 90 := by
  simp only [isWordLetter, Bool.and_eq_true, decide_eq_true_eq] at letter
  exact ⟨UInt32.le_iff_toNat_le.mp letter.1.1, UInt32.le_iff_toNat_le.mp letter.1.2⟩

theorem isWordLetter_eq_false_of_isDecimalDigit {c : Char} (digit : isDecimalDigit c = true) :
    isWordLetter c = false := by
  rw [Bool.eq_false_iff]
  intro letter
  have range := toNat_of_isWordLetter letter
  have digits := toNat_of_isDigit (isDecimalDigit_ascii (by omega) digit)
  omega

/-- A sign, digits, a point and digits, any of which may be absent. -/
def IsNumberText (digit : Char → Bool) (text : List Char) : Prop :=
  ∃ sign whole point fraction : List Char, text = sign ++ whole ++ point ++ fraction ∧
    (sign = [] ∨ sign = ['+'] ∨ sign = ['-']) ∧ (point = [] ∨ point = ['.']) ∧
    (∀ c ∈ whole, digit c = true) ∧ ∀ c ∈ fraction, digit c = true

namespace IsNumberText

variable {digit : Char → Bool} {text : List Char}

/-- Each character is a digit, a sign or the point. -/
theorem mem_cases (h : IsNumberText digit text) :
    ∀ c ∈ text, digit c = true ∨ c = '+' ∨ c = '-' ∨ c = '.' := by
  obtain ⟨sign, whole, point, fraction, rfl, signs, points, wholes, fractions⟩ := h
  intro c mem
  simp only [List.mem_append] at mem
  rcases mem with ((inSign | inWhole) | inPoint) | inFraction
  · rcases signs with rfl | rfl | rfl <;> simp_all
  · exact .inl (wholes c inWhole)
  · rcases points with rfl | rfl <;> simp_all
  · exact .inl (fractions c inFraction)

/-- Digits of one class may be taken for digits of another. -/
theorem congr {digit' : Char → Bool} (h : IsNumberText digit text)
    (same : ∀ c ∈ text, digit c = true → digit' c = true) : IsNumberText digit' text := by
  obtain ⟨sign, whole, point, fraction, rfl, signs, points, wholes, fractions⟩ := h
  exact ⟨sign, whole, point, fraction, rfl, signs, points,
    fun c mem => same c (by simp [mem]) (wholes c mem),
    fun c mem => same c (by simp [mem]) (fractions c mem)⟩

/-- Number text holds no letter that begins a word. -/
theorem isWordLetter_eq_false (h : IsNumberText isDecimalDigit text) :
    ∀ c ∈ text, isWordLetter c = false := by
  intro c mem
  rcases h.mem_cases c mem with digit | rfl | rfl | rfl
  · exact isWordLetter_eq_false_of_isDecimalDigit digit
  all_goals rfl

end IsNumberText

/-- The number text in front, if no sign may begin it. -/
def unsignedNumeral (text : List Char) : List Char :=
  text.takeWhile isDecimalDigit ++
    match text.dropWhile isDecimalDigit with
    | '.' :: rest => '.' :: rest.takeWhile isDecimalDigit
    | _ => []

theorem numeral_eq (text : List Char) :
    numeral text = (splitSign text).1 ++ unsignedNumeral (splitSign text).2 := by
  rw [numeral, unsignedNumeral]
  split
  rename_i sign unsigned split_
  rw [split_]
  cases unsigned.dropWhile isDecimalDigit with
  | nil => simp
  | cons c rest =>
    by_cases point : c = '.'
    · simp [point]
    · simp [point]

theorem splitSign_cases (text : List Char) :
    (splitSign text).1 ++ (splitSign text).2 = text ∧
      ((splitSign text).1 = [] ∨ (splitSign text).1 = ['+'] ∨ (splitSign text).1 = ['-']) := by
  unfold splitSign
  split <;> simp

/-- A sign is split off and nothing else. -/
theorem splitSign_append {sign unsigned : List Char}
    (signs : sign = [] ∨ sign = ['+'] ∨ sign = ['-'])
    (first : ∀ c ∈ unsigned, c ≠ '+' ∧ c ≠ '-') (some : sign ++ unsigned ≠ [])
    (rest : List Char) : splitSign (sign ++ unsigned ++ rest) = (sign, unsigned ++ rest) := by
  rcases signs with rfl | rfl | rfl
  · cases unsigned with
    | nil => exact absurd rfl some
    | cons c unsigned =>
      obtain ⟨plus, minus⟩ := first c (List.mem_cons_self ..)
      rw [List.nil_append, List.cons_append]
      unfold splitSign
      split
      next h => exact absurd (List.cons.inj h).1 plus
      next h => exact absurd (List.cons.inj h).1 minus
      next => rfl
  · rfl
  · rfl

/-- Digits and a point are no signs. -/
theorem ne_sign_of_unsigned {digit : Char → Bool} (plus : digit '+' = false)
    (minus : digit '-' = false) {whole point fraction : List Char}
    (points : point = [] ∨ point = ['.']) (wholes : ∀ c ∈ whole, digit c = true)
    (fractions : ∀ c ∈ fraction, digit c = true) :
    ∀ c ∈ whole ++ point ++ fraction, c ≠ '+' ∧ c ≠ '-' := by
  have apart {c : Char} (h : digit c = true) : c ≠ '+' ∧ c ≠ '-' := by
    constructor <;> rintro rfl
    · rw [plus] at h
      cases h
    · rw [minus] at h
      cases h
  intro c mem
  simp only [List.mem_append] at mem
  rcases mem with (inWhole | inPoint) | inFraction
  · exact apart (wholes c inWhole)
  · rcases points with rfl | rfl <;> simp_all
  · exact apart (fractions c inFraction)

theorem unsignedNumeral_in_front (text : List Char) : unsignedNumeral text <+: text := by
  have whole := List.takeWhile_append_dropWhile (p := isDecimalDigit) (l := text)
  unfold unsignedNumeral
  split
  · rename_i rest point
    have fraction : '.' :: rest.takeWhile isDecimalDigit <+: '.' :: rest :=
      List.cons_prefix_cons.mpr ⟨rfl, List.takeWhile_prefix _⟩
    have front := (List.prefix_append_right_inj (text.takeWhile isDecimalDigit)).mpr fraction
    rwa [← point, whole] at front
  · rw [List.append_nil]
    exact List.takeWhile_prefix _

/-- The number text in front is one, and a text begins with it. -/
theorem numeral_in_front (text : List Char) : numeral text <+: text := by
  have front := (List.prefix_append_right_inj (splitSign text).1).mpr
    (unsignedNumeral_in_front (splitSign text).2)
  rwa [(splitSign_cases text).1, ← numeral_eq] at front

theorem isNumberText_numeral (text : List Char) : IsNumberText isDecimalDigit (numeral text) := by
  have digits (text : List Char) : ∀ c ∈ text.takeWhile isDecimalDigit, isDecimalDigit c = true :=
    List.all_eq_true.mp List.all_takeWhile
  have signs := (splitSign_cases text).2
  rw [numeral_eq, unsignedNumeral]
  split
  next rest _ =>
    exact ⟨_, (splitSign text).2.takeWhile isDecimalDigit, ['.'], rest.takeWhile isDecimalDigit,
      by simp, signs, .inr rfl, digits _, digits _⟩
  next =>
    exact ⟨_, (splitSign text).2.takeWhile isDecimalDigit, [], [], by simp, signs, .inl rfl,
      digits _, by simp⟩

/-- A text that begins with digits, a point and digits has them in its number text. -/
theorem prefix_unsignedNumeral {whole point fraction : List Char}
    (points : point = [] ∨ point = ['.']) (wholes : ∀ c ∈ whole, isDecimalDigit c = true)
    (fractions : ∀ c ∈ fraction, isDecimalDigit c = true) (rest : List Char) :
    whole ++ point ++ fraction <+: unsignedNumeral (whole ++ point ++ fraction ++ rest) := by
  rcases points with rfl | rfl
  · have digits : ∀ c ∈ whole ++ [] ++ fraction, isDecimalDigit c = true := by
      intro c mem
      rcases List.mem_append.mp mem with mem | mem
      · exact wholes c (by simpa using mem)
      · exact fractions c mem
    rw [unsignedNumeral, List.takeWhile_append_of_pos digits]
    exact (List.prefix_append _ _).trans (List.prefix_append _ _)
  · have stop : isDecimalDigit '.' = false := by decide
    have shape : whole ++ ['.'] ++ fraction ++ rest = whole ++ '.' :: (fraction ++ rest) := by simp
    rw [shape, unsignedNumeral, List.takeWhile_append_of_pos wholes,
      List.dropWhile_append_of_pos wholes]
    simp only [List.takeWhile_cons, List.dropWhile_cons, stop, Bool.false_eq_true, if_false,
      List.takeWhile_append_of_pos fractions]
    exact ⟨rest.takeWhile isDecimalDigit, by simp⟩

/-- Number text in front of anything is the beginning of what is taken for the number text. -/
theorem IsNumberText.prefix_numeral {text : List Char} (h : IsNumberText isDecimalDigit text)
    (rest : List Char) : text <+: numeral (text ++ rest) := by
  obtain ⟨sign, whole, point, fraction, rfl, signs, points, wholes, fractions⟩ := h
  have unsigned := prefix_unsignedNumeral points wholes fractions rest
  have first := ne_sign_of_unsigned (by decide) (by decide) points wholes fractions
  have shape : sign ++ whole ++ point ++ fraction = sign ++ (whole ++ point ++ fraction) := by simp
  rw [shape]
  by_cases empty : sign ++ (whole ++ point ++ fraction) = []
  · rw [empty]
    exact List.nil_prefix
  · rw [numeral_eq, splitSign_append signs first empty]
    exact (List.prefix_append_right_inj _).mpr unsigned

/-- The longest text in front that has the form of a number. -/
structure IsLongestNumber (number text : List Char) : Prop where
  front : number <+: text
  form : IsNumberText isDecimalDigit number
  longest : ∀ other, other <+: text → IsNumberText isDecimalDigit other →
    other.length ≤ number.length

theorem isLongestNumber_iff {number text : List Char} :
    IsLongestNumber number text ↔ number = numeral text := by
  have front := numeral_in_front text
  have form := isNumberText_numeral text
  have bound (other : List Char) (before : other <+: text)
      (number : IsNumberText isDecimalDigit other) : other <+: numeral text := by
    obtain ⟨rest, rfl⟩ := before
    exact number.prefix_numeral rest
  constructor
  · intro h
    exact (bound number h.front h.form).eq_of_length_le (h.longest _ front form)
  · rintro rfl
    exact ⟨front, form, fun other before number => (bound other before number).length_le⟩

end Line

namespace Number

theorem ofDigits_eq (digits : List Char) : ofDigits digits =
    Nat.ofDigits 10 (digits.reverse.map fun c => c.toNat - '0'.toNat) := by
  rw [Nat.ofDigits_eq_foldr, List.foldr_map, List.foldr_reverse, ofDigits]
  congr 1
  funext n c
  exact Nat.add_comm _ _

/-- The value of number text without a sign, which has a digit. All the digits stand for a number,
and those behind the point are its places. -/
def IsMagnitudeOf (v : Float) (text : List Char) : Prop :=
  ∃ whole point fraction : List Char, text = whole ++ point ++ fraction ∧
    (point = ['.'] ∨ point = [] ∧ fraction = []) ∧ (∀ c ∈ whole, c.isDigit = true) ∧
    (∀ c ∈ fraction, c.isDigit = true) ∧ whole ++ fraction ≠ [] ∧
    v = Float.ofScientific
      (Nat.ofDigits 10 ((whole ++ fraction).reverse.map fun c => c.toNat - '0'.toNat))
      true fraction.length

/-- The value of number text. A minus turns the sign, of a zero too. -/
def IsValueOf (v : Float) (text : List Char) : Prop :=
  ∃ (sign unsigned : List Char) (m : Float), text = sign ++ unsigned ∧ IsMagnitudeOf m unsigned ∧
    (sign = ['-'] ∧ v = -m ∨ (sign = [] ∨ sign = ['+']) ∧ v = m)

theorem fraction?_eq_some_iff {rest fraction : List Char} : fraction? rest = some fraction ↔
    ∃ point, rest = point ++ fraction ∧ (point = ['.'] ∨ point = [] ∧ fraction = []) ∧
      ∀ c ∈ fraction, c.isDigit = true := by
  constructor
  · intro found
    unfold fraction? at found
    split at found
    · obtain rfl := Option.some.inj found
      exact ⟨[], rfl, .inr ⟨rfl, rfl⟩, by simp⟩
    · split at found
      · next digits =>
        obtain rfl := Option.some.inj found
        exact ⟨['.'], rfl, .inl rfl, List.all_eq_true.mp digits⟩
      · cases found
    · cases found
  · rintro ⟨_, rfl, rfl | ⟨rfl, rfl⟩, digits⟩
    · exact if_pos (List.all_eq_true.mpr digits)
    · rfl

theorem magnitude?_eq_some_iff {text : List Char} {v : Float} :
    magnitude? text = some v ↔ IsMagnitudeOf v text := by
  constructor
  · intro read
    unfold magnitude? at read
    dsimp only at read
    split at read
    · next fraction found =>
      obtain ⟨point, rest, points, fractions⟩ := fraction?_eq_some_iff.mp found
      have whole := List.takeWhile_append_dropWhile (p := Char.isDigit) (l := text)
      have wholes : ∀ c ∈ text.takeWhile Char.isDigit, c.isDigit = true :=
        List.all_eq_true.mp List.all_takeWhile
      rw [rest, ← List.append_assoc] at whole
      split at read
      · cases read
      · next digits =>
        refine ⟨_, point, fraction, whole.symm, points, wholes, fractions, ?_, ?_⟩
        · simpa using digits
        · rw [← Option.some.inj read, ofDigits_eq]
    · cases read
  · rintro ⟨whole, point, fraction, rfl, points, wholes, fractions, digits, rfl⟩
    have stop : (point ++ fraction).takeWhile Char.isDigit = [] := by
      rcases points with rfl | ⟨rfl, rfl⟩ <;> rfl
    have kept : (point ++ fraction).dropWhile Char.isDigit = point ++ fraction := by
      rcases points with rfl | ⟨rfl, rfl⟩ <;> rfl
    have rest : (whole ++ point ++ fraction).dropWhile Char.isDigit = point ++ fraction := by
      rw [List.append_assoc, List.dropWhile_append_of_pos wholes, kept]
    have taken : (whole ++ point ++ fraction).takeWhile Char.isDigit = whole := by
      rw [List.append_assoc, List.takeWhile_append_of_pos wholes, stop, List.append_nil]
    have parts : fraction? (point ++ fraction) = some fraction :=
      fraction?_eq_some_iff.mpr ⟨point, rfl, points, fractions⟩
    have some : ¬(whole.isEmpty && fraction.isEmpty) = true := by simpa using digits
    unfold magnitude?
    dsimp only
    rw [rest, taken, parts, ← ofDigits_eq]
    exact if_neg some

theorem exists_isMagnitudeOf {whole point fraction : List Char}
    (points : point = [] ∨ point = ['.']) (wholes : ∀ c ∈ whole, c.isDigit = true)
    (fractions : ∀ c ∈ fraction, c.isDigit = true) (digits : whole ++ fraction ≠ []) :
    ∃ m, IsMagnitudeOf m (whole ++ point ++ fraction) := by
  rcases points with rfl | rfl
  · -- without a point all digits are of the whole part
    have all : ∀ c ∈ whole ++ fraction, c.isDigit = true := fun c mem =>
      (List.mem_append.mp mem).elim (wholes c) (fractions c)
    exact ⟨_, whole ++ fraction, [], [], by simp, .inr ⟨rfl, rfl⟩, all, by simp,
      by simpa using digits, rfl⟩
  · exact ⟨_, whole, ['.'], fraction, rfl, .inl rfl, wholes, fractions, digits, rfl⟩

/-- A value without a sign is that of a text in which there is none. -/
theorem IsMagnitudeOf.ne_sign {text : List Char} {v : Float} (h : IsMagnitudeOf v text) :
    ∀ c ∈ text, c ≠ '+' ∧ c ≠ '-' := by
  obtain ⟨whole, point, fraction, rfl, points, wholes, fractions, -, -⟩ := h
  exact Line.ne_sign_of_unsigned (by decide) (by decide)
    (points.symm.imp_left And.left) wholes fractions

theorem read?_eq_some_iff {text : List Char} {v : Float} :
    read? text = some v ↔ IsValueOf v text := by
  constructor
  · intro read
    unfold read? at read
    split at read
    · next rest =>
      exact ⟨['+'], rest, v, rfl, magnitude?_eq_some_iff.mp read, .inr ⟨.inr rfl, rfl⟩⟩
    · next rest =>
      obtain ⟨m, found, rfl⟩ := Option.map_eq_some_iff.mp read
      exact ⟨['-'], rest, m, rfl, magnitude?_eq_some_iff.mp found, .inl ⟨rfl, rfl⟩⟩
    · exact ⟨[], text, v, rfl, magnitude?_eq_some_iff.mp read, .inr ⟨.inl rfl, rfl⟩⟩
  · rintro ⟨sign, unsigned, m, rfl, magnitude, ⟨rfl, rfl⟩ | ⟨rfl | rfl, rfl⟩⟩
    · exact Option.map_eq_some_iff.mpr ⟨m, magnitude?_eq_some_iff.mpr magnitude, rfl⟩
    · have first := magnitude.ne_sign
      rw [List.nil_append]
      unfold read?
      split
      · exact absurd rfl (first _ (List.mem_cons_self ..)).1
      · exact absurd rfl (first _ (List.mem_cons_self ..)).2
      · exact magnitude?_eq_some_iff.mpr magnitude
    · exact magnitude?_eq_some_iff.mpr magnitude

-- the places of the fraction count, a point alone does not matter, and zero keeps its minus
example : read? "-12.50".toList = some (-12.5) ∧ read? "7.".toList = some 7.0 ∧
    read? "-0".toList = some (-0.0) := by decide +kernel

theorem IsValueOf.unique {v u : Float} {text : List Char} (h : IsValueOf v text)
    (k : IsValueOf u text) : v = u :=
  Option.some.inj ((read?_eq_some_iff.mpr h).symm.trans (read?_eq_some_iff.mpr k))

end Number

namespace Line

open Text

/-- Text is read as a value just if it has the form of a number with ASCII digits and has one. -/
theorem read?_isSome_iff {text : List Char} : (Number.read? text).isSome = true ↔
    IsNumberText Char.isDigit text ∧ ∃ c ∈ text, c.isDigit = true := by
  rw [Option.isSome_iff_exists]
  constructor
  · rintro ⟨v, read⟩
    obtain ⟨sign, _, m, rfl, ⟨whole, point, fraction, rfl, points, wholes, fractions, digits, -⟩,
      signs⟩ := Number.read?_eq_some_iff.mp read
    have signs : sign = [] ∨ sign = ['+'] ∨ sign = ['-'] := by
      rcases signs with ⟨minus, -⟩ | ⟨none | plus, -⟩
      · exact .inr (.inr minus)
      · exact .inl none
      · exact .inr (.inl plus)
    refine ⟨⟨sign, whole, point, fraction, by simp, signs, points.symm.imp_left And.left, wholes,
      fractions⟩, ?_⟩
    obtain ⟨c, mem⟩ := List.exists_mem_of_ne_nil _ digits
    rcases List.mem_append.mp mem with inWhole | inFraction
    · exact ⟨c, by simp [inWhole], wholes c inWhole⟩
    · exact ⟨c, by simp [inFraction], fractions c inFraction⟩
  · rintro ⟨⟨sign, whole, point, fraction, rfl, signs, points, wholes, fractions⟩, c, mem, digit⟩
    have digits : whole ++ fraction ≠ [] := by
      intro none
      obtain ⟨rfl, rfl⟩ := List.append_eq_nil_iff.mp none
      have left : c = '+' ∨ c = '-' ∨ c = '.' := by
        rcases signs with rfl | rfl | rfl <;> rcases points with rfl | rfl <;> simp at mem <;> grind
      rcases left with rfl | rfl | rfl <;> exact absurd digit (by decide)
    obtain ⟨m, magnitude⟩ := Number.exists_isMagnitudeOf points wholes fractions digits
    have text : sign ++ whole ++ point ++ fraction = sign ++ (whole ++ point ++ fraction) := by simp
    have value : ∃ v, sign = ['-'] ∧ v = -m ∨ (sign = [] ∨ sign = ['+']) ∧ v = m := by
      rcases signs with none | plus | minus
      · exact ⟨m, .inr ⟨.inl none, rfl⟩⟩
      · exact ⟨m, .inr ⟨.inr plus, rfl⟩⟩
      · exact ⟨-m, .inl ⟨minus, rfl⟩⟩
    obtain ⟨v, value⟩ := value
    exact ⟨v, Number.read?_eq_some_iff.mpr ⟨sign, _, m, text, magnitude, value⟩⟩

/-- Of number text, what is in ASCII and has a digit is read as a value. -/
theorem IsNumberText.read?_isSome {text : List Char} (h : IsNumberText isDecimalDigit text) :
    (Number.read? text).isSome = true ↔
      (∀ c ∈ text, c.toNat < 128) ∧ ∃ c ∈ text, c.isDigit = true := by
  rw [read?_isSome_iff]
  constructor
  · rintro ⟨number, digit⟩
    refine ⟨fun c mem => ?_, digit⟩
    rcases number.mem_cases c mem with digit | rfl | rfl | rfl
    · have range := toNat_of_isDigit digit
      omega
    all_goals decide
  · rintro ⟨ascii, digit⟩
    exact ⟨h.congr fun c mem => isDecimalDigit_ascii (ascii c mem), digit⟩

end Line

end PartProgram
