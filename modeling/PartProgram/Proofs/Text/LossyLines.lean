import PartProgram.Proofs.Text.Characters
import PartProgram.Proofs.Text.Cutting
import PartProgram.Text.Utf8

namespace PartProgram.Text

/-- The byte of a line feed. -/
def lineFeed : UInt8 :=
  10

/-- No continuation of the character is a line feed, nor completes it to one. -/
def Opening.IsBeyondLineFeed (o : Opening) : Prop :=
  0x80 ≤ o.low.toNat ∧ 10 < o.value * 64 + (o.low.toNat - 0x80)

theorem Opening.not_lineFeed_mem {o : Opening} (h : o.IsBeyondLineFeed) :
    ¬(o.low ≤ lineFeed ∧ lineFeed ≤ o.high) := by
  intro range
  have low : o.low.toNat ≤ 10 := UInt8.le_iff_toNat_le.mp range.1
  have := h.1
  omega

theorem Opening.isBeyondLineFeed_of_pos {value : Nat} (h : 0 < value) (due : Nat) (high : UInt8) :
    Opening.IsBeyondLineFeed ⟨value, due, 0x80, high⟩ := by
  refine ⟨Nat.le_refl 0x80, ?_⟩
  show 10 < value * 64 + (0x80 - 0x80)
  omega

/-- A first byte opens no character that could become a line feed. -/
theorem Lead.isBeyondLineFeed {b : UInt8} {o : Opening} (h : Lead.ofByte b = .opening o) :
    o.IsBeyondLineFeed := by
  unfold Lead.ofByte at h
  have lt_iff (x y : UInt8) : x < y ↔ x.toNat < y.toNat := UInt8.lt_iff_toNat_lt
  split at h
  · cases h
  split at h
  · cases h
  rename_i small
  have from_c2 : 0xC2 ≤ b.toNat := Nat.le_of_not_lt fun bad => small ((lt_iff _ _).mpr bad)
  split at h
  · obtain rfl := Lead.opening.inj h
    exact Opening.isBeyondLineFeed_of_pos (by omega) _ _
  rename_i two
  have from_e0 : 0xE0 ≤ b.toNat := Nat.le_of_not_lt fun bad => two ((lt_iff _ _).mpr bad)
  split at h
  · obtain rfl := Lead.opening.inj h
    exact ⟨by decide, by decide⟩
  rename_i not_e0
  have ne_e0 : b.toNat ≠ 0xE0 := fun bad => not_e0 (UInt8.toNat_inj.mp bad)
  split at h
  · obtain rfl := Lead.opening.inj h
    exact ⟨by decide, by decide⟩
  split at h
  · obtain rfl := Lead.opening.inj h
    exact Opening.isBeyondLineFeed_of_pos (by omega) _ _
  rename_i three
  have from_f0 : 0xF0 ≤ b.toNat := Nat.le_of_not_lt fun bad => three ((lt_iff _ _).mpr bad)
  split at h
  · obtain rfl := Lead.opening.inj h
    exact ⟨by decide, by decide⟩
  rename_i not_f0
  have ne_f0 : b.toNat ≠ 0xF0 := fun bad => not_f0 (UInt8.toNat_inj.mp bad)
  split at h
  · obtain rfl := Lead.opening.inj h
    exact Opening.isBeyondLineFeed_of_pos (by omega) _ _
  split at h
  · obtain rfl := Lead.opening.inj h
    exact ⟨by decide, by decide⟩
  · cases h

theorem ofNat_ne_lineFeed {n : Nat} (h : n ≠ 10) : Char.ofNat n ≠ '\n' :=
  ofNat_ne (by decide) h

theorem Lead.whole_ne_lineFeed {b : UInt8} {c : Char} (h : Lead.ofByte b = .whole c)
    (hb : b ≠ lineFeed) : c ≠ '\n' := by
  unfold Lead.ofByte at h
  split at h
  · cases h
    exact ofNat_ne_lineFeed fun bad => hb (UInt8.toNat_inj.mp bad)
  · repeat' split at h
    all_goals cases h

namespace Decoder

/-- The character that is open, if there is one, will be no line feed. -/
def IsSound (d : Decoder) : Prop :=
  ∀ o, d.opening = some o → o.IsBeyondLineFeed

theorem isSound_start (ps : List (Option Char)) (b : UInt8) : (start ps b).IsSound := by
  intro o ho
  unfold start at ho
  split at ho
  · cases ho
  · rename_i found
    cases ho
    exact Lead.isBeyondLineFeed found
  · cases ho

theorem isSound_feed {d : Decoder} (hd : d.IsSound) (b : UInt8) : (d.feed b).IsSound := by
  unfold feed
  split
  · exact isSound_start _ b
  · rename_i o open_
    have beyond := hd o open_
    split
    · rename_i range
      have low : o.low.toNat ≤ b.toNat := UInt8.le_iff_toNat_le.mp range.1
      have bound := beyond.2
      dsimp only
      split
      · intro p hp
        cases hp
      · intro p hp
        obtain rfl := Option.some.inj hp
        exact Opening.isBeyondLineFeed_of_pos (by omega) _ _
    · exact isSound_start _ b

theorem isSound_run {d : Decoder} (hd : d.IsSound) (bytes : List UInt8) :
    (bytes.foldl feed d).IsSound := by
  induction bytes generalizing d with
  | nil => exact hd
  | cons b bytes ih => exact ih (isSound_feed hd b)

/-- What has been read stays; only the open character bears on what follows. -/
theorem feed_pieces (o : Option Opening) (ps : List (Option Char)) (b : UInt8) :
    feed ⟨o, ps⟩ b = ⟨(feed ⟨o, []⟩ b).opening, (feed ⟨o, []⟩ b).pieces ++ ps⟩ := by
  have first (qs : List (Option Char)) :
      start (qs ++ ps) b = ⟨(start qs b).opening, (start qs b).pieces ++ ps⟩ := by
    unfold start
    cases Lead.ofByte b <;> rfl
  cases o with
  | none => exact first []
  | some o =>
    simp only [feed]
    split
    · split <;> rfl
    · exact first [none]

theorem run_pieces (o : Option Opening) (ps : List (Option Char)) (bytes : List UInt8) :
    bytes.foldl feed ⟨o, ps⟩ =
      ⟨(bytes.foldl feed ⟨o, []⟩).opening, (bytes.foldl feed ⟨o, []⟩).pieces ++ ps⟩ := by
  induction bytes generalizing o ps with
  | nil => rfl
  | cons b bytes ih =>
    simp only [List.foldl_cons]
    rw [feed_pieces, ih, ih (feed ⟨o, []⟩ b).opening (feed ⟨o, []⟩ b).pieces]
    simp

theorem finish_append (o : Option Opening) (qs ps : List (Option Char)) :
    finish ⟨o, qs ++ ps⟩ = ps.reverse ++ finish ⟨o, qs⟩ := by
  cases o <;> simp [finish]

/-- A line feed ends an open character as malformed and stands by itself. -/
theorem feed_lineFeed {d : Decoder} (hd : d.IsSound) :
    d.feed lineFeed = ⟨none, some '\n' :: d.finish.reverse⟩ := by
  obtain ⟨o, ps⟩ := d
  cases o with
  | none =>
    show start ps lineFeed = _
    rw [finish, List.reverse_reverse]
    rfl
  | some o =>
    have out := Opening.not_lineFeed_mem (hd o rfl)
    simp only [feed, if_neg out, finish, List.reverse_reverse]
    rfl

theorem finish_feed_ne_nil (d : Decoder) (b : UInt8) : (d.feed b).finish ≠ [] := by
  have first (ps : List (Option Char)) : (start ps b).finish ≠ [] := by
    unfold start
    cases Lead.ofByte b <;> simp [finish]
  unfold feed
  split
  · exact first _
  · split
    · dsimp only
      split <;> simp [finish]
    · exact first _

theorem lineFeed_not_mem_feed {d : Decoder} (hd : d.IsSound) {b : UInt8} (hb : b ≠ lineFeed)
    (clean : some '\n' ∉ d.pieces) : some '\n' ∉ (d.feed b).pieces := by
  have first (ps : List (Option Char)) (hp : some '\n' ∉ ps) :
      some '\n' ∉ (start ps b).pieces := by
    unfold start
    cases h : Lead.ofByte b with
    | whole c =>
      have hc : c ≠ '\n' := Lead.whole_ne_lineFeed h hb
      simpa [hp] using hc.symm
    | opening o => exact hp
    | malformed => simpa using hp
  unfold feed
  split
  · exact first _ clean
  · rename_i o isOpen
    have bound := (hd o isOpen).2
    split
    · rename_i range
      have low : o.low.toNat ≤ b.toNat := UInt8.le_iff_toNat_le.mp range.1
      dsimp only
      split
      · have hc : Char.ofNat (o.value * 64 + (b.toNat - 0x80)) ≠ '\n' :=
          ofNat_ne_lineFeed (by omega)
        simpa [clean] using hc.symm
      · exact clean
    · exact first _ (by simpa using clean)

theorem lineFeed_not_mem_run {d : Decoder} (hd : d.IsSound) {bytes : List UInt8}
    (hb : ∀ b ∈ bytes, b ≠ lineFeed) (clean : some '\n' ∉ d.pieces) :
    some '\n' ∉ (bytes.foldl feed d).finish := by
  induction bytes generalizing d with
  | nil =>
    obtain ⟨o, ps⟩ := d
    cases o <;> simpa [finish] using clean
  | cons b bytes ih =>
    have hc := lineFeed_not_mem_feed hd (hb b (by simp)) clean
    exact ih (isSound_feed hd b) (fun x hx => hb x (by simp [hx])) hc

end Decoder

theorem isSound_empty : Decoder.IsSound {} :=
  fun _ h => nomatch h

theorem pieces_append_lineFeed (bytes rest : List UInt8) :
    pieces (bytes ++ lineFeed :: rest) = pieces bytes ++ some '\n' :: pieces rest := by
  have sound := Decoder.isSound_run isSound_empty bytes
  simp only [pieces, List.foldl_append, List.foldl_cons]
  rw [Decoder.feed_lineFeed sound, Decoder.run_pieces, Decoder.finish_append]
  simp

theorem pieces_eq_nil {bytes : List UInt8} : pieces bytes = [] ↔ bytes = [] := by
  constructor
  · intro h
    rcases List.eq_nil_or_concat bytes with ne | ⟨front, b, whole⟩
    · exact ne
    · rw [whole, pieces, List.concat_eq_append, List.foldl_append] at h
      exact absurd h (Decoder.finish_feed_ne_nil _ b)
  · intro h
    rw [h]
    rfl

theorem decodeLossy_append_lineFeed (bytes rest : List UInt8) :
    decodeLossy (bytes ++ lineFeed :: rest) = decodeLossy bytes ++ '\n' :: decodeLossy rest := by
  simp [decodeLossy, pieces_append_lineFeed]

theorem lineFeed_not_mem_decodeLossy {bytes : List UInt8} (hb : ∀ b ∈ bytes, b ≠ lineFeed) :
    '\n' ∉ decodeLossy bytes := by
  have clean : some '\n' ∉ pieces bytes :=
    Decoder.lineFeed_not_mem_run isSound_empty hb (by simp)
  intro bad
  obtain ⟨piece, mem, eq⟩ := List.mem_map.mp bad
  cases piece with
  | none => exact absurd eq (by decide)
  | some c =>
    have hc : c = '\n' := eq
    exact clean (hc ▸ mem)

/-- Reading cuts where the bytes do: no malformed piece reaches across a line feed. -/
theorem cutAfter_decodeLossy (bytes : List UInt8) :
    cutAfter (· == '\n') (decodeLossy bytes) =
      (cutAfter (· == lineFeed) bytes).map decodeLossy := by
  apply cutAfter_translate
  · intro l
    rw [decodeLossy, List.map_eq_nil_iff, pieces_eq_nil]
  · intro l hl y hy
    have hb : ∀ b ∈ l, b ≠ lineFeed := fun b mem => by simpa using hl b mem
    have away := lineFeed_not_mem_decodeLossy hb
    have ne : y ≠ '\n' := fun bad => away (bad ▸ hy)
    simpa using ne
  · intro l a rest _ ha
    have end_ : a = lineFeed := by simpa using ha
    refine ⟨'\n', rfl, ?_, ?_⟩
    · rw [end_, decodeLossy_append_lineFeed]
      rfl
    · rw [end_, decodeLossy_append_lineFeed]

theorem lines_decodeLossy (bytes : List UInt8) :
    lines (decodeLossy bytes) = (cutAfter (· == lineFeed) bytes).map
      fun piece => String.ofList (dropTerminator (decodeLossy piece)) := by
  rw [lines, cutAfter_decodeLossy, List.map_map]
  rfl

end PartProgram.Text
