import PartProgram.Summary

namespace PartProgram

variable {rate amount : Segment → Float}

/-- Adds up an amount of segments from the left. -/
def total (amount : Segment → Float) (segments : List Segment) : Float :=
  segments.foldl (fun sum g => sum + amount g) 0.0

theorem total_append (front rest : List Segment) : total amount (front ++ rest) =
    rest.foldl (fun sum g => sum + amount g) (total amount front) :=
  List.foldl_append

/-- The table tells what the segments spend at each rate, and lists some further rates. -/
structure Table.Tallies (t : Table Float Float) (rate amount : Segment → Float)
    (listed : List Float) (segments : List Segment) : Prop where
  keys : ∀ k, k ∈ t.keys ↔
    (∃ r ∈ listed, k = rateKey r) ∨ ∃ g ∈ segments, k = rateKey (rate g)
  totals : ∀ k spent, t.get? k = some spent →
    spent = total amount (segments.filter fun g => k = rateKey (rate g))

namespace Table.Tallies

variable {t : Table Float Float} {listed : List Float} {segments : List Segment}

theorem empty : Tallies .empty rate amount [] [] where
  keys k := by simp [Table.keys, Table.empty]
  totals k spent h := by simp at h

/-- Where nothing is listed nothing was spent, so the value of a key is the total in any case. -/
theorem getD (h : t.Tallies rate amount listed segments) (k : Float) :
    (t.get? k).getD 0.0 = total amount (segments.filter fun g => k = rateKey (rate g)) := by
  cases found : t.get? k with
  | some spent => exact h.totals k spent found
  | none =>
    -- a segment at this key would have listed it
    have absent : k ∉ t.keys := by simp [Table.mem_keys, found]
    have none : segments.filter (fun g => k = rateKey (rate g)) = [] := by
      rw [List.filter_eq_nil_iff]
      intro g mem same
      exact absent ((h.keys k).mpr (.inr ⟨g, mem, of_decide_eq_true same⟩))
    rw [none]
    rfl

theorem list (h : t.Tallies rate amount listed segments) (r : Float) :
    (t.alter (rateKey r) (·.getD 0.0)).Tallies rate amount (listed ++ [r]) segments where
  keys k := by
    rw [Table.mem_keys_alter, h.keys]
    simp only [List.mem_append, List.mem_singleton, or_and_right, exists_or, exists_eq_left]
    constructor
    · rintro (key | listed | spent)
      · exact .inl (.inr key)
      · exact .inl (.inl listed)
      · exact .inr spent
    · rintro ((listed | key) | spent)
      · exact .inr (.inl listed)
      · exact .inl key
      · exact .inr (.inr spent)
  totals k spent found := by
    rw [Table.get?_alter] at found
    split at found
    · rename_i same
      rw [← Option.some.inj found, h.getD, Ranked.rank_injective same]
    · exact h.totals k spent found

theorem spend (h : t.Tallies rate amount listed segments) (g : Segment) :
    (Summary.spend t (rate g) (amount g)).Tallies rate amount listed (segments ++ [g]) where
  keys k := by
    rw [Summary.spend, Table.mem_keys_alter, h.keys]
    simp only [List.mem_append, List.mem_singleton, or_and_right, exists_or, exists_eq_left]
    constructor
    · rintro (key | listed | spent)
      · exact .inr (.inr key)
      · exact .inl listed
      · exact .inr (.inl spent)
    · rintro (listed | spent | key)
      · exact .inr (.inl listed)
      · exact .inr (.inr spent)
      · exact .inl key
  totals k spent found := by
    rw [Summary.spend, Table.get?_alter] at found
    rw [List.filter_append, total_append]
    split at found
    · rename_i same
      rw [← Option.some.inj found, h.getD, Ranked.rank_injective same]
      simp
    · rename_i other
      have other : ¬k = rateKey (rate g) := fun same => other (by rw [same])
      simpa [other] using h.totals k spent found

end Table.Tallies

end PartProgram
