import PartProgram.Text.Line

namespace PartProgram.Text

variable {α β : Type}

theorem cutAfter.go_append (ends : α → Bool) (l : List α) (hl : ∀ x ∈ l, ends x = false)
    (piece : List α) (cut : List (List α)) (rest : List α) :
    cutAfter.go ends piece cut (l ++ rest) = cutAfter.go ends (l.reverse ++ piece) cut rest := by
  induction l generalizing piece with
  | nil => rfl
  | cons a l ih =>
    have ha : ends a = false := hl a (by simp)
    have tail := ih (fun x hx => hl x (by simp [hx])) (a :: piece)
    simpa [cutAfter.go, ha] using tail

theorem cutAfter.go_cut (ends : α → Bool) (l piece : List α) (cut : List (List α)) :
    cutAfter.go ends piece cut l = cut.reverse ++ cutAfter.go ends piece [] l := by
  induction l generalizing piece cut with
  | nil => cases piece <;> simp [cutAfter.go]
  | cons a l ih =>
    cases h : ends a with
    | true =>
      simp only [cutAfter.go, h, if_true]
      rw [ih [] ((a :: piece).reverse :: cut), ih [] [(a :: piece).reverse]]
      simp
    | false => simpa [cutAfter.go, h] using ih (a :: piece) cut

theorem cutAfter_endless (ends : α → Bool) {l : List α} (hl : ∀ x ∈ l, ends x = false)
    (ne : l ≠ []) : cutAfter ends l = [l] := by
  have h := cutAfter.go_append ends l hl [] [] []
  rw [List.append_nil, List.append_nil] at h
  rw [cutAfter, h]
  simp [cutAfter.go, ne]

theorem cutAfter_append_cons (ends : α → Bool) {l : List α} (hl : ∀ x ∈ l, ends x = false)
    {a : α} (ha : ends a = true) (rest : List α) :
    cutAfter ends (l ++ a :: rest) = (l ++ [a]) :: cutAfter ends rest := by
  rw [cutAfter, cutAfter.go_append ends l hl]
  simp only [cutAfter.go, ha, if_true]
  rw [cutAfter.go_cut]
  simp [cutAfter]

/-- Induction on the number of ends: a list has none, or it goes on after its first. -/
theorem cut_induction (ends : α → Bool) {P : List α → Prop}
    (endless : ∀ l, (∀ x ∈ l, ends x = false) → P l)
    (more : ∀ l a rest, (∀ x ∈ l, ends x = false) → ends a = true → P rest → P (l ++ a :: rest))
    (l : List α) : P l := by
  -- `seen` is what the walk has passed since the last end
  suffices walk : ∀ (rest seen : List α), (∀ x ∈ seen, ends x = false) → P (seen ++ rest) from
    walk l [] (by simp)
  intro rest
  induction rest with
  | nil =>
    intro seen hs
    rw [List.append_nil]
    exact endless seen hs
  | cons a rest ih =>
    intro seen hs
    cases h : ends a with
    | true => exact more seen a rest hs h (ih [] (by simp))
    | false =>
      have step := ih (seen ++ [a]) (by
        intro x hx
        rcases List.mem_append.mp hx with hx | hx
        · exact hs x hx
        · rw [List.mem_singleton.mp hx]
          exact h)
      simpa using step

section closed

variable (ends : α → Bool) {l : List α} (closed : l = [] ∨ ∃ a ∈ l.getLast?, ends a = true)

include closed

/-- Induction on the number of ends of a list that ends with one or is empty. -/
theorem closed_induction {P : List α → Prop} (nil : P [])
    (more : ∀ l a rest, (∀ x ∈ l, ends x = false) → ends a = true → P rest →
      P (l ++ a :: rest)) : P l := by
  induction l using cut_induction ends with
  | endless l hl =>
    rcases closed with rfl | ⟨a, last, ha⟩
    · exact nil
    · rw [hl a (List.mem_of_getLast? last)] at ha
      cases ha
  | more l a rest hl ha ih =>
    have tail : rest = [] ∨ ∃ b ∈ rest.getLast?, ends b = true := by
      cases rest with
      | nil => exact .inl rfl
      | cons b rest => simpa using closed
    exact more l a rest hl ha (ih tail)

/-- What is joined to such a list is cut on its own. -/
theorem cutAfter_append (m : List α) :
    cutAfter ends (l ++ m) = cutAfter ends l ++ cutAfter ends m := by
  refine closed_induction ends closed (P := fun l =>
    cutAfter ends (l ++ m) = cutAfter ends l ++ cutAfter ends m) rfl ?_
  intro l a rest hl ha ih
  rw [List.append_assoc, List.cons_append, cutAfter_append_cons ends hl ha,
    cutAfter_append_cons ends hl ha, ih, List.cons_append]

/-- Its pieces end with an end. -/
theorem getLast?_of_mem_cutAfter :
    ∀ piece ∈ cutAfter ends l, ∃ a ∈ piece.getLast?, ends a = true := by
  refine closed_induction ends closed (P := fun l =>
    ∀ piece ∈ cutAfter ends l, ∃ a ∈ piece.getLast?, ends a = true) (List.forall_mem_nil _) ?_
  intro l a rest hl ha ih piece mem
  rw [cutAfter_append_cons ends hl ha] at mem
  rcases List.mem_cons.mp mem with rfl | later
  · exact ⟨a, List.getLast?_concat .., ha⟩
  · exact ih piece later

/-- There is a piece for each end. -/
theorem length_cutAfter : (cutAfter ends l).length = l.countP ends := by
  refine closed_induction ends closed (P := fun l =>
    (cutAfter ends l).length = l.countP ends) rfl ?_
  intro l a rest hl ha ih
  have none : l.countP ends = 0 := List.countP_eq_zero.mpr fun x mem => by simp [hl x mem]
  rw [cutAfter_append_cons ends hl ha, List.length_cons, ih, List.countP_append,
    List.countP_cons_of_pos ha, none, Nat.zero_add]

end closed

theorem lines_append {u : List Char} (closed : u = [] ∨ u.getLast? = some '\n') (v : List Char) :
    lines (u ++ v) = lines u ++ lines v := by
  have ends : u = [] ∨ ∃ c ∈ u.getLast?, (c == '\n') = true := by
    rcases closed with empty | last
    · exact .inl empty
    · exact .inr ⟨'\n', last, rfl⟩
  rw [lines, cutAfter_append _ ends, List.map_append]
  rfl

/-- A translation that takes a list apart at each end cuts into the translations of the pieces. -/
theorem cutAfter_translate {ends : α → Bool} {ends' : β → Bool} {f : List α → List β}
    (empty : ∀ {l}, f l = [] ↔ l = [])
    (quiet : ∀ {l}, (∀ x ∈ l, ends x = false) → ∀ y ∈ f l, ends' y = false)
    (split : ∀ {l a} (rest), (∀ x ∈ l, ends x = false) → ends a = true →
      ∃ b, ends' b = true ∧ f (l ++ [a]) = f l ++ [b] ∧ f (l ++ a :: rest) = f l ++ b :: f rest)
    (l : List α) : cutAfter ends' (f l) = (cutAfter ends l).map f := by
  induction l using cut_induction ends with
  | endless l hl =>
    by_cases ne : l = []
    · have none : f [] = [] := empty.mpr rfl
      rw [ne, none]
      rfl
    · have ne' : f l ≠ [] := fun h => ne (empty.mp h)
      rw [cutAfter_endless ends hl ne, cutAfter_endless ends' (quiet hl) ne']
      rfl
  | more l a rest hl ha ih =>
    obtain ⟨b, hb, last, whole⟩ := split rest hl ha
    rw [cutAfter_append_cons ends hl ha, List.map_cons, whole, last,
      cutAfter_append_cons ends' (quiet hl) hb, ih]

end PartProgram.Text
