namespace PartProgram

/-- Keys ordered by an integer rank that tells them apart. -/
class Ranked (κ : Type) where
  rank : κ → Int
  rank_injective : ∀ {a b : κ}, rank a = rank b → a = b

instance : Ranked Int := ⟨id, id⟩

instance : Ranked Char :=
  ⟨fun c => c.toNat, fun h => Char.ext (UInt32.toNat_inj.mp (Int.ofNat_inj.mp h))⟩

open Ranked

variable {κ α : Type} [Ranked κ]

/-- Each key comes before all later ones. -/
def Ascending (l : List (κ × α)) : Prop :=
  l.Pairwise fun a b => rank a.1 < rank b.1

instance (l : List (κ × α)) : Decidable (Ascending l) :=
  inferInstanceAs (Decidable (List.Pairwise _ _))

/-- Values by key. -/
structure Table (κ α : Type) [Ranked κ] where
  entries : List (κ × α)
  ascending : Ascending entries

namespace Table

/-- Gives a key the value that `f` makes of the one it has. -/
def alterList (k : κ) (f : Option α → α) : List (κ × α) → List (κ × α)
  | [] => [(k, f none)]
  | (j, a) :: rest =>
    if rank k < rank j then (k, f none) :: (j, a) :: rest
    else if rank k = rank j then (j, f (some a)) :: rest
    else (j, a) :: alterList k f rest

theorem rank_mem_alterList {k : κ} {f : Option α → α} {l : List (κ × α)} {e : κ × α}
    (h : e ∈ alterList k f l) : rank e.1 = rank k ∨ ∃ b ∈ l, rank e.1 = rank b.1 := by
  induction l with
  | nil => simp_all [alterList]
  | cons b l ih =>
    simp only [alterList] at h
    split at h
    · rcases List.mem_cons.mp h with rfl | h
      · exact .inl rfl
      · exact .inr ⟨e, h, rfl⟩
    · split at h
      · rcases List.mem_cons.mp h with rfl | h
        · exact .inr ⟨b, List.mem_cons_self .., rfl⟩
        · exact .inr ⟨e, List.mem_cons_of_mem _ h, rfl⟩
      · rcases List.mem_cons.mp h with rfl | h
        · exact .inr ⟨_, List.mem_cons_self .., rfl⟩
        · rcases ih h with h | ⟨c, mem, h⟩
          · exact .inl h
          · exact .inr ⟨c, List.mem_cons_of_mem _ mem, h⟩

theorem ascending_alterList (k : κ) (f : Option α → α) {l : List (κ × α)} (h : Ascending l) :
    Ascending (alterList k f l) := by
  induction l with
  | nil => simp [alterList, Ascending]
  | cons b l ih =>
    obtain ⟨first, rest⟩ := List.pairwise_cons.mp h
    simp only [alterList]
    split
    · refine List.pairwise_cons.mpr ⟨fun e mem => ?_, h⟩
      rcases List.mem_cons.mp mem with rfl | mem
      · assumption
      · have := first e mem
        simp only at this ⊢
        omega
    · split
      · exact List.pairwise_cons.mpr ⟨first, rest⟩
      · refine List.pairwise_cons.mpr ⟨fun e mem => ?_, ih rest⟩
        rcases rank_mem_alterList mem with h | ⟨c, mem, h⟩
        · simp only at h ⊢
          omega
        · have := first c mem
          simp only at h this ⊢
          omega

def empty : Table κ α :=
  ⟨[], List.Pairwise.nil⟩

instance : Inhabited (Table κ α) := ⟨empty⟩

def alter (t : Table κ α) (k : κ) (f : Option α → α) : Table κ α :=
  ⟨alterList k f t.entries, ascending_alterList k f t.ascending⟩

def insert (t : Table κ α) (k : κ) (a : α) : Table κ α :=
  t.alter k fun _ => a

/-- A later entry replaces an earlier one with its key. -/
def ofList (l : List (κ × α)) : Table κ α :=
  l.foldl (fun t e => t.insert e.1 e.2) empty

def find (k : κ) : List (κ × α) → Option α
  | [] => none
  | e :: rest => if rank k = rank e.1 then some e.2 else find k rest

def get? (t : Table κ α) (k : κ) : Option α :=
  find k t.entries

def contains (t : Table κ α) (k : κ) : Bool :=
  (t.get? k).isSome

def keys (t : Table κ α) : List κ :=
  t.entries.map (·.1)

def isEmpty (t : Table κ α) : Bool :=
  t.entries.isEmpty

@[simp] theorem get?_empty (k : κ) : (empty : Table κ α).get? k = none := rfl

theorem find_eq_none {k : κ} {l : List (κ × α)} (h : ∀ e ∈ l, rank k < rank e.1) :
    find k l = none := by
  induction l with
  | nil => rfl
  | cons e l ih =>
    have first := h e (List.mem_cons_self ..)
    rw [find, if_neg (by omega), ih fun e mem => h e (List.mem_cons_of_mem _ mem)]

theorem find_alterList (k j : κ) (f : Option α → α) {l : List (κ × α)} (h : Ascending l) :
    find j (alterList k f l) = if rank j = rank k then some (f (find k l)) else find j l := by
  induction l with
  | nil => simp [alterList, find]
  | cons e l ih =>
    obtain ⟨first, rest⟩ := List.pairwise_cons.mp h
    have ih := ih rest
    simp only [alterList]
    split
    next before =>
      have absent : find k l = none := find_eq_none fun b mem => by have := first b mem; omega
      have other : rank k ≠ rank e.1 := by omega
      by_cases same : rank j = rank k <;> simp [find, same, absent, other]
    next =>
      split
      next => by_cases same : rank j = rank k <;> simp_all [find]
      next =>
        by_cases same : rank j = rank k <;> by_cases here : rank j = rank e.1 <;>
          simp_all [find]

theorem get?_alter (t : Table κ α) (k j : κ) (f : Option α → α) :
    (t.alter k f).get? j = if rank j = rank k then some (f (t.get? k)) else t.get? j :=
  find_alterList k j f t.ascending

theorem get?_insert (t : Table κ α) (k j : κ) (a : α) :
    (t.insert k a).get? j = if rank j = rank k then some a else t.get? j :=
  t.get?_alter k j fun _ => a

theorem mem_keys {t : Table κ α} {k : κ} : k ∈ t.keys ↔ ∃ a, t.get? k = some a := by
  unfold keys get?
  induction t.entries with
  | nil => simp [find]
  | cons e rest ih =>
    have same : rank k = rank e.1 ↔ k = e.1 := ⟨rank_injective, fun h => by rw [h]⟩
    rw [List.map_cons, List.mem_cons, ih]
    by_cases h : k = e.1 <;> simp [find, same, h]

theorem mem_keys_alter {t : Table κ α} {k j : κ} {f : Option α → α} :
    j ∈ (t.alter k f).keys ↔ j = k ∨ j ∈ t.keys := by
  have same : rank j = rank k ↔ j = k := ⟨rank_injective, fun h => by rw [h]⟩
  rw [mem_keys, mem_keys, get?_alter]
  by_cases h : j = k <;> simp [same, h]

end Table

end PartProgram
