import PartProgram.Proofs.Controller.LineStep
import PartProgram.Proofs.Number.Level
import PartProgram.Proofs.Summary.Account
import PartProgram.Proofs.Toolpath.Recall

namespace PartProgram

/-- A rate as it is listed. -/
structure IsRateKey (k : Float) : Prop where
  nonneg : 0.0 ≤ k
  unsigned : k ≠ -0.0

theorem isRateKey_rateKey {rate : Float} (nonneg : 0.0 ≤ rate) : IsRateKey (rateKey rate) := by
  rw [rateKey, Number.add_zero]
  by_cases negative : rate = -0.0
  · rw [if_pos negative]
    exact ⟨by decide, by decide⟩
  · rw [if_neg negative]
    exact ⟨nonneg, negative⟩

/-- Of the values that are at least zero only −0 is out of place. -/
theorem IsRateKey.level {k : Float} (h : IsRateKey k) : Number.level k = Number.place k := by
  have zero : Number.level 0.0 = 0 := by decide
  have above : 0 ≤ Number.level k := by
    rw [← zero]
    exact (Number.le_iff_level.mp h.nonneg).2.2
  rw [Number.level] at above ⊢
  by_cases below : Number.place k < 0
  · rw [if_pos below] at above
    have last : Number.place k = Number.place (-0.0) := by
      have place : Number.place (-0.0) = -1 := by decide
      omega
    exact absurd (Number.place_injective last) h.unsigned
  · rw [if_neg below]

theorem IsRateKey.lt_of_rank {j k : Float} (hj : IsRateKey j) (hk : IsRateKey k)
    (before : Ranked.rank j < Ranked.rank k) : j < k := by
  have levels : Number.level j < Number.level k := by
    rw [hj.level, hk.level]
    exact before
  exact Number.lt_iff_level.mpr ⟨(Number.isNumber_of_nonneg hj.nonneg).1,
    (Number.isNumber_of_nonneg hk.nonneg).1, levels⟩

namespace Table

variable {κ α : Type} [Ranked κ]

theorem pairwise_keys (t : Table κ α) : t.keys.Pairwise (Ranked.rank · < Ranked.rank ·) :=
  List.pairwise_map.mpr t.ascending

theorem length_alterList (k : κ) (f : Option α → α) (l : List (κ × α)) :
    (alterList k f l).length ≤ l.length + 1 := by
  induction l with
  | nil => exact Nat.le_refl _
  | cons e l ih =>
    rw [alterList]
    split
    · exact Nat.le_refl _
    · split
      · exact Nat.le_succ _
      · exact Nat.succ_le_succ ih

theorem mem_keys_insert {t : Table κ α} {k j : κ} {a : α} :
    j ∈ (t.insert k a).keys ↔ j = k ∨ j ∈ t.keys :=
  mem_keys_alter

theorem length_keys_insert (t : Table κ α) (k : κ) (a : α) :
    (t.insert k a).keys.length ≤ t.keys.length + 1 := by
  rw [keys, keys, List.length_map, List.length_map]
  exact length_alterList k _ t.entries

end Table

/-- Keys of a table of rates: at least zero, numbers, never −0, and in ascending order. -/
structure AreRates (keys : List Float) : Prop where
  nonneg : ∀ k ∈ keys, 0.0 ≤ k
  number : ∀ k ∈ keys, k.isNaN = false
  unsigned : ∀ k ∈ keys, k ≠ -0.0
  ascending : keys.Pairwise (· < ·)

theorem areRates_keys {t : Table Float Float} (rates : ∀ k ∈ t.keys, IsRateKey k) :
    AreRates t.keys where
  nonneg k mem := (rates k mem).nonneg
  number k mem := (Number.isNumber_of_nonneg (rates k mem).nonneg).1
  unsigned k mem := (rates k mem).unsigned
  ascending := t.pairwise_keys.imp_of_mem fun left right =>
    (rates _ left).lt_of_rank (rates _ right)

/-- Rates are tallied under rate keys if they are all at least zero. -/
theorem Table.Tallies.areRates {t : Table Float Float} {rate amount : Segment → Float}
    {listed : List Float} {segments : List Segment} (h : t.Tallies rate amount listed segments)
    (list : ∀ r ∈ listed, 0.0 ≤ r) (spent : ∀ g ∈ segments, 0.0 ≤ rate g) : AreRates t.keys := by
  apply areRates_keys
  intro k mem
  rcases (h.keys k).mp mem with ⟨r, here, rfl⟩ | ⟨g, here, rfl⟩
  · exact isRateKey_rateKey (list r here)
  · exact isRateKey_rateKey (spent g here)

namespace Summary

/-- The tools put in and the number of tool changes. -/
def changes (s : Summary) : Table Int Unit × Nat :=
  (s.tools, s.toolChanges)

/-- The tools listed are those that tool changes of the history put in, and each change adds one at
most. -/
structure ListsTools (s : Summary) (history : List Instruction) : Prop where
  keys : ∀ tool, tool ∈ s.tools.keys ↔ ∃ i ∈ history, i.changedTool? = some tool
  bound : s.tools.keys.length ≤ s.toolChanges

variable {s : Summary} {history : List Instruction}

theorem listsTools_empty : ListsTools {} [] where
  keys tool := by simp [Table.keys, Table.empty]
  bound := Nat.le_refl _

theorem ListsTools.congr {t : Summary} (h : s.ListsTools history) (same : t.changes = s.changes) :
    t.ListsTools history := by
  obtain ⟨tools, count⟩ := Prod.ext_iff.mp same
  have tools : t.tools = s.tools := tools
  have count : t.toolChanges = s.toolChanges := count
  constructor
  · rw [tools]
    exact h.keys
  · rw [tools, count]
    exact h.bound

theorem changes_listFeed (s : Summary) (word : Option Float) :
    (s.listFeed word).changes = s.changes := by
  rw [listFeed]
  split <;> rfl

theorem changes_addSegment (s : Summary) (g : Segment) : (s.addSegment g).changes = s.changes := by
  unfold addSegment
  dsimp only
  split <;> rfl

theorem changes_record (s : Summary) (i : Instruction) (m : Machine) (segment : Option Segment) :
    (s.record i m segment).changes = (s.countOperation i).changes := by
  rw [record_view Summary.changes changes_listFeed changes_addSegment]
  split <;> rfl

theorem ListsTools.countOperation (h : s.ListsTools history) (i : Instruction) :
    (s.countOperation i).ListsTools (history ++ [i]) := by
  have last (tool : Int) : (∃ j ∈ history ++ [i], j.changedTool? = some tool) ↔
      tool ∈ s.tools.keys ∨ i.changedTool? = some tool := by
    rw [h.keys]
    simp [or_and_right, exists_or]
  by_cases change : i.operation = .toolChange
  · have named : i.changedTool? = toolNumber i.tool := by
      rw [Instruction.changedTool?, change, toolNumber]
    rw [Summary.countOperation, change]
    cases put : toolNumber i.tool with
    | none =>
      refine ⟨fun tool => ?_, Nat.le_succ_of_le h.bound⟩
      rw [last, named, put]
      simp
    | some t =>
      constructor
      · intro tool
        rw [last, named, put, Table.mem_keys_insert, Option.some.injEq, eq_comm (a := t), or_comm]
      · exact Nat.le_trans (Table.length_keys_insert _ _ _) (Nat.succ_le_succ h.bound)
  · have none : i.changedTool? = none := by
      rw [Instruction.changedTool?]
      split
      · next other => exact absurd other change
      · rfl
    have same : (s.countOperation i).changes = s.changes := by
      rw [Summary.countOperation]
      cases operation : i.operation with
      | toolChange => exact absurd operation change
      | move motion => cases motion <;> rfl
      | _ => rfl
    refine ListsTools.congr ⟨fun tool => ?_, h.bound⟩ same
    rw [last, none]
    simp

/-- The summary knows the tool and the feed rate of the machine, and its rates are in order. -/
structure KeepsPace (s : Summary) (m : Machine) (history : List Instruction) : Prop where
  tools : ∀ tool, tool ∈ s.tools.keys ↔
    ∃ i ∈ history, i.operation = .toolChange ∧ i.tool = some tool ∧ 0 ≤ tool
  tool : m.tool = 0 ∨ m.tool ∈ s.tools.keys
  changes : s.tools.keys.length ≤ s.toolChanges
  feed : (m.feed == 0.0) = true ∨ rateKey m.feed ∈ s.feeds.keys
  feeds : AreRates s.feeds.keys
  speeds : AreRates s.speeds.keys

end Summary

theorem Instruction.changedTool?_eq_some {i : Instruction} {tool : Int} :
    i.changedTool? = some tool ↔ i.operation = .toolChange ∧ i.tool = some tool ∧ 0 ≤ tool := by
  have named : i.tool.filter (0 ≤ ·) = some tool ↔ i.tool = some tool ∧ 0 ≤ tool := by
    rw [Option.filter_eq_some_iff, decide_eq_true_iff]
  rw [changedTool?, ← named]
  cases i.operation <;> simp

namespace Machine.Linked

variable {m : Machine} {trace : List Step} (linked : Linked {} trace m)

include linked

/-- Each segment of a run is cut at rates that are at least zero. -/
theorem rates_of_segment {g : Segment} (mem : g ∈ trace.filterMap (·.segment?)) :
    0.0 ≤ g.feed ∧ 0.0 ≤ g.speed := by
  obtain ⟨s, here, segment⟩ := List.mem_filterMap.mp mem
  obtain ⟨front, rest, split⟩ := List.append_of_mem here
  rw [split] at linked
  have remembers := (remembers_fresh.linked linked.around.1).apply s.instruction
  obtain ⟨feed, speed, -⟩ := Step.segment?_modal segment
  rw [feed, speed]
  exact ⟨(remembers.rates _ (by simp [rates, Step.after])).1,
    (remembers.rates _ (by simp [rates, Step.after])).1⟩

/-- A summary that accounts for a run knows the tool and the feed rate at its end. -/
theorem keepsPace {s : Summary}
    (accounts : s.AccountsFor (trace.filterMap (·.segment?)) (trace.map (·.instruction)))
    (tools : s.ListsTools (trace.map (·.instruction))) :
    s.KeepsPace m (trace.map (·.instruction)) := by
  have remembers := remembers_fresh.linked linked
  rw [List.nil_append] at remembers
  constructor
  · intro tool
    simp only [tools.keys, Instruction.changedTool?_eq_some]
  · rw [remembers.tool]
    cases last : latest (·.changedTool?) (trace.map (·.instruction)) with
    | none => exact .inl rfl
    | some tool => exact .inr ((tools.keys tool).mpr (exists_of_latest last))
  · exact tools.bound
  · rw [remembers.feed]
    cases last : latest (fun i => i.feed.filter (0.0 ≤ ·)) (trace.map (·.instruction)) with
    | none => exact .inl (by decide)
    | some rate =>
      have listed := List.mem_filterMap.mpr (exists_of_latest last)
      exact .inr ((accounts.feeds.keys _).mpr (.inl ⟨rate, listed, rfl⟩))
  · apply accounts.feeds.areRates
    · intro rate listed
      obtain ⟨i, -, given⟩ := List.mem_filterMap.mp listed
      exact nonneg_of_filter given
    · intro g mem
      exact (linked.rates_of_segment (List.mem_filter.mp mem |>.1)).1
  · apply accounts.speeds.areRates
    · simp
    · intro g mem
      exact (linked.rates_of_segment (List.mem_filter.mp mem |>.1)).2

end Machine.Linked

/-- The summary never lags the machine. If it is collected, then after each line that a run carries
out it lists the tools of the tool changes so far and nothing else, the tool of the machine among
them unless it is the first, and no more tools than there were changes; it lists the feed rate in
force unless that is zero; and its feed rates and spindle speeds are numbers, at least zero, never
−0, and in ascending order. -/
theorem summary_keeps_pace (c : Controller) (collects : c.settings.statistics = true)
    (text : List Char) :
    ∃ last, c.HaltsAfter text last ∧ c.runText text = c.afterLines text last ∧
      ∀ n ≤ last, (c.afterLines text n).summary.KeepsPace (c.afterLines text n).machine
        ((c.lineSteps text n).flatMap (·.block.instructions)) := by
  obtain ⟨last, halts, run⟩ := c.exists_haltsAfter text
  refine ⟨last, halts, run, ?_⟩
  intro n le
  have bound := Nat.le_trans le halts.bound
  have kept := Controller.afterLines_steps_induction (c := c)
    (P := fun d trace =>
      d.summary.AccountsFor (trace.filterMap (·.segment?)) (trace.map (·.instruction)) ∧
        d.summary.ListsTools (trace.map (·.instruction)))
    (by
      intro d trace text n total ⟨accounts, tools⟩
      rw [Controller.openLine_summary]
      refine ⟨accounts.countLine _, tools.congr ?_⟩
      rw [Summary.countLine_eq]
      rfl)
    (by
      intro d trace i settings ⟨accounts, tools⟩
      rw [Controller.execute_summary, settings, if_pos collects, Step.segments_snoc,
        List.map_append]
      exact ⟨accounts.record (d.step i),
        (tools.countOperation i).congr (Summary.changes_record _ _ _ _)⟩)
    ⟨Summary.accountsFor_empty, Summary.listsTools_empty⟩ text bound
  rw [← c.lineSteps_instructions text n]
  exact (c.linked_afterLines text bound).keepsPace kept.1 kept.2

/-- A rate of −0, a tool that is put in twice and one that is refused. -/
def tooledProgram : List Char :=
  "M6 T9 F-0\nM3 S5 G1 X1\nM6 T2\nM6 T-4\nM6 T9 F3\nX2".toList

theorem tooledProgram_keeps_pace :
    (({} : Controller).runText tooledProgram).summary.tools.keys = [2, 9] ∧
    (({} : Controller).runText tooledProgram).summary.toolChanges = 4 ∧
    (({} : Controller).runText tooledProgram).summary.feeds.keys = [0.0, 3.0] ∧
    (({} : Controller).runText tooledProgram).summary.KeepsPace
      (({} : Controller).runText tooledProgram).machine
      (({} : Controller).history tooledProgram) := by
  obtain ⟨last, halts, run, keeps⟩ := summary_keeps_pace {} rfl tooledProgram
  have pace := keeps last (Nat.le_refl last)
  rw [← run, ← halts.history] at pace
  exact ⟨by decide +kernel, by decide +kernel, by decide +kernel, pace⟩

end PartProgram
