import PartProgram.Proofs.Controller.Effects

namespace PartProgram.Controller

/-- The controllers have done the same work and keep the same records. They may differ in when they
halt, in what they make of unknown codes and in who observes them. -/
structure SameWork (a b : Controller) : Prop where
  machine : a.machine = b.machine
  toolpath : a.toolpath = b.toolpath
  summary : a.summary = b.summary
  log : a.log = b.log
  keeps : a.keepsToolpath = b.keepsToolpath
  builds : a.settings.toolpath = b.settings.toolpath
  collects : a.settings.statistics = b.settings.statistics

theorem SameWork.refl (a : Controller) : a.SameWork a :=
  ⟨rfl, rfl, rfl, rfl, rfl, rfl, rfl⟩

variable {a b : Controller}

theorem SameWork.symm (h : a.SameWork b) : b.SameWork a :=
  ⟨h.machine.symm, h.toolpath.symm, h.summary.symm, h.log.symm, h.keeps.symm, h.builds.symm,
    h.collects.symm⟩

theorem SameWork.read (h : a.SameWork b) (rule : a.settings.strict = b.settings.strict)
    (text : String) (line : Nat) : a.read text line = b.read text line := by
  unfold Controller.read
  rw [h.machine, rule]

theorem SameWork.isHalted (h : a.SameWork b) (settings : a.settings = b.settings) :
    a.isHalted = b.isHalted := by
  unfold Controller.isHalted
  rw [settings, h.log]

theorem SameWork.openLine (h : a.SameWork b) {text : String} {line : Nat}
    (same : a.read text line = b.read text line) (k l : Nat) :
    (a.openLine text line k).SameWork (b.openLine text line l) where
  machine := by rw [openLine_machine, openLine_machine, h.machine]
  toolpath := by rw [openLine_toolpath, openLine_toolpath, h.toolpath]
  summary := by rw [openLine_summary, openLine_summary, same, h.summary]
  log := by rw [openLine_log, openLine_log, same, h.log]
  keeps := by rw [openLine_keepsToolpath, openLine_keepsToolpath, h.keeps]
  builds := by rw [openLine_settings, openLine_settings, h.builds]
  collects := by rw [openLine_settings, openLine_settings, h.collects]

theorem SameWork.execute (h : a.SameWork b) (i : Instruction) :
    (a.execute i).1.SameWork (b.execute i).1 := by
  have step : a.step i = b.step i := by rw [Controller.step, Controller.step, h.machine]
  have out : a.delivered i = b.delivered i := by
    rw [Controller.delivered, Controller.delivered, step, h.builds]
  constructor
  · rw [execute_machine, execute_machine, h.machine]
  · rw [execute_toolpath, execute_toolpath, h.keeps, h.toolpath, out]
  · rw [execute_summary, execute_summary, h.collects, h.summary, h.machine, step]
  · rw [execute_log, execute_log, h.log]
  · rw [execute_keepsToolpath, execute_keepsToolpath, h.keeps]
  · rw [execute_settings, execute_settings, h.builds]
  · rw [execute_settings, execute_settings, h.collects]

theorem SameWork.executeAll (h : a.SameWork b) (instructions : List Instruction) :
    (a.executeAll instructions).1.SameWork (b.executeAll instructions).1 :=
  executeAll_relation (fun _ _ i same => same.execute i) h instructions

theorem SameWork.runLine (h : a.SameWork b) {text : String} {line : Nat}
    (same : a.read text line = b.read text line) (k l : Nat) :
    (a.runLine text line k).1.SameWork (b.runLine text line l).1 := by
  rw [runLine_eq, runLine_eq, same]
  exact (h.openLine same k l).executeAll _

/-- How many lines are announced makes no difference to the work. -/
theorem SameWork.runLines (h : a.SameWork b) (settings : a.settings = b.settings) (k l : Nat)
    (lines : List (String × Nat)) : (a.runLines k lines).SameWork (b.runLines l lines) := by
  have both := runLines_relation (R := fun a b => a.SameWork b ∧ a.settings = b.settings)
    (fun same => same.1.isHalted same.2)
    (fun same text line => ⟨same.1.runLine (same.1.read (by rw [same.2]) text line) k l,
      by rw [runLine_settings, runLine_settings, same.2]⟩) ⟨h, settings⟩ lines
  exact both.1

end PartProgram.Controller
