import Mathlib.Logic.Function.Iterate
import PartProgram.Proofs.Controller.Course
import PartProgram.Proofs.Stream.Draining

namespace PartProgram

/-- What can be done with a controller. -/
inductive Use where
  | run (text : List Char)
  | runFile (path : String) (content : Option (List UInt8))
  | check (text : String) (line : Nat)
  | reset
  | configure (settings : Settings)
  | observe (observer : Option Observer)

namespace Controller

def perform (c : Controller) : Use → Controller
  | .run text => c.runText text
  | .runFile path content => (c.runFile path content).1
  | .check text line => (c.check text line).2
  | .reset => c.reset
  | .configure settings => { c with settings }
  | .observe observer => { c with observer }

def performAll (c : Controller) (uses : List Use) : Controller :=
  uses.foldl perform c

theorem check_keepsToolpath (c : Controller) (text : String) (line : Nat) :
    (c.check text line).2.keepsToolpath = c.keepsToolpath := by
  obtain ⟨o, h⟩ := c.reportAll_eq text line (c.read text line).faults
  have checked : (c.check text line).2 = c.reportAll text line (c.read text line).faults := rfl
  rw [checked, h]

/-- Whether the toolpath is kept is settled when the controller is made. -/
theorem perform_keepsToolpath (c : Controller) (use : Use) :
    (c.perform use).keepsToolpath = c.keepsToolpath := by
  cases use with
  | run text => exact c.runText_keepsToolpath text
  | runFile path content =>
    cases content with
    | some bytes => exact c.runText_keepsToolpath (Text.decodeLossy bytes)
    | none => rfl
  | check text line => exact c.check_keepsToolpath text line
  | reset => rfl
  | configure settings => rfl
  | observe observer => rfl

theorem performAll_keepsToolpath (c : Controller) (uses : List Use) :
    (c.performAll uses).keepsToolpath = c.keepsToolpath := by
  induction uses generalizing c with
  | nil => rfl
  | cons use uses ih =>
    have first := c.perform_keepsToolpath use
    have later := ih (c.perform use)
    rw [first] at later
    exact later

end Controller

namespace Stream

theorem takeLine_keepsToolpath (s : Stream) (bytes : List UInt8) (rest : List (List UInt8)) :
    (s.takeLine bytes rest).controller.keepsToolpath = s.controller.keepsToolpath := by
  rw [takeLine_controller, Controller.runLine_keepsToolpath]

theorem finish_keepsToolpath (s : Stream) :
    s.finish.controller.keepsToolpath = s.controller.keepsToolpath := by
  unfold finish
  split <;> rfl

theorem advance_keepsToolpath (s : Stream) (lines : List (List UInt8)) :
    (s.advance lines).controller.keepsToolpath = s.controller.keepsToolpath := by
  induction lines generalizing s with
  | nil =>
    unfold advance
    split
    · rfl
    · exact s.finish_keepsToolpath
  | cons bytes rest ih =>
    have taken := s.takeLine_keepsToolpath bytes rest
    unfold advance
    split
    · rfl
    · dsimp only
      split
      · rw [ih, taken]
      · exact taken

theorem next_keepsToolpath (s : Stream) :
    s.next.2.controller.keepsToolpath = s.controller.keepsToolpath := by
  have advanced := s.advance_keepsToolpath s.source.lines
  cases waiting : s.pending with
  | nil =>
    cases found : (s.advance s.source.lines).pending <;> simp [next, waiting, found, advanced]
  | cons g rest => simp [next, waiting]

/-- The stream after so many segments were asked for. -/
def afterNext (s : Stream) (n : Nat) : Stream :=
  (fun s : Stream => s.next.2)^[n] s

theorem afterNext_keepsToolpath (s : Stream) (n : Nat) :
    (s.afterNext n).controller.keepsToolpath = s.controller.keepsToolpath := by
  induction n with
  | zero => rfl
  | succ n ih =>
    have last : s.afterNext (n + 1) = (s.afterNext n).next.2 := Function.iterate_succ_apply' _ n s
    rw [last, next_keepsToolpath, ih]

end Stream

/-- A run is independent of the history. Whatever was done with a controller before, a run comes to
the same as in a new one with the settings in force. For the controller of a stream, handed back
after any number of segments and used in any way since, it does so too, except that the toolpath
stays empty. A reset and a run of the empty text leave a controller as new. -/
theorem runText_forgets_history (text : List Char) (uses : List Use) :
    (∀ settings : Settings,
      let used := ({ settings } : Controller).performAll uses
      let new : Controller := { settings := used.settings }
      (used.runText text).results = (new.runText text).results ∧
      (used.runText text).toolpath = (new.runText text).toolpath) ∧
    (∀ source settings n,
      let used := ((Stream.start source settings).afterNext n).controller.performAll uses
      let new : Controller := { settings := used.settings }
      (used.runText text).results = (new.runText text).results ∧
      (used.runText text).toolpath = #[]) ∧
    (∀ c : Controller,
      let new : Controller := { settings := c.settings }
      (c.reset.runText []).results = new.results ∧
      (c.reset.runText []).toolpath = new.toolpath) := by
  refine ⟨?_, ?_, ?_⟩
  · intro settings used new
    have keeps : used.keepsToolpath = true := Controller.performAll_keepsToolpath _ uses
    exact ⟨Controller.runText_results (a := used) (b := new) rfl text,
      Controller.runText_toolpath_congr (a := used) (b := new) rfl text keeps⟩
  · intro source settings n used new
    have keeps : used.keepsToolpath = false := by
      have handed : ((Stream.start source settings).afterNext n).controller.keepsToolpath = false :=
        Stream.afterNext_keepsToolpath _ n
      have kept := Controller.performAll_keepsToolpath
        ((Stream.start source settings).afterNext n).controller uses
      rw [handed] at kept
      exact kept
    refine ⟨Controller.runText_results (a := used) (b := new) rfl text, ?_⟩
    apply Array.toList_inj.mp
    rw [Controller.runText_toolpath, keeps]
    simp
  · intro c new
    exact ⟨rfl, rfl⟩

end PartProgram
