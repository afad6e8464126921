import TestConductor.Scripted.Unit
/-! # A scripted in-process engine

A scripted engine runs tests inside the conductor's process by a unit script. Its
initialization fails with a given error, for a number of times or always. A started run
completes in a task of its own, at once, or is held until it is released; a cancel or an abort
completes a held run as stopped, unless the engine is told to ignore it. Every call is logged.
-/
namespace TestConductor

/-- When a scripted engine completes a run. -/
inductive EngineMode where
  /-- In a task of its own. -/
  | spawn
  /-- Before the start returns. -/
  | sync
  /-- When released, canceled or aborted. -/
  | hold
  deriving DecidableEq, Repr, Inhabited

/-- A call made to a scripted engine. -/
inductive EngineCall where
  | prepare
  | start (target : RunTarget)
  | cancel
  | abort
  deriving Repr, Inhabited

/-- The script of an in-process engine. -/
structure EngineScript where
  initError : Option Error := none
  /-- How many initializations fail; all of them when absent. -/
  initErrorTimes : Option Nat := none
  startError : Option Error := none
  mode : EngineMode := .spawn
  completeOnCancel : Bool := true
  completeOnAbort : Bool := true
  run : UnitScript := {}
  deriving Repr, Inhabited

/-- The state of a scripted engine. -/
structure ScriptedEngine where
  script : EngineScript
  calls : List EngineCall
  initFailures : Nat
  /-- The run being held and where its events go. -/
  held : Option (RunCriteria × Handler)
  deriving Repr, Inhabited

namespace ScriptedEngine

def new (s : EngineScript) : ScriptedEngine := ⟨s, [], 0, none⟩

def initFailure? (e : ScriptedEngine) : Option Error :=
  e.script.initError.filter fun _ => match e.script.initErrorTimes with
    | some n => decide (e.initFailures < n)
    | none => true

end ScriptedEngine

end TestConductor
