import TestConductor.Bench.Values
import TestConductor.World
/-! # Scripts of the scripted doubles

How requests describe the scripted test hosts, the units of scripted proxies and the scripted
in-process engine.
-/
namespace TestConductor

namespace Bench

open Json (Shape)

def processExitOf (j : Json) : ProcessExit := ⟨(j.get? "code").bind Json.asInt?, strField j "stderr"⟩

def scriptStepOf (j : Json) : ScriptStep :=
  if let some m := j.get? "msg" then .msg m
  else if let some t := (j.get? "line").bind Json.asStr? then .line t
  else if let some e := j.get? "error" then .error (errorOfSpec e)
  else if let some x := j.get? "exit" then .exit (processExitOf x)
  else .close

def scriptOf (j : Json) : List ScriptStep := (j.asArr?.getD []).map scriptStepOf

def hostScriptOf (h : Json) (endClose : Bool) : HostScript :=
  { scripts := (((h.get? "scripts").bind Json.asObj?).getD []).map fun (k, v) => (k, (v.asArr?.getD []).map scriptOf)
    onCancel := (h.get? "on_cancel").map scriptOf
    onAbort := (h.get? "on_abort").map scriptOf
    initial := ((h.get? "initial").map scriptOf).getD []
    preload := boolField h "preload"
    endClose := match strField h "end" with
      | "close" => true
      | "pend" => false
      | _ => endClose
    connectDelayMs := natField h "connect_delay_ms"
    onConnect := match strField h "on_connect" with
      | "stop_worker" => some .stopWorker
      | "request_abort" => some .requestAbort
      | _ => none
    exitOnConnect := (h.get? "exit_on_connect").map processExitOf
    connectErrors := numberedErrors (h.get? "connect_errors")
    sendErrors := numberedErrors (h.get? "send_errors")
    launchErrors := numberedErrors (h.get? "launch_errors")
    pid := ((h.get? "pid").bind Json.asNat?).getD 4242 }

def unitScriptOf (j : Json) : Except Json UnitScript := do
  let outcomes := (j.get? "outcomes").map fun o => (o.asArr?.getD []).map Outcome.ofJson
  let stats ← match j.get? "stats" with
    | some st => do pure (some (Statistics.ofJson (← decodeAs Statistics.shape st)))
    | none => pure none
  let sets (k : String) : Except Json (List AttachmentSet) :=
    (listField j k).mapM fun a => do pure (AttachmentSet.ofJson (← decodeAs AttachmentSet.shape a))
  let attachments ← if (j.get? "attachments").isSome then some <$> sets "attachments" else pure none
  let completeAttachments ← sets "complete_attachments"
  return { reject := natField j "reject"
           rejectError := (j.get? "reject_error").map errorOfSpec
           hang := boolField j "hang"
           sync := boolField j "sync"
           logs := (listField j "logs").filterMap Json.asStr?
           aborted := boolField j "aborted"
           total := (j.get? "total").bind Json.asInt?
           tests := ((j.get? "tests").bind Json.asNat?).getD 2
           chunk := match j.get? "last_chunk" with
             | some .null => .absent
             | some (.num n) => .lastOf ((Json.asNat? (.num n)).getD 0)
             | _ => .secondHalf
           outcomes := outcomes
           stats := stats
           statsChange := ((j.get? "stats_change").bind Json.asBool?).getD true
           canceled := boolField j "canceled"
           error := (j.get? "error").bind Json.asStr?
           completeAttachments := completeAttachments
           elapsedMs := (j.get? "elapsed_ms").bind Json.asNat?
           lastChunk := ((j.get? "last_chunk").bind Json.asBool?).getD true
           attachments := attachments
           metrics := (j.get? "metrics").bind Json.asObj? }

def unitScriptsOf (j : Option Json) : Except Json (List (String × UnitScript)) :=
  ((j.bind Json.asObj?).getD []).mapM fun (k, v) => do pure (k, ← unitScriptOf v)

/-- The script of the in-process engine: its failures, when it completes runs, and the unit
script of its runs. -/
def engineScriptOf (j : Json) : Except Json EngineScript := do
  let run ← unitScriptOf j
  return { initError := (j.get? "init_error").map errorOfSpec
           initErrorTimes := (j.get? "init_error_times").bind Json.asNat?
           startError := (j.get? "start_error").map errorOfSpec
           mode := match strField j "mode" with
             | "sync" => .sync
             | "hold" => .hold
             | _ => .spawn
           completeOnCancel := strField j "on_cancel" != "ignore"
           completeOnAbort := strField j "on_abort" != "ignore"
           run := run }

end Bench

end TestConductor
