import TestConductor.Bench.Hosts
import TestConductor.Session
/-! # What the bench shows

Views of what a session did: the messages the hosts received, the launches, the state of the
hosts, the replies of commands, worker events and the events reported to the caller, in order or
grouped with the parts that arrive in no fixed order sorted.
-/
namespace TestConductor

namespace Bench

open Json (Shape)

def messageJson (m : Message) : Json := Json.map [("type", .str m.type.name), ("payload", m.payload)]

def sentJson (p : Nat × Message) : Json :=
  Json.map [("host", .nat p.1), ("type", .str p.2.type.name), ("payload", p.2.payload)]

def launchJson (l : Launch) : Json :=
  match l.failure with
  | some e => Json.map [("start_info", startInfoJson l.info), ("error", errorAnswer e)]
  | none => Json.map [("start_info", startInfoJson l.info), ("pid", .nat l.pid)]

def hostsJson (w : World) : Json :=
  Json.map [("hosts_created", .nat w.hosts.length),
    ("connected", .nat (w.hosts.filter (·.connected)).length),
    ("disconnects", .arr (w.hosts.map fun h => .nat h.disconnects)),
    ("launch_killed", .arr ((w.launches.filter (·.failure.isNone)).map fun l => .bool l.killed))]

def replyJson : Option (TaskEnd Reply) → Json
  | none => .str "pending"
  | some (.panicked m) => panicAnswer m
  | some (.returned r) =>
    match r with
    | .none => .null
    | .unit r => unitAnswer r
    | .flag b => .bool b
    | .proxy n => Json.opt .nat n
    | .text (.ok t) => Json.map [("ok", .str t)]
    | .text (.error e) => errorAnswer e
    | .number (.ok n) => Json.map [("ok", .nat n)]
    | .number (.error e) => errorAnswer e
    | .name n => Json.opt .str n
    | .watched r _ _ _ => replyJson (some (.returned r))

def setup (s : Session) (cmd : Act Unit) : Session := (s.run (do cmd; pure .none)).2

def workerEventJson (debug : Bool) (e : WorkerEvent) : Json :=
  let body := match e with
    | .connected ep => ("connected", Json.str ep)
    | .message m => ("message", messageJson m)
    | .disconnected none => ("disconnected", .null)
    | .disconnected (some err) => ("disconnected", errorAnswer err)
  Json.map ([body] ++ (if debug then [("debug", .str e.diagnostic)] else []))

def elapsedJson (coarse : Bool) (d : Duration) : Json :=
  if coarse then Json.map [("secs", .nat d.secs)] else d.toJson

def completionJson (coarse : Bool) (c : RunCompletion) : Json :=
  match c.toJson with
  | .obj fs => .obj (fs.map fun (k, v) => if k == "elapsed" then (k, elapsedJson coarse c.elapsed) else (k, v))
  | j => j

def namesJson (ts : List TestCase) : Json := .arr (ts.map fun t => .str t.fullyQualifiedName)

def discoveryBody (total : Int) (chunk : Option (List TestCase)) (aborted : Bool) : Json :=
  Json.map [("total", .int total), ("last_chunk", Json.opt namesJson chunk), ("aborted", .bool aborted)]

def runBody (coarse sortAttachments : Bool) (c : RunCompletion) (chunk : Option RunProgress)
    (attachments : List AttachmentSet) (metrics : Metrics) : Json :=
  let sets := attachments.map AttachmentSet.toJson
  Json.map [("complete", completionJson coarse c), ("last_chunk", Json.opt RunProgress.toJson chunk),
    ("attachments", .arr (if sortAttachments then sortedByText sets else sets)), ("metrics", .obj metrics)]

def logBody (level : MessageLevel) (message : String) : Json :=
  Json.map [("level", .str level.name), ("message", .str message)]

def eventJson (coarse : Bool) : CallerEvent → Json
  | .discovered ts => Json.map [("discovered", namesJson ts)]
  | .discoveryComplete t c a => Json.map [("discovery_complete", discoveryBody t c a)]
  | .log l m => Json.map [("log", logBody l m)]
  | .statsChange p => Json.map [("stats_change", p.toJson)]
  | .runComplete c chunk a m => Json.map [("run_complete", runBody coarse false c chunk a m)]

def groupedJson (coarse sortAttachments : Bool) (es : List CallerEvent) : Json :=
  let completions := es.filterMap fun
    | .discoveryComplete t c a => some (discoveryBody t c a)
    | .runComplete c chunk a m => some (runBody coarse sortAttachments c chunk a m)
    | _ => none
  let discovered := es.flatMap fun
    | .discovered ts => ts.map fun t => Json.str t.fullyQualifiedName
    | _ => []
  let logs := es.filterMap fun
    | .log l m => some (logBody l m)
    | _ => none
  let changes := es.filterMap fun
    | .statsChange p => some p.toJson
    | _ => none
  Json.map [("completions", .arr completions), ("discovered", .arr (sortedByText discovered)),
    ("logs", .arr (sortedByText logs)), ("stats_changes", .arr (sortedByText changes))]

def drainEvents (s : Session) : List CallerEvent × Session :=
  (s.state.events, s.modify fun w => { w with events := [] })

def scriptedCounts (w : World) : List ScriptedProxy :=
  w.proxies.map fun
    | .scripted p => p
    | _ => ⟨0, 0, 0, 0, none⟩

end Bench

end TestConductor
