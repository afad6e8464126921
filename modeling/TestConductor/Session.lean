import TestConductor.Parallel.Manager
import TestConductor.Collection.Session
/-! # Sessions

A session is the conductor's world run by the executor: commands are run one at a time, each to
its end and then to rest. Every job a task can start is given its program here.
-/
namespace TestConductor

def sessionFuel : Nat := 200000

def loopFuel : Nat := 100000

def Act.done (a : Act Unit) : Prog conductor := Async.toProg (do a; pure (Reply.unit (.ok ())))

def Job.program : Job → Prog conductor
  | .unit m p item ctx => Act.done (Manager.handOver m p item ctx)
  | .action a p => Async.toProg (do return Reply.unit (← Proxy.act a p))
  | .report h events => Act.done (h.deliverAll events)
  | .exitWatch i l => Act.done (Worker.watchExit i l)
  | .messageLoop i => Act.done (Worker.messageLoop i loopFuel)
  | .listen p k h sources sw => Act.done (TestHost.listen p k h sources sw loopFuel)
  | .caseEvents => Async.toProg (do return Reply.unit (← Collection.serveCases))
  | .collect => Async.toProg (do return Reply.unit (← Collection.serve loopFuel))
  | .process l after e => Act.done (Launch.live l after e)

abbrev Session := Executor conductor

namespace Session

def new (w : World) : Session := Executor.start w

/-- Runs a command to its end and its effects to rest; gives how the command ended, or nothing
when it can never end. -/
def run (s : Session) (cmd : Act Reply) : Option (TaskEnd Reply) × Session :=
  Executor.command Job.program sessionFuel s (Async.toProg cmd)

def modify (s : Session) (f : World → World) : Session := { s with state := f s.state }

end Session

end TestConductor
