import TestConductor.Proofs.Runtime.Guards
import TestConductor.Proofs.Proxy.Effects
import TestConductor.Session
/-! # What a proxy's hosts leave alone

Setting up the test host of a unit reuses an idle host or launches and connects a new one, and
waits on the way, so other calls on the proxy run between its steps. None of those steps, nor any
step of the tasks it starts to watch the process, to read the connection and to live the
process's course, changes the proxy's name, runtime or state: they change only the hosts the
proxy keeps, its count of hosts launched, and the mark of an abort asked for. Each step guards the
standing of every proxy (`Async.Guards`).
-/
namespace TestConductor

open Async

def Operation.standing (o : Operation) : String × HostConfig × ProxyState := (o.name, o.runtime, o.state)

theorem Operation.rehosted_iff {o o' : Operation} : o.Rehosted o' ↔ o'.standing = o.standing := by
  simp [Rehosted, standing]

def World.standing (w : World) (i : Nat) : Option (String × HostConfig × ProxyState) :=
  (w.proxy i).operation?.map Operation.standing

/-- The jobs a proxy's hosts start: watching a process's exit, reading a connection, and living a
process's course. -/
def Job.ofHost : Job → Prop
  | .exitWatch _ _ | .messageLoop _ | .process _ _ _ => True
  | _ => False

def Standing (i : Nat) (v : Option (String × HostConfig × ProxyState)) (w : World) : Prop := w.standing i = v

namespace World

theorem standing_setOperation {f : Operation → Operation} (hf : ∀ o, (f o).standing = o.standing)
    (w : World) (i j : Nat) : (w.setOperation j f).standing i = w.standing i := by
  simp only [standing, proxy_setOperation]
  split
  · rw [Proxy.operation?_mapOperation, Option.map_map]
    congr 1
    funext o
    exact hf o
  · rfl

theorem standing_of_proxies {w t : World} (h : t.proxies = w.proxies) (i : Nat) : t.standing i = w.standing i := by
  simp only [standing, proxy, h]

end World

/-! ## What the waits of a host take leaves the proxies alone -/

theorem Worker.takeShutdown_proxies {k : Nat} {w w' : World} {u : Unit} (h : Worker.takeShutdown k w = some (w', u)) :
    w'.proxies = w.proxies := by
  unfold Worker.takeShutdown at h
  split at h
  · cases h
    rfl
  · cases h

theorem Worker.takeEvent_proxies {k : Nat} {w w' : World} {e : WorkerEvent} (h : Worker.takeEvent k w = some (w', e)) :
    w'.proxies = w.proxies := by
  unfold Worker.takeEvent at h
  split at h
  · split at h
    · cases h
      rfl
    · cases h
  · cases h

theorem Worker.takeExit_proxies {l : Nat} {w w' : World} {e : ProcessExit} (h : Worker.takeExit l w = some (w', e)) :
    w'.proxies = w.proxies := by
  unfold Worker.takeExit at h
  split at h
  · obtain ⟨e', _, he⟩ := Option.map_eq_some_iff.1 h
    cases he
    rfl
  · cases h

theorem ScriptedHost.next_proxies {n : Nat} {w w' : World} {r : ScriptedHost.Received}
    (h : ScriptedHost.next n w = some (w', r)) : w'.proxies = w.proxies := by
  obtain ⟨hs, ls, rfl⟩ := ScriptedHost.next_frame h
  rfl

theorem Worker.loopStep_proxies {k n : Nat} {w w' : World} {r : Worker.LoopStep}
    (h : Worker.loopStep k n w = some (w', r)) : w'.proxies = w.proxies := by
  unfold Worker.loopStep at h
  split at h
  · rename_i hs
    cases h
    exact Worker.takeShutdown_proxies hs
  · obtain ⟨⟨w₁, r₁⟩, hn, he⟩ := Option.map_eq_some_iff.1 h
    cases he
    exact ScriptedHost.next_proxies hn

section

variable (i : Nat) (v : Option (String × HostConfig × ProxyState))

/- Most steps change other parts of the world than the proxies, and keep every standing as it
is by definition. -/

theorem Worker.emit_guards (k : Nat) (e : WorkerEvent) : Guards (Standing i v) Job.ofHost (Worker.emit k e) := by
  unfold Worker.emit
  refine .bind (.reads _) fun _ => ?_
  split
  · exact .bind (.modify fun _ h => h) fun _ => .signal _
  · exact .pure' ()

theorem Worker.emitDisconnected_guards (k : Nat) (e : Option Error) :
    Guards (Standing i v) Job.ofHost (Worker.emitDisconnected k e) := by
  unfold Worker.emitDisconnected
  refine .bind (.reads _) fun _ => ?_
  split
  · exact .bind (.modify fun _ h => h) fun _ => Worker.emit_guards i v k _
  · exact .pure' ()

theorem Worker.notifyShutdown_guards (k : Nat) : Guards (Standing i v) Job.ofHost (Worker.notifyShutdown k) :=
  .bind (.modify fun _ h => h) fun _ => .signal _

theorem Worker.stopIdle_guards (k : Nat) (c : Bool) :
    Guards (Standing i v) Job.ofHost (if c = true then do
        Async.modify fun (w : World) => w.setWorker k fun k => { k with phase := .stopped }
        Worker.emitDisconnected k none
      else pure ()) := by
  split
  · exact .bind (.modify fun _ h => h) fun _ => Worker.emitDisconnected_guards i v k none
  · exact .pure' ()

theorem Worker.stop_guards (k : Nat) : Guards (Standing i v) Job.ofHost (Worker.stop k) := by
  unfold Worker.stop
  refine .bind (.reads _) fun _ => ?_
  split
  · refine .bind (.modify fun _ h => h) fun _ => .bind (Worker.notifyShutdown_guards i v k) fun _ => ?_
    dsimp only
    split
    · exact .bind (.modify fun _ h => h) fun _ => Worker.stopIdle_guards i v k _
    · exact Worker.stopIdle_guards i v k _
  · exact .pure' ()

theorem Worker.fail_guards (k : Nat) (e : Error) : Guards (Standing i v) Job.ofHost (Worker.fail k e) :=
  .bind (.modify fun _ h => h) fun _ => Worker.notifyShutdown_guards i v k

theorem Worker.takeExitError_guards (k : Nat) : Guards (Standing i v) Job.ofHost (Worker.takeExitError k) :=
  .change fun _ h => h

theorem ScriptedHost.fireExit_guards (l : Nat) (e : ProcessExit) :
    Guards (Standing i v) Job.ofHost (ScriptedHost.fireExit l e) := by
  unfold ScriptedHost.fireExit
  refine .bind (.reads _) fun _ => ?_
  dsimp only
  split
  · exact .bind (.modify fun _ h => h) fun _ => .bind (.signal _) fun _ => .pure' _
  · exact .pure' _

theorem Operation.requestAbort_guards (p : Nat) : Guards (Standing i v) Job.ofHost (Operation.requestAbort p) := by
  unfold Operation.requestAbort
  refine .bind (.reads _) fun _ => ?_
  split
  · exact .pure' _
  · refine .bind (.modify fun s h => ?_) fun _ => .pure' _
    exact (World.standing_setOperation (f := fun o => { o with abortRequested := true }) (fun _ => rfl) s i p).trans h

theorem ScriptedHost.connectBegin_guards (endpoint : String) :
    Guards (Standing i v) Job.ofHost (ScriptedHost.connectBegin endpoint) := by
  unfold ScriptedHost.connectBegin
  refine .read_bind fun w _ => ?_
  extract_lets script last tail
  -- after the hook, an exit on connect fires the launch it is meant for
  have htail : ∀ u, Guards (Standing i v) Job.ofHost (tail u) := by
    intro u
    dsimp only [tail]
    split
    · refine .read_bind fun w' _ => ?_
      split
      · exact .bind (.discard (ScriptedHost.fireExit_guards i v _ _)) fun _ => .pure' _
      · exact .pure' _
    · exact .pure' _
  split
  · split
    · exact .bind (Worker.stop_guards i v _) htail
    · exact htail ()
  · split
    · exact .bind (.discard (Operation.requestAbort_guards i v _)) htail
    · exact htail ()
  · exact htail ()

theorem ScriptedHost.connectEnd_guards (n : Nat) (endpoint : String) :
    Guards (Standing i v) Job.ofHost (ScriptedHost.connectEnd n endpoint) := by
  unfold ScriptedHost.connectEnd
  refine .bind (.reads _) fun _ => ?_
  split
  · exact .pure' _
  · exact .bind (.modify fun s h => (World.standing_of_proxies (by dsimp only; split <;> rfl) i).trans h)
      fun _ => .bind (.signal _) fun _ => .pure' _

theorem ScriptedHost.disconnect_guards (n : Nat) : Guards (Standing i v) Job.ofHost (ScriptedHost.disconnect n) :=
  .modify fun _ h => h

theorem Worker.make_guards (name : String) (hasLauncher : Bool) :
    Guards (Standing i v) Job.ofHost (Worker.make name hasLauncher) :=
  .bind (.change fun _ h => h) fun _ => .change fun _ h => h

theorem Launch.begin_guards (info : StartInfo) : Guards (Standing i v) Job.ofHost (Launch.begin info) := by
  unfold Launch.begin
  refine .bind (.reads _) fun _ => ?_
  split
  · unfold Launch.spawn
    refine .read_bind fun w hw => ?_
    split
    · exact .bind (.write hw) fun _ => .pure' _
    · refine .bind (.write hw) fun _ => ?_
      split
      · exact .bind (.fork trivial) fun _ => .pure' _
      · exact .pure' _
  · exact .change fun _ h => (World.standing_of_proxies (by dsimp only; split <;> rfl) i).trans h

theorem Worker.launch_guards (k : Nat) (info : StartInfo) :
    Guards (Standing i v) Job.ofHost (Worker.launch k info) := by
  unfold Worker.launch
  refine .bind (.reads _) fun _ => ?_
  split
  · exact .pure' _
  split
  · exact .pure' _
  refine .bind (.sleep 0) fun _ => .bind (Launch.begin_guards i v info) fun r => ?_
  split
  · exact .pure' _
  · exact .bind (.sleep 0) fun _ => .bind (.modify fun _ h => h) fun _ => .bind (.sleep 0) fun _ =>
      .bind (.modify fun _ h => h) fun _ => .bind (.fork trivial) fun _ => .pure' _

theorem Worker.start_guards (k : Nat) (endpoint : String) :
    Guards (Standing i v) Job.ofHost (Worker.start k endpoint) := by
  unfold Worker.start
  refine .bind (.reads _) fun _ => ?_
  split
  · exact .pure' _
  refine .bind (.modify fun _ h => h) fun _ => .bind (.change fun s h => ?_) fun taken => ?_
  · -- taking a shutdown notification only clears it
    split
    · rename_i hs
      exact (World.standing_of_proxies (Worker.takeShutdown_proxies hs) i).trans h
    · exact h
  extract_lets settle afterRace
  have hsettle : ∀ o, Guards (Standing i v) Job.ofHost (settle o) := by
    intro o
    dsimp only [settle]
    refine .bind (.reads _) fun stopped => ?_
    split
    · split
      · exact .bind (.modify fun _ h => h) fun _ => .bind (Worker.emit_guards i v k _) fun _ =>
          .bind (.fork trivial) fun _ => .pure' _
      · exact .bind (.modify fun _ h => h) fun _ => .bind (ScriptedHost.disconnect_guards i v _) fun _ =>
          .bind (Worker.emitDisconnected_guards i v k _) fun _ => .pure' _
    · exact .bind (.modify fun _ h => h) fun _ => .bind (Worker.emitDisconnected_guards i v k _) fun _ => .pure' _
  have hshutdown : ∀ s s' (a : Unit), Standing i v s → Worker.takeShutdown k s = some (s', a) → Standing i v s' :=
    fun _ _ _ hs ht => (World.standing_of_proxies (Worker.takeShutdown_proxies ht) i).trans hs
  split
  · exact .bind (Worker.takeExitError_guards i v k) fun _ => .bind (.pure' _) hsettle
  · refine .bind (.reads _) fun reach => ?_
    split
    · refine .waitWithin_bind (fun s s' a hs ht => ⟨hshutdown s s' a hs ht, ?_⟩) (.bind (.pure' _) hsettle)
      exact .bind (Worker.takeExitError_guards i v k) fun _ => .bind (.pure' _) hsettle
    · refine .bind (ScriptedHost.connectBegin_guards i v endpoint) fun delay => ?_
      -- a scripted connect races the shutdown against its delay, then ends as scripted
      have hrace : ∀ r, Guards (Standing i v) Job.ofHost (afterRace r) := by
        intro r
        dsimp only [afterRace]
        split
        · exact .bind (Worker.takeExitError_guards i v k) fun _ => .bind (.pure' _) hsettle
        · refine .bind (ScriptedHost.connectEnd_guards i v _ endpoint) fun _ => ?_
          split
          · exact .bind (.pure' _) hsettle
          · exact .bind (.pure' _) hsettle
      split
      · exact .bind (.pure' _) hrace
      · refine .waitWithin_bind (fun s s' a hs ht => ⟨hshutdown s s' a hs ht, .bind (.pure' _) hrace⟩) ?_
        exact .bind (.pure' _) hrace

theorem Worker.nextEvent_guards (k : Nat) : Guards (Standing i v) Job.ofHost (Worker.nextEvent k) := by
  intro c hc
  refine (Guards.wait_bind (f := pure) (fun s s' e hs ht => ⟨?_, .pure' e⟩)) c hc
  exact (World.standing_of_proxies (Worker.takeEvent_proxies ht) i).trans hs

theorem reserveEndpoint_guards : Guards (Standing i v) Job.ofHost reserveEndpoint := .change fun _ h => h

theorem Operation.reuseIdle_guards (p : Nat) : Guards (Standing i v) Job.ofHost (Operation.reuseIdle p) := by
  unfold Operation.reuseIdle
  refine .bind (.reads _) fun _ => ?_
  split
  · exact .pure' _
  split
  · exact .pure' _
  · -- the idle host is taken off the proxy, which keeps its standing
    refine .bind (.modify fun s h => ?_) fun _ => .bind (.reads _) fun _ => ?_
    · exact (World.standing_setOperation (f := fun o => { o with idle := none }) (fun _ => rfl) s i p).trans h
    split
    · exact .pure' _
    · exact .bind (Worker.stop_guards i v _) fun _ => .pure' _

theorem Operation.ensureNotAborted_guards (p : Nat) :
    Guards (Standing i v) Job.ofHost (Operation.ensureNotAborted p) :=
  .bind (.reads _) fun _ => .pure' _

theorem Operation.launchHost_guards (p : Nat) (sources : List String) :
    Guards (Standing i v) Job.ofHost (Operation.launchHost p sources) := by
  unfold Operation.launchHost
  refine .bind (reserveEndpoint_guards i v) fun endpoint => .read_bind fun w _ => ?_
  dsimp only
  split
  · exact .pure' _
  refine .bind (.modify fun s h => ?_) fun _ => .bind (Worker.make_guards i v _ _) fun k => ?_
  · exact (World.standing_setOperation (f := fun o => { o with hostsLaunched := o.hostsLaunched + 1 })
      (fun _ => rfl) s i p).trans h
  refine .bind (.modify fun s h => ?_) fun _ => .bind (Operation.ensureNotAborted_guards i v p) fun r => ?_
  · exact (World.standing_setOperation (f := fun o => { o with worker := some k }) (fun _ => rfl) s i p).trans h
  split
  · exact .pure' _
  refine .bind (Worker.launch_guards i v k _) fun r => ?_
  split
  · exact .pure' _
  refine .bind (Worker.start_guards i v k endpoint) fun r => ?_
  split
  · exact .pure' _
  refine .bind (Operation.ensureNotAborted_guards i v p) fun r => ?_
  split
  · exact .bind (Worker.stop_guards i v k) fun _ => .pure' _
  · exact .bind (.discard (Worker.nextEvent_guards i v k)) fun _ => .pure' _

theorem Operation.setupChannel_guards (p : Nat) (sources : List String) :
    Guards (Standing i v) Job.ofHost (Operation.setupChannel p sources) := by
  unfold Operation.setupChannel
  refine .bind (Operation.reuseIdle_guards i v p) fun r => ?_
  split
  · exact .pure' _
  · exact Operation.launchHost_guards i v p sources

/-! ## The tasks a host starts -/

theorem Worker.watchExit_guards (k l : Nat) : Guards (Standing i v) Job.ofHost (Worker.watchExit k l) := by
  unfold Worker.watchExit
  refine .wait_bind fun s s' e hs ht => ⟨(World.standing_of_proxies (Worker.takeExit_proxies ht) i).trans hs, ?_⟩
  refine .bind (.reads _) fun _ => ?_
  split
  · exact .bind (.reads _) fun _ => Worker.fail_guards i v k _
  · exact .pure' ()

theorem Worker.endLoop_guards (k : Nat) (e : Option Error) : Guards (Standing i v) Job.ofHost (Worker.endLoop k e) :=
  .bind (.reads _) fun host => .bind (ScriptedHost.disconnect_guards i v host) fun _ =>
    .bind (.modify fun _ h => h) fun _ => Worker.emitDisconnected_guards i v k e

theorem Worker.messageLoop_guards (k fuel : Nat) : Guards (Standing i v) Job.ofHost (Worker.messageLoop k fuel) := by
  induction fuel with
  | zero => exact .pure' ()
  | succ fuel ih =>
    rw [Worker.messageLoop]
    refine .bind (.reads _) fun host => .wait_bind fun s s' r hs ht =>
      ⟨(World.standing_of_proxies (Worker.loopStep_proxies ht) i).trans hs, ?_⟩
    split
    · exact .bind (Worker.takeExitError_guards i v k) fun e => Worker.endLoop_guards i v k e
    · dsimp only
      split
      · exact .bind (.signal _) fun _ => ih
      · exact ih
    · exact .bind (Worker.emit_guards i v k _) fun _ => ih
    · exact .bind (.reads _) fun _ => Worker.endLoop_guards i v k _
    · exact Worker.endLoop_guards i v k _

theorem Launch.live_guards (l after : Nat) (e : ProcessExit) : Guards (Standing i v) Job.ofHost (Launch.live l after e) := by
  unfold Launch.live
  refine .bind (.sleep _) fun _ => .bind (.reads _) fun _ => ?_
  split
  · exact .discard (ScriptedHost.fireExit_guards i v l e)
  · exact .pure' ()

theorem Job.ofHost_guards {j : Job} (hj : j.ofHost) : Prog.Guards (Standing i v) Job.ofHost j.program := by
  have done : ∀ {x : Act Unit}, Guards (Standing i v) Job.ofHost x →
      Prog.Guards (Standing i v) Job.ofHost (Act.done x) :=
    fun hx => (Guards.bind hx fun _ => .pure' _) _ fun _ => .finish _
  cases j
  case exitWatch k l => exact done (Worker.watchExit_guards i v k l)
  case messageLoop k => exact done (Worker.messageLoop_guards i v k loopFuel)
  case process l after e => exact done (Launch.live_guards i v l after e)
  all_goals exact hj.elim

end

end TestConductor
