import EditorAnalysis.Scenario.World

/-!
# Playing a scenario

`perform` carries out one step of a script on a thread. On the thread of the client the scheduler then
settles: the worker goes on until it waits for work, waits at the gate, or has left. Steps inside an
analyzer call on the worker are carried out while the client waits for the scheduler to settle.

Every step of a script is carried out at most once, so a bound on the number of nested actions, taken
from the number of steps, is never reached.
-/

namespace EditorAnalysis.Scenario

/-- The client takes a handle from a submission that was let in. -/
def keepHandle (tag : Tag) (handle : Handle) : Play Reply := do
  modify (World.track tag handle)
  return .submitted handle

/-- Changes the scheduler, and answers whatever that answers. -/
def onScheduler {Result : Type} (change : ScriptedScheduler → Result × ScriptedScheduler) :
    Play Result :=
  modifyGet fun world =>
    let (result, scheduler) := change world.scheduler
    (result, { world with scheduler })

/-- A failure to start the worker, as a caller sees it. -/
def startReply : StartFailure → Reply
  | .error error => .error error
  | .badName => .fault none

/-- A call begins that keeps the scheduler alive until it is over. -/
def enter : Play Unit :=
  modify fun world => { world with users := world.users + 1 }

/-- Waits in vain for some time, unless what is waited for is there. -/
def waitFor (there : Bool) (millis : Nat) : Play Reply := do
  unless there do modify (World.elapse millis)
  return .truth there

mutual

/-- The worker goes on until it waits for work, waits at the gate, or has left. -/
def settle : Nat → Play Unit
  | 0 => return
  | bound + 1 => do
    let world ← get
    let scheduler := world.scheduler
    match scheduler.worker with
    | .unstarted | .exited => return
    | .looping => modify (World.advance scheduler.workerPoll); settle bound
    | .receiving =>
        unless scheduler.mailbox.isEmpty do
          modify (World.advance scheduler.workerReceive)
          settle bound
    | .holding request =>
        modify (World.advance scheduler.workerBegin)
        if let .executing _ := (← get).scheduler.worker then
          modify (World.logBegan .worker request)
          modify fun world => { world with parked := request.snapshot.act.holds }
        settle bound
    | .executing request =>
        let act := request.snapshot.act
        if !world.parked then
          finishWorkerCall bound request act.answer
        else if act.wakesOnCancel && scheduler.cancelled then
          modify fun world => { world with parked := false }
          finishWorkerCall bound request act.onCancel
    | .recording request _ =>
        let reading := world.reading .worker request.source
        modify (World.advance (scheduler.workerRecord reading world.now))
        settle bound
    | .delivering _ _ => modify (World.advance scheduler.workerDeliver); settle bound
    | .posting _ _ =>
        let accepted := !world.trips.contains world.posts
        modify (World.advance (scheduler.workerPost accepted))
        modify fun world => { world with posts := world.posts + 1 }
        settle bound
    | .clearing _ => modify (World.advance scheduler.workerClear); settle bound

/-- The analyzer call on the worker goes on behind the gate, and the worker settles. -/
def finishWorkerCall : Nat → Request Task TaggedReaction → Answer → Play Unit
  | 0, _, _ => return
  | bound + 1, request, answer => do
    let execution ← act bound .worker request answer
    modify fun world => world.advance (world.scheduler.workerAnswer execution)
    settle bound

/-- The script of the analyzer behind the gate. -/
def act : Nat → Thread → Request Task TaggedReaction → Answer → Play (Execution String)
  | 0, _, _, _ => return .error (.number 0)
  | bound + 1, thread, request, answer => do
    let script := request.snapshot.act
    modify (World.elapse script.sleepMs)
    if let some steps := script.during then
      let replies ← performAll bound thread steps
      modify (World.logCall (.did request.snapshot.tag replies))
    return script.execution answer request ((← get).version request.source)

/-- The script of a callback; the answer is the text of its exception. -/
def react : Nat → Thread → Answered Task TaggedReaction String → Play (Option String)
  | 0, _, _ => return none
  | bound + 1, thread, answered => do
    let some script := answered.request.callback | return none
    modify fun world => world.logCallback (.began (world.view thread script answered))
    if let some steps := script.reaction.steps then
      let replies ← performAll bound thread steps
      modify (World.logCallback (.did script.tag replies))
    return if script.reaction.faults then some ("oracle:callback " ++ toString script.tag) else none

/-- The callback of a submission answered on its own thread, and the end of that submission. -/
def finishCall : Nat → Thread → Tag → Handle → Answered Task TaggedReaction String → Play Reply
  | 0, _, _, _, _ => return .nothing
  | bound + 1, thread, tag, handle, answered => do
    let fault ← react bound thread answered
    modify fun world => world.advance (world.scheduler.returnCall handle.id)
    match fault with
    | some text => return .fault (some text)
    | none => keepHandle tag handle

/-- Brings a submission that was opened to its end. -/
def proceed : Nat → Thread → Tag → Opening → Play Reply
  | 0, _, _, _ => return .nothing
  | _, _, _, .refused => return .error .shutDown
  | _, _, _, .faulted payload => return .fault payload.message?
  | bound + 1, thread, tag, .opened handle => do
    let some call := (← get).scheduler.call? handle.id | keepHandle tag handle
    match call.phase with
    | .callingBack analysis => finishCall bound thread tag handle ⟨call.request, analysis⟩
    | .queueing =>
        let result ← onScheduler fun scheduler =>
          (scheduler.enqueue handle.id .started).getD (.ok (), scheduler)
        match result with
        | .ok () => keepHandle tag handle
        | .error failure => return startReply failure
    | .recording _ => return .nothing
    | .executing =>
        modify (World.logBegan thread call.request)
        let execution ← act bound thread call.request call.request.snapshot.act.answer
        modify fun world => world.advance (world.scheduler.answerCall handle.id execution)
        let world ← get
        match world.scheduler.call? handle.id with
        | some { request, phase := .recording analysis } =>
            let reading := world.reading thread request.source
            let result ← onScheduler fun scheduler =>
              (scheduler.recordCall handle.id reading world.now).getD (.ok (), scheduler)
            match result with
            | .error payload => return .fault payload.message?
            | .ok () => finishCall bound thread tag handle ⟨request, analysis⟩
        | _ => keepHandle tag handle

/-- Shuts the scheduler down from a thread. The worker itself waits in vain; the client waits until the
worker has left, but no longer than the settings say. -/
def shutDown : Nat → Thread → Play ShutdownReport
  | 0, _ => return ⟨.alreadyStopped, 0⟩
  | bound + 1, thread => do
    if let some report ← onScheduler Scheduler.shutdown then return report
    let world ← get
    let timeout := world.scheduler.config.shutdownTimeoutMs.toNat
    if thread == .caller then
      let ((), settled) := (settle bound).run world
      if settled.scheduler.worker.hasExited && settled.clock - world.clock < timeout then set settled
    let joined ← onScheduler fun scheduler =>
      match scheduler.joinWorker with
      | some (report, next) => (some report, next)
      | none => (none, scheduler)
    if let some report := joined then return report
    modify (World.elapse timeout)
    onScheduler fun scheduler => scheduler.giveUpWorker.getD (⟨.timedOut, 0⟩, scheduler)

/-- A call that kept the scheduler alive is over. If the scheduler was given up meanwhile, and no other
call keeps it alive, it is shut down now. -/
def leave : Nat → Thread → Play Unit
  | 0, _ => return
  | bound + 1, thread => do
    modify fun world => { world with users := world.users - 1 }
    let world ← get
    if world.dropPending && world.users == 0 then
      set { world with dropPending := false }
      let _ ← shutDown bound thread

/-- Runs posted callbacks, oldest first, until none waits or one ends by an exception. -/
def pumpAll : Nat → Thread → Nat → Play Reply
  | 0, _, count => return .count count
  | bound + 1, thread, count => do
    match (← get).scheduler.ui.take? with
    | none => return .count count
    | some (answered, ui) =>
        modify fun world => { world with scheduler := { world.scheduler with ui } }
        match ← react bound thread answered with
        | some text => return .fault (some text)
        | none => pumpAll bound thread (count + 1)

/-- Carries out steps, each of them followed by settling if the client carries them out. -/
def performAll : Nat → Thread → List Step → Play (List Reply)
  | 0, _, _ => return []
  | _, _, [] => return []
  | bound + 1, thread, step :: rest => do
    let reply ← perform bound thread step
    if thread == .caller then settle bound
    let replies ← performAll bound thread rest
    return reply :: replies

/-- Carries out one step on a thread. -/
def perform : Nat → Thread → Step → Play Reply
  | 0, _, _ => return .nothing
  | bound + 1, thread, step => do
    let world ← get
    match step with
    | .submit tag source position reason synchronous requireFresh act reaction =>
        if !world.held then return .noScheduler
        enter
        let submission := {
          source, position, reason, synchronous, requireFresh
          snapshot := { tag, act }
          callback := reaction.map fun reaction => { tag, reaction } }
        let opening ← onScheduler fun scheduler =>
          scheduler.openCall submission false (world.reading thread source) world.now
        let reply ← proceed bound thread tag opening
        leave bound thread
        return reply
    | .idle tag source position needsRefresh quietMs reportsRemaining act reaction =>
        if !world.held then return .noScheduler
        enter
        let trigger := {
          source, position, needsRefresh
          quiet := .ofMillis (UInt64.ofNat quietMs.toNat)
          snapshot := { tag, act }
          callback := reaction.map fun reaction => { tag, reaction } }
        let (decision, opening) ← onScheduler fun scheduler =>
          scheduler.onIdle trigger (world.reading thread source) world.now
        let reply ← match decision, opening with
          | .submit, some opening => proceed bound thread tag opening
          | .notNeeded, _ => pure .notNeeded
          | .busy, _ => pure .busy
          | .waiting remaining, _ =>
              pure (if reportsRemaining then .waitingSeconds remaining.ceilSeconds else .waiting)
          | .submit, none => pure .nothing
        leave bound thread
        return reply
    | .setVersion source version =>
        set { world with versions := (source, version) :: world.versions }
        return .nothing
    | .setVersionFaults versionFaults => set { world with versionFaults }; return .nothing
    | .setActive source =>
        if !world.held then return .noScheduler
        set { world with scheduler := world.scheduler.setActive source }
        return .nothing
    | .release waitOn =>
        if !world.parked then return .nothingHeld
        match waitOn with
        | none => set { world with parked := false }; return .nothing
        | some tag =>
            let some tracked := world.handles.lookup tag | return .noHandle
            set { world.elapse 2 with parked := false }
            settle bound
            waitFor ((← get).cell tracked.handle.id).waitTimeout 5000
    | .pump =>
        if !world.canPump then return .noPump
        set { world with pumping := true }
        let reply ← pumpAll bound thread 0
        modify fun world => { world with pumping := false }
        return reply
    | .pumpNext =>
        if !world.canPump then return .noPump
        match world.scheduler.ui.take? with
        | none => return if world.isReleased then .truth false else .pending
        | some (answered, ui) =>
            set { world with scheduler := { world.scheduler with ui }, pumping := true }
            let fault ← react bound thread answered
            modify fun world => { world with pumping := false }
            return match fault with
              | some text => .fault (some text)
              | none => .truth true
    | .dropPump =>
        if !world.canPump then return .truth false
        let scheduler := { world.scheduler with ui := world.scheduler.ui.dropPump }
        set { world with scheduler }
        return .truth true
    | .start =>
        if !world.held then return .noScheduler
        match world.scheduler.start .started with
        | .ok scheduler => set { world with scheduler }; return .started
        | .error failure => return startReply failure
    | .shutdown =>
        if !world.held then return .noScheduler
        return .shutdown (← shutDown bound thread)
    | .drop =>
        if !world.held then return .noScheduler
        set { world with held := false, dropPending := world.users != 0 }
        if world.users == 0 then
          let _ ← shutDown bound thread
        return .nothing
    | .inspect tag =>
        let some tracked := world.handles.lookup tag | return .noHandle
        return .status tracked.handle (world.cell tracked.handle.id).outcome
    | .wait tag millis =>
        let some tracked := world.handles.lookup tag | return .noHandle
        waitFor (world.cell tracked.handle.id).waitTimeout millis
    | .waitBounded tag =>
        let some tracked := world.handles.lookup tag | return .noHandle
        waitFor (world.cell tracked.handle.id).waitTimeout
          world.scheduler.config.completionWaitMs.toNat
    | .poll tag =>
        let some tracked := world.handles.lookup tag | return .noHandle
        let watch := tracked.watch.poll (world.cell tracked.handle.id)
        let handles := world.handles.map fun entry =>
          if entry.1 = tag then (tag, { tracked with watch }) else entry
        set { world with handles }
        return match watch.outcome? with
          | some outcome => .outcome outcome
          | none => .pending
    | .describe =>
        return if world.held then .description world.scheduler.describe else .noScheduler
    | .readConfig =>
        return if world.held then
          .config world.scheduler.config.asyncEnabled world.scheduler.config.threadName
        else .noScheduler
    | .lastCompletionAtLeast millis =>
        return if world.held then .truth (millis ≤ world.scheduler.lastCompletionMs)
        else .noScheduler

end

end EditorAnalysis.Scenario
