import ObjectLocks.Script.Command

/-!
# Sessions

A session is a world together with the names that a script gives to its parts. A name of a worker or
of a lock record comes into being when it is first mentioned.
-/

namespace ObjectLocks.Script

/-- A world with names. -/
structure Session where
  world : World
  classes : List Class
  /-- The names of the workers in the order of their numbers. -/
  workers : List String
  records : List ((WorkerId × String) × RecordId)
  /-- The monitors that the script made itself. -/
  monitors : List (String × MonitorId)
  /-- A monitor table of the script's own. -/
  table : MonitorTable
  list : List MonitorId

namespace Session

/-- The classes that every script knows. -/
def testClass : Class := ⟨"TestObject", 2, false⟩

/-- The class whose instances warn when they are locked. -/
def valueClass : Class := ⟨"ValueObject", 1, true⟩

/-- A session in which nothing has been named. -/
def new (world : World) (classes : List Class) : Session :=
  ⟨world, classes, [], [], [], .empty, []⟩

/-- The machine of the session's world. -/
def machine (s : Session) : Machine := s.world.machine

/-- Replaces the machine of the session's world. -/
def setMachine (s : Session) (m : Machine) : Session :=
  { s with world := { s.world with machine := m } }

/-- The class with a name. -/
def class? (s : Session) (name : String) : Option Class :=
  if name = "T" then some testClass
  else if name = "V" then some valueClass
  else s.classes.find? fun c => c.name == name

/-- The object with a name. -/
def object? (s : Session) (name : String) : Option ObjectId :=
  s.machine.heap.cells.findIdx? fun x => x.label == name

/-- The name of an object. -/
def label (s : Session) (o : ObjectId) : String := (s.machine.object o).label

/-- The name of the object that a monitor was made for. -/
def labelOf (s : Session) (id : MonitorId) : String := s.label (s.machine.monitor id).object

/-- The worker with a name, new if need be. -/
def workerNamed (s : Session) (name : String) : WorkerId × Session :=
  match s.workers.findIdx? (· == name) with
  | some w => (w, s)
  | none =>
    let (w, world) := s.world.addWorker
    (w, { s with workers := s.workers ++ [name], world := world })

/-- The record of a worker with a name, new if need be. -/
def recordNamed (s : Session) (w : WorkerId) (name : String) : RecordId × Session :=
  match s.records.lookup (w, name) with
  | some r => (r, s)
  | none =>
    let (r, m) := s.machine.addRecord w
    (r, { s.setMachine m with records := ((w, name), r) :: s.records })

/-- The name of a worker. -/
def workerName (s : Session) (w : WorkerId) : String := s.workers.getD w ""

/-- The name of a record, with that of its worker before it. -/
def recordName? (s : Session) (r : RecordId) : Option String :=
  (s.records.find? fun entry => entry.2 == r).map fun entry =>
    s.workerName entry.1.1 ++ "." ++ entry.1.2

/-- The worker that is attached as a thread. -/
def workerOf? (s : Session) (t : ThreadId) : Option WorkerId :=
  (List.range s.workers.length).find? fun w => (s.world.worker w).thread == some t

/-- The monitor that the header of an object leads to now. -/
def currentMonitor? (s : Session) (o : ObjectId) : Option MonitorId :=
  Locking.readMonitor? s.machine o (s.machine.mark o)

/-- The monitor that a script means. -/
def monitor? (s : Session) : MonitorName → Option MonitorId
  | .own name => s.monitors.lookup name
  | .ofObject o => (s.object? o).bind s.currentMonitor?

/-- The parts of a monitor that a line shows. -/
def monitorLine (x : Monitor) : String :=
  s!"owner={x.owner.number} rec={x.recursions} queued={x.queued} cont={x.contentions} " ++
    s!"prev={x.previousOwner.getD 0} hdr={x.header.hex}"

/-- The length of a stack and its ends. -/
def stackLine {α : Type} (stack : LockStack α) (name? : α → Option String) : String :=
  let side (e : Option α) : String := match e with
    | none => "-"
    | some e => (name? e).getD "?"
  s!"{stack.length}," ++ side stack.bottom? ++ "," ++ side stack.top?

/-- The line about a thread. -/
def threadLine (s : Session) (t : ThreadId) : String × String :=
  let x := s.machine.thread t
  let name := ((s.workerOf? t).map s.workerName).getD ""
  ("t " ++ name ++ s!" #{t}",
    x.state.name ++ s!" held={x.held} ls=" ++
      stackLine x.lockStack (fun o => some (s.label o)) ++ " lr=" ++
      stackLine x.lockRecords s.recordName?)

/-- The line about an object. -/
def objectLine (s : Session) (o : ObjectId) : String × String :=
  let text := match s.machine.mark o with
    | .record r => "stack " ++ (s.recordName? r).getD "?"
    | .monitor id => "monitor " ++ monitorLine (s.machine.monitor id)
    | .word w =>
      let shape :=
        if w.isUnlocked then "unlocked"
        else if w.isFastLocked then "fast"
        else
          match s.currentMonitor? o with
          | some id => "monitor " ++ monitorLine (s.machine.monitor id)
          | none => "monitor"
      shape ++ " mark=" ++ w.hex
  ("o " ++ s.label o, text)

/-- Every line about the state: what it is about, and its text. -/
def lines (s : Session) : List (String × String) :=
  let registry := s.machine.registry
  ("threads", ",".intercalate (registry.map toString)) :: registry.map s.threadLine ++
    (List.range s.machine.heap.size).map s.objectLine ++
    s.monitors.map fun entry => ("m " ++ entry.1, monitorLine (s.machine.monitor entry.2))

/-- The lines of `new` that `old` does not have, and what `new` is no longer about, sorted. -/
def changes (old new : List (String × String)) : List String :=
  let current := (new.filter fun l => old.lookup l.1 != some l.2).map fun l => l.1 ++ ": " ++ l.2
  let gone := (old.filter fun l => (new.lookup l.1).isNone).map fun l => l.1 ++ ": gone"
  (current ++ gone).mergeSort fun a b => !decide (b < a)

/-- What the script learns of an operation. -/
def reply (s : Session) : Progress → Reply
  | .waiting => .waiting
  | .refused => .refused
  | .failed f => .failed (f.message s.machine.shown)
  | .answered a =>
    .answered <| match a with
      | .done => .done
      | .begun => .begun
      | .flag b => .flag b
      | .thread t => .thread t
      | .hash h => .hash h
      | .slot v => .slot v
      | .monitor id => .monitorOf (some (s.labelOf id))
      | .states l => .states l

/-- The operation of the world that a command stands for, if it is one. The names that it mentions
for the first time are given. -/
def action? (s : Session) (w : WorkerId) : Command → Option (Action × Session)
  | .attach => some (.attach, s)
  | .detach => some (.detach, s)
  | .allocate o type =>
    if (s.object? o).isSome then none
    else (s.class? type).map fun c => (.allocate o c, s)
  | .enter o r raw =>
    (s.object? o).map fun o =>
      let (r, s) := s.recordNamed w r
      (.enter o r raw, s)
  | .quickEnter none r raw =>
    let (r, s) := s.recordNamed w r
    some (.quickEnter none r raw, s)
  | .quickEnter (some o) r raw =>
    (s.object? o).map fun o =>
      let (r, s) := s.recordNamed w r
      (.quickEnter (some o) r raw, s)
  | .exit o r raw =>
    (s.object? o).map fun o =>
      let (r, s) := s.recordNamed w r
      (.exit o r raw, s)
  | .identityHash o => (s.object? o).map fun o => (.identityHash o, s)
  | .inflate o cause => (s.object? o).map fun o => (.inflate o cause, s)
  | .store o i v => (s.object? o).map fun o => (.store o i v, s)
  | .load o i => (s.object? o).map fun o => (.load o i, s)
  | .add o i v => (s.object? o).map fun o => (.add o i v, s)
  | .poll => some (.poll, s)
  | .checkSafepoint => some (.checkSafepoint, s)
  | .beginGuard => some (.beginGuard, s)
  | .endGuard => some (.endGuard, s)
  | .beginNative => some (.beginNative, s)
  | .endNative => some (.endNative, s)
  | .beginBlocked => some (.beginBlocked, s)
  | .endBlocked => some (.endBlocked, s)
  | .beginSynchronized o => (s.object? o).map fun o => (.beginSynchronized o, s)
  | .endSynchronized => some (.endSynchronized, s)
  | .failSynchronized => some (.failSynchronized, s)
  | .beginSafepoint => some (.beginSafepoint, s)
  | .endSafepoint => some (.endSafepoint, s)
  | .enterMonitor m => (s.monitor? m).map fun id => (.enterMonitor id, s)
  | .tryEnterMonitor m => (s.monitor? m).map fun id => (.tryEnterMonitor id, s)
  | .exitMonitor m => (s.monitor? m).map fun id => (.exitMonitor id, s)
  | .monitorHash m => (s.monitor? m).map fun id => (.monitorHash id, s)
  | .claimMonitor m recursions => (s.monitor? m).map fun id => (.claimMonitor id recursions, s)
  | .holdsLock _ | .lockOwner _ | .readMonitor _ | .showRecord _ | .showClass _ | .threadStates
  | .showThread _ | .showMonitor _ => none

/-- What a command of the thread `t` asks for, if it only asks. -/
def reading? (s : Session) (w : WorkerId) (t : ThreadId) : Command → Option Reading
  | .holdsLock o => (s.object? o).map fun o => .flag (s.machine.holdsLock t o)
  | .lockOwner o => (s.object? o).map fun o => .owner (s.machine.lockOwner? o)
  | .readMonitor o =>
    (s.object? o).map fun o =>
      let k := s.machine.mark o
      .monitorsOf <| [s.machine.readMonitor? o k, s.machine.readInline? k,
        Locking.readMonitor? s.machine o k].map (·.map s.labelOf)
  | .showRecord name =>
    let (r, s) := s.recordNamed w name
    let x := s.machine.record r
    let records := s.machine.lockRecords t
    some (.record ⟨x.displaced, x.isRecursive, x.owner, x.cache.map s.labelOf, records.contains r,
      records.count r⟩)
  | .showClass o =>
    (s.object? o).map fun o =>
      let shown := s.machine.shown o
      .class (s.machine.object o).type shown ("Handle(" ++ shown ++ ")")
  | .showThread o =>
    let details (onLockStack : Option (Nat × Bool)) : Reading :=
      let x := s.machine.thread t
      .threadDetails ⟨x.describe t, threadName t, x.state.isSafe, s.machine.registry.length,
        onLockStack⟩
    match o with
    | none => some (details none)
    | some o =>
      (s.object? o).map fun o =>
        let stack := s.machine.lockStack t
        details (some (stack.count o, stack.isRecursive o))
  | .showMonitor m =>
    (s.monitor? m).map fun id =>
      let x := s.machine.monitor id
      .monitorDetails ⟨x.describe (s.machine.shown x.object), x.isOwner t, x.isOwned,
        x.hasAnonymousOwner, x.owner.thread?, x.previousOwner⟩
  | _ => none

/-- Carries out a command of a worker that does not wait. -/
def command (s : Session) (w : WorkerId) (c : Command) : Session × Reply × List (String × Reply) :=
  match c, s.action? w c with
  | _, some (a, s) =>
    let (world, progress, finished) := s.world.step w a
    let s := { s with world := world }
    (s, s.reply progress, finished.map fun f => (s.workerName f.1, s.reply f.2))
  | .threadStates, none =>
    let answer :=
      if (s.world.worker w).inScope then .answered (.states s.world.threadStates) else .refused
    (s, answer, [])
  | c, none =>
    match (s.world.worker w).thread.bind fun t => s.reading? w t c with
    | some r => (s, .answered r, [])
    | none => (s, .refused, [])

/-- Carries out a request to the session, if it can be. -/
def request? (s : Session) : Request → Option (Session × Reading)
  | .summary =>
    let m := s.machine
    some (s, .summary m.registry.length m.heap.size m.monitorCount s.world.safepoint.requested)
  | .newMonitor name o =>
    (s.object? o).map fun o =>
      let (id, m) := s.machine.addMonitor (.new o)
      let others := s.monitors.filter fun entry => entry.1 != name
      ({ s.setMachine m with monitors := (name, id) :: others }, .done)
  | .setHeader m w =>
    (s.monitor? m).map fun id =>
      (s.setMachine (s.machine.setMonitor id { s.machine.monitor id with header := w }), .done)
  | .replaceHeader m new expected =>
    (s.monitor? m).map fun id =>
      let (found, x) := (s.machine.monitor id).replaceHeader new expected
      (s.setMachine (s.machine.setMonitor id x), .replaced found)
  | .tableGet o =>
    (s.object? o).map fun o => (s, .monitorOf ((s.table.get? o).map s.labelOf))
  | .tableInsert o =>
    (s.object? o).map fun o =>
      match s.table.get? o with
      | some id => (s, .inserted false (some true) (s.labelOf id) s.table.size)
      | none =>
        let (id, m) := s.machine.addMonitor (.new o)
        let s := { s.setMachine m with table := s.table.insert o id }
        (s, .inserted true none (s.labelOf id) s.table.size)
  | .tableSize => some (s, .size s.table.size)
  | .listAdd o =>
    (s.object? o).map fun o =>
      let (id, m) := s.machine.addMonitor (.new o)
      let s := { s.setMachine m with list := id :: s.list }
      (s, .added (s.labelOf id) s.list.length)
  | .listSize => some (s, .size s.list.length)

/-- Carries out a step of a script, and answers what it and the operations that end by it answer. -/
def step (s : Session) : Step → Session × Reply × List (String × Reply)
  | .worker name c =>
    let (w, s) := s.workerNamed name
    if (s.world.worker w).wait.isSome then (s, .busy, [])
    else
      match c with
      | some c => s.command w c
      | none => (s, .refused, [])
  | .session r =>
    match r.bind s.request? with
    | some (s, answer) => (s, .answered answer, [])
    | none => (s, .refused, [])

/-- Takes the log out of the session. -/
def takeLog (s : Session) : List String × Session :=
  (s.machine.notices.toList.map (·.text s.machine.shown),
    s.setMachine { s.machine with notices := #[] })

/-- Carries out steps in turn. `shown` are the lines about the state as they were last reported. -/
def reports (s : Session) (shown : List (String × String)) : List Step → List Report
  | [] => []
  | x :: rest =>
    let (s, reply, woken) := s.step x
    let (log, s) := s.takeLog
    let current := s.lines
    ⟨reply, woken, log, changes shown current⟩ :: s.reports current rest

end Session

/-- Runs a script. Answers the log of building the world, and a report for every step. -/
def run (options : Options) (classes : List Class) (steps : List Step) :
    Except OptionsError (List String × List Report) := do
  let world ← World.build options
  let (log, s) := (Session.new world classes).takeLog
  return (log, s.reports [] steps)

end ObjectLocks.Script
