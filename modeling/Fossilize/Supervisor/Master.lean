import Fossilize.Supervisor.Process

/-! # `run_master_process` and the workers around it

A run interleaves the supervisor's steps, the workers' writes and exits, and the kernel's
reads and timers; a step's label gives the outcome of its calls that may fail.
-/

namespace Fossilize.Supervisor

/-- What a slot puts on the wait list. -/
inductive Waitable
  | pipeEvent
  | process
  | timer
  deriving DecidableEq, Repr

/-- `wait_handles`: per slot, its pipe event, its process and its timer, those that are not
null, in that order. -/
def waitList (slots : List Slot) : List (Nat × Waitable) :=
  slots.enum.flatMap fun (i, s) =>
    (if s.pipeEvent.isSome then [(i, .pipeEvent)] else []) ++
    (if s.process.isSome then [(i, .process)] else []) ++
    (if s.timer.isSome then [(i, .timer)] else [])

namespace World

/-- Whether an object of the wait list is signalled: the event once a read finished, the
process once it exited, the timer once it fired. -/
def signalled (W : World) : Nat × Waitable → Bool
  | (i, .pipeEvent) => (W.slot i).pipeEvent == some true
  | (i, .process) => match (W.slot i).process with
    | some w => (W.worker w).exitCode.isSome
    | none => false
  | (i, .timer) => (W.slot i).timer == some true

/-- The world before the spawning loop: `processes` default slots. -/
def initial (numGraphicsPipelines numComputePipelines processes : Nat) : World :=
  { numGraphicsPipelines, numComputePipelines, slots := List.replicate processes {} }

/-- Slot `i`'s share of the pipelines, in the 32-bit `unsigned` arithmetic of the loop. -/
def assignRange (W : World) (i : Nat) : Slot :=
  let processes := UInt32.ofNat W.slots.length
  let graphics := UInt32.ofNat W.numGraphicsPipelines
  let compute := UInt32.ofNat W.numComputePipelines
  { W.slot i with
    startGraphicsIndex := UInt32.ofNat i * graphics / processes,
    endGraphicsIndex := (UInt32.ofNat i + 1) * graphics / processes,
    startComputeIndex := UInt32.ofNat i * compute / processes,
    endComputeIndex := (UInt32.ofNat i + 1) * compute / processes }

/-- `TerminateProcess(process, 3)`: the worker exits with code 3; the call fails on a worker
that has exited. -/
def terminate (W : World) (w : Nat) : Option World :=
  if (W.worker w).exitCode.isSome then none
  else some (W.setWorker w { W.worker w with exitCode := some 3 })

def exit (W : World) (success : Bool) : World := { W with phase := .exited success }

/-- `MAXIMUM_WAIT_OBJECTS`: `WaitForMultipleObjects` fails on a longer list. -/
def maximumWaitObjects : Nat := 64

end World

/-- The outcomes of the calls the supervisor's step may make that may fail. -/
structure MasterOutcome where
  spawn : SpawnOutcome := .ok
  shutdown : ShutdownOutcome := {}
  deriving DecidableEq, Repr

section Steps

variable (ord : IterationOrder)

/-- After `process_shutdown` asks for it, `start_child_process`; its failure ends the
supervisor with `EXIT_FAILURE`. -/
def restart (i : Nat) (o : SpawnOutcome) : Bool × World → World
  | (false, W) => W
  | (true, W) => match startChildProcess ord i o W with
    | (true, W) => W
    | (false, W) => W.exit false

/-- One step of `run_master_process`; `none` while it waits. -/
def masterStep (o : MasterOutcome) (W : World) : Option World :=
  match W.phase, W.pending with
  | .exited _, _ => none
  | _, .send i w (line :: lines) => (sendLine w line W).map fun W => { W with pending := .send i w lines }
  | _, .send i w [] =>
    match finishSpawn i w o.spawn { W with pending := .idle } with
    | (true, W) => some W
    | (false, W) => some (W.exit false)
  | _, .terminate i =>
    let W := { W with pending := .idle }
    match (W.slot i).process.bind W.terminate with
    | none => some (W.exit false)
    | some W => (processShutdown i o.shutdown W).map (restart ord i o.spawn)
  | .spawning n, .idle =>
    if n < W.slots.length then
      match startChildProcess ord n o.spawn (W.setSlot n (W.assignRange n)) with
      | (true, W) => some { W with phase := .spawning (n + 1) }
      | (false, W) => some (W.exit false)
    else some { W with phase := .waiting }
  | .waiting, .idle =>
    if W.activeProcesses = 0 then some (W.exit true)
    else if waitList W.slots = [] ∨ World.maximumWaitObjects < (waitList W.slots).length then
      some (W.exit false)
    else match (waitList W.slots).find? W.signalled with
    | none => none
    | some (i, .process) => (processShutdown i o.shutdown W).map (restart ord i o.spawn)
    | some (i, .pipeEvent) => (processOnce i W).map Prod.snd
    | some (i, .timer) => some { W with pending := .terminate i }

/-- What can happen next. -/
inductive Event
  | master (o : MasterOutcome)
  /-- A running worker out of its blacklist loop writes a message to its stdout, once its
  last one was read: its `FlushFileBuffers` waits for that. -/
  | write (w : Nat) (message : List Char)
  /-- A running worker exits, once its last message was read. -/
  | exit (w : Nat) (code : UInt32)
  /-- The pending read on a slot's pipe finishes. -/
  | complete (i : Nat)
  /-- A slot's timer reaches its due time. -/
  | fire (i : Nat)
  deriving DecidableEq, Repr

def step : Event → World → Option World
  | .master o, W => masterStep ord o W
  | .write w m, W =>
    if w < W.workers.length ∧ (W.worker w).exitCode = none ∧ (W.worker w).pipe = [] ∧
        (W.worker w).reading = false then
      some (W.setWorker w
        { W.worker w with pipe := (W.worker w).pipe ++ [m], wrote := (W.worker w).wrote ++ [m] })
    else none
  | .exit w c, W =>
    if w < W.workers.length ∧ (W.worker w).exitCode = none ∧ (W.worker w).pipe = [] then
      some (W.setWorker w { W.worker w with exitCode := some c })
    else none
  | .complete i, W =>
    match (W.slot i).crashFile, (W.slot i).read, (W.slot i).pipeEvent with
    | some w, .pending, some _ => (W.worker w).answer.map fun (r, x) =>
      (W.setSlot i { W.slot i with read := r, pipeEvent := some true }).setWorker w x
    | _, _, _ => none
  | .fire i, W =>
    if (W.slot i).timer = some false then some (W.setSlot i { W.slot i with timer := some true })
    else none

/-- The worlds a run of the supervisor reaches. -/
inductive Reach : World → Prop
  | initial (g c n : Nat) : Reach (World.initial g c n)
  | step {W W' : World} (e : Event) : Reach W → step ord e W = some W' → Reach W'

/-- The world after events that each can happen, one after another. -/
def run : List Event → World → Option World
  | [], W => some W
  | e :: es, W => (step ord e W).bind (run es)

theorem reach_run : ∀ {es : List Event} {W W' : World}, Reach ord W → run ord es W = some W' →
    Reach ord W'
  | [], _, _, hR, h => by cases h; exact hR
  | e :: es, _, _, hR, h => by
    obtain ⟨W₁, h₁, h⟩ := Option.bind_eq_some.mp h
    exact reach_run (Reach.step e hR h₁) h

end Steps

end Fossilize.Supervisor
