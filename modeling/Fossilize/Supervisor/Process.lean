import Fossilize.Supervisor.Text

/-! # One worker slot of the supervisor: `ProcessProgress`

A worker is its pipe, its exit code and its blacklist loop; what it wrote and what the
supervisor parsed are ghost fields.
-/

namespace Fossilize.Supervisor

/-- An `unordered_set<Hash>`: no element twice. -/
structure HashSet where
  items : List Hash
  nodup : items.Nodup

namespace HashSet

def empty : HashSet := ⟨[], List.nodup_nil⟩

def insert (s : HashSet) (h : Hash) : HashSet :=
  if hm : h ∈ s.items then s
  else ⟨h :: s.items, List.nodup_cons.mpr ⟨hm, s.nodup⟩⟩

@[simp] theorem mem_insert (s : HashSet) (h x : Hash) :
    x ∈ (s.insert h).items ↔ x ∈ s.items ∨ x = h := by
  unfold insert; split_ifs with hm
  · exact ⟨Or.inl, by rintro (hx | rfl) <;> assumption⟩
  · simp [or_comm]

end HashSet

/-- The order `for (auto &m : Global::faulty_spirv_modules)` visits the set in: all that is
known is that it visits each element once. -/
structure IterationOrder where
  iterate : HashSet → List Hash
  perm : ∀ s, (iterate s).Perm s.items

/-- Visiting the set in the order its elements went in, one of the orders it may have. -/
def IterationOrder.insertion : IterationOrder := ⟨fun s => s.items.reverse, fun _ => List.reverse_perm _⟩

/-- The overlapped `ReadFile` on a slot's end of the pipe. -/
inductive ReadState
  /-- `ERROR_IO_PENDING`: nothing to read yet. -/
  | pending
  /-- One message read, not yet collected by `GetOverlappedResult`. -/
  | completed (message : List Char)
  /-- The pipe broke, or `ReadFile` failed at once. -/
  | failed
  deriving DecidableEq, Repr

namespace ReadState

def isCompleted : ReadState → Bool
  | .completed _ => true
  | _ => false

/-- The message a finished read holds. -/
def inFlight : ReadState → List (List Char)
  | .completed m => [m]
  | _ => []

end ReadState

/-- A worker process: what its blacklist loop masks and whether it still reads, its unread
messages (oldest first), all it wrote and was parsed of it, and its exit code. -/
structure Worker where
  masked : List Hash
  reading : Bool := true
  pipe : List (List Char) := []
  wrote : List (List Char) := []
  parsed : List (List Char) := []
  exitCode : Option UInt32 := none
  reaped : Bool := false
  deriving DecidableEq, Repr

/-- A `ProcessProgress`, with the defaults of its constructor; `read` is `failed` also while
no read was issued on the slot's pipe. -/
structure Slot where
  startGraphicsIndex : UInt32 := 0
  startComputeIndex : UInt32 := 0
  endGraphicsIndex : UInt32 := 4294967295
  endComputeIndex : UInt32 := 4294967295
  process : Option Nat := none
  crashFile : Option Nat := none
  timer : Option Bool := none
  pipeEvent : Option Bool := none
  read : ReadState := .failed
  computeProgress : Int := -1
  graphicsProgress : Int := -1
  deriving DecidableEq, Repr

/-- A call of the supervisor that waits on a worker, and what is left of it. -/
inductive Pending
  | idle
  /-- `send_faulty_modules_and_close` to worker `w`, started for slot `i`: the lines not
  yet written. -/
  | send (i w : Nat) (lines : List (List Char))
  /-- `WaitForMultipleObjects` returned slot `i`'s timer: `TerminateProcess` comes next. -/
  | terminate (i : Nat)
  deriving DecidableEq, Repr

/-- Where `run_master_process` is. -/
inductive Phase
  /-- Starting the workers; `next` is the slot to start next. -/
  | spawning (next : Nat)
  /-- The loop around `WaitForMultipleObjects`. -/
  | waiting
  /-- It returned, or `log_and_die` ended the process; `success` for `EXIT_SUCCESS`. -/
  | exited (success : Bool)
  deriving DecidableEq, Repr

/-- The supervisor, its workers and the globals they share. -/
structure World where
  /-- The pipeline counts `run_master_process` reads from the database. -/
  numGraphicsPipelines : Nat
  numComputePipelines : Nat
  /-- `child_processes`. -/
  slots : List Slot
  /-- Every worker started, in the order they were started. -/
  workers : List Worker := []
  /-- `Global::faulty_spirv_modules`. -/
  faulty : HashSet := HashSet.empty
  /-- `Global::active_processes`. -/
  activeProcesses : Nat := 0
  phase : Phase := .spawning 0
  pending : Pending := .idle

namespace World

def slot (W : World) (i : Nat) : Slot := W.slots.getD i {}

def worker (W : World) (w : Nat) : Worker := W.workers.getD w { masked := [] }

def setSlot (W : World) (i : Nat) (s : Slot) : World := { W with slots := W.slots.set i s }

def setWorker (W : World) (w : Nat) (x : Worker) : World :=
  { W with workers := W.workers.set w x }

/-! ### Reading an updated world -/

variable (W : World) {i j : Nat} {s : Slot} {w v : Nat} {x : Worker}

theorem slot_setSlot (h : i < W.slots.length) :
    (W.setSlot i s).slot j = if j = i then s else W.slot j := by
  simp only [slot, setSlot, List.getD_eq_getElem?_getD, List.getElem?_set]
  by_cases hj : j = i
  · simp [hj, h]
  · simp [Ne.symm hj, hj]

@[simp] theorem slot_setSlot_self (h : i < W.slots.length) : (W.setSlot i s).slot i = s := by
  simp [slot_setSlot _ h]

@[simp] theorem worker_setSlot : (W.setSlot i s).worker w = W.worker w := rfl

@[simp] theorem slot_setWorker : (W.setWorker w x).slot i = W.slot i := rfl

theorem worker_setWorker (h : w < W.workers.length) :
    (W.setWorker w x).worker v = if v = w then x else W.worker v := by
  simp only [worker, setWorker, List.getD_eq_getElem?_getD, List.getElem?_set]
  by_cases hv : v = w
  · simp [hv, h]
  · simp [Ne.symm hv, hv]

@[simp] theorem slots_setWorker : (W.setWorker w x).slots = W.slots := rfl

@[simp] theorem workers_setSlot : (W.setSlot i s).workers = W.workers := rfl

@[simp] theorem length_setSlot : (W.setSlot i s).slots.length = W.slots.length := by
  simp [setSlot]

@[simp] theorem length_setWorker : (W.setWorker w x).workers.length = W.workers.length := by
  simp [setWorker]

theorem slot_of_le (h : W.slots.length ≤ i) : W.slot i = {} := by
  simp [slot, List.getElem?_eq_none h]

theorem lt_of_slot_ne (h : W.slot i ≠ {}) : i < W.slots.length :=
  Nat.lt_of_not_le fun hle => h (W.slot_of_le hle)

end World

/-! ## The messages a worker sends -/

/-- The C string in a buffer: what comes before the first NUL. -/
def cString (m : List Char) : List Char := m.takeWhile (· != '\x00')

/-- `ProcessProgress::parse`: a crash arms a new one-second timer; progress reports set
`graphics_progress` and `compute_progress`; a faulty module goes into the blacklist.
Anything else is logged and ignored. -/
def parse (cmd : List Char) (s : Slot) (faulty : HashSet) : Slot × HashSet :=
  if startsWith cmd "CRASH".toList then ({ s with timer := some false }, faulty)
  else if startsWith cmd "GRAPHICS".toList then
    ({ s with graphicsProgress := strtol0 (cmd.drop 8) }, faulty)
  else if startsWith cmd "COMPUTE".toList then
    ({ s with computeProgress := strtol0 (cmd.drop 7) }, faulty)
  else if startsWith cmd "MODULE".toList then (s, faulty.insert (strtoull16 (cmd.drop 6)).1)
  else (s, faulty)

theorem startsWith_both {cmd a b : List Char} (ha : startsWith cmd a) (hb : startsWith cmd b) :
    a.isPrefixOf b ∨ b.isPrefixOf a := by
  simp only [startsWith, List.isPrefixOf_iff_prefix] at ha hb ⊢
  exact List.prefix_or_prefix_of_prefix ha hb

/-- No message starts with two of the tags `parse` tells apart. -/
theorem tags_exclusive (cmd : List Char) :
    (startsWith cmd "CRASH".toList → startsWith cmd "GRAPHICS".toList = false ∧
      startsWith cmd "COMPUTE".toList = false ∧ startsWith cmd "MODULE".toList = false) ∧
    (startsWith cmd "GRAPHICS".toList →
      startsWith cmd "COMPUTE".toList = false ∧ startsWith cmd "MODULE".toList = false) ∧
    (startsWith cmd "COMPUTE".toList → startsWith cmd "MODULE".toList = false) := by
  have apart : ∀ {a b : List Char}, (a.isPrefixOf b || b.isPrefixOf a) = false →
      startsWith cmd a → startsWith cmd b = false := by
    intro a b hab ha
    cases hb : startsWith cmd b
    · rfl
    · simp only [Bool.or_eq_false_iff] at hab
      rcases startsWith_both ha hb with h | h <;> simp_all
  exact ⟨fun h => ⟨apart (by decide) h, apart (by decide) h, apart (by decide) h⟩,
    fun h => ⟨apart (by decide) h, apart (by decide) h⟩, apart (by decide)⟩

/-- `parse` sets the timer and the progress fields, and nothing else of the slot. -/
theorem parse_slot (cmd : List Char) (s : Slot) (f : HashSet) :
    (parse cmd s f).1 =
      { s with
        timer := (parse cmd s f).1.timer
        graphicsProgress := (parse cmd s f).1.graphicsProgress
        computeProgress := (parse cmd s f).1.computeProgress } := by
  unfold parse; split_ifs <;> rfl

/-- Field by field, `parse` sets what its message's tag names, and only that: the tags are
exclusive. -/
theorem parse_fields (cmd : List Char) (s : Slot) (f : HashSet) :
    (parse cmd s f).1.graphicsProgress =
        (if startsWith cmd "GRAPHICS".toList then strtol0 (cmd.drop 8) else s.graphicsProgress) ∧
      (parse cmd s f).1.computeProgress =
        (if startsWith cmd "COMPUTE".toList then strtol0 (cmd.drop 7) else s.computeProgress) ∧
      (parse cmd s f).2 =
        (if startsWith cmd "MODULE".toList then f.insert (strtoull16 (cmd.drop 6)).1 else f) := by
  obtain ⟨h1, h2, h3⟩ := tags_exclusive cmd
  unfold parse
  cases hc : startsWith cmd "CRASH".toList
  · cases hg : startsWith cmd "GRAPHICS".toList
    · cases hp : startsWith cmd "COMPUTE".toList
      · simp only [hc, hg, hp, Bool.false_eq_true, if_false]
        split_ifs <;> simp only [and_self]
      · simp only [hc, hg, hp, h3 hp, Bool.false_eq_true, if_false, if_true, and_self]
    · simp only [hc, hg, h2 hg, Bool.false_eq_true, if_false, if_true, and_self]
  · simp only [hc, h1 hc, Bool.false_eq_true, if_false, if_true, and_self]

theorem parse_graphicsProgress (cmd : List Char) (s : Slot) (f : HashSet) :
    (parse cmd s f).1.graphicsProgress =
      if startsWith cmd "GRAPHICS".toList then strtol0 (cmd.drop 8) else s.graphicsProgress :=
  (parse_fields cmd s f).1

theorem parse_computeProgress (cmd : List Char) (s : Slot) (f : HashSet) :
    (parse cmd s f).1.computeProgress =
      if startsWith cmd "COMPUTE".toList then strtol0 (cmd.drop 7) else s.computeProgress :=
  (parse_fields cmd s f).2.1

theorem parse_faulty (cmd : List Char) (s : Slot) (f : HashSet) :
    (parse cmd s f).2 =
      if startsWith cmd "MODULE".toList then f.insert (strtoull16 (cmd.drop 6)).1 else f :=
  (parse_fields cmd s f).2.2

/-! ## The pipe and the overlapped read -/

/-- What the pipe gives a read: the oldest message, or the broken pipe once the worker has
exited with nothing left unread; `none` while the worker runs and nothing is left. -/
def Worker.answer (x : Worker) : Option (ReadState × Worker) :=
  match x.pipe with
  | m :: rest => some (.completed m, { x with pipe := rest })
  | [] => if x.exitCode.isSome then some (.failed, x) else none

/-- `kick_overlapped_io`: a new overlapped `ReadFile`, finished at once when the pipe can
answer and pending otherwise; it fails only on a broken pipe. -/
def kick (x : Worker) : ReadState × Worker := x.answer.getD (.pending, x)

/-- `GetOverlappedResult(…, TRUE)` waits for a pending read to finish; `none` while the
worker runs and has written nothing. -/
def settle (r : ReadState) (x : Worker) : Option (ReadState × Worker) :=
  match r with
  | .pending => x.answer
  | r => some (r, x)

/-! ### What the pipe operations change: only the pipe, and no message is lost -/

theorem Worker.answer_eq {x x' : Worker} {r : ReadState} (h : x.answer = some (r, x')) :
    x' = { x with pipe := x'.pipe } ∧ x'.parsed ++ r.inFlight ++ x'.pipe = x.parsed ++ x.pipe := by
  unfold Worker.answer at h
  split at h <;> rename_i hp
  · cases h; simp [ReadState.inFlight, hp]
  · split_ifs at h; cases h
    exact ⟨by cases x; simp_all, by simp [ReadState.inFlight]⟩

theorem kick_eq (x : Worker) :
    (kick x).2 = { x with pipe := (kick x).2.pipe } ∧
      (kick x).2.parsed ++ (kick x).1.inFlight ++ (kick x).2.pipe = x.parsed ++ x.pipe := by
  unfold kick
  cases h : x.answer with
  | none => simp [ReadState.inFlight]
  | some a => exact Worker.answer_eq h

theorem settle_eq {r r' : ReadState} {x x' : Worker} (h : settle r x = some (r', x')) :
    x' = { x with pipe := x'.pipe } ∧
      x'.parsed ++ r'.inFlight ++ x'.pipe = x.parsed ++ r.inFlight ++ x.pipe := by
  cases r with
  | pending => simpa [ReadState.inFlight] using Worker.answer_eq h
  | _ => cases h; simp

theorem Worker.answer_failed {x x' : Worker} (h : x.answer = some (.failed, x')) :
    x' = x ∧ x.pipe = [] ∧ x.exitCode.isSome := by
  unfold Worker.answer at h
  split at h
  · cases h
  · split_ifs at h with he; cases h; exact ⟨rfl, by assumption, he⟩

theorem kick_failed {x : Worker} (h : (kick x).1 = .failed) :
    (kick x).2 = x ∧ x.pipe = [] ∧ x.exitCode.isSome := by
  unfold kick at h ⊢
  cases ha : x.answer with
  | none => rw [ha] at h; cases h
  | some a =>
    obtain ⟨r, x'⟩ := a
    rw [ha] at h
    cases h
    exact Worker.answer_failed ha

theorem settle_failed {r : ReadState} {x x' : Worker} (h : settle r x = some (.failed, x')) :
    x' = x ∧ (r = .failed ∨ x.pipe = [] ∧ x.exitCode.isSome) := by
  cases r with
  | pending => obtain ⟨h₁, h₂⟩ := Worker.answer_failed h; exact ⟨h₁, .inr h₂⟩
  | completed m => cases h
  | failed => cases h; exact ⟨rfl, .inl rfl⟩

theorem settle_ne_pending {r r' : ReadState} {x x' : Worker} (h : settle r x = some (r', x')) :
    r' ≠ .pending := by
  rintro rfl
  cases r with
  | pending =>
    cases hp : x.pipe <;> simp only [settle, Worker.answer, hp] at h
    · split_ifs at h; simp at h
    · simp at h
  | _ => cases h

/-- `ProcessProgress::process_once` on slot `i`: collect the read, parse it and read again.
`false` when the pipe is closed or broken, the event is null, or the message does not fit
the 1024-byte buffer with its NUL (a longer one fails with `ERROR_MORE_DATA`). -/
def processOnce (i : Nat) (W : World) : Option (Bool × World) :=
  match (W.slot i).crashFile, (W.slot i).pipeEvent with
  | none, _ => some (false, W)
  | some _, none => some (false, W)
  | some w, some _ => do
    let (r, x) ← settle (W.slot i).read (W.worker w)
    let s := { W.slot i with pipeEvent := some false, read := r }
    match r with
    | .completed m =>
      if m.length < 1024 then
        let (s, faulty) := parse (cString m) s W.faulty
        let (r', x) := kick { x with parsed := x.parsed ++ [m] }
        some (r' != .failed,
          { (W.setSlot i { s with read := r', pipeEvent := some r'.isCompleted }).setWorker w x with
            faulty := faulty })
      else some (false, (W.setSlot i s).setWorker w x)
    | _ => some (false, (W.setSlot i s).setWorker w x)

/-- `while (process_once());` with `fuel` turns at most; `none` when they run out. -/
def drain : Nat → Nat → World → Option World
  | 0, _, _ => none
  | fuel + 1, i, W => do
    let (again, W) ← processOnce i W
    if again then drain fuel i W else some W

/-- Turns enough for the drain: one per unread message and two more. -/
def drainFuel (W : World) (i : Nat) : Nat :=
  match (W.slot i).crashFile with
  | some w => (W.worker w).pipe.length + 2
  | none => 1

/-- How the calls of `process_shutdown` that may fail fare. -/
structure ShutdownOutcome where
  /-- `WaitForSingleObject(process, INFINITE)` returns `WAIT_OBJECT_0`. -/
  waitSucceeds : Bool := true
  /-- `GetExitCodeProcess` succeeds; if not, `code` stays `0`. -/
  exitCodeRead : Bool := true
  deriving DecidableEq, Repr

/-- The end of `process_shutdown` once the worker is reaped: whether to start it again
from the progress it reported, given its exit code. -/
def decideRestart (i : Nat) (code : UInt32) (W : World) : Bool × World :=
  let s := W.slot i
  if code = 0 then (false, W)
  else if s.graphicsProgress < 0 ∨ s.computeProgress < 0 then (false, W)
  else
    let s := { s with startGraphicsIndex := UInt32.ofNat s.graphicsProgress.toNat,
                      startComputeIndex := UInt32.ofNat s.computeProgress.toNat }
    (!(s.startGraphicsIndex ≥ s.endGraphicsIndex && s.startComputeIndex ≥ s.endComputeIndex),
      W.setSlot i s)

/-- The handles `process_shutdown` closes before it waits for the worker. -/
def Slot.closeHandles (s : Slot) : Slot := { s with crashFile := none, timer := none, pipeEvent := none }

/-- Slot `i` gives up its worker `w`: the worker is reaped, and `active_processes` counts
one fewer. -/
def World.reap (W : World) (i w : Nat) : World :=
  { (W.setSlot i { W.slot i with process := none }).setWorker w { W.worker w with reaped := true } with
    activeProcesses := W.activeProcesses - 1 }

/-- `ProcessProgress::process_shutdown`: drain the pipe, close the handles, reap the worker
and decide whether to start it again. `none` while the wait for a running worker lasts. -/
def processShutdown (i : Nat) (o : ShutdownOutcome) (W : World) : Option (Bool × World) := do
  let W ← drain (drainFuel W i) i W
  let W := W.setSlot i (W.slot i).closeHandles
  match (W.slot i).process with
  | none => some (false, W)
  | some w =>
    match (W.worker w).exitCode with
    | none => none
    | some c =>
      if o.waitSucceeds then decideRestart i (if o.exitCodeRead then c else 0) (W.reap i w)
      else some (false, W)

/-- How the calls of `start_child_process` that may fail fare: all succeed; one up to
`CreateProcessA` fails; or `CreateEvent` fails once the blacklist is sent. -/
inductive SpawnOutcome
  | ok
  | failsBeforeProcess
  | eventFails
  deriving DecidableEq, Repr

section Spawn

variable (ord : IterationOrder)

/-- The world once `CreateProcessA` has started a worker for slot `i`, counted and held by
the slot, with no event or read on its pipe yet, and the blacklist about to be written. -/
def startedWorld (i : Nat) (s : Slot) (W : World) : World :=
  { (W.setSlot i { s with process := some W.workers.length, crashFile := some W.workers.length,
                          pipeEvent := none, read := .failed }) with
    workers := W.workers ++ [{ masked := maskedModules (sendFaultyModules (ord.iterate W.faulty)) }]
    activeProcesses := W.activeProcesses + 1
    pending := .send i W.workers.length (faultyModuleLines (ord.iterate W.faulty)) }

/-- `ProcessProgress::start_child_process` up to `send_faulty_modules_and_close`; `false`
when a call before `CreateProcessA` fails. -/
def startChildProcess (i : Nat) (o : SpawnOutcome) (W : World) : Bool × World :=
  let s := { W.slot i with graphicsProgress := -1, computeProgress := -1 }
  if s.startGraphicsIndex ≥ s.endGraphicsIndex ∧ s.startComputeIndex ≥ s.endComputeIndex then
    (true, W.setSlot i s)
  else match o with
  | .failsBeforeProcess => (false, W.setSlot i s)
  | _ => (true, startedWorld ord i s W)

end Spawn

/-- `write_all` of one blacklist line to worker `w`: read at once by a worker in its loop,
which stops at a line reading as `0`; dropped by one that has exited; and `none`, waiting in
`FlushFileBuffers`, on a running worker that left its loop. -/
def sendLine (w : Nat) (line : List Char) (W : World) : Option World :=
  if (W.worker w).exitCode.isSome then some W
  else if (W.worker w).reading then
    some (W.setWorker w { W.worker w with reading := (strtoull16 line).1 != 0 })
  else none

/-- The rest of `start_child_process` once the blacklist is written: `CloseHandle` ends the
worker's blacklist loop, then `CreateEvent` and the first overlapped read; `false` when one
fails. -/
def finishSpawn (i w : Nat) (o : SpawnOutcome) (W : World) : Bool × World :=
  let W := W.setWorker w { W.worker w with reading := false }
  match o with
  | .eventFails => (false, W)
  | _ =>
    let (r, x) := kick (W.worker w)
    (r != .failed,
      (W.setSlot i { W.slot i with pipeEvent := some r.isCompleted, read := r }).setWorker w x)

end Fossilize.Supervisor
