import Fossilize.Supervisor.Respawn
import Fossilize.Supervisor.Report

/-! # What whole runs of the supervisor keep

Runs only add to what was done; the blacklist is exactly the modules of the `MODULE`
messages parsed, and a slot's ranges end where the spawning loop put them.
-/

namespace Fossilize.Supervisor

/-- `x'` is worker `x` later on: its logs have grown at their end, and an exit or a reaping
stays. -/
structure Worker.Grows (x x' : Worker) : Prop where
  wrote : x.wrote <+: x'.wrote
  parsed : x.parsed <+: x'.parsed
  exitCode : x.exitCode.isSome → x'.exitCode = x.exitCode
  reaped : x.reaped = true → x'.reaped = true

theorem Worker.Grows.refl (x : Worker) : x.Grows x :=
  ⟨List.prefix_refl _, List.prefix_refl _, fun _ => rfl, id⟩

theorem Worker.Grows.trans {x₁ x₂ x₃ : Worker} (h₁ : x₁.Grows x₂) (h₂ : x₂.Grows x₃) : x₁.Grows x₃ :=
  ⟨h₁.wrote.trans h₂.wrote, h₁.parsed.trans h₂.parsed,
    fun h => (h₂.exitCode (by rw [h₁.exitCode h]; exact h)).trans (h₁.exitCode h),
    fun h => h₂.reaped (h₁.reaped h)⟩

/-- The worker a slot starts with grows from the default one `World.worker` gives past the
end of the list. -/
theorem Worker.Grows.of_new (masked : List Hash) : Worker.Grows { masked := [] } { masked } :=
  ⟨List.prefix_refl _, List.prefix_refl _, (fun h => by cases h), fun h => by cases h⟩

/-- Kicking off a read only moves messages out of the worker's pipe. -/
theorem Worker.Grows.kick (x : Worker) : x.Grows (kick x).2 := by
  rw [(kick_eq x).1]
  exact ⟨List.prefix_refl _, List.prefix_refl _, fun _ => rfl, id⟩

/-- `W'` is world `W` later on in a run. -/
structure Extends (W W' : World) : Prop where
  workers : W.workers.length ≤ W'.workers.length
  worker : ∀ w, (W.worker w).Grows (W'.worker w)
  faulty : W.faulty.items ⊆ W'.faulty.items
  /-- A module that joined the blacklist was read from a message `parse` was given. -/
  modules : ∀ h ∈ W'.faulty.items,
    h ∈ W.faulty.items ∨ ∃ w, ∃ m ∈ (W'.worker w).parsed, moduleHash m = some h

namespace Extends

variable {W W' W'' : World} {i w : Nat}

theorem refl (W : World) : Extends W W :=
  ⟨le_rfl, fun _ => .refl _, fun _ => id, fun _ h => .inl h⟩

theorem trans (h₁ : Extends W W') (h₂ : Extends W' W'') : Extends W W'' where
  workers := h₁.workers.trans h₂.workers
  worker w := (h₁.worker w).trans (h₂.worker w)
  faulty := h₁.faulty.trans h₂.faulty
  modules h hh := by
    rcases h₂.modules h hh with hh | hnew
    · rcases h₁.modules h hh with hh | ⟨w, m, hm, hmod⟩
      exacts [.inl hh, .inr ⟨w, m, (h₂.worker w).parsed.subset hm, hmod⟩]
    · exact .inr hnew

/-- A step that changes neither the workers nor the blacklist. -/
theorem of_eq (hw : W'.workers = W.workers) (hf : W'.faulty = W.faulty) : Extends W W' := by
  have hx : ∀ w, W'.worker w = W.worker w := fun w => by simp only [World.worker, hw]
  refine ⟨(congrArg List.length hw).ge, fun w => hx w ▸ .refl _, hf ▸ fun _ => id,
    fun h hh => .inl (hf ▸ hh)⟩

theorem setSlot (W : World) (i : Nat) (s : Slot) : Extends W (W.setSlot i s) := of_eq rfl rfl

theorem withPhase (W : World) (p : Phase) : Extends W { W with phase := p } := of_eq rfl rfl

theorem setWorker {x : Worker} (hx : (W.worker w).Grows x) : Extends W (W.setWorker w x) := by
  by_cases hw : w < W.workers.length
  · refine ⟨by simp, fun v => ?_, fun _ => id, fun h hh => .inl hh⟩
    rw [W.worker_setWorker hw]
    split_ifs with hv
    exacts [hv ▸ hx, .refl _]
  · exact of_eq (List.set_eq_of_length_le (Nat.le_of_not_lt hw)) rfl

/-- Collecting from slot `i`'s pipe: what `parse` is given goes into the worker's log, and
the modules it names into the blacklist. -/
theorem collect {s : Slot} {x : Worker} {f : HashSet} (hw : w < W.workers.length)
    (c : Collect (W.slot i) (W.worker w) W.faulty s x f) :
    Extends W { (W.setSlot i s).setWorker w x with faulty := f } := by
  obtain ⟨ms, hp, -, -, rfl, -⟩ := c.parsed
  have hx : (W.worker w).Grows x := by
    rw [c.worker]
    exact ⟨List.prefix_refl _, hp ▸ List.prefix_append _ _, fun _ => rfl, id⟩
  have hW : Extends W ((W.setSlot i s).setWorker w x) := (setSlot W i s).trans (setWorker hx)
  have hxw : ((W.setSlot i s).setWorker w x).worker w = x :=
    by rw [World.worker_setWorker _ (by simpa using hw), if_pos rfl]
  refine ⟨hW.workers, hW.worker, fun _ hh => mem_blacklistAfter_of_mem ms hh, fun h hh => ?_⟩
  rcases mem_blacklistAfter_iff.mp hh with hh | ⟨m, hm, hmod⟩
  · exact .inl hh
  · refine .inr ⟨w, m, ?_, hmod⟩
    show m ∈ (((W.setSlot i s).setWorker w x).worker w).parsed
    rw [hxw, hp]
    exact List.mem_append_right _ hm

theorem collected (ho : Owners W) (hc : Collected i W W') : Extends W W' := by
  obtain ⟨w, s, x, f, hcw, -, rfl, c⟩ := hc
  exact collect (ho.owned i w ((ho.slotOk i).crash w hcw)).1 c

theorem processOnce (ho : Owners W) {b : Bool} (h : Supervisor.processOnce i W = some (b, W')) :
    Extends W W' := by
  rcases processOnce_cases h with ⟨rfl, -, -⟩ | ⟨w, s, x, f, hc, he, rfl, c, -⟩
  exacts [refl _, collected ho ⟨w, s, x, f, hc, he, rfl, c⟩]

theorem drain (ho : Owners W) {fuel : Nat} (h : Supervisor.drain fuel i W = some W') : Extends W W' := by
  rcases drain_collected ho h with rfl | hc
  exacts [refl _, collected ho hc]

theorem reap (W : World) (i w : Nat) : Extends W (W.reap i w) :=
  (setSlot W i _).trans ((setWorker (show ((W.setSlot i { W.slot i with process := none }).worker w).Grows
    { W.worker w with reaped := true } from ⟨List.prefix_refl _, List.prefix_refl _, fun _ => rfl,
      fun _ => rfl⟩)).trans (of_eq rfl rfl))

theorem processShutdown (ho : Owners W) {o : ShutdownOutcome} {b : Bool}
    (h : Supervisor.processShutdown i o W = some (b, W')) : Extends W W' := by
  obtain ⟨W₁, hdr, hr⟩ := processShutdown_cases h
  have h₁ := (drain ho hdr).trans (setSlot W₁ i (W₁.slot i).closeHandles)
  rcases hr with ⟨-, rfl, -⟩ | ⟨w, c, -, -, -, hdr'⟩
  · exact h₁
  refine h₁.trans ((reap _ i w).trans ?_)
  rcases decideRestart_cases hdr' with ⟨-, rfl⟩ | ⟨-, -, -, rfl, -⟩
  exacts [refl _, setSlot _ _ _]

theorem startedWorld (ord : IterationOrder) (W : World) (i : Nat) (s : Slot) :
    Extends W (Supervisor.startedWorld ord i s W) := by
  refine ⟨by simp [Supervisor.startedWorld], fun v => ?_, fun _ => id, fun h hh => .inl hh⟩
  rw [W.startedWorld_worker_eq ord]
  split_ifs with hv
  · rw [hv, show W.worker W.workers.length = { masked := [] } by simp [World.worker]]
    exact .of_new _
  · exact .refl _

theorem startChildProcess (ord : IterationOrder) {o : SpawnOutcome} {b : Bool}
    (h : Supervisor.startChildProcess ord i o W = (b, W')) : Extends W W' := by
  rcases startChildProcess_cases ord h with ⟨rfl, -⟩ | ⟨-, -, rfl⟩
  exacts [setSlot _ _ _, startedWorld ord _ _ _]

theorem restart (ord : IterationOrder) (i : Nat) (o : SpawnOutcome) (b : Bool) (W : World) :
    Extends W (Supervisor.restart ord i o (b, W)) := by
  cases b with
  | false => exact refl _
  | true =>
    rcases hs : Supervisor.startChildProcess ord i o W with ⟨b', W₂⟩
    unfold Supervisor.restart
    dsimp only
    rw [hs]
    cases b'
    exacts [(startChildProcess ord hs).trans (withPhase _ _), startChildProcess ord hs]

theorem sendLine {line : List Char} (h : Supervisor.sendLine w line W = some W') : Extends W W' := by
  rcases sendLine_cases h with ⟨-, rfl⟩ | ⟨-, -, rfl⟩
  exacts [refl _, setWorker ⟨List.prefix_refl _, List.prefix_refl _, fun _ => rfl, id⟩]

theorem finishSpawn {o : SpawnOutcome} {b : Bool} (hw : w < W.workers.length)
    (h : Supervisor.finishSpawn i w o W = (b, W')) : Extends W W' := by
  have hr : (W.worker w).Grows { W.worker w with reading := false } :=
    ⟨List.prefix_refl _, List.prefix_refl _, fun _ => rfl, id⟩
  rcases finishSpawn_cases hw h with ⟨-, -, rfl⟩ | ⟨r, x, -, hk, -, rfl⟩
  · exact setWorker hr
  · have hx := Worker.Grows.kick { W.worker w with reading := false }
    rw [hk] at hx
    exact (setSlot W i _).trans (setWorker (hr.trans hx))

theorem masterStep (ord : IterationOrder) (ho : Owners W) (hq : PendingOk W) {o : MasterOutcome}
    (h : Supervisor.masterStep ord o W = some W') : Extends W W' := by
  rcases masterStep_cases ord h with ⟨n, b, W₁, -, -, -, hsp, rfl⟩ | ⟨n, -, -, -, rfl⟩ | ⟨-, -, -, rfl⟩ |
    ⟨-, -, -, -, rfl⟩ | ⟨-, -, i₀, b, hpo⟩ | ⟨-, -, i₀, -, rfl⟩ | ⟨i₀, -, -, rfl⟩ |
    ⟨i₀, W₁, ⟨b, W₂⟩, ht, hsh, rfl⟩ | ⟨i₀, v, line, lines, W₁, -, hsl, rfl⟩ | ⟨i₀, v, b, W₁, hq₀, hfin, rfl⟩
  · have h₁ := (setSlot W n (W.assignRange n)).trans (startChildProcess ord hsp)
    cases b
    exacts [h₁.trans (withPhase _ _), h₁.trans (withPhase _ _)]
  · exact withPhase _ _
  · exact withPhase _ _
  · exact withPhase _ _
  · exact processOnce ho hpo
  · exact of_eq rfl rfl
  · exact of_eq rfl rfl
  · have h₁ : Owners W₁ ∧ Extends W W₁ := by
      rcases ht with ⟨-, -, rfl⟩ | ⟨v, -, -, ht⟩
      · exact ⟨ho, refl _⟩
      · obtain ⟨hx, rfl⟩ := terminate_eq ht
        have h₀ : Extends W { W with pending := .idle } := of_eq rfl rfl
        exact ⟨(ho.withPending _).setWorker rfl, h₀.trans (setWorker ⟨List.prefix_refl _,
          List.prefix_refl _, (fun h => by rw [hx] at h; cases h), id⟩)⟩
    exact h₁.2.trans ((processShutdown h₁.1 hsh).trans (restart ord i₀ o.spawn b W₂))
  · exact (sendLine hsl).trans (of_eq rfl rfl)
  · have h₀ : Extends W { W with pending := .idle } := of_eq rfl rfl
    have hv : v < ({ W with pending := .idle } : World).workers.length := hq.worker_lt ho hq₀
    have h₁ := h₀.trans (finishSpawn hv hfin)
    cases b
    exacts [h₁.trans (withPhase _ _), h₁]

/-- Every step of a run, the supervisor's or its workers', extends the world. -/
theorem step (ord : IterationOrder) (ho : Owners W) (hq : PendingOk W) {e : Event}
    (h : Supervisor.step ord e W = some W') : Extends W W' := by
  rcases step_cases ord h with ⟨o, hs⟩ | ⟨w, m, -, -, -, -, rfl⟩ | ⟨w, c, -, hx, -, rfl⟩ |
    ⟨i, w, e, r, x, -, -, -, ha, rfl⟩ | ⟨i, -, rfl⟩
  · exact masterStep ord ho hq hs
  · exact setWorker ⟨List.prefix_append _ _, List.prefix_refl _, fun _ => rfl, id⟩
  · exact setWorker ⟨List.prefix_refl _, List.prefix_refl _, (fun h => by rw [hx] at h; cases h), id⟩
  · refine (setSlot W i _).trans (setWorker ?_)
    rw [(Worker.answer_eq ha).1]
    exact ⟨List.prefix_refl _, List.prefix_refl _, fun _ => rfl, id⟩
  · exact setSlot W i _

end Extends

section Runs

variable (ord : IterationOrder) {W W' : World}

/-- In every world a run reaches, `Global::faulty_spirv_modules` is exactly the set of the
hashes the `MODULE` messages `parse` was given name: every module a worker reported and the
supervisor read is in it, and nothing else ever is. -/
theorem faulty_modules_are_parsed_modules (hR : Reach ord W) (h : Hash) :
    h ∈ W.faulty.items ↔ ∃ w, ∃ m ∈ (W.worker w).parsed, moduleHash m = some h := by
  refine ⟨fun hh => ?_, fun ⟨w, m, hm, hmod⟩ => (delivery_reach ord hR).1.modules w m hm h hmod⟩
  induction hR with
  | initial => cases hh
  | step e hR hs ih =>
    have hE := Extends.step ord (bookkeeping_reach ord hR).1 (bookkeeping_reach ord hR).2.2 hs
    rcases hE.modules h hh with hh | hnew
    · obtain ⟨w, m, hm, hmod⟩ := ih hh
      exact ⟨w, m, (hE.worker w).parsed.subset hm, hmod⟩
    · exact hnew

/-- The blacklist after `crashRun` holds the module `5` its worker reported. -/
theorem crashed_world_faulty_five :
    Reach IterationOrder.insertion crashedWorld ∧
      (5 ∈ crashedWorld.faulty.items ↔
        ∃ w, ∃ m ∈ (crashedWorld.worker w).parsed, moduleHash m = some 5) :=
  ⟨reach_crashedWorld, faulty_modules_are_parsed_modules _ reach_crashedWorld 5⟩

/-- When the wait loop of `run_master_process` ends with `EXIT_SUCCESS`, in any run, no slot
holds a worker, and every worker started has been reaped: it has exited and, if every
message it wrote fits the read buffer, `parse` was given exactly those messages, in order. -/
theorem exit_success_reaps_every_worker (hR : Reach ord W) (hx : W.phase = .exited true) :
    (∀ i, (W.slot i).process = none) ∧
      ∀ w < W.workers.length, (W.worker w).reaped = true ∧ (W.worker w).exitCode.isSome ∧
        ((∀ m ∈ (W.worker w).wrote, m.length < 1024) → (W.worker w).parsed = (W.worker w).wrote) := by
  obtain ⟨ho, hp⟩ := invariants_reach ord hR
  have hnone : ∀ i, (W.slot i).process = none := by
    have hz : W.slots.countP (·.process.isSome) = 0 := ho.active ▸ hp.done hx
    intro i
    by_cases hi : i < W.slots.length
    · have := List.countP_eq_zero.mp hz W.slots[i] (List.getElem_mem hi)
      simpa [World.slot, hi] using this
    · rw [W.slot_of_le (Nat.le_of_not_lt hi)]
  refine ⟨hnone, fun w hw => ?_⟩
  have hr : (W.worker w).reaped = true := by
    by_contra hr
    obtain ⟨i, hi⟩ := ho.unreaped w hw (by simpa using hr)
    rw [hnone i] at hi
    cases hi
  exact ⟨hr, (delivery_reach ord hR).1.reaped w hr⟩

/-- In every world a run reaches, no worker is lost or shared: a slot holds only a worker that
was started and is not reaped, no two slots hold the same one, and every started worker not
yet reaped is held by a slot, which will reap it. -/
theorem workers_held_once (hR : Reach ord W) :
    (∀ i w, (W.slot i).process = some w → w < W.workers.length ∧ (W.worker w).reaped = false) ∧
    (∀ i j w, (W.slot i).process = some w → (W.slot j).process = some w → i = j) ∧
    (∀ w < W.workers.length, (W.worker w).reaped = false → ∃ i, (W.slot i).process = some w) :=
  have ho := (invariants_reach ord hR).1
  ⟨ho.owned, ho.unique, ho.unreaped⟩

/-- In every world a run reaches before `log_and_die`, a slot that reads the pipe of worker
`w` holds `w`, and the overlapped reads of `process_once` and `kick_overlapped_io` lose,
repeat and reorder nothing: the messages `parse` was given, then the one read but not yet
collected, then those still in the pipe, are the messages `w` wrote. The slot's progress
fields are the last `GRAPHICS` and `COMPUTE` reports among those parsed. -/
theorem pipe_delivers_in_order (hR : Reach ord W) (_hx : W.phase ≠ .exited false) {i w : Nat}
    (hc : (W.slot i).crashFile = some w) :
    (W.slot i).process = some w ∧
      (W.worker w).parsed ++ (W.slot i).read.inFlight ++ (W.worker w).pipe = (W.worker w).wrote ∧
      (W.slot i).graphicsProgress = lastReport "GRAPHICS".toList (-1) (W.worker w).parsed ∧
      (W.slot i).computeProgress = lastReport "COMPUTE".toList (-1) (W.worker w).parsed := by
  have hd := (delivery_reach ord hR).1
  have hp := ((invariants_reach ord hR).1.slotOk i).crash w hc
  exact ⟨hp, hd.fifo i w hc, hd.progress i w hp⟩

end Runs

/-! ## Where the slots' ranges end

The spawning loop gives slot `i` its share of the pipelines; afterwards only the start
indices move: `process_shutdown` restarts a slot where its worker last reported, and
`start_child_process` keeps the ranges it is given.
-/

/-- Where a slot's ranges end. -/
def Slot.ends (s : Slot) : UInt32 × UInt32 := (s.endGraphicsIndex, s.endComputeIndex)

/-- `W'` has the slots of `W` over the same pipelines, each ending its ranges where it did. -/
structure SameEnds (W W' : World) : Prop where
  length : W'.slots.length = W.slots.length
  graphics : W'.numGraphicsPipelines = W.numGraphicsPipelines
  compute : W'.numComputePipelines = W.numComputePipelines
  ends : ∀ i, (W'.slot i).ends = (W.slot i).ends

namespace SameEnds

variable (ord : IterationOrder) {W W₁ W' : World} {i : Nat}

theorem refl (W : World) : SameEnds W W := ⟨rfl, rfl, rfl, fun _ => rfl⟩

theorem trans (h₁ : SameEnds W W₁) (h₂ : SameEnds W₁ W') : SameEnds W W' :=
  ⟨h₂.length.trans h₁.length, h₂.graphics.trans h₁.graphics, h₂.compute.trans h₁.compute,
    fun i => (h₂.ends i).trans (h₁.ends i)⟩

theorem setSlot (W : World) {s : Slot} (h : s.ends = (W.slot i).ends) : SameEnds W (W.setSlot i s) := by
  refine ⟨W.length_setSlot, rfl, rfl, fun j => ?_⟩
  by_cases hi : i < W.slots.length
  · rw [W.slot_setSlot hi]
    split_ifs with hj
    exacts [hj ▸ h, rfl]
  · rw [W.setSlot_of_le _ (Nat.le_of_not_lt hi)]

theorem setWorker (W : World) (w : Nat) (x : Worker) : SameEnds W (W.setWorker w x) :=
  ⟨rfl, rfl, rfl, fun _ => rfl⟩

theorem withPhase (W : World) (p : Phase) : SameEnds W { W with phase := p } := ⟨rfl, rfl, rfl, fun _ => rfl⟩

theorem reap (W : World) (i w : Nat) : SameEnds W (W.reap i w) :=
  (setSlot W (show Slot.ends { W.slot i with process := none } = (W.slot i).ends from rfl)).trans
    ⟨rfl, rfl, rfl, fun _ => rfl⟩

theorem collected (hc : Collected i W W') : SameEnds W W' := by
  obtain ⟨w, s, x, f, -, -, rfl, c⟩ := hc
  exact (setSlot W ((congrArg Slot.ends c.slot).trans rfl)).trans ⟨rfl, rfl, rfl, fun _ => rfl⟩

theorem drain {fuel : Nat} (ho : Owners W) (h : Supervisor.drain fuel i W = some W') : SameEnds W W' :=
  (drain_collected ho h).elim (fun h => h ▸ refl W) collected

theorem processShutdown {o : ShutdownOutcome} {b : Bool} (ho : Owners W)
    (h : Supervisor.processShutdown i o W = some (b, W')) : SameEnds W W' := by
  obtain ⟨W₁, hdr, hr⟩ := processShutdown_cases h
  have h₁ := (drain ho hdr).trans
    (setSlot W₁ (show Slot.ends (W₁.slot i).closeHandles = (W₁.slot i).ends from rfl))
  rcases hr with ⟨-, rfl, -⟩ | ⟨w, c, -, -, -, hd⟩
  · exact h₁
  · refine h₁.trans ((reap _ i w).trans ?_)
    rcases decideRestart_cases hd with ⟨-, rfl⟩ | ⟨-, -, -, rfl, -⟩
    exacts [refl _, setSlot _ rfl]

theorem startedWorld {s : Slot} (h : s.ends = (W.slot i).ends) :
    SameEnds W (Supervisor.startedWorld ord i s W) := by
  have h₁ : SameEnds W (W.setSlot i
      { s with process := some W.workers.length, crashFile := some W.workers.length,
               pipeEvent := none, read := .failed }) := setSlot W h
  exact ⟨h₁.length, rfl, rfl, h₁.ends⟩

theorem startChildProcess {o : SpawnOutcome} {b : Bool}
    (h : Supervisor.startChildProcess ord i o W = (b, W')) : SameEnds W W' := by
  rcases startChildProcess_cases ord h with ⟨rfl, -⟩ | ⟨-, -, rfl⟩
  exacts [setSlot W rfl, startedWorld ord rfl]

theorem restart (i : Nat) (o : SpawnOutcome) (b : Bool) (W : World) :
    SameEnds W (Supervisor.restart ord i o (b, W)) := by
  cases b with
  | false => exact refl W
  | true =>
    rcases hs : Supervisor.startChildProcess ord i o W with ⟨_ | _, W₂⟩ <;>
      simp only [Supervisor.restart, hs]
    exacts [(startChildProcess ord hs).trans ⟨rfl, rfl, rfl, fun _ => rfl⟩, startChildProcess ord hs]

theorem sendLine {line : List Char} (h : Supervisor.sendLine w line W = some W') : SameEnds W W' := by
  rcases sendLine_cases h with ⟨-, rfl⟩ | ⟨-, -, rfl⟩
  exacts [refl _, setWorker _ _ _]

theorem finishSpawn {o : SpawnOutcome} {b : Bool} (hw : w < W.workers.length)
    (h : Supervisor.finishSpawn i w o W = (b, W')) : SameEnds W W' := by
  rcases finishSpawn_cases hw h with ⟨-, -, rfl⟩ | ⟨r, x, -, -, -, rfl⟩
  · exact setWorker W _ _
  · exact (setSlot W (show Slot.ends { W.slot i with pipeEvent := some r.isCompleted, read := r } = _
      from rfl)).trans (setWorker _ _ _)

/-- A step of the wait loop, or of a send or a `TerminateProcess` it started, keeps where every
slot's ranges end. -/
theorem waiting {o : MasterOutcome} (ho : Owners W) (hq : PendingOk W) (hph : W.phase = .waiting)
    (hs : masterStep ord o W = some W') : SameEnds W W' := by
  rcases masterStep_cases ord hs with ⟨n, -, -, hph', -⟩ | ⟨n, hph', -⟩ | ⟨-, -, -, rfl⟩ | ⟨-, -, -, -, rfl⟩ |
    ⟨-, -, i₀, b, hpo⟩ | ⟨-, -, i₀, -, rfl⟩ | ⟨i₀, -, -, rfl⟩ | ⟨i₀, W₁, ⟨b, W₂⟩, ht, hsh, rfl⟩ |
    ⟨i₀, v, line, lines, W₁, -, hsl, rfl⟩ | ⟨i₀, v, b, W₁, hq₀, hfin, rfl⟩
  · rw [hph] at hph'; cases hph'
  · rw [hph] at hph'; cases hph'
  · exact withPhase W _
  · exact withPhase W _
  · rcases processOnce_cases hpo with ⟨rfl, -⟩ | ⟨w, s, x, f, hc, he, hW, c, -⟩
    exacts [refl _, collected ⟨w, s, x, f, hc, he, hW, c⟩]
  · exact ⟨rfl, rfl, rfl, fun _ => rfl⟩
  · exact ⟨rfl, rfl, rfl, fun _ => rfl⟩
  · have h₁ : SameEnds W W₁ ∧ Owners W₁ := by
      rcases ht with ⟨-, -, rfl⟩ | ⟨v, -, -, ht⟩
      · exact ⟨refl _, ho⟩
      · obtain ⟨-, rfl⟩ := terminate_eq ht
        exact ⟨⟨rfl, rfl, rfl, fun _ => rfl⟩, (ho.withPending _).setWorker rfl⟩
    exact h₁.1.trans ((processShutdown h₁.2 hsh).trans (restart ord i₀ _ b W₂))
  · exact (sendLine hsl).trans ⟨rfl, rfl, rfl, fun _ => rfl⟩
  · have hv : v < ({ W with pending := .idle } : World).workers.length := hq.worker_lt ho hq₀
    have h₁ : SameEnds W W₁ :=
      (show SameEnds W { W with pending := .idle } from ⟨rfl, rfl, rfl, fun _ => rfl⟩).trans (finishSpawn hv hfin)
    cases b
    exacts [h₁.trans ⟨rfl, rfl, rfl, fun _ => rfl⟩, h₁]

end SameEnds

/-- Every slot the spawning loop has given its share, until `log_and_die`, ends its ranges
where `run_master_process` put them. -/
def EndsAssigned (W : World) : Prop :=
  ∀ i < W.slots.length, (∀ n, W.phase = .spawning n → i < n) → W.phase ≠ .exited false →
    (W.slot i).ends = (W.assignRange i).ends

section Ends

variable (ord : IterationOrder) {W W' : World}

theorem SameEnds.assignRange (h : SameEnds W W') (i : Nat) : (W'.assignRange i).ends = (W.assignRange i).ends := by
  simp only [World.assignRange, Slot.ends, h.length, h.graphics, h.compute]

/-- A world whose every slot has its share passes it on to the worlds with its ends. -/
theorem EndsAssigned.of_all (h : SameEnds W W') (hall : ∀ i < W.slots.length, (W.slot i).ends = (W.assignRange i).ends) :
    EndsAssigned W' := fun i hi _ _ => by
  rw [h.ends i, h.assignRange i]
  exact hall i (h.length ▸ hi)

theorem EndsAssigned.of_phase (h : SameEnds W W') (hph : W'.phase = W.phase) (ha : EndsAssigned W) :
    EndsAssigned W' := fun i hi hs hx => by
  rw [h.ends i, h.assignRange i]
  exact ha i (h.length ▸ hi) (hph ▸ hs) (hph ▸ hx)

theorem World.assignRange_setSlot (W : World) (i j : Nat) (s : Slot) :
    ((W.setSlot j s).assignRange i).ends = (W.assignRange i).ends := by
  simp only [World.assignRange, Slot.ends, World.length_setSlot]
  rfl

theorem endsAssigned_masterStep {o : MasterOutcome} (ho : Owners W) (hq : PendingOk W) (ha : EndsAssigned W)
    (hs : masterStep ord o W = some W') : EndsAssigned W' := by
  by_cases hw : W.phase = .waiting
  · exact EndsAssigned.of_all (SameEnds.waiting ord ho hq hw hs) fun i hi => ha i hi
      (fun m hm => by rw [hw] at hm; cases hm) (by rw [hw]; simp)
  rcases masterStep_cases ord hs with ⟨n, b, W₁, hph, -, hn, hsp, rfl⟩ | ⟨n, hph, -, hn, rfl⟩ |
    ⟨hph, -⟩ | ⟨hph, -⟩ | ⟨hph, -⟩ | ⟨hph, -⟩ | ⟨i₀, -, -, rfl⟩ | ⟨i₀, W₁, r, ht, -⟩ |
    ⟨i₀, v, line, lines, W₁, -, hsl, rfl⟩ | ⟨i₀, v, b, W₁, hq₀, hfin, rfl⟩
  · -- a turn of the spawning loop gives slot `n` its share
    cases b
    · exact fun _ _ _ hx => absurd rfl hx
    have h₁ := SameEnds.startChildProcess ord hsp
    refine fun i hi hs _ => (show (W₁.slot i).ends = (W₁.assignRange i).ends from ?_)
    rw [h₁.ends i, h₁.assignRange i, W.assignRange_setSlot]
    rcases Nat.lt_succ_iff_lt_or_eq.mp (hs _ rfl) with hlt | rfl
    · rw [World.slot_setSlot_ne _ hlt.ne]
      refine ha i (by simpa [h₁.length] using hi) (fun m hm => ?_) (by rw [hph]; simp)
      rw [hph] at hm
      cases hm
      exact hlt
    · rw [World.slot_setSlot_self _ hn]
  · refine EndsAssigned.of_all (SameEnds.withPhase W .waiting) fun i hi => ha i hi (fun m hm => ?_)
      (by rw [hph]; simp)
    rw [hph] at hm
    cases hm
    omega
  iterate 4 exact absurd hph hw
  · exact fun _ _ _ hx => absurd rfl hx
  · rcases ht with ⟨hph, -⟩ | ⟨v, hq₀, -⟩
    exacts [absurd hph hw, absurd (hq.terminate i₀ hq₀).1 hw]
  · rcases sendLine_cases hsl with ⟨-, rfl⟩ | ⟨-, -, rfl⟩ <;>
      exact EndsAssigned.of_phase ⟨rfl, rfl, rfl, fun _ => rfl⟩ rfl ha
  · cases b
    · exact fun _ _ _ hx => absurd rfl hx
    have hv : v < ({ W with pending := .idle } : World).workers.length := hq.worker_lt ho hq₀
    exact EndsAssigned.of_phase ((show SameEnds W { W with pending := .idle } from ⟨rfl, rfl, rfl, fun _ => rfl⟩).trans
      (SameEnds.finishSpawn hv hfin)) (finishSpawn_frame hv hfin).1 ha

theorem endsAssigned_step {e : Event} (ho : Owners W) (hq : PendingOk W) (ha : EndsAssigned W)
    (hs : step ord e W = some W') : EndsAssigned W' := by
  rcases step_cases ord hs with ⟨o, hm⟩ | ⟨w, m, -, -, -, -, rfl⟩ | ⟨w, c, -, -, -, rfl⟩ |
    ⟨i, w, e, r, x, -, -, -, -, rfl⟩ | ⟨i, -, rfl⟩
  · exact endsAssigned_masterStep ord ho hq ha hm
  · exact EndsAssigned.of_phase (SameEnds.setWorker W _ _) rfl ha
  · exact EndsAssigned.of_phase (SameEnds.setWorker W _ _) rfl ha
  · exact EndsAssigned.of_phase ((SameEnds.setSlot W (show Slot.ends { W.slot i with read := r, pipeEvent := some true } = _
      from rfl)).trans (SameEnds.setWorker _ _ _)) rfl ha
  · exact EndsAssigned.of_phase (SameEnds.setSlot W rfl) rfl ha

theorem endsAssigned_reach (hR : Reach ord W) : EndsAssigned W := by
  induction hR with
  | initial g c n => exact fun i _ hs _ => absurd (hs 0 rfl) (Nat.not_lt_zero i)
  | step e hR hs ih => exact endsAssigned_step ord (bookkeeping_reach ord hR).1 (bookkeeping_reach ord hR).2.2 ih hs

/-- In every world a run reaches, until `log_and_die`, each slot the spawning loop has passed
ends its graphics and compute ranges where `run_master_process` assigned them: restarts after
a crash move only where a slot starts. -/
theorem slot_ranges_end_where_assigned (hR : Reach ord W) {i : Nat} (hi : i < W.slots.length)
    (hs : ∀ n, W.phase = .spawning n → i < n) (hx : W.phase ≠ .exited false) :
    (W.slot i).endGraphicsIndex = (W.assignRange i).endGraphicsIndex ∧
      (W.slot i).endComputeIndex = (W.assignRange i).endComputeIndex :=
  Prod.mk.inj_iff.mp (endsAssigned_reach ord hR i hi hs hx)

end Ends

/-- The worker of `crashRun` is held by slot `0` alone. -/
theorem crashed_world_holds_its_worker :
    Reach IterationOrder.insertion crashedWorld ∧ (crashedWorld.slot 0).process = some 0 ∧
      ((∀ i w, (crashedWorld.slot i).process = some w →
          w < crashedWorld.workers.length ∧ (crashedWorld.worker w).reaped = false) ∧
        (∀ i j w, (crashedWorld.slot i).process = some w → (crashedWorld.slot j).process = some w → i = j) ∧
        (∀ w < crashedWorld.workers.length, (crashedWorld.worker w).reaped = false →
          ∃ i, (crashedWorld.slot i).process = some w)) :=
  ⟨reach_crashedWorld, by rfl, workers_held_once _ reach_crashedWorld⟩

/-- Slot `0` of `crashedWorld` reads the pipe of the worker that wrote four messages. -/
theorem crashed_world_pipe_in_order :
    Reach IterationOrder.insertion crashedWorld ∧ crashedWorld.phase ≠ .exited false ∧
      (crashedWorld.slot 0).crashFile = some 0 ∧ (crashedWorld.worker 0).wrote.length = 4 ∧
      ((crashedWorld.slot 0).process = some 0 ∧
        (crashedWorld.worker 0).parsed ++ (crashedWorld.slot 0).read.inFlight ++ (crashedWorld.worker 0).pipe =
          (crashedWorld.worker 0).wrote ∧
        (crashedWorld.slot 0).graphicsProgress =
          lastReport "GRAPHICS".toList (-1) (crashedWorld.worker 0).parsed ∧
        (crashedWorld.slot 0).computeProgress = lastReport "COMPUTE".toList (-1) (crashedWorld.worker 0).parsed) :=
  ⟨reach_crashedWorld, by decide, by rfl, by rfl,
    pipe_delivers_in_order _ reach_crashedWorld (by decide) (by rfl)⟩

/-- One slot, over one graphics and one compute pipeline: its worker is started and exits
with code `0`, and the supervisor reaps it and ends. -/
def cleanRun : List Event := [.master {}, .master {}, .master {}, .exit 0 0, .master {}, .master {}]

def finishedWorld : World :=
  (run IterationOrder.insertion cleanRun (World.initial 1 1 1)).getD (World.initial 1 1 1)

theorem reach_finishedWorld : Reach IterationOrder.insertion finishedWorld :=
  @reach_run _ cleanRun _ _ (.initial 1 1 1) (by rfl)

theorem clean_run_reaps_its_worker :
    Reach IterationOrder.insertion finishedWorld ∧ finishedWorld.phase = .exited true ∧
      finishedWorld.workers.length = 1 ∧
      ((∀ i, (finishedWorld.slot i).process = none) ∧
        ∀ w < finishedWorld.workers.length, (finishedWorld.worker w).reaped = true ∧
          (finishedWorld.worker w).exitCode.isSome ∧
          ((∀ m ∈ (finishedWorld.worker w).wrote, m.length < 1024) →
            (finishedWorld.worker w).parsed = (finishedWorld.worker w).wrote)) :=
  ⟨reach_finishedWorld, by rfl, by rfl,
    exit_success_reaps_every_worker _ reach_finishedWorld (by rfl)⟩

/-- Slot `0` after the crash of `crashedWorld`, restarted with a new worker, ends where it was
assigned. -/
theorem respawned_slot_ends_where_assigned :
    Reach IterationOrder.insertion respawnedWorld ∧ respawnedWorld.phase = .waiting ∧
      (respawnedWorld.slot 0).process = some 1 ∧
      ((respawnedWorld.slot 0).endGraphicsIndex = (respawnedWorld.assignRange 0).endGraphicsIndex ∧
        (respawnedWorld.slot 0).endComputeIndex = (respawnedWorld.assignRange 0).endComputeIndex) :=
  have hR : Reach IterationOrder.insertion respawnedWorld := .step (.master {}) reach_crashedWorld (by rfl)
  have hph : respawnedWorld.phase = .waiting := by rfl
  ⟨hR, hph, by rfl, slot_ranges_end_where_assigned _ hR (by decide) (fun n h => by rw [hph] at h; cases h)
    (by rw [hph]; simp)⟩

end Fossilize.Supervisor
