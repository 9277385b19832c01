import Fossilize.Supervisor.Runs

/-! # Where the supervisor and its workers wait

A step may wait in `WaitForMultipleObjects`, `GetOverlappedResult`, `WaitForSingleObject`,
`FlushFileBuffers` and, in `parse`, `WaitForSingleObject(shared_mutex)` (not modelled).
-/

namespace Fossilize.Supervisor

/-! ## A signalled pipe event holds a finished read -/

/-- What a slot's pipe event says of its read: it is signalled only once the read has
finished, and it is left reset over a finished read only for a message that did not fit the
buffer, after which `process_once` issues no new read. -/
structure Slot.EventOk (s : Slot) : Prop where
  signalled : s.pipeEvent = some true → s.read ≠ .pending
  overflow : ∀ m, s.pipeEvent = some false → s.read = .completed m → 1024 ≤ m.length

/-- Every slot's pipe event agrees with its read. -/
def Events (W : World) : Prop := ∀ i, (W.slot i).EventOk

section Preservation

variable {W W' : World} {i w : Nat} {s : Slot}

theorem Events.of_slots (h : Events W) (hs : W'.slots = W.slots) : Events W' := fun i => by
  simpa only [World.slot, hs] using h i

theorem Events.setSlot (h : Events W) (i : Nat) (s : Slot) (hs : s.EventOk) : Events (W.setSlot i s) :=
  fun j => by
    by_cases hi : i < W.slots.length
    · rw [W.slot_setSlot hi]; split_ifs
      exacts [hs, h j]
    · rw [W.setSlot_of_le s (Nat.le_of_not_lt hi)]; exact h j

/-- A slot with no pipe event. -/
theorem Slot.eventOk_of_none (h : s.pipeEvent = none) : s.EventOk :=
  ⟨fun he => (by rw [h] at he; cases he), fun _ he => (by rw [h] at he; cases he)⟩

/-- A slot whose event `kick_overlapped_io` just set from the read it issued. -/
theorem Slot.eventOk_kicked (s : Slot) (r : ReadState) :
    ({ s with read := r, pipeEvent := some r.isCompleted } : Slot).EventOk :=
  ⟨fun h => by cases r <;> simp_all [ReadState.isCompleted],
    fun _ h => by cases r <;> simp_all [ReadState.isCompleted]⟩

theorem Events.reap (h : Events W) (i w : Nat) : Events (W.reap i w) :=
  (h.setSlot i { W.slot i with process := none } ⟨(h i).1, (h i).2⟩).of_slots rfl

theorem Events.processOnce (h : Events W) {b : Bool} (hp : Supervisor.processOnce i W = some (b, W')) :
    Events W' := by
  unfold Supervisor.processOnce at hp
  split at hp
  · cases hp; exact h
  · cases hp; exact h
  obtain ⟨⟨r, x⟩, -, hp⟩ := Option.bind_eq_some.mp hp
  dsimp only at hp
  split at hp
  · split_ifs at hp with hlen
    · cases hp
      exact (h.setSlot i _ (Slot.eventOk_kicked _ _)).of_slots rfl
    · -- the message does not fit: the event stays reset over it
      cases hp
      refine (h.setSlot i _ ⟨fun he => (by cases he), fun m' _ hm => ?_⟩).of_slots rfl
      cases hm
      omega
  · cases hp
    rename_i hr
    exact (h.setSlot i _ ⟨fun he => (by cases he), fun m _ hm => (hr m hm).elim⟩).of_slots rfl

theorem Events.drain : ∀ {fuel : Nat} {W W' : World}, Events W → Supervisor.drain fuel i W = some W' →
    Events W'
  | 0, _, _, _, hd => by cases hd
  | fuel + 1, _, _, h, hd => by
    obtain ⟨⟨b, W₁⟩, h₁, hd⟩ := Option.bind_eq_some.mp hd
    have e₁ := h.processOnce h₁
    cases b
    · cases hd; exact e₁
    · exact Events.drain e₁ hd

theorem Events.processShutdown (h : Events W) {o : ShutdownOutcome} {b : Bool}
    (hs : Supervisor.processShutdown i o W = some (b, W')) : Events W' := by
  obtain ⟨W₁, hdr, hr⟩ := processShutdown_cases hs
  have e₁ : Events (W₁.setSlot i (W₁.slot i).closeHandles) :=
    (h.drain hdr).setSlot i _ (Slot.eventOk_of_none rfl)
  rcases hr with ⟨-, rfl, -⟩ | ⟨w, c, -, -, -, hdr'⟩
  · exact e₁
  have e₂ := e₁.reap i w
  rcases decideRestart_cases hdr' with ⟨-, rfl⟩ | ⟨-, -, -, rfl, -⟩
  exacts [e₂, e₂.setSlot i _ ⟨(e₂ i).1, (e₂ i).2⟩]

theorem Events.startChildProcess (h : Events W) (ord : IterationOrder) {o : SpawnOutcome} {b : Bool}
    (hs : Supervisor.startChildProcess ord i o W = (b, W')) : Events W' := by
  rcases startChildProcess_cases ord hs with ⟨rfl, -⟩ | ⟨-, -, rfl⟩
  · exact h.setSlot i _ ⟨(h i).1, (h i).2⟩
  · exact (h.setSlot i _ (Slot.eventOk_of_none rfl)).of_slots rfl

theorem Events.restart (h : Events W) (ord : IterationOrder) (i : Nat) (o : SpawnOutcome) (b : Bool) :
    Events (Supervisor.restart ord i o (b, W)) := by
  rcases restart_cases ord i o b W with hr | ⟨b', W₂, -, hs, hsl, -⟩
  · rw [hr]; exact h
  · exact (h.startChildProcess ord hs).of_slots hsl

theorem Events.finishSpawn (h : Events W) {o : SpawnOutcome} {b : Bool} (hw : w < W.workers.length)
    (hs : Supervisor.finishSpawn i w o W = (b, W')) : Events W' := by
  rcases finishSpawn_cases hw hs with ⟨-, -, rfl⟩ | ⟨r, x, -, -, -, rfl⟩
  · exact h.of_slots rfl
  · exact (h.setSlot i _ (Slot.eventOk_kicked _ r)).of_slots rfl

theorem Events.masterStep (h : Events W) (ord : IterationOrder) (ho : Owners W) (hq : PendingOk W)
    {o : MasterOutcome} (hs : Supervisor.masterStep ord o W = some W') : Events W' := by
  rcases masterStep_cases ord hs with ⟨n, b, W₁, -, -, -, hsp, rfl⟩ | ⟨n, -, -, -, rfl⟩ |
    ⟨-, -, -, rfl⟩ | ⟨-, -, -, -, rfl⟩ | ⟨-, -, i₀, b, hpo⟩ | ⟨-, -, i₀, -, rfl⟩ | ⟨i₀, -, -, rfl⟩ |
    ⟨i₀, W₁, ⟨b, W₂⟩, ht, hsh, rfl⟩ | ⟨i₀, v, line, lines, W₁, -, hsl, rfl⟩ | ⟨i₀, v, b, W₁, hq₀, hfin, rfl⟩
  · have e₁ := (h.setSlot n (W.assignRange n) ⟨(h n).1, (h n).2⟩).startChildProcess ord hsp
    cases b <;> exact e₁.of_slots rfl
  iterate 3 exact h.of_slots rfl
  · exact h.processOnce hpo
  iterate 2 exact h.of_slots rfl
  · have e₁ : Events W₁ := by
      rcases ht with ⟨-, -, rfl⟩ | ⟨v, -, -, ht⟩
      · exact h
      · obtain ⟨-, rfl⟩ := terminate_eq ht
        exact h.of_slots rfl
    exact (e₁.processShutdown hsh).restart ord i₀ o.spawn b
  · rcases sendLine_cases hsl with ⟨-, rfl⟩ | ⟨-, -, rfl⟩ <;> exact h.of_slots rfl
  · have e₀ : Events ({ W with pending := .idle } : World) := h.of_slots rfl
    have hv : v < ({ W with pending := .idle } : World).workers.length := hq.worker_lt ho hq₀
    have e₁ : Events W₁ := e₀.finishSpawn hv hfin
    cases b <;> exact e₁.of_slots rfl

theorem Events.step (h : Events W) (ord : IterationOrder) (ho : Owners W) (hq : PendingOk W) {e : Event}
    (hs : Supervisor.step ord e W = some W') : Events W' := by
  rcases step_cases ord hs with ⟨o, hs⟩ | ⟨w, m, -, -, -, -, rfl⟩ | ⟨w, c, -, -, -, rfl⟩ |
    ⟨i, w, e, r, x, -, -, -, ha, rfl⟩ | ⟨i, -, rfl⟩
  · exact h.masterStep ord ho hq hs
  · exact h.of_slots rfl
  · exact h.of_slots rfl
  · exact (h.setSlot i _ ⟨fun _ =>
      settle_ne_pending (show settle .pending (W.worker w) = some (r, x) from ha), fun _ he => by cases he⟩).of_slots rfl
  · exact h.setSlot i _ ⟨(h i).1, (h i).2⟩

theorem events_reach (ord : IterationOrder) (hR : Reach ord W) : Events W := by
  induction hR with
  | initial g c n =>
    intro i
    simp only [World.slot, World.initial, List.getD_eq_getElem?_getD, List.getElem?_replicate]
    split_ifs <;> exact Slot.eventOk_of_none rfl
  | step e hR hs ih => exact ih.step ord (bookkeeping_reach ord hR).1 (bookkeeping_reach ord hR).2.2 hs

end Preservation

/-! ## The pipe of a worker that has exited -/

section Pipes

variable {W W' : World} {i w : Nat}

@[simp] theorem World.slot_withFaulty (W : World) (f : HashSet) (i : Nat) :
    ({ W with faulty := f } : World).slot i = W.slot i := rfl

@[simp] theorem World.worker_withFaulty (W : World) (f : HashSet) (w : Nat) :
    ({ W with faulty := f } : World).worker w = W.worker w := rfl

/-- `GetOverlappedResult(…, TRUE)` waits only on a pending read of the empty pipe of a
running worker. -/
theorem settle_eq_none {r : ReadState} {x : Worker} :
    settle r x = none ↔ r = .pending ∧ x.pipe = [] ∧ x.exitCode = none := by
  cases r with
  | pending =>
    rcases x with ⟨masked, reading, _ | ⟨m, pipe⟩, wrote, parsed, _ | c, reaped⟩ <;> simp [settle, Worker.answer]
  | _ => simp [settle]

/-- The read a turn of the loop takes from the pipe, and what is left there. -/
theorem settle_pipe {r r' : ReadState} {x x' : Worker} (h : settle r x = some (r', x')) :
    x'.pipe.length ≤ x.pipe.length ∧ x'.exitCode = x.exitCode := by
  obtain ⟨hx, hfifo⟩ := settle_eq h
  refine ⟨?_, by rw [hx]⟩
  cases r with
  | pending =>
    have hlen := congrArg List.length hfifo
    simp only [List.length_append, congrArg Worker.parsed hx, ReadState.inFlight] at hlen
    simp only [List.length_nil] at hlen
    omega
  | _ => cases h; exact le_rfl

/-- The new read on the pipe of a worker that has exited finishes: with the oldest message,
which leaves the pipe, or broken. -/
theorem kick_pipe {x : Worker} (hx : x.exitCode.isSome) (h : (kick x).1 ≠ .failed) :
    (kick x).2.pipe.length < x.pipe.length ∧ (kick x).2.exitCode = x.exitCode := by
  unfold kick Worker.answer at *
  cases hp : x.pipe with
  | nil => simp [hp, hx] at h
  | cons m rest => simp [hp]

/-- A turn of `process_once` that asks for another, on the pipe of a worker that has exited,
takes a message from the pipe. -/
theorem processOnce_true (h : processOnce i W = some (true, W')) (hc : (W.slot i).crashFile = some w)
    (hw : w < W.workers.length) (hx : (W.worker w).exitCode.isSome) :
    (W'.slot i).crashFile = some w ∧ W'.workers.length = W.workers.length ∧
      (W'.worker w).exitCode = (W.worker w).exitCode ∧
      (W'.worker w).pipe.length < (W.worker w).pipe.length := by
  have hi : i < W.slots.length := W.lt_of_slot_ne fun h => by simp [h] at hc
  unfold processOnce at h
  split at h
  · cases h
  · cases h
  rename_i w' _ hc' _
  rw [hc, Option.some.injEq] at hc'
  subst hc'
  obtain ⟨⟨r, x⟩, hset, h⟩ := Option.bind_eq_some.mp h
  obtain ⟨hle, hex⟩ := settle_pipe hset
  dsimp only at h
  split at h
  · rename_i m
    split_ifs at h
    · obtain ⟨hb, rfl⟩ := Prod.mk.inj (Option.some.inj h)
      have hk := kick_pipe (show ({ x with parsed := x.parsed ++ [m] } : Worker).exitCode.isSome by
        simpa [hex] using hx) (by simpa using hb)
      have hxw : ∀ {s : Slot} {x' : Worker}, ((W.setSlot i s).setWorker w x').worker w = x' :=
        fun {_ _} => by rw [World.worker_setWorker _ (by simpa using hw), if_pos rfl]
      refine ⟨?_, by simp, ?_, ?_⟩
      · simp only [World.slot_withFaulty, World.slot_setWorker, W.slot_setSlot_self hi]
        rw [parse_slot]
        exact hc
      · simp only [World.worker_withFaulty, hxw]
        exact hk.2.trans hex
      · simp only [World.worker_withFaulty, hxw]
        exact lt_of_lt_of_le hk.1 hle
    · cases h
  all_goals cases h

/-- `process_once` waits only for a pending read of the pipe of a worker that runs. -/
theorem processOnce_isSome
    (h : ∀ w, (W.slot i).crashFile = some w → (W.slot i).read ≠ .pending ∨ (W.worker w).exitCode.isSome) :
    (processOnce i W).isSome := by
  unfold processOnce
  split
  · rfl
  · rfl
  rename_i w _ hc _
  obtain ⟨⟨r, x⟩, hs⟩ : ∃ a, settle (W.slot i).read (W.worker w) = some a := by
    refine Option.ne_none_iff_exists'.mp fun hn => ?_
    obtain ⟨hr, -, hx⟩ := settle_eq_none.mp hn
    rcases h w hc with h | h
    · exact h hr
    · simp [hx] at h
  rw [hs]
  dsimp only [Option.bind, bind]
  split
  · split_ifs <;> rfl
  · rfl

/-- `while (process_once());` on the pipe of a worker that has exited ends within one turn
per message left in its pipe, and one more. -/
theorem drain_isSome : ∀ (n : Nat) {W : World}, (∀ w, (W.slot i).crashFile = some w →
    w < W.workers.length ∧ (W.worker w).exitCode.isSome ∧ (W.worker w).pipe.length ≤ n) →
    (drain (n + 1) i W).isSome
  | n, W, h => by
    obtain ⟨⟨b, W₁⟩, hp⟩ := Option.isSome_iff_exists.mp (processOnce_isSome fun w hw => .inr (h w hw).2.1)
    simp only [drain, hp, Option.bind, bind]
    cases b with
    | false => rfl
    | true =>
      obtain ⟨w, hc⟩ : ∃ w, (W.slot i).crashFile = some w := by
        rcases processOnce_cases hp with ⟨-, h, -⟩ | ⟨w, -, -, -, hc, -⟩
        exacts [absurd h Bool.noConfusion, ⟨w, hc⟩]
      obtain ⟨hw, hx, hn⟩ := h w hc
      obtain ⟨hc₁, hl₁, hx₁, hp₁⟩ := processOnce_true hp hc hw hx
      cases n with
      | zero => omega
      | succ n =>
        exact drain_isSome n fun v hv => by
          rw [hc₁, Option.some.injEq] at hv
          subst hv
          exact ⟨hl₁ ▸ hw, hx₁ ▸ hx, by omega⟩

/-- `process_shutdown` on a slot whose worker has exited returns: the drain loop ends and
the wait for the process returns at once. -/
theorem processShutdown_isSome (ho : Owners W) (o : ShutdownOutcome)
    (hx : ∀ w, (W.slot i).process = some w → (W.worker w).exitCode.isSome) :
    (processShutdown i o W).isSome := by
  obtain ⟨W₁, hd⟩ : ∃ W₁, drain (drainFuel W i) i W = some W₁ := by
    refine Option.isSome_iff_exists.mp ?_
    unfold drainFuel
    split
    · rename_i w hc
      have hp := (ho.slotOk i).crash w hc
      exact drain_isSome _ fun v hv => by
        rw [hc, Option.some.injEq] at hv
        subst hv
        exact ⟨(ho.owned i _ hp).1, hx _ hp, by omega⟩
    · rename_i hc
      exact drain_isSome 0 fun v hv => absurd hv (by simp [hc])
  have hW₁ := Extends.drain ho hd
  have hcl : ∀ V : World, ((V.setSlot i (V.slot i).closeHandles).slot i).process = (V.slot i).process :=
    fun V => V.setSlot_process (show (V.slot i).closeHandles.process = (V.slot i).process from rfl) i
  have hp₁ : ((W₁.setSlot i (W₁.slot i).closeHandles).slot i).process = (W.slot i).process := by
    rcases drain_collected ho hd with rfl | hc
    · exact hcl _
    · exact (hcl W₁).trans (hc.process i)
  unfold processShutdown
  rw [hd]
  dsimp only [Option.bind, bind]
  split
  · rfl
  · rename_i w hw
    rw [hp₁] at hw
    have hc := (hW₁.worker w).exitCode (hx w hw)
    split
    · rename_i hn
      rw [World.worker_setSlot, hc] at hn
      exact absurd (hx w hw) (by simp [hn])
    · split <;> rfl

end Pipes

/-! ## Where the supervisor waits -/

section Blocking

variable (ord : IterationOrder) {W : World}

/-- A step of the wait loop that found a signalled object returns: the handler of each kind
of object returns in a world a run reaches. -/
theorem masterStep_isSome_of_signalled (o : MasterOutcome) (hR : Reach ord W) (hph : W.phase = .waiting)
    (hq₀ : W.pending = .idle) {x : Nat × Waitable} (hx : (waitList W.slots).find? W.signalled = some x) :
    (masterStep ord o W).isSome := by
  obtain ⟨ho, -⟩ := invariants_reach ord hR
  have hsig := List.find?_some hx
  unfold masterStep
  rw [hph, hq₀]
  dsimp only
  split_ifs
  · rfl
  · rfl
  rw [hx]
  obtain ⟨i, _ | _ | _⟩ := x
  · -- the pipe event: its read has finished
    have he : (W.slot i).pipeEvent = some true := by simpa [World.signalled] using hsig
    exact Option.isSome_map.trans (processOnce_isSome fun _ _ => .inl ((events_reach ord hR i).1 he))
  · -- the process: the worker has exited
    refine Option.isSome_map.trans (processShutdown_isSome ho _ fun w hw => ?_)
    simpa [World.signalled, hw] using hsig
  · rfl

/-- After the wait returned a timer, the step returns: `TerminateProcess` fails on a worker
that has exited since, or makes it exit, and `process_shutdown` reaps it. -/
theorem masterStep_isSome_of_terminate (o : MasterOutcome) (hR : Reach ord W) {i : Nat}
    (hq₀ : W.pending = .terminate i) : (masterStep ord o W).isSome := by
  obtain ⟨ho, -, hq⟩ := bookkeeping_reach ord hR
  unfold masterStep
  rw [(hq.terminate i hq₀).1, hq₀]
  dsimp only
  -- the world `TerminateProcess` is called in
  have ho₀ : Owners ({ W with phase := .waiting, pending := .idle } : World) :=
    ⟨ho.slotOk, ho.active, ho.owned, ho.unique, ho.unreaped⟩
  split
  · rfl
  · rename_i W₁ ht
    obtain ⟨w, hw, ht⟩ := Option.bind_eq_some.mp ht
    obtain ⟨-, rfl⟩ := terminate_eq ht
    have ho₁ := ho₀.setWorker (show ({ W.worker w with exitCode := some 3 } : Worker).reaped =
      (W.worker w).reaped from rfl)
    refine Option.isSome_map.trans (processShutdown_isSome ho₁ _ fun v hv => ?_)
    rw [World.slot_setWorker, hw, Option.some.injEq] at hv
    subst hv
    rw [World.worker_setWorker _ (ho₀.owned i _ hw).1, if_pos rfl]
    rfl

/-- Where a step of the supervisor does not return: once it has ended; in the wait loop, when
workers are active and no object of a wait list `WaitForMultipleObjects` accepts is signalled;
and in the `FlushFileBuffers` of a blacklist line to a running worker that no longer reads. -/
theorem masterStep_eq_none (o : MasterOutcome) (hR : Reach ord W) :
    masterStep ord o W = none ↔ (∃ b, W.phase = .exited b) ∨
      (W.phase = .waiting ∧ W.pending = .idle ∧ W.activeProcesses ≠ 0 ∧ waitList W.slots ≠ [] ∧
        (waitList W.slots).length ≤ World.maximumWaitObjects ∧ (waitList W.slots).find? W.signalled = none) ∨
      (∃ i w line lines, W.pending = .send i w (line :: lines) ∧ (W.worker w).exitCode = none ∧
        (W.worker w).reading = false) := by
  rcases hph : W.phase with n | - | b
  rotate_left 2
  · simp [masterStep, hph]
  all_goals
    rcases hq : W.pending with _ | ⟨i, w, _ | ⟨line, lines⟩⟩ | i
    rotate_left
    · -- the end of a spawn
      simp only [masterStep, hph, hq]
      split <;> simp
    · -- a line of the blacklist
      simp only [masterStep, hph, hq, Option.map_eq_none', sendLine_eq_none]
      refine ⟨fun h => .inr (.inr ⟨i, w, line, lines, rfl, h⟩), ?_⟩
      rintro (⟨b, hb⟩ | ⟨-, hb, -⟩ | ⟨i', w', l', ls', hb, h⟩) <;> cases hb
      exact h
    · -- `TerminateProcess`
      simp only [reduceCtorEq, exists_false, false_and, and_false, or_self, iff_false]
      exact Option.ne_none_iff_isSome.mpr (masterStep_isSome_of_terminate ord o hR hq)
  · -- the spawning loop
    simp only [masterStep, hph, hq]
    split_ifs
    · split <;> simp
    · simp
  · -- the wait loop
    cases hf : (waitList W.slots).find? W.signalled with
    | none =>
      by_cases ha : W.activeProcesses = 0
      · simp [masterStep, hph, hq, ha]
      by_cases hw : waitList W.slots = [] ∨ World.maximumWaitObjects < (waitList W.slots).length
      · simp [masterStep, hph, hq, ha, hw]
        exact hw.resolve_left
      · simp [masterStep, hph, hq, ha, hw, hf]
        exact ⟨fun h => hw (.inl h), Nat.le_of_not_lt fun h => hw (.inr h)⟩
    | some x =>
      have hsome := masterStep_isSome_of_signalled ord o hR hph hq hf
      simp only [hf, reduceCtorEq, and_false, exists_false, false_and, or_false, or_self, iff_false]
      intro h
      simp [h] at hsome

/-- In every world a run reaches, a step of `run_master_process` fails to return exactly when
it has ended; when it waits in `WaitForMultipleObjects`, with workers still active, on a wait
list of at most `MAXIMUM_WAIT_OBJECTS` objects none of which is signalled; or when the
`FlushFileBuffers` of a blacklist line waits on a running worker that has left its blacklist
loop. `GetOverlappedResult` in `process_once`, the drain loop and `WaitForSingleObject` in
`process_shutdown` never block it. -/
theorem master_step_blocks_in_wait_or_send (o : MasterOutcome) (hR : Reach ord W) :
    masterStep ord o W = none ↔ (∃ b, W.phase = .exited b) ∨
      (W.phase = .waiting ∧ W.pending = .idle ∧ W.activeProcesses ≠ 0 ∧ waitList W.slots ≠ [] ∧
        (waitList W.slots).length ≤ World.maximumWaitObjects ∧ ∀ x ∈ waitList W.slots, W.signalled x = false) ∨
      (∃ i w line lines, W.pending = .send i w (line :: lines) ∧ (W.worker w).exitCode = none ∧
        (W.worker w).reading = false) := by
  simp only [masterStep_eq_none ord o hR, List.find?_eq_none, Bool.not_eq_true]

theorem mem_waitList_process {slots : List Slot} {i : Nat} (hi : i < slots.length)
    (hp : slots[i].process.isSome) : (i, Waitable.process) ∈ waitList slots := by
  unfold waitList
  refine List.mem_flatMap.mpr ⟨(i, slots[i]), List.mem_enum_iff_getElem?.mpr (List.getElem?_eq_getElem hi), ?_⟩
  simp [hp]

theorem mem_waitList_pipeEvent {slots : List Slot} {i : Nat} (hi : i < slots.length)
    (he : slots[i].pipeEvent.isSome) : (i, Waitable.pipeEvent) ∈ waitList slots := by
  unfold waitList
  refine List.mem_flatMap.mpr ⟨(i, slots[i]), List.mem_enum_iff_getElem?.mpr (List.getElem?_eq_getElem hi), ?_⟩
  simp [he]

/-- An active worker is held by a slot, whose process is on the wait list. -/
theorem active_process_waited (ho : Owners W) (ha : W.activeProcesses ≠ 0) :
    ∃ i w, (W.slot i).process = some w ∧ (i, Waitable.process) ∈ waitList W.slots := by
  obtain ⟨s, hs, hsp⟩ := List.countP_pos_iff.mp (Nat.pos_of_ne_zero (ho.active ▸ ha))
  obtain ⟨i, hi, rfl⟩ := List.mem_iff_getElem.mp hs
  obtain ⟨w, hwp⟩ := Option.isSome_iff_exists.mp (by simpa using hsp)
  exact ⟨i, w, by simp [World.slot, hi, hwp], mem_waitList_process hi (by simpa using hsp)⟩

/-- A slot that holds a running worker still reads its pipe, with an event on the wait list
while no blacklist is being written to it. -/
theorem running_worker_read (hR : Reach ord W) (hq₀ : W.pending = .idle) (hx : W.phase ≠ .exited false)
    {i w : Nat} (hp : (W.slot i).process = some w) (hw : (W.worker w).exitCode = none) :
    (W.slot i).crashFile = some w ∧ ∃ e, (W.slot i).pipeEvent = some e := by
  obtain ⟨hd, hl⟩ := delivery_reach ord hR
  have hc : (W.slot i).crashFile = some w := by
    cases hcf : (W.slot i).crashFile with
    | none => exact absurd (hd.drained i w hp hcf).1 (by simp [hw])
    | some v => rw [((invariants_reach ord hR).1.slotOk i).crash v hcf] at hp; rw [hp]
  exact ⟨hc, Option.isSome_iff_exists.mp (hl hx i (fun _ _ h => by rw [hq₀] at h; cases h) w hc)⟩

/-- In every world a run reaches, when every message every worker wrote fits the read buffer,
a world in which nothing at all can happen before `run_master_process` returns (neither a
step of the supervisor nor a worker's write or exit, a read finishing or a timer firing) is one
in which the supervisor waits in the `FlushFileBuffers` of a blacklist line on a running worker
that has left its blacklist loop and waits in turn, in the `FlushFileBuffers` of a message of
its own, for the supervisor to read it. -/
theorem supervisor_deadlocks_only_in_blacklist_send (hR : Reach ord W) (hx : ∀ b, W.phase ≠ .exited b)
    (hshort : ∀ w < W.workers.length, ∀ m ∈ (W.worker w).wrote, m.length < 1024)
    (hstuck : ∀ e, step ord e W = none) :
    ∃ i w line lines, W.pending = .send i w (line :: lines) ∧ (W.worker w).exitCode = none ∧
      (W.worker w).reading = false ∧ (W.worker w).pipe ≠ [] := by
  obtain ⟨ho, -, hq⟩ := bookkeeping_reach ord hR
  -- a running worker with an empty pipe can exit
  have hpipe : ∀ w < W.workers.length, (W.worker w).exitCode = none → (W.worker w).pipe ≠ [] :=
    fun w hw hwx hp => by simpa [step, hw, hwx, hp] using hstuck (.exit w 0)
  rcases (masterStep_eq_none ord {} hR).mp (hstuck (.master {})) with ⟨b, hb⟩ | ⟨hph, hq₀, ha, -, -, hf⟩ |
    ⟨i, w, line, lines, hs, hwx, hr⟩
  · exact absurd hb (hx b)
  · -- the wait loop: an active worker's process is on the wait list, not signalled
    exfalso
    obtain ⟨i, w, hpw, hmem⟩ := active_process_waited ho ha
    have hwx : (W.worker w).exitCode = none := by
      simpa [World.signalled, hpw] using List.find?_eq_none.mp hf _ hmem
    have hw := (ho.owned i w hpw).1
    obtain ⟨m, ms, hms⟩ := List.exists_cons_of_ne_nil (hpipe w hw hwx)
    obtain ⟨hc, e, he⟩ := running_worker_read ord hR hq₀ (hx false) hpw hwx
    have hi : i < W.slots.length := W.lt_of_slot_ne fun h => by simp [h] at hc
    cases e
    · -- the event is reset over a pending read, which the pipe answers
      have hr : (W.slot i).read = .pending := by
        cases hr : (W.slot i).read with
        | pending => rfl
        | failed =>
          have := ((delivery_reach ord hR).1.broken i w hc (by simp [he]) hr).2
          simp [hwx] at this
        | completed m' =>
          have hlong := (events_reach ord hR i).2 m' he hr
          have hm' : m' ∈ (W.worker w).wrote := by
            rw [← (delivery_reach ord hR).1.fifo i w hc, hr]
            simp [ReadState.inFlight]
          exact absurd (hshort w hw m' hm') (by omega)
      simpa [step, hc, hr, he, Worker.answer, hms] using hstuck (.complete i)
    · -- the event is signalled, and on the wait list
      have hmem' := mem_waitList_pipeEvent hi (by simpa [World.slot, hi] using congrArg Option.isSome he)
      simpa [World.signalled, he] using List.find?_eq_none.mp hf _ hmem'
  · obtain ⟨-, hp, -⟩ := hq.send i w _ hs
    exact ⟨i, w, line, lines, hs, hwx, hr, hpipe w (ho.owned i w hp).1 hwx⟩

/-- `crashRun`, then the restart of its slot: the new worker reads the first line of its
blacklist, `0`, and leaves its loop while the supervisor writes it the second, `5`; the worker
then reports a crash. -/
def deadlockRun : List Event := crashRun ++ [.master {}, .master {}, .write 1 "CRASH\n".toList]

def deadlockedWorld : World :=
  (run IterationOrder.insertion deadlockRun (World.initial 1 1 1)).getD (World.initial 1 1 1)

theorem reach_deadlockedWorld : Reach IterationOrder.insertion deadlockedWorld :=
  @reach_run _ deadlockRun _ _ (.initial 1 1 1) (by rfl)

/-- The supervisor of `deadlockedWorld` waits in the `FlushFileBuffers` of the line `5`. -/
theorem deadlocked_world_blocks :
    Reach IterationOrder.insertion deadlockedWorld ∧ masterStep IterationOrder.insertion {} deadlockedWorld = none ∧
      (masterStep IterationOrder.insertion {} deadlockedWorld = none ↔ (∃ b, deadlockedWorld.phase = .exited b) ∨
        (deadlockedWorld.phase = .waiting ∧ deadlockedWorld.pending = .idle ∧
          deadlockedWorld.activeProcesses ≠ 0 ∧ waitList deadlockedWorld.slots ≠ [] ∧
          (waitList deadlockedWorld.slots).length ≤ World.maximumWaitObjects ∧
          ∀ x ∈ waitList deadlockedWorld.slots, deadlockedWorld.signalled x = false) ∨
        (∃ i w line lines, deadlockedWorld.pending = .send i w (line :: lines) ∧
          (deadlockedWorld.worker w).exitCode = none ∧ (deadlockedWorld.worker w).reading = false)) :=
  ⟨reach_deadlockedWorld, by rfl, master_step_blocks_in_wait_or_send _ {} reach_deadlockedWorld⟩

/-- Nothing can happen in `deadlockedWorld`: the worker that exited is reaped, the new one
waits for its report to be read, and slot `0` has no read issued and no timer. -/
theorem deadlockedWorld_stuck (e : Event) : step IterationOrder.insertion e deadlockedWorld = none := by
  have hw : ∀ w < deadlockedWorld.workers.length, (deadlockedWorld.worker w).exitCode = none →
      (deadlockedWorld.worker w).pipe ≠ [] := by decide
  have hs : ∀ i, (deadlockedWorld.slot i).read ≠ .pending ∧ (deadlockedWorld.slot i).timer ≠ some false := by
    intro i
    by_cases hi : i < deadlockedWorld.slots.length
    · exact (show ∀ i < deadlockedWorld.slots.length, (deadlockedWorld.slot i).read ≠ .pending ∧
        (deadlockedWorld.slot i).timer ≠ some false by decide) i hi
    · rw [deadlockedWorld.slot_of_le (Nat.le_of_not_lt hi)]
      decide
  cases e with
  | master o => rfl
  | write w m => exact if_neg fun ⟨h₁, h₂, h₃, _⟩ => hw w h₁ h₂ h₃
  | exit w c => exact if_neg fun ⟨h₁, h₂, h₃⟩ => hw w h₁ h₂ h₃
  | complete i =>
    simp only [step]
    split
    · rename_i hr _
      exact absurd hr (hs i).1
    · rfl
  | fire i => exact if_neg (hs i).2

/-- In `deadlockedWorld` the supervisor and its new worker wait on each other, though every
message fits the buffer. -/
theorem deadlocked_world_waits_in_send :
    Reach IterationOrder.insertion deadlockedWorld ∧ (∀ b, deadlockedWorld.phase ≠ .exited b) ∧
      (∀ w < deadlockedWorld.workers.length, ∀ m ∈ (deadlockedWorld.worker w).wrote, m.length < 1024) ∧
      (∀ e, step IterationOrder.insertion e deadlockedWorld = none) ∧
      ∃ i w line lines, deadlockedWorld.pending = .send i w (line :: lines) ∧
        (deadlockedWorld.worker w).exitCode = none ∧ (deadlockedWorld.worker w).reading = false ∧
        (deadlockedWorld.worker w).pipe ≠ [] :=
  ⟨reach_deadlockedWorld, by decide, by decide, deadlockedWorld_stuck,
    supervisor_deadlocks_only_in_blacklist_send _ reach_deadlockedWorld (by decide) (by decide) deadlockedWorld_stuck⟩

end Blocking

end Fossilize.Supervisor
