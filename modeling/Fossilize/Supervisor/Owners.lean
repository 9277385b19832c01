import Fossilize.Supervisor.Steps

/-! # Who holds which worker: `active_processes` and the handles of a slot

`active_processes` counts the slots that hold a worker, and every worker not reaped is held
by exactly one slot.
-/

namespace Fossilize.Supervisor

/-- A slot's handles agree: its crash file is its worker's pipe, and a slot without a
worker holds neither an event nor a timer. -/
structure SlotOk (s : Slot) : Prop where
  crash : ∀ w, s.crashFile = some w → s.process = some w
  idle : s.process = none → s.pipeEvent = none ∧ s.timer = none

/-- The bookkeeping of workers, between any two calls of the supervisor. -/
structure Owners (W : World) : Prop where
  slotOk : ∀ i, SlotOk (W.slot i)
  active : W.activeProcesses = W.slots.countP (·.process.isSome)
  owned : ∀ i w, (W.slot i).process = some w → w < W.workers.length ∧ (W.worker w).reaped = false
  unique : ∀ i j w, (W.slot i).process = some w → (W.slot j).process = some w → i = j
  unreaped : ∀ w < W.workers.length, (W.worker w).reaped = false → ∃ i, (W.slot i).process = some w

/-- What the phase of `run_master_process` says of the slots: those the spawning loop has
not reached hold no worker, and the wait loop ends with no worker active. -/
structure PhaseOk (W : World) : Prop where
  fresh : ∀ n, W.phase = .spawning n → ∀ i, n ≤ i → (W.slot i).process = none
  done : W.phase = .exited true → W.activeProcesses = 0

/-- A slot whose worker `w` was just started: no event and no read exist yet on its pipe. -/
def Slot.Fresh (w : Nat) (s : Slot) : Prop :=
  s.process = some w ∧ s.crashFile = some w ∧ s.pipeEvent = none ∧ s.read = .failed

/-- What the supervisor's pending call holds: the slot a blacklist is written for holds the
new worker, fresh; the timer the wait returned has fired. -/
structure PendingOk (W : World) : Prop where
  send : ∀ i w lines, W.pending = .send i w lines → i < W.slots.length ∧ (W.slot i).Fresh w
  terminate : ∀ i, W.pending = .terminate i → W.phase = .waiting ∧ (W.slot i).timer = some true

/-- The worker a blacklist is being written to has been started. -/
theorem PendingOk.worker_lt {W : World} {i w : Nat} {lines : List (List Char)} (hq : PendingOk W)
    (ho : Owners W) (h : W.pending = .send i w lines) : w < W.workers.length :=
  (ho.owned i w (hq.send i w lines h).2.1).1

section Preservation

variable {W W' : World} {i w : Nat} {s : Slot} {x : Worker}

theorem World.countP_setSlot (W : World) (s : Slot) (hi : i < W.slots.length) :
    (W.setSlot i s).slots.countP (·.process.isSome) + ((W.slot i).process.isSome).toNat =
      W.slots.countP (·.process.isSome) + (s.process.isSome).toNat := by
  have hle := List.boole_getElem_le_countP (·.process.isSome) W.slots i hi
  have hget : W.slot i = W.slots[i] := by simp [World.slot, hi]
  simp only [World.setSlot, List.countP_set _ _ _ _ hi, hget]
  cases ha : W.slots[i].process.isSome <;> cases hb : s.process.isSome <;>
    simp only [ha, hb, if_true, if_false, Bool.toNat_true, Bool.toNat_false, Bool.false_eq_true] at hle ⊢ <;>
    omega

theorem World.setSlot_of_le (W : World) (s : Slot) (hi : W.slots.length ≤ i) : W.setSlot i s = W := by
  simp [World.setSlot, List.set_eq_of_length_le hi]

theorem World.process_setSlot (W : World) (hi : i < W.slots.length) (j : Nat) :
    ((W.setSlot i s).slot j).process = if j = i then s.process else (W.slot j).process := by
  rw [W.slot_setSlot hi]; split_ifs <;> rfl

/-- Changing a slot but not its worker. -/
theorem Owners.setSlot (h : Owners W) (hp : s.process = (W.slot i).process) (hs : SlotOk s) :
    Owners (W.setSlot i s) := by
  by_cases hi : i < W.slots.length
  · have hproc : ∀ j, ((W.setSlot i s).slot j).process = (W.slot j).process := fun j => by
      rw [W.process_setSlot hi]; split_ifs with hj <;> [rw [hj, hp]; rfl]
    have hcount := W.countP_setSlot s hi
    rw [hp] at hcount
    refine ⟨fun j => ?_, ?_, fun j v => ?_, fun j k v => ?_, fun v hv => ?_⟩
    · rw [W.slot_setSlot hi]; split_ifs; exacts [hs, h.slotOk j]
    · have := h.active; simp only [World.setSlot] at hcount ⊢; omega
    · rw [hproc]; exact h.owned j v
    · rw [hproc, hproc]; exact h.unique j k v
    · simpa only [hproc] using h.unreaped v hv
  · rwa [W.setSlot_of_le s (Nat.le_of_not_lt hi)]

/-- Changing a worker but not whether it is reaped. -/
theorem Owners.setWorker (h : Owners W) (hr : x.reaped = (W.worker w).reaped) :
    Owners (W.setWorker w x) := by
  by_cases hw : w < W.workers.length
  · have hreap : ∀ v, ((W.setWorker w x).worker v).reaped = (W.worker v).reaped := fun v => by
      rw [W.worker_setWorker hw]; split_ifs with hv <;> [rw [hv, hr]; rfl]
    refine ⟨h.slotOk, h.active, fun j v hv => ?_, h.unique, fun v hv => ?_⟩
    · rw [hreap, World.length_setWorker]; exact h.owned j v hv
    · rw [hreap]; exact h.unreaped v (by simpa using hv)
  · simpa [World.setWorker, List.set_eq_of_length_le (Nat.le_of_not_lt hw)] using h

theorem Owners.withFaulty (h : Owners W) {f : HashSet} : Owners { W with faulty := f } :=
  ⟨h.slotOk, h.active, h.owned, h.unique, h.unreaped⟩

theorem Owners.collected (h : Owners W) (hc : Collected i W W') : Owners W' := by
  obtain ⟨w, s, x, f, hcw, -, rfl, c⟩ := hc
  have hs : SlotOk s := by
    have hp := (h.slotOk i).crash w hcw
    exact ⟨fun v hv => by rw [c.process.1, hp]; rw [c.process.2, hcw] at hv; exact hv,
      fun hn => by rw [c.process.1, hp] at hn; cases hn⟩
  have h₁ : Owners (W.setSlot i s) := h.setSlot c.process.1 hs
  have h₂ : Owners ((W.setSlot i s).setWorker w x) := h₁.setWorker (by rw [c.worker]; rfl)
  exact h₂.withFaulty

theorem Owners.drain {fuel : Nat} (h : Owners W) (hd : drain fuel i W = some W') : Owners W' := by
  have hw : ∀ w, (W.slot i).crashFile = some w → w < W.workers.length := fun w hw =>
    (h.owned i w ((h.slotOk i).crash w hw)).1
  rcases drain_cases hw hd with rfl | hc
  exacts [h, h.collected hc]

theorem World.reap_slot (W : World) (hi : i < W.slots.length) (j : Nat) :
    (W.reap i w).slot j = if j = i then { W.slot i with process := none } else W.slot j :=
  W.slot_setSlot hi

theorem World.reap_worker (W : World) (hw : w < W.workers.length) (v : Nat) :
    (W.reap i w).worker v = if v = w then { W.worker w with reaped := true } else W.worker v :=
  World.worker_setWorker _ (by simpa using hw)

/-- Reaping slot `i`'s worker `w`, once the slot's other handles are closed. -/
theorem Owners.reap (h : Owners W) (hp : (W.slot i).process = some w)
    (hs : (W.slot i).pipeEvent = none ∧ (W.slot i).timer = none ∧ (W.slot i).crashFile = none) :
    Owners (W.reap i w) := by
  have hi : i < W.slots.length := W.lt_of_slot_ne fun h => by simp [h] at hp
  have hw := (h.owned i w hp).1
  have hproc : ∀ j, ((W.reap i w).slot j).process = if j = i then none else (W.slot j).process :=
    fun j => by rw [W.reap_slot hi]; split_ifs <;> rfl
  have hreap : ∀ v, ((W.reap i w).worker v).reaped = if v = w then true else (W.worker v).reaped :=
    fun v => by rw [W.reap_worker hw]; split_ifs <;> rfl
  have hcount := W.countP_setSlot { W.slot i with process := none } hi
  rw [hp] at hcount
  refine ⟨fun j => ?_, ?_, fun j v hv => ?_, fun j k v hj hk => ?_, fun v hv hr => ?_⟩
  · rw [W.reap_slot hi]
    split_ifs
    · exact ⟨fun v hv => by simp_all, fun _ => ⟨hs.1, hs.2.1⟩⟩
    · exact h.slotOk j
  · have := h.active
    change W.activeProcesses - 1 = (W.setSlot i _).slots.countP _
    dsimp only
    simp only [Option.isSome_some, Bool.toNat_true, Option.isSome_none, Bool.toNat_false] at hcount
    omega
  · rw [hproc] at hv
    split_ifs at hv with hji
    obtain ⟨hv₁, hv₂⟩ := h.owned j v hv
    have hvw : v ≠ w := fun hvw => hji (h.unique j i v hv (hvw ▸ hp))
    rw [hreap, if_neg hvw]
    exact ⟨by simpa [World.reap] using hv₁, hv₂⟩
  · rw [hproc] at hj hk
    split_ifs at hj hk
    exact h.unique j k v hj hk
  · rw [hreap] at hr
    split_ifs at hr with hvw
    obtain ⟨j, hj⟩ := h.unreaped v (by simpa [World.reap] using hv) hr
    refine ⟨j, ?_⟩
    rw [hproc, if_neg fun hji => hvw (Option.some.inj ((hji ▸ hj).symm.trans hp))]
    exact hj

theorem Owners.decideRestart {code : UInt32} {b : Bool} (h : Owners W)
    (hd : decideRestart i code W = (b, W')) : Owners W' := by
  rcases decideRestart_cases hd with ⟨-, rfl⟩ | ⟨-, -, -, rfl, -⟩
  · exact h
  · exact h.setSlot rfl ⟨(h.slotOk i).crash, (h.slotOk i).idle⟩

theorem Owners.closeHandles (h : Owners W) : Owners (W.setSlot i (W.slot i).closeHandles) :=
  h.setSlot rfl ⟨fun _ hw => (by cases hw), fun _ => ⟨rfl, rfl⟩⟩

/-- After `process_shutdown`, a restart is asked for only from a slot it emptied. -/
theorem processShutdown_true {o : ShutdownOutcome} (h : processShutdown i o W = some (true, W')) :
    i < W'.slots.length ∧ (W'.slot i).process = none := by
  obtain ⟨W₁, -, ⟨hb, -, -⟩ | ⟨w, c, hw, -, -, hd⟩⟩ := processShutdown_cases h
  · cases hb
  have hi : i < W₁.slots.length := W₁.lt_of_slot_ne fun h => by simp [h] at hw
  rcases decideRestart_cases hd with ⟨hb, -⟩ | ⟨-, -, -, rfl, -⟩
  · cases hb
  refine ⟨by simpa [World.reap] using hi, ?_⟩
  rw [World.slot_setSlot_self _ (by simpa [World.reap] using hi)]
  show ((World.reap _ i w).slot i).process = none
  rw [World.reap_slot _ (by simpa using hi), if_pos rfl]

theorem Owners.processShutdown {o : ShutdownOutcome} {b : Bool} (h : Owners W)
    (hs : processShutdown i o W = some (b, W')) : Owners W' := by
  obtain ⟨W₁, hd, ⟨-, rfl, -⟩ | ⟨w, c, hw, -, -, hdr⟩⟩ := processShutdown_cases hs
  · exact (h.drain hd).closeHandles
  have hi : i < W₁.slots.length := W₁.lt_of_slot_ne fun h => by simp [h] at hw
  refine ((h.drain hd).closeHandles.reap ?_ ?_).decideRestart hdr <;>
    simp only [World.slot_setSlot_self _ hi, Slot.closeHandles, hw, and_self]

theorem World.startedWorld_slot (W : World) (ord : IterationOrder) (hi : i < W.slots.length)
    (j : Nat) : (startedWorld ord i s W).slot j =
      if j = i then { s with process := some W.workers.length, crashFile := some W.workers.length,
                             pipeEvent := none, read := .failed }
      else W.slot j :=
  W.slot_setSlot hi

theorem World.startedWorld_worker (W : World) (ord : IterationOrder) {v : Nat}
    (hv : v < W.workers.length + 1) : (startedWorld ord i s W).worker v =
      if v = W.workers.length then { masked := maskedModules (sendFaultyModules (ord.iterate W.faulty)) }
      else W.worker v := by
  simp only [startedWorld, World.worker, World.setSlot, List.getD_eq_getElem?_getD]
  split_ifs with h
  · simp [h]
  · rw [List.getElem?_append_left (by omega)]

/-- Starting a worker in slot `i`, which held none. -/
theorem Owners.started (h : Owners W) (ord : IterationOrder) (hi : i < W.slots.length)
    (hn : (W.slot i).process = none) : Owners (startedWorld ord i s W) := by
  have hproc : ∀ j, ((startedWorld ord i s W).slot j).process =
      if j = i then some W.workers.length else (W.slot j).process := fun j => by
    rw [W.startedWorld_slot ord hi]; split_ifs <;> rfl
  have hcount := W.countP_setSlot
    { s with process := some W.workers.length, crashFile := some W.workers.length,
             pipeEvent := none, read := .failed } hi
  rw [hn] at hcount
  have hfresh : ∀ j, (W.slot j).process ≠ some W.workers.length := fun j hj =>
    Nat.lt_irrefl _ (h.owned j _ hj).1
  refine ⟨fun j => ?_, ?_, fun j v hv => ?_, fun j k v hj hk => ?_, fun v hv hr => ?_⟩
  · rw [W.startedWorld_slot ord hi]
    split_ifs
    · exact ⟨fun v hv => hv, fun hn => by cases hn⟩
    · exact h.slotOk j
  · have := h.active
    change W.activeProcesses + 1 = (W.setSlot i _).slots.countP _
    simp only [Option.isSome_some, Bool.toNat_true, Option.isSome_none, Bool.toNat_false] at hcount
    omega
  · rw [hproc] at hv
    have hlen : (startedWorld ord i s W).workers.length = W.workers.length + 1 := by simp [startedWorld]
    split_ifs at hv with hji
    · cases hv
      rw [hlen, W.startedWorld_worker ord (by omega), if_pos rfl]
      exact ⟨by omega, rfl⟩
    · obtain ⟨hv₁, hv₂⟩ := h.owned j v hv
      rw [hlen, W.startedWorld_worker ord (by omega), if_neg (by omega)]
      exact ⟨by omega, hv₂⟩
  · rw [hproc] at hj hk
    split_ifs at hj hk with hji hki hki
    · rw [hji, hki]
    · cases hj; exact absurd hk (hfresh k)
    · cases hk; exact absurd hj (hfresh j)
    · exact h.unique j k v hj hk
  · have hv' : v < W.workers.length + 1 := by simpa [startedWorld] using hv
    rw [W.startedWorld_worker ord hv'] at hr
    by_cases hvn : v = W.workers.length
    · exact ⟨i, by rw [hproc, if_pos rfl, hvn]⟩
    · rw [if_neg hvn] at hr
      obtain ⟨j, hj⟩ := h.unreaped v (by omega) hr
      refine ⟨j, ?_⟩
      rw [hproc, if_neg fun hji => by rw [hji, hn] at hj; cases hj]
      exact hj

theorem Owners.startChildProcess (h : Owners W) (ord : IterationOrder) {o : SpawnOutcome}
    {b : Bool} (hi : i < W.slots.length) (hn : (W.slot i).process = none)
    (hs : startChildProcess ord i o W = (b, W')) : Owners W' := by
  rcases startChildProcess_cases ord hs with ⟨rfl, -⟩ | ⟨-, -, rfl⟩
  · exact h.setSlot rfl ⟨(h.slotOk i).crash, (h.slotOk i).idle⟩
  · exact h.started ord hi hn

theorem Owners.withPhase (h : Owners W) (p : Phase) : Owners { W with phase := p } :=
  ⟨h.slotOk, h.active, h.owned, h.unique, h.unreaped⟩

theorem Owners.withPending (h : Owners W) (p : Pending) : Owners { W with pending := p } :=
  ⟨h.slotOk, h.active, h.owned, h.unique, h.unreaped⟩

theorem Owners.sendLine (h : Owners W) {line : List Char} (hs : Supervisor.sendLine w line W = some W') :
    Owners W' := by
  rcases sendLine_cases hs with ⟨-, rfl⟩ | ⟨-, -, rfl⟩
  exacts [h, h.setWorker rfl]

/-- The end of a spawn, on a slot that holds its worker. -/
theorem Owners.finishSpawn (h : Owners W) {o : SpawnOutcome} {b : Bool} (hp : (W.slot i).process = some w)
    (hs : Supervisor.finishSpawn i w o W = (b, W')) : Owners W' := by
  rcases finishSpawn_cases (h.owned i w hp).1 hs with ⟨-, -, rfl⟩ | ⟨r, x, -, hk, -, rfl⟩
  · exact h.setWorker rfl
  · have hx : x.reaped = (W.worker w).reaped := by
      rw [show x = (kick _).2 by rw [hk], (kick_eq _).1]
    have hs : SlotOk { W.slot i with pipeEvent := some r.isCompleted, read := r } :=
      ⟨(h.slotOk i).crash, fun hn => by rw [hp] at hn; cases hn⟩
    exact (h.setSlot (show ({ W.slot i with pipeEvent := some r.isCompleted, read := r } : Slot).process =
      (W.slot i).process from rfl) hs).setWorker hx

theorem Owners.exit (h : Owners W) (success : Bool) : Owners (W.exit success) :=
  h.withPhase _

theorem Owners.restart (h : Owners W) (ord : IterationOrder) {o : SpawnOutcome} {b : Bool}
    (hb : b = true → i < W.slots.length ∧ (W.slot i).process = none) :
    Owners (restart ord i o (b, W)) := by
  cases b with
  | false => exact h
  | true =>
    obtain ⟨hi, hn⟩ := hb rfl
    rcases hs : Supervisor.startChildProcess ord i o W with ⟨b', W₂⟩
    have h₂ := h.startChildProcess ord hi hn hs
    unfold Supervisor.restart
    dsimp only
    rw [hs]
    cases b' <;> [exact h₂.exit false; exact h₂]

/-! ### The phase -/

theorem PhaseOk.of_phase (h : W.phase = .waiting ∨ W.phase = .exited false) : PhaseOk W :=
  ⟨fun n hn => (by rcases h with h | h <;> rw [h] at hn <;> cases hn),
   fun hn => (by rcases h with h | h <;> rw [h] at hn <;> cases hn)⟩

theorem World.setSlot_process (W : World) (hp : s.process = (W.slot i).process) (j : Nat) :
    ((W.setSlot i s).slot j).process = (W.slot j).process := by
  by_cases hi : i < W.slots.length
  · rw [W.process_setSlot hi]; split_ifs with hj <;> [rw [hj, hp]; rfl]
  · rw [W.setSlot_of_le s (Nat.le_of_not_lt hi)]

theorem PhaseOk.transfer (h : PhaseOk W) (hph : W'.phase = W.phase)
    (ha : W'.activeProcesses = W.activeProcesses) (hs : ∀ j, (W'.slot j).process = (W.slot j).process) :
    PhaseOk W' :=
  ⟨fun n hn j hj => by rw [hs]; exact h.fresh n (hph ▸ hn) j hj,
   fun hn => by rw [ha]; exact h.done (hph ▸ hn)⟩

theorem processShutdown_phase {o : ShutdownOutcome} {b : Bool} (h : Owners W)
    (hs : processShutdown i o W = some (b, W')) : W'.phase = W.phase ∧ W'.pending = W.pending := by
  obtain ⟨W₁, hd, hr⟩ := processShutdown_cases hs
  have hw : ∀ w, (W.slot i).crashFile = some w → w < W.workers.length := fun w hw =>
    (h.owned i w ((h.slotOk i).crash w hw)).1
  have h₁ : W₁.phase = W.phase ∧ W₁.pending = W.pending := by
    rcases drain_cases hw hd with rfl | ⟨w, s, x, f, -, -, rfl, -⟩ <;> exact ⟨rfl, rfl⟩
  rcases hr with ⟨-, rfl, -⟩ | ⟨w, c, -, -, -, hdr⟩
  · exact h₁
  rcases decideRestart_cases hdr with ⟨-, rfl⟩ | ⟨-, -, -, rfl, -⟩ <;> exact h₁

theorem startChildProcess_slot (ord : IterationOrder) {o : SpawnOutcome} {b : Bool}
    (hi : i < W.slots.length) (hs : startChildProcess ord i o W = (b, W')) :
    W'.phase = W.phase ∧ ∀ j, j ≠ i → W'.slot j = W.slot j := by
  rcases startChildProcess_cases ord hs with ⟨rfl, -⟩ | ⟨-, -, rfl⟩
  · exact ⟨rfl, fun j hj => by rw [W.slot_setSlot hi, if_neg hj]⟩
  · exact ⟨rfl, fun j hj => by rw [W.startedWorld_slot ord hi, if_neg hj]⟩

theorem restart_phase (ord : IterationOrder) {o : SpawnOutcome} {b : Bool} (hph : W.phase = .waiting) :
    PhaseOk (restart ord i o (b, W)) := by
  apply PhaseOk.of_phase
  cases b with
  | false => exact .inl hph
  | true =>
    rcases hs : Supervisor.startChildProcess ord i o W with ⟨b', W₂⟩
    unfold Supervisor.restart
    dsimp only
    rw [hs]
    cases b'
    · exact .inr rfl
    · refine .inl ?_
      rcases startChildProcess_cases ord hs with ⟨rfl, -⟩ | ⟨-, -, rfl⟩ <;> exact hph

/-! ### The pending call -/

theorem PendingOk.of_idle (h : W.pending = .idle) : PendingOk W :=
  ⟨fun _ _ _ hp => (by rw [h] at hp; cases hp), fun _ hp => (by rw [h] at hp; cases hp)⟩

theorem PendingOk.withPhase (h : PendingOk W) (hp : ∀ i, W.pending ≠ .terminate i) (p : Phase) :
    PendingOk { W with phase := p } :=
  ⟨h.send, fun i ht => absurd ht (hp i)⟩

theorem PendingOk.setWorker (h : PendingOk W) : PendingOk (W.setWorker w x) := ⟨h.send, h.terminate⟩

theorem PendingOk.setSlot (h : PendingOk W)
    (hs : ∀ w lines, W.pending = .send i w lines → (W.slot i).Fresh w → s.Fresh w)
    (ht : W.pending = .terminate i → (W.slot i).timer = some true → s.timer = some true) :
    PendingOk (W.setSlot i s) := by
  by_cases hi : i < W.slots.length
  · refine ⟨fun j v l hp => ?_, fun j hp => ?_⟩
    · obtain ⟨hj, hf⟩ := h.send j v l hp
      refine ⟨by simpa using hj, ?_⟩
      rw [W.slot_setSlot hi]
      split_ifs with hji
      · subst hji; exact hs v l hp hf
      · exact hf
    · obtain ⟨hph, ht'⟩ := h.terminate j hp
      refine ⟨hph, ?_⟩
      rw [W.slot_setSlot hi]
      split_ifs with hji
      · subst hji; exact ht hp ht'
      · exact ht'
  · rwa [W.setSlot_of_le s (Nat.le_of_not_lt hi)]

theorem PendingOk.started (ord : IterationOrder) (hi : i < W.slots.length) :
    PendingOk (startedWorld ord i s W) := by
  refine ⟨fun j v l hp => ?_, fun j hp => (by cases hp)⟩
  simp only [startedWorld, Pending.send.injEq] at hp
  obtain ⟨rfl, rfl, -⟩ := hp
  refine ⟨by simpa [startedWorld] using hi, ?_⟩
  rw [W.startedWorld_slot ord hi, if_pos rfl]
  exact ⟨rfl, rfl, rfl, rfl⟩

theorem PendingOk.startChildProcess (ord : IterationOrder) {o : SpawnOutcome} {b : Bool}
    (hq : W.pending = .idle) (hi : i < W.slots.length) (hs : startChildProcess ord i o W = (b, W')) :
    PendingOk W' ∧ (b = false → W'.pending = .idle) := by
  rcases startChildProcess_cases ord hs with ⟨rfl, -⟩ | ⟨-, rfl, rfl⟩
  · exact ⟨.of_idle hq, fun _ => hq⟩
  · exact ⟨.started ord hi, fun h => by cases h⟩

theorem PendingOk.restart (ord : IterationOrder) {o : SpawnOutcome} {b : Bool} (hq : W.pending = .idle)
    (hb : b = true → i < W.slots.length) : PendingOk (restart ord i o (b, W)) := by
  cases b with
  | false => exact .of_idle hq
  | true =>
    rcases hs : Supervisor.startChildProcess ord i o W with ⟨b', W₂⟩
    obtain ⟨q₂, hidle⟩ := PendingOk.startChildProcess ord hq (hb rfl) hs
    unfold Supervisor.restart
    dsimp only
    rw [hs]
    cases b'
    · exact .of_idle (hidle rfl)
    · exact q₂

/-- A line of the blacklist leaves the slot it is written for as it was. -/
theorem PendingOk.sendLine (h : PendingOk W) {line : List Char} {lines : List (List Char)}
    (hp : W.pending = .send i w (line :: lines)) (hs : Supervisor.sendLine w line W = some W') :
    PendingOk { W' with pending := .send i w lines } := by
  refine ⟨fun j v l hp' => ?_, fun j hp' => (by cases hp')⟩
  cases hp'
  obtain ⟨hi, hf⟩ := h.send i w _ hp
  rcases sendLine_cases hs with ⟨-, rfl⟩ | ⟨-, -, rfl⟩
  exacts [⟨hi, hf⟩, ⟨hi, hf⟩]

/-- A step of the supervisor keeps the bookkeeping. -/
theorem bookkeeping_masterStep (ord : IterationOrder) {o : MasterOutcome} (h : Owners W) (hp : PhaseOk W)
    (hq : PendingOk W) (hs : masterStep ord o W = some W') : Owners W' ∧ PhaseOk W' ∧ PendingOk W' := by
  rcases masterStep_cases ord hs with ⟨n, b, W₁, hph, hq₀, hn, hsp, rfl⟩ | ⟨n, hph, hq₀, -, rfl⟩ |
    ⟨hph, hq₀, ha, rfl⟩ | ⟨hph, hq₀, -, -, rfl⟩ | ⟨hph, hq₀, i, b, ho⟩ | ⟨hph, hq₀, i, hf, rfl⟩ |
    ⟨i, hq₀, -, rfl⟩ | ⟨i, W₁, r, ht, hsh, rfl⟩ | ⟨i, w, line, lines, W₁, hq₀, hl, rfl⟩ |
    ⟨i, w, b, W₁, hq₀, hfin, rfl⟩
  · -- a turn of the spawning loop
    have hA : Owners (W.setSlot n (W.assignRange n)) :=
      h.setSlot rfl ⟨(h.slotOk n).crash, (h.slotOk n).idle⟩
    have hfresh := hp.fresh n hph
    have h₁ := hA.startChildProcess ord (by simpa using hn)
      (by rw [World.slot_setSlot_self _ hn]; exact hfresh n le_rfl) hsp
    obtain ⟨q₁, hidle⟩ := PendingOk.startChildProcess ord
      (show (W.setSlot n (W.assignRange n)).pending = .idle from hq₀) (by simpa using hn) hsp
    obtain ⟨-, hframe⟩ := startChildProcess_slot ord (by simpa using hn) hsp
    cases b
    · rw [if_neg Bool.false_ne_true]
      exact ⟨h₁.exit false, PhaseOk.of_phase (.inr rfl), .of_idle (hidle rfl)⟩
    · rw [if_pos rfl]
      have hnt : ∀ j, W₁.pending ≠ .terminate j := fun j ht => by
        rcases startChildProcess_cases ord hsp with ⟨rfl, -⟩ | ⟨-, -, rfl⟩
        · exact Pending.noConfusion (hq₀.symm.trans ht)
        · cases ht
      refine ⟨h₁.withPhase _, ⟨fun m hm j hj => ?_, fun hm => (by cases hm)⟩, q₁.withPhase hnt _⟩
      cases hm
      change (W₁.slot j).process = none
      rw [hframe j (by omega), World.slot_setSlot _ hn, if_neg (by omega)]
      exact hfresh j (by omega)
  · exact ⟨h.withPhase _, PhaseOk.of_phase (.inl rfl), .of_idle hq₀⟩
  · exact ⟨h.exit true, ⟨fun _ hn => (by cases hn), fun _ => ha⟩, .of_idle hq₀⟩
  · exact ⟨h.exit false, PhaseOk.of_phase (.inr rfl), .of_idle hq₀⟩
  · rcases processOnce_cases ho with ⟨rfl, -, -⟩ | ⟨w, s, x, f, hc, he, rfl, c, -⟩
    · exact ⟨h, hp, hq⟩
    · exact ⟨h.collected ⟨w, s, x, f, hc, he, rfl, c⟩, PhaseOk.of_phase (.inl hph), .of_idle hq₀⟩
  · -- the wait returned a timer
    have ht : (W.slot i).timer = some true := by simpa [World.signalled] using List.find?_some hf
    exact ⟨h.withPending _, hp.transfer rfl rfl fun _ => rfl,
      ⟨fun _ _ _ hp' => (by cases hp'), fun j hj => (by cases hj; exact ⟨hph, ht⟩)⟩⟩
  · exact ⟨(h.withPending _).exit false, PhaseOk.of_phase (.inr rfl), .of_idle rfl⟩
  · -- a worker shut down, after `TerminateProcess` for a timer
    obtain ⟨b, W₂⟩ := r
    have h₁ : Owners W₁ ∧ W₁.phase = .waiting ∧ W₁.pending = .idle := by
      rcases ht with ⟨hph, hq₀, rfl⟩ | ⟨w, hq₀, -, ht⟩
      · exact ⟨h, hph, hq₀⟩
      · obtain ⟨-, rfl⟩ := terminate_eq ht
        exact ⟨(h.withPending _).setWorker rfl, (hq.terminate i hq₀).1, rfl⟩
    have h₂ := h₁.1.processShutdown hsh
    obtain ⟨hph₂, hq₂⟩ := processShutdown_phase h₁.1 hsh
    exact ⟨h₂.restart ord fun hb => by subst hb; exact processShutdown_true hsh,
      restart_phase ord (hph₂.trans h₁.2.1),
      .restart ord (hq₂.trans h₁.2.2) fun hb => by subst hb; exact (processShutdown_true hsh).1⟩
  · -- a line of the blacklist
    refine ⟨(h.sendLine hl).withPending _, ?_, hq.sendLine hq₀ hl⟩
    rcases sendLine_cases hl with ⟨-, rfl⟩ | ⟨-, -, rfl⟩
    exacts [hp.transfer rfl rfl fun _ => rfl, hp.transfer rfl rfl fun _ => rfl]
  · -- the end of a spawn
    obtain ⟨-, hpw, -⟩ := hq.send i w [] hq₀
    have hw : w < ({ W with pending := .idle } : World).workers.length := (h.owned i w hpw).1
    have h₁ := (h.withPending .idle).finishSpawn hpw hfin
    obtain ⟨hph₁, hq₁, ha₁⟩ := finishSpawn_frame hw hfin
    have hproc : ∀ j, (W₁.slot j).process = (W.slot j).process := by
      rcases finishSpawn_cases hw hfin with ⟨-, -, rfl⟩ | ⟨r, x, -, -, -, rfl⟩
      exacts [fun _ => rfl, World.setSlot_process _ rfl]
    cases b
    · exact ⟨h₁.exit false, PhaseOk.of_phase (.inr rfl), .of_idle hq₁⟩
    · exact ⟨h₁, hp.transfer hph₁ ha₁ hproc, .of_idle hq₁⟩

end Preservation

section Run

variable (ord : IterationOrder) {W W' : World}

/-- The workers' and the kernel's steps keep the bookkeeping too. -/
theorem bookkeeping_step {e : Event} (h : Owners W) (hp : PhaseOk W) (hq : PendingOk W)
    (hs : step ord e W = some W') : Owners W' ∧ PhaseOk W' ∧ PendingOk W' := by
  rcases step_cases ord hs with ⟨o, hs⟩ | ⟨w, m, -, -, -, -, rfl⟩ | ⟨w, c, -, -, -, rfl⟩ |
    ⟨i, w, e, r, x, hc, -, he, ha, rfl⟩ | ⟨i, ht, rfl⟩
  · exact bookkeeping_masterStep ord h hp hq hs
  · exact ⟨h.setWorker rfl, hp.transfer rfl rfl fun _ => rfl, hq.setWorker⟩
  · exact ⟨h.setWorker rfl, hp.transfer rfl rfl fun _ => rfl, hq.setWorker⟩
  · have hw := (h.slotOk i).crash w hc
    have hs' : SlotOk { W.slot i with read := r, pipeEvent := some true } :=
      ⟨(h.slotOk i).crash, fun hn => absurd (hw.symm.trans hn) (by simp)⟩
    have h₁ : Owners (W.setSlot i { W.slot i with read := r, pipeEvent := some true }) :=
      h.setSlot rfl hs'
    have q₁ : PendingOk (W.setSlot i { W.slot i with read := r, pipeEvent := some true }) :=
      hq.setSlot (fun _ _ _ hf => by rw [hf.2.2.1] at he; cases he) fun _ ht => ht
    exact ⟨h₁.setWorker (by rw [(Worker.answer_eq ha).1]; rfl),
      hp.transfer rfl rfl (W.setSlot_process rfl), q₁.setWorker⟩
  · have hs' : SlotOk { W.slot i with timer := some true } :=
      ⟨(h.slotOk i).crash, fun hn => absurd ((h.slotOk i).idle hn).2 (by rw [ht]; simp)⟩
    exact ⟨h.setSlot rfl hs', hp.transfer rfl rfl (W.setSlot_process rfl),
      hq.setSlot (fun _ _ _ hf => hf) fun _ _ => rfl⟩

theorem bookkeeping_initial (g c n : Nat) :
    Owners (World.initial g c n) ∧ PhaseOk (World.initial g c n) ∧ PendingOk (World.initial g c n) := by
  have hslot : ∀ i, (World.initial g c n).slot i = {} := fun i => by
    simp only [World.slot, World.initial, List.getD_eq_getElem?_getD, List.getElem?_replicate]
    split_ifs <;> rfl
  refine ⟨⟨fun i => ?_, ?_, fun i w hw => ?_, fun i j w hi => ?_, fun w hw => ?_⟩,
    ⟨fun _ _ i _ => by rw [hslot], fun hp => by cases hp⟩, .of_idle rfl⟩
  · rw [hslot]; exact ⟨fun _ hw => (by cases hw), fun _ => ⟨rfl, rfl⟩⟩
  · simp [World.initial, List.countP_replicate]
  all_goals simp_all [World.initial]

theorem bookkeeping_reach (hR : Reach ord W) : Owners W ∧ PhaseOk W ∧ PendingOk W := by
  induction hR with
  | initial g c n => exact bookkeeping_initial g c n
  | step e _ hs ih => exact bookkeeping_step ord ih.1 ih.2.1 ih.2.2 hs

/-- The bookkeeping holds in every world a run reaches. -/
theorem invariants_reach (hR : Reach ord W) : Owners W ∧ PhaseOk W :=
  ⟨(bookkeeping_reach ord hR).1, (bookkeeping_reach ord hR).2.1⟩

theorem pendingOk_reach (hR : Reach ord W) : PendingOk W := (bookkeeping_reach ord hR).2.2

end Run

/-! ## `active_processes` counts the workers the slots hold -/

/-- In every world a run reaches, `Global::active_processes` is the number of slots whose
process handle is not null, a slot whose process handle is null has a null event and a null
timer, and once the wait loop has ended every worker ever started has been reaped. -/
theorem active_processes_counts_held_workers (ord : IterationOrder) {W : World}
    (hR : Reach ord W) :
    W.activeProcesses = W.slots.countP (·.process.isSome) ∧
    (∀ s ∈ W.slots, s.process = none → s.pipeEvent = none ∧ s.timer = none) ∧
    (W.phase = .exited true → ∀ x ∈ W.workers, x.reaped = true) := by
  obtain ⟨h, hp⟩ := invariants_reach ord hR
  refine ⟨h.active, fun s hs => ?_, fun hex x hx => ?_⟩
  · obtain ⟨i, hi, rfl⟩ := List.mem_iff_getElem.mp hs
    simpa [World.slot, hi] using (h.slotOk i).idle
  · obtain ⟨w, hw, rfl⟩ := List.mem_iff_getElem.mp hx
    by_contra hr
    obtain ⟨i, hi⟩ := h.unreaped w hw (by simpa [World.worker, hw] using hr)
    have hzero := hp.done hex
    rw [h.active, List.countP_eq_zero] at hzero
    have hlt : i < W.slots.length := W.lt_of_slot_ne fun h => by simp [h] at hi
    simp only [World.slot, List.getD_eq_getElem?_getD, List.getElem?_eq_getElem hlt,
      Option.getD_some] at hi
    exact hzero _ (List.getElem_mem hlt) (by simp [hi])

/-- One worker started, its blacklist sent and its first read issued. -/
theorem active_processes_after_one_spawn :
    Reach IterationOrder.insertion
      ((run IterationOrder.insertion [.master {}, .master {}] (World.initial 1 1 1)).getD
        (World.initial 1 1 1)) ∧
    let W := (run IterationOrder.insertion [.master {}, .master {}] (World.initial 1 1 1)).getD
      (World.initial 1 1 1)
    W.activeProcesses = W.slots.countP (·.process.isSome) ∧
    (∀ s ∈ W.slots, s.process = none → s.pipeEvent = none ∧ s.timer = none) ∧
    (W.phase = .exited true → ∀ x ∈ W.workers, x.reaped = true) :=
  have hR : Reach IterationOrder.insertion
      ((run IterationOrder.insertion [.master {}, .master {}] (World.initial 1 1 1)).getD
        (World.initial 1 1 1)) :=
    @reach_run _ [.master {}, .master {}] _ _ (.initial 1 1 1) (by rfl)
  ⟨hR, active_processes_counts_held_workers _ hR⟩

end Fossilize.Supervisor
