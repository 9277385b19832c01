import Fossilize.Supervisor.Respawn

/-! # The timers of the supervisor, and the workers it terminates

A slot holds a timer exactly when its worker has reported a crash, and only such workers
are terminated.
-/

namespace Fossilize.Supervisor

/-- `parse` was given a crash report from worker `w`. -/
def World.Crashed (W : World) (w : Nat) : Prop := ∃ m ∈ (W.worker w).parsed, crashReport m

/-- A slot holds a timer exactly when it reads the pipe of a worker that reported a crash. -/
def Timers (W : World) : Prop :=
  ∀ i, (W.slot i).timer.isSome ↔ ∃ w, (W.slot i).crashFile = some w ∧ W.Crashed w

/-- What `Timers` reads of a slot. -/
def Slot.timerKey (s : Slot) : Bool × Option Nat := (s.timer.isSome, s.crashFile)

theorem isSome_timerAfter : ∀ (t : Option Bool) (ms : List (List Char)),
    (timerAfter t ms).isSome ↔ t.isSome ∨ ∃ m ∈ ms, crashReport m
  | t, [] => by simp [timerAfter]
  | t, m :: ms => by
    rw [show timerAfter t (m :: ms) = timerAfter (if crashReport m then some false else t) ms from rfl,
      isSome_timerAfter]
    by_cases hm : crashReport m <;> simp [hm]

theorem World.slot_initial (g c n i : Nat) : (World.initial g c n).slot i = {} := by
  simp only [World.slot, World.initial, List.getD_eq_getElem?_getD, List.getElem?_replicate]
  split_ifs <;> rfl

section Preservation

variable {W W' : World} {i w : Nat} {s : Slot} {x : Worker}

/-! ## Arming and closing timers -/

/-- Changes `Timers` cannot see: each slot keeps its timer and pipe, or is left without a
timer and reading no worker that reported anything; what `parse` was given stays. -/
theorem Timers.frame (ht : Timers W)
    (hs : ∀ j, (W'.slot j).timerKey = (W.slot j).timerKey ∨
      (W'.slot j).timer = none ∧ ∀ v, (W'.slot j).crashFile = some v → (W'.worker v).parsed = [])
    (hx : ∀ v, (W'.worker v).parsed = (W.worker v).parsed) : Timers W' := fun j => by
  rcases hs j with h | ⟨hn, hv⟩
  · simp only [Slot.timerKey, Prod.mk.injEq] at h
    simp only [h.1, h.2, World.Crashed, hx]
    exact ht j
  · simp only [hn, Option.isSome_none, Bool.false_eq_true, false_iff, not_exists, not_and]
    intro v hc ⟨m, hm, _⟩
    rw [hv v hc] at hm
    cases hm

theorem Timers.setSlot (ht : Timers W)
    (hs : s.timerKey = (W.slot i).timerKey ∨ s.timer = none ∧ s.crashFile = none) :
    Timers (W.setSlot i s) := by
  by_cases hi : i < W.slots.length
  · refine ht.frame (fun j => ?_) fun _ => rfl
    rw [W.slot_setSlot hi]
    split_ifs with hj
    · subst hj
      exact hs.imp_right fun h => ⟨h.1, fun v hv => by rw [h.2] at hv; cases hv⟩
    · exact .inl rfl
  · rwa [W.setSlot_of_le s (Nat.le_of_not_lt hi)]

theorem Timers.setWorker (ht : Timers W) (hx : x.parsed = (W.worker w).parsed) :
    Timers (W.setWorker w x) := by
  by_cases hw : w < W.workers.length
  · refine ht.frame (fun _ => .inl rfl) fun v => ?_
    rw [W.worker_setWorker hw]
    split_ifs with hv
    exacts [hv ▸ hx, rfl]
  · simpa [World.setWorker, List.set_eq_of_length_le (Nat.le_of_not_lt hw)] using ht

theorem Timers.of_eq (ht : Timers W) (hs : W'.slots = W.slots) (hw : W'.workers = W.workers) :
    Timers W' := fun j => by
  simp only [World.slot, World.Crashed, World.worker, hs, hw]
  exact ht j

/-- Collecting from slot `i`'s pipe: each crash report parsed arms the slot's timer, and the
pipe is no other slot's. -/
theorem Timers.collected (ho : Owners W) (ht : Timers W) (hc : Collected i W W') : Timers W' := by
  obtain ⟨w, s, x, f, hcw, -, rfl, c⟩ := hc
  have hpw := (ho.slotOk i).crash w hcw
  have hi : i < W.slots.length := W.lt_of_slot_ne fun h => by simp [h] at hpw
  have hworker : ∀ v, ((W.setSlot i s).setWorker w x).worker v = if v = w then x else W.worker v :=
    fun _ => World.worker_setWorker _ (by simpa using (ho.owned i w hpw).1)
  obtain ⟨ms, hp, -, -, -, htm, -⟩ := c.parsed
  intro j
  show (((W.setSlot i s).setWorker w x).slot j).timer.isSome ↔
    ∃ v, (((W.setSlot i s).setWorker w x).slot j).crashFile = some v ∧
      ∃ m ∈ (((W.setSlot i s).setWorker w x).worker v).parsed, crashReport m
  rw [World.slot_setWorker, W.slot_setSlot hi]
  split_ifs with hji
  · -- the slot collected from: its timer is armed by the reports parsed before and now
    simp only [htm, isSome_timerAfter, ht i, c.process.2, hcw, Option.some.injEq, exists_eq_left',
      hworker, if_true, hp, List.mem_append, World.Crashed, or_and_right, exists_or]
  · -- any other slot reads another worker's pipe
    rw [ht j]
    refine exists_congr fun v => and_congr_right fun hv => ?_
    have hvw : v ≠ w := fun h => hji (ho.unique j i w (h ▸ (ho.slotOk j).crash v hv) hpw)
    rw [hworker, if_neg hvw]
    rfl

theorem Timers.drain {fuel : Nat} (ho : Owners W) (ht : Timers W) (hd : drain fuel i W = some W') :
    Timers W' := by
  rcases drain_collected ho hd with rfl | hc
  exacts [ht, ht.collected ho hc]

theorem Timers.reap (ht : Timers W) (i w : Nat) : Timers (W.reap i w) :=
  have h : Timers ((W.setSlot i { W.slot i with process := none }).setWorker w
      { W.worker w with reaped := true }) := Timers.setWorker (ht.setSlot (.inl rfl)) rfl
  h.of_eq rfl rfl

theorem Timers.processShutdown {o : ShutdownOutcome} {b : Bool} (ho : Owners W) (ht : Timers W)
    (hs : processShutdown i o W = some (b, W')) : Timers W' := by
  obtain ⟨W₁, hd, hr⟩ := processShutdown_cases hs
  have h₁ : Timers (W₁.setSlot i (W₁.slot i).closeHandles) := (ht.drain ho hd).setSlot (.inr ⟨rfl, rfl⟩)
  rcases hr with ⟨-, rfl, -⟩ | ⟨w, c, -, -, -, hdr⟩
  · exact h₁
  rcases decideRestart_cases hdr with ⟨-, rfl⟩ | ⟨-, -, -, rfl, -⟩
  exacts [h₁.reap i w, (h₁.reap i w).setSlot (.inl rfl)]

/-- A worker started in slot `i`, which held no timer: it has reported nothing yet. -/
theorem Timers.startedWorld (ht : Timers W) (ord : IterationOrder) (hi : i < W.slots.length)
    (hs : s.timer = none) : Timers (startedWorld ord i s W) := by
  have hx : ∀ v, ((Supervisor.startedWorld ord i s W).worker v).parsed = (W.worker v).parsed :=
      fun v => by
    rw [W.startedWorld_worker_eq ord]
    split_ifs with hv
    · simp [hv, World.worker]
    · rfl
  refine ht.frame (fun j => ?_) hx
  rw [W.startedWorld_slot ord hi]
  split_ifs
  · refine .inr ⟨hs, fun v hv => ?_⟩
    cases hv
    rw [hx]
    simp [World.worker]
  · exact .inl rfl

theorem Timers.startChildProcess (ht : Timers W) (ord : IterationOrder) {o : SpawnOutcome} {b : Bool}
    (hi : i < W.slots.length) (hn : (W.slot i).timer = none) (hs : startChildProcess ord i o W = (b, W')) :
    Timers W' := by
  rcases startChildProcess_cases ord hs with ⟨rfl, -⟩ | ⟨-, -, rfl⟩
  · exact ht.setSlot (.inl rfl)
  · exact ht.startedWorld ord hi hn

theorem Timers.restart (ht : Timers W) (ord : IterationOrder) {o : SpawnOutcome} {b : Bool}
    (hb : b = true → i < W.slots.length ∧ (W.slot i).timer = none) :
    Timers (restart ord i o (b, W)) := by
  rcases restart_cases ord i o b W with h | ⟨b', W₂, rfl, hs, hsl, hwk⟩
  · rw [h]; exact ht
  · obtain ⟨hi, hn⟩ := hb rfl
    exact (ht.startChildProcess ord hi hn hs).of_eq hsl hwk

end Preservation

section Run

variable (ord : IterationOrder) {W W' : World}

theorem timers_masterStep {o : MasterOutcome} (ho : Owners W) (hp : PhaseOk W) (hq : PendingOk W)
    (ht : Timers W) (hs : masterStep ord o W = some W') : Timers W' := by
  rcases masterStep_cases ord hs with ⟨n, b, W₁, hph, -, hn, hsp, rfl⟩ | ⟨n, -, -, -, rfl⟩ |
    ⟨-, -, -, rfl⟩ | ⟨-, -, -, -, rfl⟩ | ⟨-, -, i, b, hpo⟩ | ⟨-, -, i, -, rfl⟩ |
    ⟨i, -, -, rfl⟩ | ⟨i, W₁, ⟨b, W₂⟩, hte, hsh, rfl⟩ | ⟨i, w, line, lines, W₁, -, hsl, rfl⟩ |
    ⟨i, w, b, W₁, hq₀, hfin, rfl⟩
  · have hfresh : ((W.setSlot n (W.assignRange n)).slot n).timer = none := by
      rw [World.slot_setSlot_self _ hn]
      exact ((ho.slotOk n).idle (hp.fresh n hph n le_rfl)).2
    have hA : Timers (W.setSlot n (W.assignRange n)) := ht.setSlot (.inl rfl)
    have h₁ := hA.startChildProcess ord (by simpa using hn) hfresh hsp
    split_ifs <;> exact h₁.of_eq rfl rfl
  · exact ht.of_eq rfl rfl
  · exact ht.of_eq rfl rfl
  · exact ht.of_eq rfl rfl
  · rcases processOnce_cases hpo with ⟨rfl, -, -⟩ | ⟨w, s, x, f, hc, he, rfl, c, -⟩
    exacts [ht, ht.collected ho ⟨w, s, x, f, hc, he, rfl, c⟩]
  · exact ht.of_eq rfl rfl
  · exact ht.of_eq rfl rfl
  · have h₁ : Owners W₁ ∧ Timers W₁ := by
      rcases hte with ⟨-, -, rfl⟩ | ⟨w, -, -, hte⟩
      · exact ⟨ho, ht⟩
      · obtain ⟨-, rfl⟩ := terminate_eq hte
        exact ⟨(ho.withPending _).setWorker rfl, (ht.of_eq rfl rfl).setWorker rfl⟩
    refine (h₁.2.processShutdown h₁.1 hsh).restart ord fun hb => ?_
    subst hb
    obtain ⟨hi, hn⟩ := processShutdown_true hsh
    exact ⟨hi, ((h₁.1.processShutdown hsh).slotOk i).idle hn |>.2⟩
  · rcases sendLine_cases hsl with ⟨-, rfl⟩ | ⟨-, -, rfl⟩
    exacts [ht, ht.setWorker rfl]
  · have hw := hq.worker_lt ho hq₀
    have h₁ : Timers W₁ := by
      rcases finishSpawn_cases (show w < ({ W with pending := .idle } : World).workers.length from hw) hfin with
        ⟨-, -, rfl⟩ | ⟨r, x, -, hk, -, rfl⟩
      · exact ht.setWorker rfl
      · refine Timers.setWorker (ht.setSlot (.inl rfl)) ?_
        rw [show x = (kick _).2 by rw [hk], (kick_eq _).1]
        rfl
    split_ifs <;> exact h₁.of_eq rfl rfl

theorem timers_step {e : Event} (ho : Owners W) (hp : PhaseOk W) (hq : PendingOk W) (ht : Timers W)
    (hs : step ord e W = some W') : Timers W' := by
  rcases step_cases ord hs with ⟨o, hs⟩ | ⟨w, m, -, -, -, -, rfl⟩ | ⟨w, c, -, -, -, rfl⟩ |
    ⟨i, w, e, r, x, -, -, -, ha, rfl⟩ | ⟨i, hf, rfl⟩
  · exact timers_masterStep ord ho hp hq ht hs
  · exact ht.setWorker rfl
  · exact ht.setWorker rfl
  · exact Timers.setWorker (ht.setSlot (.inl rfl)) (by rw [(Worker.answer_eq ha).1]; rfl)
  · exact ht.setSlot (.inl (by simp [Slot.timerKey, hf]))

/-- The timers agree with the crash reports in every world a run reaches. -/
theorem timers_reach (hR : Reach ord W) : Timers W := by
  induction hR with
  | initial g c n => exact fun i => by simp [World.slot_initial]
  | step e hR hs ih =>
    obtain ⟨ho, hp, hq⟩ := bookkeeping_reach ord hR
    exact timers_step ord ho hp hq ih hs

end Run

/-! ## Exit codes -/

/-- `W'` has the exit codes of `W`. -/
def SameExits (W W' : World) : Prop := ∀ w, (W'.worker w).exitCode = (W.worker w).exitCode

namespace SameExits

variable (ord : IterationOrder) {W W₁ W' : World} {i : Nat}

theorem refl (W : World) : SameExits W W := fun _ => rfl

theorem trans (h₁ : SameExits W W₁) (h₂ : SameExits W₁ W') : SameExits W W' :=
  fun w => (h₂ w).trans (h₁ w)

theorem setWorker {w : Nat} {x : Worker} (hx : x.exitCode = (W.worker w).exitCode) :
    SameExits W (W.setWorker w x) := fun v => by
  by_cases hw : w < W.workers.length
  · rw [W.worker_setWorker hw]
    split_ifs with hv
    exacts [hv ▸ hx, rfl]
  · simp [World.setWorker, List.set_eq_of_length_le (Nat.le_of_not_lt hw)]

theorem setSlot (W : World) (i : Nat) (s : Slot) : SameExits W (W.setSlot i s) := fun _ => rfl

theorem collected (hc : Collected i W W') : SameExits W W' := by
  obtain ⟨w, s, x, f, -, -, rfl, c⟩ := hc
  exact (setSlot W i s).trans (setWorker (by rw [c.worker]; rfl))

theorem processShutdown {o : ShutdownOutcome} {b : Bool} (ho : Owners W)
    (h : Supervisor.processShutdown i o W = some (b, W')) : SameExits W W' := by
  obtain ⟨W₁, hdr, hr⟩ := processShutdown_cases h
  have h₁ : SameExits W W₁ := (drain_collected ho hdr).elim (fun h => h ▸ refl W) collected
  rcases hr with ⟨-, rfl, -⟩ | ⟨w, c, -, -, -, hd⟩
  · exact h₁
  have h₂ : SameExits W₁ ((W₁.setSlot i (W₁.slot i).closeHandles).reap i w) := setWorker rfl
  rcases decideRestart_cases hd with ⟨-, rfl⟩ | ⟨-, -, -, rfl, -⟩
  exacts [h₁.trans h₂, h₁.trans h₂]

theorem startedWorld (s : Slot) : SameExits W (Supervisor.startedWorld ord i s W) := fun v => by
  rw [W.startedWorld_worker_eq ord]
  split_ifs with hv
  · simp [hv, World.worker]
  · rfl

theorem startChildProcess {o : SpawnOutcome} {b : Bool}
    (h : Supervisor.startChildProcess ord i o W = (b, W')) : SameExits W W' := by
  rcases startChildProcess_cases ord h with ⟨rfl, -⟩ | ⟨-, -, rfl⟩
  exacts [setSlot W i _, startedWorld ord _]

theorem restart (i : Nat) (o : SpawnOutcome) (b : Bool) (W : World) :
    SameExits W (Supervisor.restart ord i o (b, W)) := by
  rcases restart_cases ord i o b W with h | ⟨b', W₂, rfl, hs, -, hwk⟩
  · rw [h]; exact refl W
  · exact (startChildProcess ord hs).trans fun v => by simp only [World.worker, hwk]

end SameExits

section Terminate

variable (ord : IterationOrder) {W W' : World}

/-- A step of the supervisor changes no exit code, but in its timer branch, where it
terminates the worker of the slot whose timer fired. -/
theorem masterStep_exits {o : MasterOutcome} (ho : Owners W) (hq : PendingOk W)
    (hs : masterStep ord o W = some W') :
    SameExits W W' ∨ ∃ i w W₁, (W.slot i).timer = some true ∧ (W.slot i).process = some w ∧
      ({ W with pending := .idle } : World).terminate w = some W₁ ∧ SameExits W₁ W' := by
  rcases masterStep_cases ord hs with ⟨n, b, W₁, -, -, -, hsp, rfl⟩ | ⟨n, -, -, -, rfl⟩ |
    ⟨-, -, -, rfl⟩ | ⟨-, -, -, -, rfl⟩ | ⟨-, -, i, b, hpo⟩ | ⟨-, -, i, -, rfl⟩ |
    ⟨i, -, -, rfl⟩ | ⟨i, W₁, ⟨b, W₂⟩, hte, hsh, rfl⟩ | ⟨i, w, line, lines, W₁, -, hsl, rfl⟩ |
    ⟨i, w, b, W₁, hq₀, hfin, rfl⟩
  · have h₁ : SameExits W W₁ := (SameExits.setSlot W n _).trans (SameExits.startChildProcess ord hsp)
    split_ifs <;> exact .inl h₁
  · exact .inl (SameExits.refl W)
  · exact .inl (SameExits.refl W)
  · exact .inl (SameExits.refl W)
  · rcases processOnce_cases hpo with ⟨rfl, -, -⟩ | ⟨w, s, x, f, hc, he, rfl, c, -⟩
    exacts [.inl (SameExits.refl _), .inl (SameExits.collected ⟨w, s, x, f, hc, he, rfl, c⟩)]
  · exact .inl (SameExits.refl W)
  · exact .inl (SameExits.refl W)
  · rcases hte with ⟨-, -, rfl⟩ | ⟨w, hqi, hw, hte⟩
    · exact .inl ((SameExits.processShutdown ho hsh).trans (SameExits.restart ord i _ b W₂))
    · have ho₁ : Owners W₁ := by obtain ⟨-, rfl⟩ := terminate_eq hte; exact (ho.withPending _).setWorker rfl
      exact .inr ⟨i, w, W₁, (hq.terminate i hqi).2, hw, hte,
        (SameExits.processShutdown ho₁ hsh).trans (SameExits.restart ord i _ b W₂)⟩
  · rcases sendLine_cases hsl with ⟨-, rfl⟩ | ⟨-, -, rfl⟩
    exacts [.inl (SameExits.refl _), .inl (SameExits.setWorker rfl)]
  · have hw := hq.worker_lt ho hq₀
    have h₁ : SameExits W W₁ := by
      rcases finishSpawn_cases (show w < ({ W with pending := .idle } : World).workers.length from hw) hfin with
        ⟨-, -, rfl⟩ | ⟨r, x, -, hk, -, rfl⟩
      · exact fun v => SameExits.setWorker (show ({ ({ W with pending := .idle } : World).worker w with
          reading := false } : Worker).exitCode = _ from rfl) v
      · refine fun v => ((SameExits.setSlot { W with pending := .idle } i _).trans (SameExits.setWorker ?_)) v
        rw [show x = (kick _).2 by rw [hk], (kick_eq _).1]
        rfl
    split_ifs <;> exact .inl h₁

/-- In every world a run reaches, a slot holds a timer exactly when it reads the pipe of a
worker from which `parse` was given a `CRASH` message: each crash report arms one, it stays
until `process_shutdown` closes the pipe, and nothing else arms one. -/
theorem timer_armed_iff_crash_reported (hR : Reach ord W) (i : Nat) :
    (W.slot i).timer.isSome ↔ ∃ w, (W.slot i).crashFile = some w ∧
      ∃ m ∈ (W.worker w).parsed, startsWith (cString m) "CRASH".toList :=
  timers_reach ord hR i

/-- From any world a run reaches, a step of `run_master_process` that ends a running worker
is the `TerminateProcess` of its timer branch, and the worker it ends has sent `CRASH`: the
supervisor terminates no worker that did not report a crash. -/
theorem terminates_only_crashed_workers {o : MasterOutcome} (hR : Reach ord W)
    (hs : masterStep ord o W = some W') {w : Nat} (hw : (W.worker w).exitCode = none)
    (hw' : (W'.worker w).exitCode.isSome) :
    ∃ m ∈ (W.worker w).parsed, startsWith (cString m) "CRASH".toList := by
  obtain ⟨ho, -, hq⟩ := bookkeeping_reach ord hR
  rcases masterStep_exits ord ho hq hs with h | ⟨i, v, W₁, hti, hv, hte, h⟩
  · rw [h w, hw] at hw'; cases hw'
  -- the timer that fired was armed by a crash report of the worker it terminates
  obtain ⟨u, hu, hcrash⟩ := (timers_reach ord hR i).mp (by simp [hti])
  obtain rfl : u = v := Option.some.inj (((ho.slotOk i).crash u hu).symm.trans hv)
  obtain ⟨-, rfl⟩ := terminate_eq hte
  rw [h w, World.worker_setWorker _ (show u < ({ W with pending := .idle } : World).workers.length from
    (ho.owned i u hv).1)] at hw'
  split_ifs at hw' with hwu
  · exact hwu ▸ hcrash
  · change (W.worker w).exitCode.isSome at hw'
    rw [hw] at hw'; cases hw'

end Terminate

/-- One slot, over one graphics and one compute pipeline: its worker is started, reports a
crash and hangs; the supervisor reads the report, the timer it armed fires, and the wait
returns it. -/
def hangRun : List Event :=
  [.master {}, .master {}, .master {}, .write 0 "CRASH\n".toList, .complete 0, .master {}, .fire 0,
    .master {}]

def hungWorld : World :=
  (run IterationOrder.insertion hangRun (World.initial 1 1 1)).getD (World.initial 1 1 1)

/-- The world once the supervisor has handled the timeout of `hungWorld`. -/
def terminatedWorld : World :=
  (masterStep IterationOrder.insertion {} hungWorld).getD hungWorld

theorem reach_hungWorld : Reach IterationOrder.insertion hungWorld :=
  @reach_run _ hangRun _ _ (.initial 1 1 1) (by rfl)

/-- The timer of `hungWorld`'s slot has fired, armed by its worker's crash report. -/
theorem hung_world_timer_armed :
    Reach IterationOrder.insertion hungWorld ∧ (hungWorld.slot 0).timer = some true ∧
      ((hungWorld.slot 0).timer.isSome ↔ ∃ w, (hungWorld.slot 0).crashFile = some w ∧
        ∃ m ∈ (hungWorld.worker w).parsed, startsWith (cString m) "CRASH".toList) :=
  ⟨reach_hungWorld, by rfl, timer_armed_iff_crash_reported _ reach_hungWorld 0⟩

/-- The supervisor terminates the hung worker, which reported its crash. -/
theorem hung_worker_terminated :
    Reach IterationOrder.insertion hungWorld ∧
      masterStep IterationOrder.insertion {} hungWorld = some terminatedWorld ∧
      (hungWorld.worker 0).exitCode = none ∧ (terminatedWorld.worker 0).exitCode = some 3 ∧
      ∃ m ∈ (hungWorld.worker 0).parsed, startsWith (cString m) "CRASH".toList :=
  have hs : masterStep IterationOrder.insertion {} hungWorld = some terminatedWorld := by rfl
  ⟨reach_hungWorld, hs, by rfl, by rfl,
    terminates_only_crashed_workers _ reach_hungWorld hs (by rfl) (by rfl)⟩

end Fossilize.Supervisor
