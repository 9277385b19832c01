import Fossilize.Supervisor.Owners

/-! # What the supervisor reads of its workers

Nothing written to a pipe is lost or read twice, a slot's progress fields are the last
reports parsed, and a reaped worker has been read to the end.
-/

namespace Fossilize.Supervisor

/-- A worker the supervisor has finished reading: it has exited, and if every message it
wrote fits the read buffer, `parse` was given exactly those messages, in order. -/
def Worker.Done (x : Worker) : Prop :=
  x.exitCode.isSome ∧ ((∀ m ∈ x.wrote, m.length < 1024) → x.parsed = x.wrote)

/-- What the supervisor has read of each worker. -/
structure Delivery (W : World) : Prop where
  /-- The pipe of a slot: nothing lost, nothing read twice. -/
  fifo : ∀ i w, (W.slot i).crashFile = some w →
    (W.worker w).parsed ++ (W.slot i).read.inFlight ++ (W.worker w).pipe = (W.worker w).wrote
  /-- A read ends broken only on an empty pipe of a worker that has exited. -/
  broken : ∀ i w, (W.slot i).crashFile = some w → (W.slot i).pipeEvent.isSome →
    (W.slot i).read = .failed → (W.worker w).pipe = [] ∧ (W.worker w).exitCode.isSome
  /-- The progress fields are the last reports parsed from the slot's worker. -/
  progress : ∀ i w, (W.slot i).process = some w →
    (W.slot i).graphicsProgress = lastReport "GRAPHICS".toList (-1) (W.worker w).parsed ∧
    (W.slot i).computeProgress = lastReport "COMPUTE".toList (-1) (W.worker w).parsed
  /-- Every module hash parsed is in the blacklist. -/
  modules : ∀ w, ∀ m ∈ (W.worker w).parsed, ∀ h, moduleHash m = some h → h ∈ W.faulty.items
  /-- A slot that closed the pipe of the worker it holds has read all of it. -/
  drained : ∀ i w, (W.slot i).process = some w → (W.slot i).crashFile = none → (W.worker w).Done
  /-- So has a slot that reaped its worker. -/
  reaped : ∀ w, (W.worker w).reaped = true → (W.worker w).Done
  /-- `parse` is given the messages in the order they were written. -/
  ordered : ∀ w, (W.worker w).parsed <+: (W.worker w).wrote

/-- A slot that reads a pipe has its event. -/
def Slot.Live (s : Slot) : Prop := ∀ w, s.crashFile = some w → s.pipeEvent.isSome

/-- Until `log_and_die`, every slot that reads a pipe has its event, but the one whose new
worker the supervisor writes the blacklist to: the event is created after that, and a failed
`CreateEventA` ends the supervisor. -/
def Live (W : World) : Prop :=
  W.phase ≠ .exited false → ∀ i, (∀ w lines, W.pending ≠ .send i w lines) → (W.slot i).Live

/-- What `Delivery` reads of a slot. -/
def Slot.reads (s : Slot) : Option Nat × Option Nat × Bool × ReadState × Int × Int :=
  (s.process, s.crashFile, s.pipeEvent.isSome, s.read, s.graphicsProgress, s.computeProgress)

/-- A slot that holds no worker and no pipe. -/
def Slot.Idle (s : Slot) : Prop := s.process = none ∧ s.crashFile = none

/-- `x'` is `x` as far as reading its pipe goes; it may have exited since. -/
structure Worker.Same (x x' : Worker) : Prop where
  wrote : x'.wrote = x.wrote
  parsed : x'.parsed = x.parsed
  pipe : x'.pipe = x.pipe
  exited : x.exitCode.isSome → x'.exitCode.isSome

theorem Worker.Same.done {x x' : Worker} (h : x.Same x') (hd : x.Done) : x'.Done :=
  ⟨h.exited hd.1, by rw [h.wrote, h.parsed]; exact hd.2⟩

theorem Slot.reads_eq {s s' : Slot} (h : s'.reads = s.reads) :
    s'.process = s.process ∧ s'.crashFile = s.crashFile ∧ s'.pipeEvent.isSome = s.pipeEvent.isSome ∧
      s'.read = s.read ∧ s'.graphicsProgress = s.graphicsProgress ∧
      s'.computeProgress = s.computeProgress := by
  simpa only [Slot.reads, Prod.mk.injEq] using h

section Preservation

variable {W W' : World} {i w : Nat} {s : Slot} {x : Worker}

/-! ## Two ways to change the world -/

/-- Changes `Delivery` cannot see: slots keep what it reads or lose their worker and pipe,
workers keep their pipes and may exit, only workers read to the end are reaped, and the
blacklist grows. -/
theorem Delivery.frame (hd : Delivery W) (hs : ∀ j, (W'.slot j).reads = (W.slot j).reads ∨ (W'.slot j).Idle)
    (hx : ∀ v, (W.worker v).Same (W'.worker v))
    (hr : ∀ v, (W'.worker v).reaped = true → (W.worker v).Done)
    (hf : ∀ h ∈ W.faulty.items, h ∈ W'.faulty.items) : Delivery W' := by
  refine ⟨fun j v hc => ?_, fun j v hc he hrd => ?_, fun j v hp => ?_, fun v m hm h hh => ?_,
    fun j v hp hc => ?_, fun v hv => (hx v).done (hr v hv), fun v => ?_⟩
  · rcases hs j with h | ⟨-, hn⟩
    · obtain ⟨-, hc', -, hr', -, -⟩ := Slot.reads_eq h
      rw [hc'] at hc
      rw [hr', (hx v).parsed, (hx v).pipe, (hx v).wrote]
      exact hd.fifo j v hc
    · rw [hn] at hc; cases hc
  · rcases hs j with h | ⟨-, hn⟩
    · obtain ⟨-, hc', he', hr', -, -⟩ := Slot.reads_eq h
      rw [hc'] at hc; rw [he'] at he; rw [hr'] at hrd
      obtain ⟨hp, hex⟩ := hd.broken j v hc he hrd
      exact ⟨(hx v).pipe.trans hp, (hx v).exited hex⟩
    · rw [hn] at hc; cases hc
  · rcases hs j with h | ⟨hn, -⟩
    · obtain ⟨hp', -, -, -, hg, hc⟩ := Slot.reads_eq h
      rw [hp'] at hp
      rw [hg, hc, (hx v).parsed]
      exact hd.progress j v hp
    · rw [hn] at hp; cases hp
  · rw [(hx v).parsed] at hm
    exact hf h (hd.modules v m hm h hh)
  · rcases hs j with h | ⟨hn, -⟩
    · obtain ⟨hp', hc', -, -, -, -⟩ := Slot.reads_eq h
      rw [hp'] at hp; rw [hc'] at hc
      exact (hx v).done (hd.drained j v hp hc)
    · rw [hn] at hp; cases hp
  · rw [(hx v).parsed, (hx v).wrote]; exact hd.ordered v

theorem Delivery.setSlot (hd : Delivery W) (hs : s.reads = (W.slot i).reads ∨ s.Idle) :
    Delivery (W.setSlot i s) := by
  by_cases hi : i < W.slots.length
  · refine hd.frame (fun j => ?_) (fun _ => ⟨rfl, rfl, rfl, id⟩) (fun v => hd.reaped v) (fun _ => id)
    rw [W.slot_setSlot hi]
    split_ifs with hj
    · rw [hj]; exact hs
    · exact .inl rfl
  · rwa [W.setSlot_of_le s (Nat.le_of_not_lt hi)]

theorem Delivery.setWorker (hd : Delivery W) (hx : (W.worker w).Same x)
    (hr : x.reaped = (W.worker w).reaped) : Delivery (W.setWorker w x) := by
  by_cases hw : w < W.workers.length
  · refine hd.frame (fun _ => .inl rfl) (fun v => ?_) (fun v hv => ?_) (fun _ => id)
    · rw [W.worker_setWorker hw]; split_ifs with h
      · rw [h]; exact hx
      · exact ⟨rfl, rfl, rfl, id⟩
    · rw [W.worker_setWorker hw] at hv; split_ifs at hv with h
      · rw [h]; exact hd.reaped w (hr ▸ hv)
      · exact hd.reaped v hv
  · simpa [World.setWorker, List.set_eq_of_length_le (Nat.le_of_not_lt hw)] using hd

theorem Delivery.withPhase (hd : Delivery W) (p : Phase) : Delivery { W with phase := p } :=
  ⟨hd.fifo, hd.broken, hd.progress, hd.modules, hd.drained, hd.reaped, hd.ordered⟩

theorem Delivery.withPending (hd : Delivery W) (p : Pending) : Delivery { W with pending := p } :=
  ⟨hd.fifo, hd.broken, hd.progress, hd.modules, hd.drained, hd.reaped, hd.ordered⟩

/-- Slot `i` gets a new state `s` and its worker `w` a new state `x`, where `s` and `x`
keep the invariant between them and the blacklist only grows. -/
theorem Delivery.update (ho : Owners W) (hd : Delivery W)
    (hslot : ∀ j, W'.slot j = if j = i then s else W.slot j)
    (hworker : ∀ v, W'.worker v = if v = w then x else W.worker v)
    (hheld : ∀ j, (W.slot j).process = some w → j = i)
    (hproc : s.process = some w) (hcrash : ∀ v, s.crashFile = some v → v = w)
    (hfifo : s.crashFile = some w → x.parsed ++ s.read.inFlight ++ x.pipe = x.wrote)
    (hbroken : s.crashFile = some w → s.pipeEvent.isSome → s.read = .failed →
      x.pipe = [] ∧ x.exitCode.isSome)
    (hprog : s.graphicsProgress = lastReport "GRAPHICS".toList (-1) x.parsed ∧
      s.computeProgress = lastReport "COMPUTE".toList (-1) x.parsed)
    (hmod : ∀ m ∈ x.parsed, ∀ h, moduleHash m = some h → h ∈ W'.faulty.items)
    (hf : ∀ h ∈ W.faulty.items, h ∈ W'.faulty.items)
    (hdrained : s.crashFile = none → x.Done) (hreap : x.reaped = false)
    (hord : x.parsed <+: x.wrote) : Delivery W' := by
  -- a slot of the new world holds the updated worker in the updated slot, or neither
  have pair : ∀ j v, (W'.slot j).process = some v → j = i ∧ v = w ∨ j ≠ i ∧ v ≠ w := by
    intro j v hj
    rw [hslot] at hj
    by_cases hji : j = i
    · rw [if_pos hji, hproc] at hj; exact .inl ⟨hji, (Option.some.inj hj).symm⟩
    · rw [if_neg hji] at hj; exact .inr ⟨hji, fun hvw => hji (hheld j (hvw ▸ hj))⟩
  have crash : ∀ j v, (W'.slot j).crashFile = some v → (W'.slot j).process = some v := by
    intro j v hj
    rw [hslot] at hj ⊢
    split_ifs at hj ⊢
    · rw [hcrash v hj, hproc]
    · exact (ho.slotOk j).crash v hj
  refine ⟨fun j v hj => ?_, fun j v hj he hr => ?_, fun j v hj => ?_, fun v m hm h hh => ?_,
    fun j v hj hc => ?_, fun v hv => ?_, fun v => ?_⟩
  · rcases pair j v (crash j v hj) with ⟨rfl, rfl⟩ | ⟨hji, hvw⟩
    · rw [hslot, if_pos rfl] at hj ⊢; rw [hworker, if_pos rfl]; exact hfifo hj
    · rw [hslot, if_neg hji] at hj ⊢; rw [hworker, if_neg hvw]; exact hd.fifo j v hj
  · rcases pair j v (crash j v hj) with ⟨rfl, rfl⟩ | ⟨hji, hvw⟩
    · rw [hslot, if_pos rfl] at hj he hr; rw [hworker, if_pos rfl]; exact hbroken hj he hr
    · rw [hslot, if_neg hji] at hj he hr; rw [hworker, if_neg hvw]; exact hd.broken j v hj he hr
  · rcases pair j v hj with ⟨rfl, rfl⟩ | ⟨hji, hvw⟩
    · rw [hslot, if_pos rfl, hworker, if_pos rfl]; exact hprog
    · rw [hslot, if_neg hji] at hj ⊢; rw [hworker, if_neg hvw]; exact hd.progress j v hj
  · rw [hworker] at hm
    split_ifs at hm
    · exact hmod m hm h hh
    · exact hf h (hd.modules v m hm h hh)
  · rcases pair j v hj with ⟨rfl, rfl⟩ | ⟨hji, hvw⟩
    · rw [hslot, if_pos rfl] at hc; rw [hworker, if_pos rfl]; exact hdrained hc
    · rw [hslot, if_neg hji] at hj hc; rw [hworker, if_neg hvw]; exact hd.drained j v hj hc
  · rw [hworker] at hv ⊢
    split_ifs at hv ⊢
    · rw [hreap] at hv; cases hv
    · exact hd.reaped v hv
  · rw [hworker]; split_ifs
    exacts [hord, hd.ordered v]

/-! ## Collecting messages -/

theorem Delivery.collected (ho : Owners W) (hd : Delivery W) (hc : Collected i W W') : Delivery W' := by
  obtain ⟨w, s, x, f, hcw, he, rfl, c⟩ := hc
  have hpw := (ho.slotOk i).crash w hcw
  have hi : i < W.slots.length := W.lt_of_slot_ne fun h => by simp [h] at hpw
  obtain ⟨hsp, hsc⟩ := c.process
  obtain ⟨ms, hp, hg, hcp, hf, -⟩ := c.parsed
  have hx : x.wrote = (W.worker w).wrote ∧ x.reaped = (W.worker w).reaped := by
    rw [c.worker]; exact ⟨rfl, rfl⟩
  have hfifo : x.parsed ++ s.read.inFlight ++ x.pipe = x.wrote := by
    rw [c.fifo, hx.1]; exact hd.fifo i w hcw
  have hprog := hd.progress i w hpw
  refine hd.update ho (fun _ => W.slot_setSlot hi)
    (fun _ => World.worker_setWorker _ (by simpa using (ho.owned i w hpw).1))
    (fun j hj => ho.unique j i w hj hpw) (hsp.trans hpw)
    (fun v hv => by rw [hsc, hcw] at hv; exact (Option.some.inj hv).symm) (fun _ => hfifo)
    (fun _ _ hr => c.broken hr (hd.broken i w hcw he))
    ⟨by rw [hg, hp, hprog.1, lastReport_append], by rw [hcp, hp, hprog.2, lastReport_append]⟩
    (fun m hm h hh => ?_) (fun h hh => ?_) (fun hn => by rw [hsc, hcw] at hn; cases hn)
    (hx.2.trans (ho.owned i w hpw).2) ⟨_, (List.append_assoc ..).symm.trans hfifo⟩
  · show h ∈ f.items
    rw [hf]
    rw [hp] at hm
    rcases List.mem_append.mp hm with hm | hm
    · exact mem_blacklistAfter_of_mem ms (hd.modules w m hm h hh)
    · exact mem_blacklistAfter hm hh
  · show h ∈ f.items
    rw [hf]; exact mem_blacklistAfter_of_mem ms hh

/-- The drain loop of `process_shutdown` keeps the invariant and, when it ends, has given
`parse` every message of the slot's worker that fits the buffer. -/
theorem Delivery.drain : ∀ {fuel : Nat} {W W' : World}, Owners W → Delivery W →
    (∀ w, (W.slot i).crashFile = some w → (W.slot i).pipeEvent.isSome) →
    drain fuel i W = some W' →
    Delivery W' ∧ ∀ w, (W'.slot i).process = some w →
      (∀ m ∈ (W'.worker w).wrote, m.length < 1024) → (W'.worker w).parsed = (W'.worker w).wrote
  | 0, _, _, _, _, _, h => by cases h
  | fuel + 1, W, W', ho, hd, hl, h => by
    obtain ⟨⟨b, W₁⟩, h₁, h⟩ := Option.bind_eq_some.mp h
    rcases processOnce_cases h₁ with ⟨hW, rfl, hn⟩ | ⟨w, s, x, f, hc, he, rfl, c, hb⟩
    · have hW' : W = W' := by simp only [Bool.false_eq_true, if_false, Option.some.injEq] at h; rw [← h, hW]
      subst hW'
      have hcn : (W.slot i).crashFile = none := by
        rcases hn with hn | hn
        · exact hn
        · cases hc : (W.slot i).crashFile with
          | none => rfl
          | some v => simpa [hn] using hl v hc
      exact ⟨hd, fun w hw => (hd.drained i w hw hcn).2⟩
    have hC : Collected i W _ := ⟨w, s, x, f, hc, he, rfl, c⟩
    have hi : i < W.slots.length := W.lt_of_slot_ne fun h => by simp [h] at hc
    have hs : ({ (W.setSlot i s).setWorker w x with faulty := f } : World).slot i = s :=
      W.slot_setSlot_self hi
    have hd₁ := hd.collected ho hC
    cases b with
    | true => exact Delivery.drain (ho.collected hC) hd₁ (fun _ _ => by rw [hs, c.event]; exact he) h
    | false =>
      cases h
      refine ⟨hd₁, fun v hv hshort => ?_⟩
      rw [hs, c.process.1, (ho.slotOk i).crash w hc] at hv
      cases hv
      have hc₁ : (({ (W.setSlot i s).setWorker w x with faulty := f } : World).slot i).crashFile = some w := by
        rw [hs, c.process.2, hc]
      have he₁ : (({ (W.setSlot i s).setWorker w x with faulty := f } : World).slot i).pipeEvent.isSome := by
        rw [hs, c.event, he]
      have hfifo := hd₁.fifo i w hc₁
      rw [hs] at hfifo
      rcases hb rfl with hr | ⟨m, hr, hlong⟩
      · obtain ⟨hpipe, -⟩ := hd₁.broken i w hc₁ he₁ (by rw [hs, hr])
        rw [hr, hpipe] at hfifo
        simpa [ReadState.inFlight] using hfifo
      · rw [hr] at hfifo
        have hm : m ∈ (({ (W.setSlot i s).setWorker w x with faulty := f } : World).worker w).wrote := by
          rw [← hfifo]; simp [ReadState.inFlight]
        exact absurd (hshort m hm) (by omega)

/-! ## `process_shutdown` -/

/-- Closing a slot's handles, once its worker was read to the end. -/
theorem Delivery.closeHandles (ho : Owners W) (hd : Delivery W)
    (hdone : ∀ w, (W.slot i).process = some w → (W.worker w).Done) :
    Delivery (W.setSlot i (W.slot i).closeHandles) := by
  cases hp : (W.slot i).process with
  | none => exact hd.setSlot (.inr ⟨hp, rfl⟩)
  | some w =>
    have hi : i < W.slots.length := W.lt_of_slot_ne fun h => by simp [h] at hp
    have hprog := hd.progress i w hp
    exact hd.update ho (fun _ => W.slot_setSlot hi) (fun v => by split_ifs with h <;> simp only [h, World.worker_setSlot])
      (fun j hj => ho.unique j i w hj hp) hp (fun _ h => by cases h) (fun h => by cases h)
      (fun h => by cases h) hprog (fun m hm h hh => hd.modules w m hm h hh) (fun _ => id)
      (fun _ => hdone w hp) (ho.owned i w hp).2 (hd.ordered w)

theorem Delivery.reap (ho : Owners W) (hd : Delivery W) (hp : (W.slot i).process = some w)
    (hc : (W.slot i).crashFile = none) : Delivery (W.reap i w) := by
  have hi : i < W.slots.length := W.lt_of_slot_ne fun h => by simp [h] at hp
  have hw := (ho.owned i w hp).1
  refine hd.frame (fun j => ?_) (fun v => ?_) (fun v hv => ?_) (fun _ => id)
  · rw [W.reap_slot hi]
    split_ifs
    · exact .inr ⟨rfl, hc⟩
    · exact .inl rfl
  · rw [W.reap_worker hw]
    split_ifs with h
    · rw [h]; exact ⟨rfl, rfl, rfl, id⟩
    · exact ⟨rfl, rfl, rfl, id⟩
  · rw [W.reap_worker hw] at hv
    split_ifs at hv with h
    · rw [h]; exact hd.drained i w hp hc
    · exact hd.reaped v hv

theorem Delivery.decideRestart {code : UInt32} {b : Bool} (hd : Delivery W)
    (h : decideRestart i code W = (b, W')) : Delivery W' := by
  rcases decideRestart_cases h with ⟨-, rfl⟩ | ⟨-, -, -, rfl, -⟩
  exacts [hd, hd.setSlot (.inl rfl)]

theorem Delivery.terminate (hd : Delivery W) (h : W.terminate w = some W') : Delivery W' := by
  obtain ⟨-, rfl⟩ := terminate_eq h
  exact hd.setWorker ⟨rfl, rfl, rfl, fun _ => rfl⟩ rfl

theorem Delivery.processShutdown {o : ShutdownOutcome} {b : Bool} (ho : Owners W) (hd : Delivery W)
    (hl : ∀ w, (W.slot i).crashFile = some w → (W.slot i).pipeEvent.isSome)
    (hs : processShutdown i o W = some (b, W')) : Delivery W' := by
  obtain ⟨W₁, hdr, hr⟩ := processShutdown_cases hs
  obtain ⟨hd₁, hdone⟩ := Delivery.drain ho hd hl hdr
  have ho₁ := ho.drain hdr
  rcases hr with ⟨-, rfl, hex⟩ | ⟨w, c, hp, hc, -, hdr'⟩
  · exact hd₁.closeHandles ho₁ fun w hp => ⟨hex w hp, hdone w hp⟩
  · have hi : i < W₁.slots.length := W₁.lt_of_slot_ne fun h => by simp [h] at hp
    have h₂ := hd₁.closeHandles ho₁ fun v hv => by
      rw [hp] at hv; cases hv; exact ⟨by simp [hc], hdone w hp⟩
    refine (h₂.reap ho₁.closeHandles ?_ ?_).decideRestart hdr' <;>
      simp only [World.slot_setSlot_self _ hi, Slot.closeHandles, hp]

/-! ## `start_child_process` -/

theorem World.startedWorld_worker_eq (W : World) (ord : IterationOrder) (v : Nat) :
    (startedWorld ord i s W).worker v =
      if v = W.workers.length then { masked := maskedModules (sendFaultyModules (ord.iterate W.faulty)) }
      else W.worker v := by
  by_cases hv : v < W.workers.length + 1
  · exact W.startedWorld_worker ord hv
  · rw [if_neg (by omega)]
    simp only [startedWorld, World.worker, List.getD_eq_getElem?_getD]
    rw [List.getElem?_eq_none (by simp; omega), List.getElem?_eq_none (by omega)]

/-- A worker started in slot `i`, which held none: it has written nothing, and no read is
issued on its pipe yet. -/
theorem Delivery.started (ho : Owners W) (hd : Delivery W) (ord : IterationOrder)
    (hi : i < W.slots.length) (hg : s.graphicsProgress = -1) (hc : s.computeProgress = -1) :
    Delivery (startedWorld ord i s W) := by
  have hfresh : ∀ j, (W.slot j).process = some W.workers.length → j = i := fun j hj =>
    absurd (ho.owned j _ hj).1 (Nat.lt_irrefl _)
  refine hd.update ho (fun _ => W.startedWorld_slot ord hi _) (W.startedWorld_worker_eq ord) hfresh
    rfl (fun _ h => (Option.some.inj h).symm) (fun _ => rfl) (fun _ he => by simp at he) ⟨hg, hc⟩
    (fun _ hm => by cases hm) (fun _ => id) (fun h => by cases h) rfl (List.prefix_refl _)

theorem Delivery.startChildProcess (ho : Owners W) (hd : Delivery W) (ord : IterationOrder)
    {o : SpawnOutcome} {b : Bool} (hi : i < W.slots.length) (hn : (W.slot i).process = none)
    (hs : startChildProcess ord i o W = (b, W')) : Delivery W' := by
  rcases startChildProcess_cases ord hs with ⟨rfl, -⟩ | ⟨-, -, rfl⟩
  · refine hd.setSlot (.inr ⟨hn, ?_⟩)
    cases hc : (W.slot i).crashFile with
    | none => rfl
    | some v => rw [(ho.slotOk i).crash v hc] at hn; cases hn
  · exact hd.started ho ord hi rfl rfl

/-- A blacklist line changes only whether its worker still reads. -/
theorem Delivery.sendLine (hd : Delivery W) {line : List Char} (hs : Supervisor.sendLine w line W = some W') :
    Delivery W' := by
  rcases sendLine_cases hs with ⟨-, rfl⟩ | ⟨-, -, rfl⟩
  exacts [hd, hd.setWorker ⟨rfl, rfl, rfl, id⟩ rfl]

/-- The end of a spawn: the first read on the fresh slot's pipe takes its oldest message. -/
theorem Delivery.finishSpawn (ho : Owners W) (hd : Delivery W) {o : SpawnOutcome} {b : Bool}
    (hf : (W.slot i).Fresh w) (hs : Supervisor.finishSpawn i w o W = (b, W')) : Delivery W' := by
  obtain ⟨hp, hc, -, hr⟩ := hf
  have hi : i < W.slots.length := W.lt_of_slot_ne fun h => by simp [h] at hp
  have hw := (ho.owned i w hp).1
  rcases finishSpawn_cases hw hs with ⟨-, -, rfl⟩ | ⟨r, x, -, hk, -, rfl⟩
  · exact hd.setWorker ⟨rfl, rfl, rfl, id⟩ rfl
  obtain ⟨hx, hkfifo⟩ := kick_eq { W.worker w with reading := false }
  rw [hk] at hx hkfifo
  dsimp only at hx hkfifo
  have hx' : x.wrote = (W.worker w).wrote ∧ x.parsed = (W.worker w).parsed ∧
      x.reaped = (W.worker w).reaped := by rw [hx]; exact ⟨rfl, rfl, rfl⟩
  have hold := hd.fifo i w hc
  rw [hr] at hold
  refine hd.update ho (fun _ => W.slot_setSlot hi)
    (fun _ => World.worker_setWorker _ (by simpa using hw))
    (fun j hj => ho.unique j i w hj hp) hp (fun v hv => Option.some.inj (hv.symm.trans hc))
    (fun _ => ?_) (fun _ _ hrd => ?_) ?_ ?_ (fun _ => id) (fun h => by simp [hc] at h)
    (hx'.2.2.trans (ho.owned i w hp).2) ?_
  · show x.parsed ++ r.inFlight ++ x.pipe = x.wrote
    rw [hkfifo, hx'.1]; simpa [ReadState.inFlight] using hold
  · have hrd' : r = .failed := hrd
    subst hrd'
    obtain ⟨h₁, hpipe, hex⟩ := kick_failed (show (kick { W.worker w with reading := false }).1 = .failed by
      rw [hk])
    rw [hk] at h₁
    subst h₁
    exact ⟨hpipe, hex⟩
  · rw [hx'.2.1]; exact hd.progress i w hp
  · rw [hx'.2.1]; exact hd.modules w
  · rw [hx'.1, hx'.2.1]; exact hd.ordered w

theorem Delivery.exit (hd : Delivery W) (success : Bool) : Delivery (W.exit success) :=
  hd.withPhase _

theorem Delivery.restart (ho : Owners W) (hd : Delivery W) (ord : IterationOrder)
    {o : SpawnOutcome} {b : Bool} (hb : b = true → i < W.slots.length ∧ (W.slot i).process = none) :
    Delivery (restart ord i o (b, W)) := by
  cases b with
  | false => exact hd
  | true =>
    obtain ⟨hi, hn⟩ := hb rfl
    rcases hs : Supervisor.startChildProcess ord i o W with ⟨b', W₂⟩
    have h₂ := hd.startChildProcess ho ord hi hn hs
    unfold Supervisor.restart
    dsimp only
    rw [hs]
    cases b' <;> [exact h₂.exit false; exact h₂]

/-! ## Every slot that reads has its event -/

theorem Live.setSlot (hl : Live W)
    (hs : W.phase ≠ .exited false → (∀ w lines, W.pending ≠ .send i w lines) → s.Live) :
    Live (W.setSlot i s) := by
  intro hph j hj
  by_cases hi : i < W.slots.length
  · rw [W.slot_setSlot hi]; split_ifs with h
    · subst h; exact hs hph hj
    · exact hl hph j hj
  · rw [W.setSlot_of_le s (Nat.le_of_not_lt hi)]; exact hl hph j hj

theorem Live.withPhase (hl : Live W) (hph : W.phase ≠ .exited false) (p : Phase) :
    Live { W with phase := p } :=
  fun _ => hl hph

theorem Live.exit_false (W : World) : Live (W.exit false) := fun h => absurd rfl h

/-- A new pending call, in place of one that sent to no slot. -/
theorem Live.withPending (hl : Live W) (hq : W.pending = .idle ∨ ∃ j, W.pending = .terminate j)
    (p : Pending) : Live { W with pending := p } :=
  fun hph j _ => hl hph j fun w lines h => by rcases hq with hq | ⟨_, hq⟩ <;> rw [hq] at h <;> cases h

theorem Live.collected (hl : Live W) (hc : Collected i W W') : Live W' := by
  obtain ⟨w, s, x, f, -, he, rfl, c⟩ := hc
  exact hl.setSlot fun _ _ _ _ => c.event.trans he

theorem Live.drain {fuel : Nat} (ho : Owners W) (hl : Live W) (h : drain fuel i W = some W') :
    Live W' := by
  rcases drain_cases (fun w hw => (ho.owned i w ((ho.slotOk i).crash w hw)).1) h with rfl | hc
  exacts [hl, hl.collected hc]

theorem Live.processShutdown {o : ShutdownOutcome} {b : Bool} (ho : Owners W) (hl : Live W)
    (hs : processShutdown i o W = some (b, W')) : Live W' := by
  obtain ⟨W₁, hdr, hr⟩ := processShutdown_cases hs
  have hl₂ : Live (W₁.setSlot i (W₁.slot i).closeHandles) :=
    (hl.drain ho hdr).setSlot fun _ _ _ h => by cases h
  rcases hr with ⟨-, rfl, -⟩ | ⟨w, c, -, -, -, hdr'⟩
  · exact hl₂
  have hl₃ : Live ((W₁.setSlot i (W₁.slot i).closeHandles).reap i w) :=
    hl₂.setSlot fun hph hi => hl₂ hph i hi
  rcases decideRestart_cases hdr' with ⟨-, rfl⟩ | ⟨-, -, -, rfl, -⟩
  exacts [hl₃, hl₃.setSlot fun hph hi => hl₃ hph i hi]

/-- A start that succeeds leaves every slot that reads with its event, but the one it sends
the blacklist for. -/
theorem Live.startChildProcess (ho : Owners W) (hl : Live W) (ord : IterationOrder)
    {o : SpawnOutcome} (hq : W.pending = .idle) (hi : i < W.slots.length) (hn : (W.slot i).process = none)
    (hs : startChildProcess ord i o W = (true, W')) : Live W' := by
  rcases startChildProcess_cases ord hs with ⟨rfl, -⟩ | ⟨-, -, rfl⟩
  · refine hl.setSlot fun _ _ v hv => ?_
    rw [(ho.slotOk i).crash v hv] at hn; cases hn
  · intro hph j hj
    have hji : j ≠ i := fun h => hj _ _ (by rw [h]; rfl)
    rw [W.startedWorld_slot ord hi, if_neg hji]
    exact hl hph j fun _ _ h => by rw [hq] at h; cases h

theorem Live.restart (ho : Owners W) (hl : Live W) (ord : IterationOrder)
    {o : SpawnOutcome} {b : Bool} (hq : W.pending = .idle)
    (hb : b = true → i < W.slots.length ∧ (W.slot i).process = none) :
    Live (restart ord i o (b, W)) := by
  cases b with
  | false => exact hl
  | true =>
    rcases hs : Supervisor.startChildProcess ord i o W with ⟨b', W₂⟩
    unfold Supervisor.restart
    dsimp only
    rw [hs]
    cases b'
    · exact Live.exit_false W₂
    · exact hl.startChildProcess ho ord hq (hb rfl).1 (hb rfl).2 hs

/-- A blacklist line leaves the slots as they were. -/
theorem Live.sendLine (hl : Live W) {line : List Char} {lines : List (List Char)}
    (hq : W.pending = .send i w (line :: lines)) (hs : Supervisor.sendLine w line W = some W') :
    Live { W' with pending := .send i w lines } := by
  have hslot : W'.slots = W.slots ∧ W'.phase = W.phase := by
    rcases sendLine_cases hs with ⟨-, rfl⟩ | ⟨-, -, rfl⟩ <;> exact ⟨rfl, rfl⟩
  intro hph j hj
  have hji : j ≠ i := fun h => hj w lines (by rw [h])
  simpa only [World.slot, hslot.1] using
    hl (hslot.2 ▸ hph) j fun _ _ h => hji (by rw [hq] at h; cases h; rfl)

/-- The end of a spawn gives the slot its event. -/
theorem Live.finishSpawn (hl : Live W) {o : SpawnOutcome} (hi : i < W.slots.length)
    (hw : w < W.workers.length) (hq : W.pending = .send i w [])
    (hs : Supervisor.finishSpawn i w o { W with pending := .idle } = (true, W')) : Live W' := by
  rcases finishSpawn_cases (show w < ({ W with pending := .idle } : World).workers.length from hw) hs with
    ⟨-, h, -⟩ | ⟨r, x, -, -, -, rfl⟩
  · cases h
  intro hph j _
  change (((W.setSlot i _).setWorker w x).slot j).Live
  rw [World.slot_setWorker, W.slot_setSlot hi]
  split_ifs with hji
  · exact fun _ _ => rfl
  · exact hl hph j fun _ _ h => hji (by rw [hq] at h; cases h; rfl)

end Preservation

section Run

variable (ord : IterationOrder) {W W' : World}

/-- Where `process_shutdown` starts in a step: the world of the wait, or the one
`TerminateProcess` left when the wait returned a timer. -/
theorem shutdown_start {i : Nat} (ho : Owners W) (hq : PendingOk W) (hd : Delivery W) (hl : Live W)
    (ht : W.phase = .waiting ∧ W.pending = .idle ∧ W' = W ∨ ∃ w, W.pending = .terminate i ∧
      (W.slot i).process = some w ∧ { W with pending := .idle }.terminate w = some W') :
    Owners W' ∧ Delivery W' ∧ Live W' ∧ W'.phase = .waiting ∧ W'.pending = .idle ∧
      W'.slots = W.slots ∧ W'.workers.length = W.workers.length := by
  rcases ht with ⟨hph, hq₀, rfl⟩ | ⟨w, hq₀, -, ht⟩
  · exact ⟨ho, hd, hl, hph, hq₀, rfl, rfl⟩
  · obtain ⟨-, rfl⟩ := terminate_eq ht
    have hl' := hl.withPending (.inr ⟨i, hq₀⟩) .idle
    exact ⟨(ho.withPending _).setWorker rfl, (hd.withPending _).terminate ht,
      fun hph j hj => hl' hph j hj, (hq.terminate i hq₀).1, rfl, rfl, by simp⟩

/-- A step of the supervisor keeps what it has read of its workers. -/
theorem delivery_masterStep {o : MasterOutcome} (ho : Owners W) (hp : PhaseOk W) (hq : PendingOk W)
    (hd : Delivery W) (hl : Live W) (hs : masterStep ord o W = some W') : Delivery W' ∧ Live W' := by
  rcases masterStep_cases ord hs with ⟨n, b, W₁, hph, hq₀, hn, hsp, rfl⟩ | ⟨n, hph, -, -, rfl⟩ |
    ⟨hph, -, -, rfl⟩ | ⟨hph, -, -, -, rfl⟩ | ⟨hph, -, i, b, hpo⟩ | ⟨hph, hq₀, i, -, rfl⟩ |
    ⟨i, -, -, rfl⟩ | ⟨i, W₁, r, ht, hsh, rfl⟩ | ⟨i, w, line, lines, W₁, hq₀, hsl, rfl⟩ |
    ⟨i, w, b, W₁, hq₀, hfin, rfl⟩
  · have hA : Owners (W.setSlot n (W.assignRange n)) :=
      ho.setSlot rfl ⟨(ho.slotOk n).crash, (ho.slotOk n).idle⟩
    have hfresh : ((W.setSlot n (W.assignRange n)).slot n).process = none := by
      rw [World.slot_setSlot_self _ hn]; exact hp.fresh n hph n le_rfl
    have hdA : Delivery (W.setSlot n (W.assignRange n)) := hd.setSlot (.inl rfl)
    have hd₁ := hdA.startChildProcess hA ord (by simpa using hn) hfresh hsp
    cases b
    · exact ⟨hd₁.exit false, Live.exit_false _⟩
    · have hlA : Live (W.setSlot n (W.assignRange n)) := hl.setSlot fun hph' hn' => hl hph' n hn'
      have hl₁ := hlA.startChildProcess hA ord hq₀ (by simpa using hn) hfresh hsp
      refine ⟨hd₁.withPhase _, hl₁.withPhase ?_ _⟩
      rw [(startChildProcess_slot ord (by simpa using hn) hsp).1]
      exact fun h => by rw [World.setSlot, hph] at h; cases h
  · exact ⟨hd.withPhase _, hl.withPhase (by rw [hph]; simp) _⟩
  · exact ⟨hd.exit true, hl.withPhase (by rw [hph]; simp) _⟩
  · exact ⟨hd.exit false, Live.exit_false _⟩
  · rcases processOnce_cases hpo with ⟨rfl, -, -⟩ | ⟨w, s, x, f, hc, he, rfl, c, -⟩
    · exact ⟨hd, hl⟩
    · exact ⟨hd.collected ho ⟨w, s, x, f, hc, he, rfl, c⟩, hl.collected ⟨w, s, x, f, hc, he, rfl, c⟩⟩
  · exact ⟨hd.withPending _, hl.withPending (.inl hq₀) _⟩
  · exact ⟨(hd.withPending _).exit false, Live.exit_false _⟩
  · obtain ⟨b, W₂⟩ := r
    obtain ⟨ho₁, hd₁, hl₁, hph₁, hq₁, -⟩ := shutdown_start ho hq hd hl ht
    have hwait : W₁.phase ≠ .exited false := by rw [hph₁]; simp
    have hb : b = true → i < W₂.slots.length ∧ (W₂.slot i).process = none := fun hb => by
      subst hb; exact processShutdown_true hsh
    have hq₂ : W₂.pending = .idle := (processShutdown_phase ho₁ hsh).2.trans hq₁
    exact ⟨(hd₁.processShutdown ho₁ (hl₁ hwait i fun _ _ h => by rw [hq₁] at h; cases h) hsh).restart
        (ho₁.processShutdown hsh) ord hb,
      (hl₁.processShutdown ho₁ hsh).restart (ho₁.processShutdown hsh) ord hq₂ hb⟩
  · exact ⟨(hd.sendLine hsl).withPending _, hl.sendLine hq₀ hsl⟩
  · obtain ⟨hi, hf⟩ := hq.send i w [] hq₀
    have hd₁ := (hd.withPending .idle).finishSpawn (ho.withPending .idle) hf hfin
    cases b
    · exact ⟨hd₁.exit false, Live.exit_false _⟩
    · exact ⟨hd₁, hl.finishSpawn hi (ho.owned i w hf.1).1 hq₀ hfin⟩

/-- A worker writes a message: it goes to the end of its pipe. -/
theorem Delivery.write (ho : Owners W) (hd : Delivery W) {w : Nat} {m : List Char}
    (hw : w < W.workers.length) (hx : (W.worker w).exitCode = none) :
    Delivery (W.setWorker w
      { W.worker w with pipe := (W.worker w).pipe ++ [m], wrote := (W.worker w).wrote ++ [m] }) := by
  have hr : (W.worker w).reaped = false := by
    cases h : (W.worker w).reaped
    · rfl
    · simpa [hx] using (hd.reaped w h).1
  obtain ⟨i, hi⟩ := ho.unreaped w hw hr
  refine hd.update ho (fun j => by split_ifs with h <;> simp only [h, World.slot_setWorker])
    (fun _ => W.worker_setWorker hw)
    (fun j hj => ho.unique j i w hj hi) hi
    (fun v hv => Option.some.inj (((ho.slotOk i).crash v hv).symm.trans hi))
    (fun hc => ?_) (fun hc he hrd => ?_) (hd.progress i w hi) (hd.modules w) (fun _ => id)
    (fun hc => ?_) hr ((hd.ordered w).trans (List.prefix_append _ _))
  · simp only [← List.append_assoc]; rw [← hd.fifo i w hc]
  · simpa [hx] using (hd.broken i w hc he hrd).2
  · simpa [hx] using (hd.drained i w hi hc).1

/-- A pending read finishes with what the pipe gives it. -/
theorem Delivery.complete (ho : Owners W) (hd : Delivery W) {i w : Nat} {r : ReadState} {x : Worker}
    (hc : (W.slot i).crashFile = some w) (hr : (W.slot i).read = .pending)
    (ha : (W.worker w).answer = some (r, x)) :
    Delivery ((W.setSlot i { W.slot i with read := r, pipeEvent := some true }).setWorker w x) := by
  have hp := (ho.slotOk i).crash w hc
  have hi : i < W.slots.length := W.lt_of_slot_ne fun h => by simp [h] at hp
  obtain ⟨hx, hfifo⟩ := Worker.answer_eq ha
  have hx' : x.wrote = (W.worker w).wrote ∧ x.parsed = (W.worker w).parsed ∧
      x.reaped = (W.worker w).reaped := by rw [hx]; exact ⟨rfl, rfl, rfl⟩
  have hold := hd.fifo i w hc
  rw [hr] at hold
  refine hd.update ho (fun _ => W.slot_setSlot hi)
    (fun _ => World.worker_setWorker _ (by simpa using (ho.owned i w hp).1))
    (fun j hj => ho.unique j i w hj hp) hp (fun v hv => Option.some.inj (hv.symm.trans hc))
    (fun _ => ?_) (fun _ _ hrd => ?_) ?_ ?_ (fun _ => id) (fun h => by simp [hc] at h)
    (hx'.2.2.trans (ho.owned i w hp).2) ?_
  · show x.parsed ++ r.inFlight ++ x.pipe = x.wrote
    rw [hfifo, hx'.1]; simpa [ReadState.inFlight] using hold
  · have hrd' : r = .failed := hrd
    subst hrd'
    obtain ⟨rfl, hpipe, hex⟩ := Worker.answer_failed ha
    exact ⟨hpipe, hex⟩
  · rw [hx'.2.1]; exact hd.progress i w hp
  · rw [hx'.2.1]; exact hd.modules w
  · rw [hx'.1, hx'.2.1]; exact hd.ordered w

/-- The workers' and the kernel's steps keep what the supervisor has read too. -/
theorem delivery_step {e : Event} (ho : Owners W) (hp : PhaseOk W) (hq : PendingOk W) (hd : Delivery W)
    (hl : Live W) (hs : step ord e W = some W') : Delivery W' ∧ Live W' := by
  rcases step_cases ord hs with ⟨o, hs⟩ | ⟨w, m, hw, hx, -, -, rfl⟩ | ⟨w, c, -, -, -, rfl⟩ |
    ⟨i, w, e, r, x, hc, hr, -, ha, rfl⟩ | ⟨i, -, rfl⟩
  · exact delivery_masterStep ord ho hp hq hd hl hs
  · exact ⟨hd.write ho hw hx, hl⟩
  · exact ⟨hd.setWorker ⟨rfl, rfl, rfl, fun _ => rfl⟩ rfl, hl⟩
  · exact ⟨hd.complete ho hc hr ha, hl.setSlot fun _ _ _ _ => rfl⟩
  · exact ⟨hd.setSlot (.inl rfl), hl.setSlot fun hph hn => hl hph i hn⟩

theorem delivery_initial (g c n : Nat) : Delivery (World.initial g c n) ∧ Live (World.initial g c n) := by
  have hslot : ∀ i, (World.initial g c n).slot i = {} := fun i => by
    simp only [World.slot, World.initial, List.getD_eq_getElem?_getD, List.getElem?_replicate]
    split_ifs <;> rfl
  have hworker : ∀ w, (World.initial g c n).worker w = { masked := [] } := fun w => by
    simp [World.worker, World.initial]
  -- every slot is empty and every worker has written nothing
  exact ⟨⟨by simp [hslot], by simp [hslot], by simp [hslot], by simp [hworker], by simp [hslot],
    by simp [hworker], by simp [hworker]⟩, fun _ => by simp [Slot.Live, hslot]⟩

/-- What the supervisor has read of its workers, in every world a run reaches. -/
theorem delivery_reach (hR : Reach ord W) : Delivery W ∧ Live W := by
  induction hR with
  | initial g c n => exact delivery_initial g c n
  | step e hR hs ih =>
    obtain ⟨ho, hp, hq⟩ := bookkeeping_reach ord hR
    exact delivery_step ord ho hp hq ih.1 ih.2 hs

end Run

end Fossilize.Supervisor
