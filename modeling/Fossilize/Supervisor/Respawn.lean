import Fossilize.Supervisor.Delivery

/-! # Reaping, respawning, and the blacklist a new worker gets

A respawn starts at the last indices the worker reported, and the new worker's loop masks
the blacklist up to the first line that reads as `0`.
-/

namespace Fossilize.Supervisor

/-! ## The last report -/

theorem lastReport_cases (tag : List Char) : ∀ (v : Int) (ms : List (List Char)),
    lastReport tag v ms = v ∨
      ∃ m ∈ ms, startsWith (cString m) tag ∧ lastReport tag v ms = strtol0 ((cString m).drop tag.length)
  | _, [] => .inl rfl
  | v, m :: ms => by
    have hstep : lastReport tag v (m :: ms) = lastReport tag
        (if startsWith (cString m) tag then strtol0 ((cString m).drop tag.length) else v) ms := rfl
    rw [hstep]
    rcases lastReport_cases tag _ ms with h | ⟨m', hm', hs, h⟩
    · rw [h]
      split_ifs with hs
      · exact .inr ⟨m, List.mem_cons_self _ _, hs, rfl⟩
      · exact .inl rfl
    · exact .inr ⟨m', List.mem_cons_of_mem _ hm', hs, h⟩

/-- A report the slot restarts from lies at or after `lo` when every report does, and it
fits the slot's 32-bit indices. -/
theorem le_ofNat_lastReport {tag : List Char} {lo : UInt32} {ms : List (List Char)}
    (hpos : 0 ≤ lastReport tag (-1) ms)
    (hin : ∀ m ∈ ms, startsWith (cString m) tag → (lo.toNat : Int) ≤ strtol0 ((cString m).drop tag.length)) :
    lo ≤ UInt32.ofNat (lastReport tag (-1) ms).toNat := by
  have hbound : (lo.toNat : Int) ≤ lastReport tag (-1) ms ∧ lastReport tag (-1) ms ≤ 2 ^ 31 - 1 := by
    rcases lastReport_cases tag (-1) ms with h | ⟨m, hm, hs, h⟩
    · omega
    · rw [h]; exact ⟨hin m hm hs, strtol0_le _⟩
  show lo.toNat ≤ (UInt32.ofNat _).toNat
  rw [UInt32.toNat_ofNat_of_lt (show _ < 4294967296 by omega)]
  omega

/-! ## What a step leaves of the other slots -/

section Frame

variable {W W' : World} {i j : Nat}

theorem World.slot_setSlot_ne (W : World) {s : Slot} (h : j ≠ i) : (W.setSlot i s).slot j = W.slot j := by
  by_cases hi : i < W.slots.length
  · rw [W.slot_setSlot hi, if_neg h]
  · rw [W.setSlot_of_le s (Nat.le_of_not_lt hi)]

theorem World.reap_slot_ne (W : World) {w : Nat} (h : j ≠ i) : (W.reap i w).slot j = W.slot j :=
  W.slot_setSlot_ne h

/-- Only a worker that was started can be reaped. -/
theorem World.lt_of_reaped (W : World) {w : Nat} (h : (W.worker w).reaped = true) : w < W.workers.length := by
  by_contra hle
  simp [World.worker, List.getElem?_eq_none (Nat.le_of_not_lt hle)] at h

theorem Collected.slot_ne (hc : Collected i W W') (h : j ≠ i) : W'.slot j = W.slot j := by
  obtain ⟨w, s, x, f, -, -, rfl, -⟩ := hc
  exact W.slot_setSlot_ne h

theorem Collected.process (hc : Collected i W W') (j : Nat) : (W'.slot j).process = (W.slot j).process := by
  by_cases h : j = i
  · obtain ⟨w, s, x, f, hcw, -, rfl, c⟩ := hc
    subst h
    have hi : j < W.slots.length := W.lt_of_slot_ne fun h => by simp [h] at hcw
    exact (congrArg Slot.process (W.slot_setSlot_self hi)).trans c.process.1
  · rw [hc.slot_ne h]

theorem Collected.workers_length (hc : Collected i W W') : W'.workers.length = W.workers.length := by
  obtain ⟨w, s, x, f, -, -, rfl, -⟩ := hc
  simp

theorem drain_collected {fuel : Nat} (ho : Owners W) (hd : drain fuel i W = some W') :
    W' = W ∨ Collected i W W' :=
  drain_cases (fun w hw => (ho.owned i w ((ho.slotOk i).crash w hw)).1) hd

/-- `process_shutdown` on slot `i` leaves the other slots, and the number of workers. -/
theorem processShutdown_frame {o : ShutdownOutcome} {b : Bool} (ho : Owners W)
    (hs : processShutdown i o W = some (b, W')) :
    (∀ j, j ≠ i → W'.slot j = W.slot j) ∧ W'.workers.length = W.workers.length := by
  obtain ⟨W₁, hdr, hr⟩ := processShutdown_cases hs
  have h₁ : (∀ j, j ≠ i → W₁.slot j = W.slot j) ∧ W₁.workers.length = W.workers.length := by
    rcases drain_collected ho hdr with rfl | hc
    exacts [⟨fun _ _ => rfl, rfl⟩, ⟨fun _ h => hc.slot_ne h, hc.workers_length⟩]
  rcases hr with ⟨-, rfl, -⟩ | ⟨w, c, -, -, -, hdr'⟩
  · exact ⟨fun j h => (World.slot_setSlot_ne _ h).trans (h₁.1 j h), by simpa using h₁.2⟩
  · rcases decideRestart_cases hdr' with ⟨-, rfl⟩ | ⟨-, -, -, rfl, -⟩
    · exact ⟨fun j h => ((World.reap_slot_ne _ h).trans (World.slot_setSlot_ne _ h)).trans (h₁.1 j h),
        by simpa [World.reap] using h₁.2⟩
    · exact ⟨fun j h => (((World.slot_setSlot_ne _ h).trans (World.reap_slot_ne _ h)).trans
        (World.slot_setSlot_ne _ h)).trans (h₁.1 j h), by simpa [World.reap] using h₁.2⟩

end Frame

/-! ## `start_child_process` and a restart -/

section Start

variable (ord : IterationOrder) {W W' : World} {i j : Nat}

/-- The ranges of a slot: where its worker starts and where it stops. -/
def Slot.range (s : Slot) : UInt32 × UInt32 × UInt32 × UInt32 :=
  (s.startGraphicsIndex, s.startComputeIndex, s.endGraphicsIndex, s.endComputeIndex)

theorem Slot.range_eq {s s' : Slot} (h : s'.range = s.range) :
    s'.startGraphicsIndex = s.startGraphicsIndex ∧ s'.startComputeIndex = s.startComputeIndex ∧
      s'.endGraphicsIndex = s.endGraphicsIndex ∧ s'.endComputeIndex = s.endComputeIndex := by
  simpa only [Slot.range, Prod.mk.injEq] using h

/-- `start_child_process` keeps the other slots and the ranges of its own; it keeps the
workers, or adds one that masks the blacklist it is sent. -/
theorem startChildProcess_frame {o : SpawnOutcome} {b : Bool} (hs : startChildProcess ord i o W = (b, W')) :
    (∀ j, j ≠ i → W'.slot j = W.slot j) ∧ (W'.slot i).range = (W.slot i).range ∧
      W'.faulty = W.faulty ∧ (∀ v < W.workers.length, W'.worker v = W.worker v) ∧
      (W'.workers.length = W.workers.length ∨ W'.workers.length = W.workers.length + 1 ∧
        W'.worker W.workers.length =
          { masked := maskedModules (sendFaultyModules (ord.iterate W.faulty)) }) := by
  by_cases hi : i < W.slots.length
  · rcases startChildProcess_cases ord hs with ⟨rfl, -⟩ | ⟨-, -, rfl⟩
    · exact ⟨fun j h => W.slot_setSlot_ne h, by rw [W.slot_setSlot_self hi]; rfl, rfl, fun _ _ => rfl, .inl rfl⟩
    · refine ⟨fun j h => W.slot_setSlot_ne h, by rw [W.startedWorld_slot ord hi, if_pos rfl]; rfl, rfl,
        fun v hv => by rw [W.startedWorld_worker_eq ord, if_neg (by omega)], .inr ⟨by simp [startedWorld], ?_⟩⟩
      rw [W.startedWorld_worker_eq ord, if_pos rfl]
  · have hsame : W'.slots.length = W.slots.length ∧ ∀ j, j ≠ i → W'.slot j = W.slot j := by
      rcases startChildProcess_cases ord hs with ⟨rfl, -⟩ | ⟨-, -, rfl⟩ <;>
        exact ⟨by simp [startedWorld], fun j h => W.slot_setSlot_ne h⟩
    refine ⟨hsame.2, by rw [W.slot_of_le (by omega), W'.slot_of_le (by omega)], ?_⟩
    rcases startChildProcess_cases ord hs with ⟨rfl, -⟩ | ⟨-, -, rfl⟩
    · exact ⟨rfl, fun _ _ => rfl, .inl rfl⟩
    · exact ⟨rfl, fun v hv => by rw [W.startedWorld_worker_eq ord, if_neg (by omega)],
        .inr ⟨by simp [startedWorld], by rw [W.startedWorld_worker_eq ord, if_pos rfl]⟩⟩

/-- A restart asked for by `process_shutdown`: `start_child_process`, and `log_and_die` if it
fails. -/
theorem restart_frame (i : Nat) (o : SpawnOutcome) (b : Bool) (W : World) :
    (∀ j, j ≠ i → (restart ord i o (b, W)).slot j = W.slot j) ∧
      ((restart ord i o (b, W)).slot i).range = (W.slot i).range ∧
      (restart ord i o (b, W)).faulty = W.faulty ∧
      (∀ v < W.workers.length, (restart ord i o (b, W)).worker v = W.worker v) ∧
      (((restart ord i o (b, W)).slot i).process.isSome → b = true ∨ (W.slot i).process.isSome) ∧
      ((restart ord i o (b, W)).workers.length = W.workers.length ∨
        (restart ord i o (b, W)).workers.length = W.workers.length + 1 ∧
        (restart ord i o (b, W)).worker W.workers.length =
          { masked := maskedModules (sendFaultyModules (ord.iterate W.faulty)) }) := by
  cases b with
  | false => exact ⟨fun _ _ => rfl, rfl, rfl, fun _ _ => rfl, .inr, .inl rfl⟩
  | true =>
    rcases hs : startChildProcess ord i o W with ⟨b', W₂⟩
    obtain ⟨h₁, h₂, h₃, h₄, h₅⟩ := startChildProcess_frame ord hs
    unfold restart
    dsimp only
    rw [hs]
    cases b' <;> exact ⟨h₁, h₂, h₃, h₄, fun _ => .inl rfl, h₅⟩

end Start

/-! ## Reaping a worker -/

/-- Slot `s` starts both ranges where worker `x` last reported it was. -/
def Slot.StartsAt (s : Slot) (x : Worker) : Prop :=
  0 ≤ lastReport "GRAPHICS".toList (-1) x.parsed ∧ 0 ≤ lastReport "COMPUTE".toList (-1) x.parsed ∧
    s.startGraphicsIndex = UInt32.ofNat (lastReport "GRAPHICS".toList (-1) x.parsed).toNat ∧
    s.startComputeIndex = UInt32.ofNat (lastReport "COMPUTE".toList (-1) x.parsed).toNat

/-- Slot `i` of `W'` gave up the worker `w` it held in `W`: the worker is reaped, the ranges
end where they did, and a worker started there starts where `w` last reported. -/
structure Released (W W' : World) (i w : Nat) : Prop where
  reaped : (W'.worker w).reaped = true
  endGraphics : (W'.slot i).endGraphicsIndex = (W.slot i).endGraphicsIndex
  endCompute : (W'.slot i).endComputeIndex = (W.slot i).endComputeIndex
  starts : (W'.slot i).process.isSome → (W'.slot i).StartsAt (W'.worker w)

section Release

variable (ord : IterationOrder) {W W' : World} {i w : Nat}

/-- `process_shutdown` on the slot of worker `w` keeps the worker, when the wait fails, or
reaps it; a restart it asks for starts where `w` last reported. -/
theorem processShutdown_release {o : ShutdownOutcome} {b : Bool} (ho : Owners W) (hd : Delivery W)
    (hl : ∀ v, (W.slot i).crashFile = some v → (W.slot i).pipeEvent.isSome)
    (hs : processShutdown i o W = some (b, W')) (hw : (W.slot i).process = some w) :
    (W'.slot i).process = some w ∧ b = false ∨
      (W'.slot i).process = none ∧ (W'.worker w).reaped = true ∧
      (W'.slot i).endGraphicsIndex = (W.slot i).endGraphicsIndex ∧
      (W'.slot i).endComputeIndex = (W.slot i).endComputeIndex ∧
      (b = true → (W'.slot i).StartsAt (W'.worker w)) := by
  have hi : i < W.slots.length := W.lt_of_slot_ne fun h => by simp [h] at hw
  obtain ⟨W₁, hdr, hr⟩ := processShutdown_cases hs
  obtain ⟨hd₁, -⟩ := Delivery.drain ho hd hl hdr
  have h₁ : W₁.slots.length = W.slots.length ∧ (W₁.slot i).process = some w ∧
      (W₁.slot i).endGraphicsIndex = (W.slot i).endGraphicsIndex ∧
      (W₁.slot i).endComputeIndex = (W.slot i).endComputeIndex ∧ W₁.workers.length = W.workers.length := by
    rcases drain_collected ho hdr with rfl | hc
    · exact ⟨rfl, hw, rfl, rfl, rfl⟩
    · have hc' := hc
      obtain ⟨v, s, x, f, -, -, rfl, c⟩ := hc'
      have hs : ({ (W.setSlot i s).setWorker v x with faulty := f } : World).slot i = s := W.slot_setSlot_self hi
      refine ⟨by simp, by rw [hc.process, hw], ?_, ?_, hc.workers_length⟩ <;> rw [hs, c.slot]
  obtain ⟨hlen, hw₁, hg₁, hc₁, -⟩ := h₁
  have hi₁ : i < W₁.slots.length := hlen ▸ hi
  rcases hr with ⟨hb, rfl, -⟩ | ⟨w', c, hp, -, -, hdr'⟩
  · left
    rw [W₁.slot_setSlot_self hi₁]
    exact ⟨hw₁, hb⟩
  rw [hw₁] at hp
  cases hp
  have hwl : w < W₁.workers.length := ((ho.drain hdr).owned i w hw₁).1
  have hprog := hd₁.progress i w hw₁
  have hV : (W₁.setSlot i (W₁.slot i).closeHandles).slot i = (W₁.slot i).closeHandles :=
    W₁.slot_setSlot_self hi₁
  have hR : ((W₁.setSlot i (W₁.slot i).closeHandles).reap i w).slot i =
      { (W₁.slot i).closeHandles with process := none } := by
    rw [World.reap_slot _ (by simpa using hi₁), if_pos rfl, hV]
  have hRw : ((W₁.setSlot i (W₁.slot i).closeHandles).reap i w).worker w =
      { W₁.worker w with reaped := true } := by
    rw [World.reap_worker _ (by simpa using hwl), if_pos rfl]; rfl
  right
  rcases decideRestart_cases hdr' with ⟨hb, rfl⟩ | ⟨-, hpg, hpc, rfl, -⟩
  · rw [hR, hRw]
    exact ⟨rfl, rfl, hg₁, hc₁, fun h => by rw [hb] at h; cases h⟩
  · rw [World.slot_setSlot_self _ (by simpa [World.reap] using hi₁), World.worker_setSlot, hRw]
    rw [hR] at hpg hpc ⊢
    refine ⟨rfl, rfl, hg₁, hc₁, fun _ => ?_⟩
    simp only [Slot.closeHandles] at hpg hpc ⊢
    rw [hprog.1, hprog.2] at *
    exact ⟨hpg, hpc, rfl, rfl⟩

/-- In a step of the supervisor, the slot of worker `w` keeps it or gives it up. -/
theorem masterStep_release {o : MasterOutcome} (ho : Owners W) (hp : PhaseOk W) (hq : PendingOk W)
    (hd : Delivery W) (hl : Live W) (hs : masterStep ord o W = some W') (hw : (W.slot i).process = some w) :
    (W'.slot i).process = some w ∨ Released W W' i w := by
  rcases masterStep_cases ord hs with ⟨n, b, W₁, hph, -, hn, hsp, rfl⟩ | ⟨n, hph, -, -, rfl⟩ |
    ⟨hph, -, -, rfl⟩ | ⟨hph, -, -, -, rfl⟩ | ⟨hph, -, i₀, b, hpo⟩ | ⟨-, -, i₀, -, rfl⟩ |
    ⟨i₀, -, -, rfl⟩ | ⟨i₀, W₁, r, ht, hsh, rfl⟩ | ⟨i₀, v, line, lines, W₁, -, hsl, rfl⟩ |
    ⟨i₀, v, b, W₁, hq₀, hfin, rfl⟩
  · have hni : i ≠ n := fun h => by rw [h, hp.fresh n hph n le_rfl] at hw; cases hw
    have h₁ : W₁.slot i = W.slot i :=
      ((startChildProcess_frame ord hsp).1 i hni).trans (W.slot_setSlot_ne hni)
    cases b <;> exact .inl (by rw [← hw]; exact congrArg Slot.process h₁)
  · exact .inl hw
  · exact .inl hw
  · exact .inl hw
  · rcases processOnce_cases hpo with ⟨rfl, -, -⟩ | ⟨v, s, x, f, hc, he, rfl, c, -⟩
    · exact .inl hw
    · exact .inl ((Collected.process ⟨v, s, x, f, hc, he, rfl, c⟩ i).trans hw)
  · exact .inl hw
  · exact .inl hw
  · obtain ⟨b, W₂⟩ := r
    obtain ⟨ho₁, hd₁, hl₁, hph₁, hq₁, hW₁, -⟩ := shutdown_start ho hq hd hl ht
    replace hW₁ : ∀ j, W₁.slot j = W.slot j := fun j => by simp only [World.slot, hW₁]
    obtain ⟨rne, rrange, -, rworker, rproc, -⟩ := restart_frame ord i₀ o.spawn b W₂
    by_cases hi : i₀ = i
    · subst hi
      rw [← hW₁] at hw
      rcases processShutdown_release ho₁ hd₁ (hl₁ (by rw [hph₁]; simp) i₀ fun _ _ h => by
          rw [hq₁] at h; cases h) hsh hw with
        ⟨hkeep, rfl⟩ | ⟨hnone, hreap, hg, hc, hstart⟩
      · exact .inl hkeep
      have hwl := W₂.lt_of_reaped hreap
      have hrange := Slot.range_eq rrange
      right
      refine ⟨by rw [rworker w hwl]; exact hreap, ?_, ?_, fun hsome => ?_⟩
      · rw [hrange.2.2.1, hg, hW₁]
      · rw [hrange.2.2.2, hc, hW₁]
      · rcases rproc hsome with hb | hsome'
        · obtain ⟨hpg, hpc, hG, hC⟩ := hstart hb
          rw [rworker w hwl]
          exact ⟨hpg, hpc, hrange.1.trans hG, hrange.2.1.trans hC⟩
        · rw [hnone] at hsome'; cases hsome'
    · rw [rne i (Ne.symm hi), (processShutdown_frame ho₁ hsh).1 i (Ne.symm hi), hW₁]
      exact .inl hw
  · rcases sendLine_cases hsl with ⟨-, rfl⟩ | ⟨-, -, rfl⟩ <;> exact .inl hw
  · have hv := hq.worker_lt ho hq₀
    have h₁ : (W₁.slot i).process = some w := by
      rcases finishSpawn_cases (show v < ({ W with pending := .idle } : World).workers.length from hv) hfin with
        ⟨-, -, rfl⟩ | ⟨r, x, -, -, -, rfl⟩
      · exact hw
      · exact (World.setSlot_process _ (show ({ ({ W with pending := .idle } : World).slot i₀ with
          pipeEvent := some r.isCompleted, read := r } : Slot).process = _ from rfl) i).trans hw
    cases b
    · exact .inl h₁
    · exact .inl h₁

/-- In any step, the slot of worker `w` keeps it or gives it up. -/
theorem step_release {e : Event} (ho : Owners W) (hp : PhaseOk W) (hq : PendingOk W) (hd : Delivery W)
    (hl : Live W) (hs : step ord e W = some W') (hw : (W.slot i).process = some w) :
    (W'.slot i).process = some w ∨ Released W W' i w := by
  rcases step_cases ord hs with ⟨o, hs⟩ | ⟨_, _, -, -, -, -, rfl⟩ | ⟨_, _, -, -, -, rfl⟩ |
    ⟨_, _, _, _, _, -, -, -, -, rfl⟩ | ⟨_, -, rfl⟩
  · exact masterStep_release ord ho hp hq hd hl hs hw
  · exact .inl hw
  · exact .inl hw
  · exact .inl ((W.setSlot_process (by rfl) i).trans hw)
  · exact .inl ((W.setSlot_process (by rfl) i).trans hw)

/-- A step adds a worker only by `start_child_process`, which sends it the blacklist as it
stands after the step. -/
theorem step_workers {e : Event} (ho : Owners W) (hq : PendingOk W) (hs : step ord e W = some W') :
    W'.workers.length = W.workers.length ∨ W'.workers.length = W.workers.length + 1 ∧
      W'.worker W.workers.length = { masked := maskedModules (sendFaultyModules (ord.iterate W'.faulty)) } := by
  rcases step_cases ord hs with ⟨o, hs⟩ | ⟨_, _, -, -, -, -, rfl⟩ | ⟨_, _, -, -, -, rfl⟩ |
    ⟨_, _, _, _, _, -, -, -, -, rfl⟩ | ⟨_, -, rfl⟩
  · rcases masterStep_cases ord hs with ⟨n, b, W₁, -, -, -, hsp, rfl⟩ | ⟨n, -, -, -, rfl⟩ |
      ⟨-, -, -, rfl⟩ | ⟨-, -, -, -, rfl⟩ | ⟨-, -, i₀, b, hpo⟩ | ⟨-, -, i₀, -, rfl⟩ |
      ⟨i₀, -, -, rfl⟩ | ⟨i₀, W₁, r, ht, hsh, rfl⟩ | ⟨i₀, v, line, lines, W₁, -, hsl, rfl⟩ |
      ⟨i₀, v, b, W₁, hq₀, hfin, rfl⟩
    · obtain ⟨-, -, hf, -, hnew⟩ := startChildProcess_frame ord hsp
      cases b <;> exact hf ▸ hnew
    · exact .inl rfl
    · exact .inl rfl
    · exact .inl rfl
    · rcases processOnce_cases hpo with ⟨rfl, -, -⟩ | ⟨v, s, x, f, hc, he, rfl, c, -⟩
      · exact .inl rfl
      · exact .inl (Collected.workers_length ⟨v, s, x, f, hc, he, rfl, c⟩)
    · exact .inl rfl
    · exact .inl rfl
    · obtain ⟨b, W₂⟩ := r
      have h₁ : Owners W₁ ∧ W₁.workers.length = W.workers.length := by
        rcases ht with ⟨-, -, rfl⟩ | ⟨v, -, -, ht⟩
        · exact ⟨ho, rfl⟩
        · obtain ⟨-, rfl⟩ := terminate_eq ht
          exact ⟨(ho.withPending _).setWorker rfl, by simp⟩
      have hlen := ((processShutdown_frame h₁.1 hsh).2).trans h₁.2
      obtain ⟨-, -, hf, -, -, hnew⟩ := restart_frame ord i₀ o.spawn b W₂
      rw [← hf, hlen] at hnew
      exact hnew
    · rcases sendLine_cases hsl with ⟨-, rfl⟩ | ⟨-, -, rfl⟩
      · exact .inl rfl
      · exact .inl (by simp)
    · have hv := hq.worker_lt ho hq₀
      have hlen : W₁.workers.length = W.workers.length := by
        rcases finishSpawn_cases (show v < ({ W with pending := .idle } : World).workers.length from hv) hfin with
          ⟨-, -, rfl⟩ | ⟨r, x, -, -, -, rfl⟩ <;> simp
      cases b
      · exact .inl hlen
      · exact .inl hlen
  all_goals exact .inl (by simp)

end Release

/-! ## What the supervisor knows when it reaps a worker -/

/-- When `process_shutdown` reaps a worker in any step of any run, the worker has exited and,
if every message it wrote fits the 1024-byte buffer, the drain loop has passed every one of
them to `parse` exactly once and in the order written; so every module hash it reported is in
the blacklist, and a worker started again in its slot starts at the last `GRAPHICS` and
`COMPUTE` values it wrote. -/
theorem reaped_worker_was_read_to_the_end (ord : IterationOrder) {W W' : World} {e : Event}
    {i w : Nat} (hR : Reach ord W) (hs : step ord e W = some W') (hw : (W.slot i).process = some w)
    (hr : (W'.worker w).reaped = true) (hshort : ∀ m ∈ (W'.worker w).wrote, m.length < 1024) :
    (W'.worker w).exitCode.isSome ∧ (W'.worker w).parsed = (W'.worker w).wrote ∧
      (∀ m ∈ (W'.worker w).wrote, ∀ h, moduleHash m = some h → h ∈ W'.faulty.items) ∧
      ((W'.slot i).process.isSome →
        (W'.slot i).startGraphicsIndex =
          UInt32.ofNat (lastReport "GRAPHICS".toList (-1) (W'.worker w).wrote).toNat ∧
        (W'.slot i).startComputeIndex =
          UInt32.ofNat (lastReport "COMPUTE".toList (-1) (W'.worker w).wrote).toNat) := by
  obtain ⟨ho, hp, hq⟩ := bookkeeping_reach ord hR
  obtain ⟨hd, hl⟩ := delivery_reach ord hR
  have hR' : Reach ord W' := .step e hR hs
  obtain ⟨hex, hdone⟩ := (delivery_reach ord hR').1.reaped w hr
  have hparsed := hdone hshort
  refine ⟨hex, hparsed, fun m hm h hh => (delivery_reach ord hR').1.modules w m (hparsed ▸ hm) h hh,
    fun hsome => ?_⟩
  rcases step_release ord ho hp hq hd hl hs hw with hkeep | hrel
  · have hnot := ((invariants_reach ord hR').1.owned i w hkeep).2
    rw [hr] at hnot; cases hnot
  · obtain ⟨-, -, hG, hC⟩ := hrel.starts hsome
    rw [← hparsed]
    exact ⟨hG, hC⟩

/-- One slot, over one graphics and one compute pipeline: its worker is started, reports the
modules `0` and `5` and progress `0` and `0`, each read and parsed before the next is written,
and exits with code 2. -/
def crashRun : List Event :=
  [.master {}, .master {}, .master {},
    .write 0 "MODULE 0\n".toList, .complete 0, .master {}, .write 0 "MODULE 5\n".toList, .complete 0, .master {},
    .write 0 "GRAPHICS 0\n".toList, .complete 0, .master {}, .write 0 "COMPUTE 0\n".toList, .complete 0, .master {},
    .exit 0 2]

/-- The world once the worker of `crashRun` has exited. -/
def crashedWorld : World :=
  (run IterationOrder.insertion crashRun (World.initial 1 1 1)).getD (World.initial 1 1 1)

/-- The world once the supervisor has seen the crash of `crashedWorld`. -/
def respawnedWorld : World :=
  (step IterationOrder.insertion (.master {}) crashedWorld).getD crashedWorld

theorem reach_crashedWorld : Reach IterationOrder.insertion crashedWorld :=
  @reach_run _ crashRun _ _ (.initial 1 1 1) (by rfl)

theorem reaped_worker_after_crash :
    Reach IterationOrder.insertion crashedWorld ∧
      step IterationOrder.insertion (.master {}) crashedWorld = some respawnedWorld ∧
      (crashedWorld.slot 0).process = some 0 ∧ (respawnedWorld.worker 0).reaped = true ∧
      (∀ m ∈ (respawnedWorld.worker 0).wrote, m.length < 1024) ∧
      ((respawnedWorld.worker 0).exitCode.isSome ∧
        (respawnedWorld.worker 0).parsed = (respawnedWorld.worker 0).wrote ∧
        (∀ m ∈ (respawnedWorld.worker 0).wrote, ∀ h, moduleHash m = some h → h ∈ respawnedWorld.faulty.items) ∧
        ((respawnedWorld.slot 0).process.isSome →
          (respawnedWorld.slot 0).startGraphicsIndex =
            UInt32.ofNat (lastReport "GRAPHICS".toList (-1) (respawnedWorld.worker 0).wrote).toNat ∧
          (respawnedWorld.slot 0).startComputeIndex =
            UInt32.ofNat (lastReport "COMPUTE".toList (-1) (respawnedWorld.worker 0).wrote).toNat)) :=
  have hs : step IterationOrder.insertion (.master {}) crashedWorld = some respawnedWorld := by rfl
  ⟨reach_crashedWorld, hs, by decide, by decide, by decide,
    reaped_worker_was_read_to_the_end _ reach_crashedWorld hs (by decide) (by decide) (by decide)⟩

/-! ## Where a respawn starts -/

/-- In any step of any run, a slot whose worker `w` is replaced by a new one starts both ranges
at the last `GRAPHICS` and `COMPUTE` values parsed from `w`, and keeps where they end. When
no report of `w` lies before the slot's starts, the starts do not move back, and neither does
their sum. -/
theorem respawn_starts_at_last_reports (ord : IterationOrder) {W W' : World} {e : Event}
    {i w v : Nat} (hR : Reach ord W) (hs : step ord e W = some W') (hw : (W.slot i).process = some w)
    (hv : (W'.slot i).process = some v) (hvw : v ≠ w)
    (hg : ∀ m ∈ (W'.worker w).wrote, startsWith (cString m) "GRAPHICS".toList →
      ((W.slot i).startGraphicsIndex.toNat : Int) ≤ strtol0 ((cString m).drop 8))
    (hc : ∀ m ∈ (W'.worker w).wrote, startsWith (cString m) "COMPUTE".toList →
      ((W.slot i).startComputeIndex.toNat : Int) ≤ strtol0 ((cString m).drop 7)) :
    (W'.slot i).startGraphicsIndex =
        UInt32.ofNat (lastReport "GRAPHICS".toList (-1) (W'.worker w).parsed).toNat ∧
      (W'.slot i).startComputeIndex =
        UInt32.ofNat (lastReport "COMPUTE".toList (-1) (W'.worker w).parsed).toNat ∧
      (W'.slot i).endGraphicsIndex = (W.slot i).endGraphicsIndex ∧
      (W'.slot i).endComputeIndex = (W.slot i).endComputeIndex ∧
      (W.slot i).startGraphicsIndex ≤ (W'.slot i).startGraphicsIndex ∧
      (W.slot i).startComputeIndex ≤ (W'.slot i).startComputeIndex ∧
      (W.slot i).startGraphicsIndex.toNat + (W.slot i).startComputeIndex.toNat ≤
        (W'.slot i).startGraphicsIndex.toNat + (W'.slot i).startComputeIndex.toNat := by
  obtain ⟨ho, hp, hq⟩ := bookkeeping_reach ord hR
  obtain ⟨hd, hl⟩ := delivery_reach ord hR
  have hord := (delivery_reach ord (.step e hR hs)).1.ordered w
  rcases step_release ord ho hp hq hd hl hs hw with hkeep | hrel
  · rw [hkeep] at hv; exact absurd (Option.some.inj hv).symm hvw
  obtain ⟨hpg, hpc, hG, hC⟩ := hrel.starts (by rw [hv]; rfl)
  have hge : (W.slot i).startGraphicsIndex ≤ (W'.slot i).startGraphicsIndex :=
    hG ▸ le_ofNat_lastReport hpg fun m hm => hg m (hord.subset hm)
  have hce : (W.slot i).startComputeIndex ≤ (W'.slot i).startComputeIndex :=
    hC ▸ le_ofNat_lastReport hpc fun m hm => hc m (hord.subset hm)
  exact ⟨hG, hC, hrel.endGraphics, hrel.endCompute, hge, hce, Nat.add_le_add hge hce⟩

theorem respawn_after_crash_starts_at_reports :
    Reach IterationOrder.insertion crashedWorld ∧
      step IterationOrder.insertion (.master {}) crashedWorld = some respawnedWorld ∧
      (crashedWorld.slot 0).process = some 0 ∧ (respawnedWorld.slot 0).process = some 1 ∧ 1 ≠ 0 ∧
      (∀ m ∈ (respawnedWorld.worker 0).wrote, startsWith (cString m) "GRAPHICS".toList →
        ((crashedWorld.slot 0).startGraphicsIndex.toNat : Int) ≤ strtol0 ((cString m).drop 8)) ∧
      (∀ m ∈ (respawnedWorld.worker 0).wrote, startsWith (cString m) "COMPUTE".toList →
        ((crashedWorld.slot 0).startComputeIndex.toNat : Int) ≤ strtol0 ((cString m).drop 7)) ∧
      ((respawnedWorld.slot 0).startGraphicsIndex =
          UInt32.ofNat (lastReport "GRAPHICS".toList (-1) (respawnedWorld.worker 0).parsed).toNat ∧
        (respawnedWorld.slot 0).startComputeIndex =
          UInt32.ofNat (lastReport "COMPUTE".toList (-1) (respawnedWorld.worker 0).parsed).toNat ∧
        (respawnedWorld.slot 0).endGraphicsIndex = (crashedWorld.slot 0).endGraphicsIndex ∧
        (respawnedWorld.slot 0).endComputeIndex = (crashedWorld.slot 0).endComputeIndex ∧
        (crashedWorld.slot 0).startGraphicsIndex ≤ (respawnedWorld.slot 0).startGraphicsIndex ∧
        (crashedWorld.slot 0).startComputeIndex ≤ (respawnedWorld.slot 0).startComputeIndex ∧
        (crashedWorld.slot 0).startGraphicsIndex.toNat + (crashedWorld.slot 0).startComputeIndex.toNat ≤
          (respawnedWorld.slot 0).startGraphicsIndex.toNat + (respawnedWorld.slot 0).startComputeIndex.toNat) :=
  have hs : step IterationOrder.insertion (.master {}) crashedWorld = some respawnedWorld := by rfl
  ⟨reach_crashedWorld, hs, by decide, by decide, by decide, by decide, by decide,
    respawn_starts_at_last_reports _ reach_crashedWorld hs (by decide)
      (show (respawnedWorld.slot 0).process = some 1 by decide) (by decide) (by decide) (by decide)⟩

/-- A worker that reports no progress past where it started, crashing with every report
inside its ranges, is started again over the very same ranges. -/
theorem respawn_after_crash_keeps_ranges :
    Reach IterationOrder.insertion crashedWorld ∧
      step IterationOrder.insertion (.master {}) crashedWorld = some respawnedWorld ∧
      (crashedWorld.slot 0).process = some 0 ∧ (respawnedWorld.slot 0).process = some 1 ∧
      (∀ m ∈ (respawnedWorld.worker 0).wrote, startsWith (cString m) "GRAPHICS".toList →
        ((crashedWorld.slot 0).startGraphicsIndex.toNat : Int) ≤ strtol0 ((cString m).drop 8) ∧
        strtol0 ((cString m).drop 8) ≤ (crashedWorld.slot 0).endGraphicsIndex.toNat) ∧
      (∀ m ∈ (respawnedWorld.worker 0).wrote, startsWith (cString m) "COMPUTE".toList →
        ((crashedWorld.slot 0).startComputeIndex.toNat : Int) ≤ strtol0 ((cString m).drop 7) ∧
        strtol0 ((cString m).drop 7) ≤ (crashedWorld.slot 0).endComputeIndex.toNat) ∧
      (respawnedWorld.slot 0).range = (crashedWorld.slot 0).range :=
  ⟨reach_crashedWorld, by rfl, by decide, by decide, by decide, by decide, by decide⟩

/-! ## The blacklist a new worker masks -/

/-- In any step of any run that starts a worker, the new worker masks the hashes of the
blacklist that come before the first `0` in the order the set is iterated, since a line that
reads as `0` ends its reading loop; so it masks exactly the blacklist when `0` is not in it.
The blacklist holds every module hash parsed from any worker. -/
theorem spawned_worker_masks_blacklist_up_to_zero (ord : IterationOrder) {W W' : World}
    {e : Event} (hR : Reach ord W) (hs : step ord e W = some W')
    (hnew : W.workers.length < W'.workers.length) :
    W'.workers.length = W.workers.length + 1 ∧
      (W'.worker W.workers.length).masked = (ord.iterate W'.faulty).takeWhile (· != 0) ∧
      ((0 : Hash) ∉ W'.faulty.items →
        ∀ h, h ∈ (W'.worker W.workers.length).masked ↔ h ∈ W'.faulty.items) ∧
      ∀ v, ∀ m ∈ (W'.worker v).parsed, ∀ h, moduleHash m = some h → h ∈ W'.faulty.items := by
  obtain ⟨ho, -, hq⟩ := bookkeeping_reach ord hR
  rcases step_workers ord ho hq hs with hlen | ⟨hlen, hx⟩
  · omega
  have hmask : (W'.worker W.workers.length).masked = (ord.iterate W'.faulty).takeWhile (· != 0) := by
    rw [hx, maskedModules_sendFaultyModules]
  refine ⟨hlen, hmask, fun h0 h => ?_, (delivery_reach ord (.step e hR hs)).1.modules⟩
  have hall : ∀ x ∈ ord.iterate W'.faulty, (x != 0) = true := fun x hx => by
    have := (ord.perm W'.faulty).mem_iff.mp hx
    simp only [bne_iff_ne, ne_eq]
    rintro rfl
    exact h0 this
  rw [hmask, List.takeWhile_eq_self_iff.mpr hall, (ord.perm W'.faulty).mem_iff]

theorem spawned_worker_after_crash :
    Reach IterationOrder.insertion crashedWorld ∧
      step IterationOrder.insertion (.master {}) crashedWorld = some respawnedWorld ∧
      crashedWorld.workers.length < respawnedWorld.workers.length ∧
      (respawnedWorld.workers.length = crashedWorld.workers.length + 1 ∧
        (respawnedWorld.worker crashedWorld.workers.length).masked =
          (IterationOrder.insertion.iterate respawnedWorld.faulty).takeWhile (· != 0) ∧
        ((0 : Hash) ∉ respawnedWorld.faulty.items → ∀ h,
          h ∈ (respawnedWorld.worker crashedWorld.workers.length).masked ↔ h ∈ respawnedWorld.faulty.items) ∧
        ∀ v, ∀ m ∈ (respawnedWorld.worker v).parsed, ∀ h, moduleHash m = some h →
          h ∈ respawnedWorld.faulty.items) :=
  have hs : step IterationOrder.insertion (.master {}) crashedWorld = some respawnedWorld := by rfl
  ⟨reach_crashedWorld, hs, by decide,
    spawned_worker_masks_blacklist_up_to_zero _ reach_crashedWorld hs (by decide)⟩

/-- A worker reports the modules `0` and `5` before it crashes: the worker started after it
masks neither. -/
theorem spawn_after_zero_hash_masks_nothing :
    Reach IterationOrder.insertion crashedWorld ∧
      step IterationOrder.insertion (.master {}) crashedWorld = some respawnedWorld ∧
      crashedWorld.workers.length = 1 ∧ respawnedWorld.workers.length = 2 ∧
      respawnedWorld.faulty.items = [5, 0] ∧ (respawnedWorld.worker 1).masked = [] :=
  ⟨reach_crashedWorld, by rfl, by decide, by decide, by decide, by decide⟩

end Fossilize.Supervisor
