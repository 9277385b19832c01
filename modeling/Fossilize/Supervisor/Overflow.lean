import Fossilize.Supervisor.Respawn

/-! # Messages that do not fit the read buffer

`parse` is given, of each worker, a prefix of what it wrote before its first message of 1024
bytes or more; once the worker's pipe is closed, exactly that.
-/

namespace Fossilize.Supervisor

/-- A message the read buffer holds with its NUL. -/
def fitsBuffer (m : List Char) : Bool := m.length < 1024

/-- The messages of `ms` before the first one that does not fit the buffer. -/
def readable (ms : List (List Char)) : List (List Char) := ms.takeWhile fitsBuffer

theorem readable_of_all {ms : List (List Char)} (h : ∀ m ∈ ms, fitsBuffer m) : readable ms = ms :=
  List.takeWhile_eq_self_iff.mpr h

theorem prefix_readable {ps ms : List (List Char)} (h : ps <+: ms) (hps : ∀ p ∈ ps, fitsBuffer p) :
    ps <+: readable ms := by
  obtain ⟨t, rfl⟩ := h
  rw [readable, List.takeWhile_append_of_pos hps]
  exact List.prefix_append _ _

theorem readable_append_overflow {ps rest : List (List Char)} {m : List Char}
    (hps : ∀ p ∈ ps, fitsBuffer p) (hm : 1024 ≤ m.length) : readable (ps ++ m :: rest) = ps := by
  rw [readable, List.takeWhile_append_of_pos hps, List.takeWhile_cons_of_neg (by simpa [fitsBuffer]),
    List.append_nil]

/-- Worker `w` has been reaped, or its slot has closed its pipe. -/
def World.Closed (W : World) (w : Nat) : Prop :=
  (W.worker w).reaped = true ∨ ∃ i, (W.slot i).process = some w ∧ (W.slot i).crashFile = none

/-- What `parse` was given of each worker, against the read buffer. -/
structure Cutoff (W : World) : Prop where
  /-- Only messages that fit are parsed. -/
  short : ∀ w, ∀ m ∈ (W.worker w).parsed, fitsBuffer m
  /-- A worker whose pipe was closed was read up to its first message that does not fit. -/
  closed : ∀ w, W.Closed w → (W.worker w).parsed = readable (W.worker w).wrote

section Preservation

variable {W W' : World} {i w : Nat} {s : Slot} {x : Worker}

/-- Changes `Cutoff` cannot see: a worker closed afterwards was closed before with the same logs,
or has just been read up to its first overflow; parsing adds only messages that fit. -/
theorem Cutoff.frame (hc : Cutoff W)
    (hclosed : ∀ w, W'.Closed w → W.Closed w ∧ (W'.worker w).parsed = (W.worker w).parsed ∧
      (W'.worker w).wrote = (W.worker w).wrote ∨ (W'.worker w).parsed = readable (W'.worker w).wrote)
    (hshort : ∀ w, ∀ m ∈ (W'.worker w).parsed, m ∈ (W.worker w).parsed ∨ fitsBuffer m) : Cutoff W' where
  short w m hm := (hshort w m hm).elim (hc.short w m) id
  closed w hw := by
    rcases hclosed w hw with ⟨hw, hp, hwr⟩ | h
    · rw [hp, hwr]; exact hc.closed w hw
    · exact h

/-- A slot that is left closed held no worker, or held the same worker closed. -/
theorem Cutoff.setSlot (hc : Cutoff W)
    (hs : s.crashFile = none → s.process = none ∨ s.process = (W.slot i).process ∧ (W.slot i).crashFile = none) :
    Cutoff (W.setSlot i s) := by
  by_cases hi : i < W.slots.length
  · refine hc.frame (fun v hv => .inl ⟨?_, rfl, rfl⟩) fun _ _ hm => .inl hm
    rcases hv with hr | ⟨j, hp, hcf⟩
    · exact .inl hr
    · rw [W.slot_setSlot hi] at hp hcf
      split_ifs at hp hcf with hj
      · rcases hs hcf with h | ⟨h, h'⟩
        · rw [h] at hp; cases hp
        · exact .inr ⟨i, h ▸ hp, h'⟩
      · exact .inr ⟨j, hp, hcf⟩
  · rwa [W.setSlot_of_le s (Nat.le_of_not_lt hi)]

theorem Cutoff.setWorker (hc : Cutoff W)
    (hr : x.reaped = true → (W.worker w).reaped = true ∨ x.parsed = readable x.wrote)
    (hshort : ∀ m ∈ x.parsed, m ∈ (W.worker w).parsed ∨ fitsBuffer m)
    (hsame : W.Closed w → x.parsed = (W.worker w).parsed ∧ x.wrote = (W.worker w).wrote) :
    Cutoff (W.setWorker w x) := by
  by_cases hw : w < W.workers.length
  · have hv : ∀ v, (W.setWorker w x).worker v = if v = w then x else W.worker v :=
      fun _ => W.worker_setWorker hw
    refine hc.frame (fun v h => ?_) fun v m hm => ?_
    · rw [hv]
      split_ifs with he
      · -- worker `w` is closed by a reaped flag it gets now, or was closed already
        subst he
        rcases h with h | h
        · rw [hv, if_pos rfl] at h
          exact (hr h).imp (fun h' => ⟨.inl h', hsame (.inl h')⟩) id
        · exact .inl ⟨.inr h, hsame (.inr h)⟩
      · refine .inl ⟨?_, rfl, rfl⟩
        rcases h with h | h
        · rw [hv, if_neg he] at h; exact .inl h
        · exact .inr h
    · rw [hv] at hm; split_ifs at hm with he
      exacts [he ▸ hshort m hm, .inl hm]
  · simpa [World.setWorker, List.set_eq_of_length_le (Nat.le_of_not_lt hw)] using hc

theorem Cutoff.of_eq (hc : Cutoff W) (hs : W'.slots = W.slots) (hw : W'.workers = W.workers) : Cutoff W' := by
  have hW : ∀ v, W'.worker v = W.worker v := fun v => by simp only [World.worker, hw]
  refine hc.frame (fun v h => .inl ⟨?_, by rw [hW], by rw [hW]⟩) fun v m hm => .inl (hW v ▸ hm)
  rcases h with h | ⟨j, h⟩
  · exact .inl (hW v ▸ h)
  · exact .inr ⟨j, by simpa only [World.slot, hs] using h⟩

/-- Collecting from slot `i`'s pipe parses messages that fit, from a worker whose pipe is
open. -/
theorem Cutoff.collected (ho : Owners W) (hc : Cutoff W) (hC : Collected i W W') : Cutoff W' := by
  obtain ⟨w, s, x, f, hcw, -, rfl, c⟩ := hC
  have hpw := (ho.slotOk i).crash w hcw
  have hopen : ¬ (W.setSlot i s).Closed w := by
    have hi : i < W.slots.length := W.lt_of_slot_ne fun h => by simp [h] at hpw
    rintro (hr | ⟨j, hj, hcj⟩)
    · rw [World.worker_setSlot, (ho.owned i w hpw).2] at hr; cases hr
    · rw [W.slot_setSlot hi] at hj hcj
      split_ifs at hj hcj with hji
      · rw [c.process.2, hcw] at hcj; cases hcj
      · exact hji (ho.unique j i w hj hpw)
  obtain ⟨ms, hp, -, -, -, -, hms⟩ := c.parsed
  have hA : Cutoff (W.setSlot i s) := hc.setSlot fun h => by rw [c.process.2, hcw] at h; cases h
  refine (hA.setWorker (fun h => .inl (by rw [c.worker] at h; exact h)) (fun m hm => ?_)
    fun h => absurd h hopen).of_eq rfl rfl
  rw [hp, List.mem_append] at hm
  exact hm.imp_right fun hm => by simpa [fitsBuffer] using hms m hm

theorem Cutoff.drain {fuel : Nat} (ho : Owners W) (hc : Cutoff W) (hd : drain fuel i W = some W') : Cutoff W' := by
  rcases drain_collected ho hd with rfl | hC
  exacts [hc, hc.collected ho hC]

/-- Closing slot `i`'s handles, once its worker was read up to its first overflow. -/
theorem Cutoff.closeHandles (hc : Cutoff W)
    (hcut : ∀ w, (W.slot i).process = some w → (W.worker w).parsed = readable (W.worker w).wrote) :
    Cutoff (W.setSlot i (W.slot i).closeHandles) := by
  by_cases hi : i < W.slots.length
  · refine hc.frame (fun v hv => ?_) fun _ _ hm => .inl hm
    rcases hv with hr | ⟨j, hp, hcf⟩
    · exact .inl ⟨.inl hr, rfl, rfl⟩
    · rw [W.slot_setSlot hi] at hp hcf
      split_ifs at hp hcf with hj
      exacts [.inr (hcut v hp), .inl ⟨.inr ⟨j, hp, hcf⟩, rfl, rfl⟩]
  · rwa [W.setSlot_of_le _ (Nat.le_of_not_lt hi)]

/-- Reaping the worker of a slot that closed its pipe. -/
theorem Cutoff.reap (hc : Cutoff W) (hp : (W.slot i).process = some w)
    (hcf : (W.slot i).crashFile = none) : Cutoff (W.reap i w) :=
  have h : Cutoff ((W.setSlot i { W.slot i with process := none }).setWorker w
      { W.worker w with reaped := true }) :=
    Cutoff.setWorker (hc.setSlot fun _ => .inl rfl) (fun _ => .inr (hc.closed w (.inr ⟨i, hp, hcf⟩)))
      (fun _ => .inl) fun _ => ⟨rfl, rfl⟩
  h.of_eq rfl rfl

/-- A worker started in slot `i`: its pipe is open and it has written nothing. -/
theorem Cutoff.startedWorld (ho : Owners W) (hc : Cutoff W) (ord : IterationOrder) (hi : i < W.slots.length) :
    Cutoff (Supervisor.startedWorld ord i s W) := by
  have hw : ∀ v, (Supervisor.startedWorld ord i s W).worker v = if v = W.workers.length
      then { masked := maskedModules (sendFaultyModules (ord.iterate W.faulty)) } else W.worker v :=
    W.startedWorld_worker_eq ord
  have hnew : ∀ v, (Supervisor.startedWorld ord i s W).Closed v → v ≠ W.workers.length := by
    rintro v (hr | ⟨j, hj, hcj⟩) rfl
    · rw [hw, if_pos rfl] at hr; cases hr
    · rw [W.startedWorld_slot ord hi] at hj hcj
      by_cases hji : j = i
      · rw [if_pos hji] at hcj; cases hcj
      · rw [if_neg hji] at hj; exact Nat.lt_irrefl _ (ho.owned j _ hj).1
  refine hc.frame (fun v hv => .inl ⟨?_, by rw [hw, if_neg (hnew v hv)], by rw [hw, if_neg (hnew v hv)]⟩)
    fun v m hm => ?_
  · rcases hv with hr | ⟨j, hj, hcj⟩
    · have hv' := hnew v (.inl hr)
      rw [hw, if_neg hv'] at hr; exact .inl hr
    · rw [W.startedWorld_slot ord hi] at hj hcj
      by_cases hji : j = i
      · rw [if_pos hji] at hcj; cases hcj
      · rw [if_neg hji] at hj hcj; exact .inr ⟨j, hj, hcj⟩
  · rw [hw] at hm; split_ifs at hm
    · cases hm
    · exact .inl hm

theorem Cutoff.startChildProcess (ho : Owners W) (hc : Cutoff W) (ord : IterationOrder) {o : SpawnOutcome}
    {b : Bool} (hi : i < W.slots.length) (hs : startChildProcess ord i o W = (b, W')) : Cutoff W' := by
  rcases startChildProcess_cases ord hs with ⟨rfl, -⟩ | ⟨-, -, rfl⟩
  · exact hc.setSlot fun h => .inr ⟨rfl, h⟩
  · exact hc.startedWorld ho ord hi

theorem Cutoff.restart (ho : Owners W) (hc : Cutoff W) (ord : IterationOrder) {o : SpawnOutcome} {b : Bool}
    (hb : b = true → i < W.slots.length) : Cutoff (restart ord i o (b, W)) := by
  rcases restart_cases ord i o b W with h | ⟨b', W₂, rfl, hs, hsl, hwk⟩
  · rw [h]; exact hc
  · exact (hc.startChildProcess ho ord (hb rfl) hs).of_eq hsl hwk

/-! ## Where the drain loop stops -/

/-- When the drain loop of `process_shutdown` ends on a slot that still reads a pipe, its read
has failed or holds a message that does not fit the buffer. -/
theorem drain_ends : ∀ {fuel : Nat} {W W' : World},
    (∀ w, (W.slot i).crashFile = some w → (W.slot i).pipeEvent.isSome) →
    drain fuel i W = some W' → ∀ w, (W'.slot i).crashFile = some w →
      (W'.slot i).pipeEvent.isSome ∧
        ((W'.slot i).read = .failed ∨ ∃ m, (W'.slot i).read = .completed m ∧ 1024 ≤ m.length)
  | 0, _, _, _, h => by cases h
  | fuel + 1, W, W', hl, h => by
    obtain ⟨⟨b, W₁⟩, h₁, h⟩ := Option.bind_eq_some.mp h
    rcases processOnce_cases h₁ with ⟨rfl, rfl, hn⟩ | ⟨w, s, x, f, hc, he, rfl, c, hb⟩
    · -- no pipe to read
      cases h
      intro v hv
      rcases hn with hn | hn
      · rw [hn] at hv; cases hv
      · have := hl v hv; rw [hn] at this; cases this
    have hi : i < W.slots.length := W.lt_of_slot_ne fun h => by simp [h] at hc
    have hs : ({ (W.setSlot i s).setWorker w x with faulty := f } : World).slot i = s :=
      W.slot_setSlot_self hi
    cases b with
    | true => exact drain_ends (fun _ _ => by rw [hs, c.event]; exact he) h
    | false =>
      cases h
      intro _ _
      rw [hs, c.event]
      exact ⟨he, hb rfl⟩

/-- After the drain loop, the slot's worker has been read up to its first message that does
not fit the buffer: the read failed on an empty pipe, or holds that message. -/
theorem drain_cutoff {fuel : Nat} (ho : Owners W) (hd : Delivery W) (hc : Cutoff W)
    (hl : ∀ w, (W.slot i).crashFile = some w → (W.slot i).pipeEvent.isSome)
    (hdr : drain fuel i W = some W') :
    ∀ w, (W'.slot i).process = some w → (W'.worker w).parsed = readable (W'.worker w).wrote := by
  have ho₁ := ho.drain hdr
  have hd₁ := (Delivery.drain ho hd hl hdr).1
  have hc₁ := hc.drain ho hdr
  intro w hw
  cases hcf : (W'.slot i).crashFile with
  | none => exact hc₁.closed w (.inr ⟨i, hw, hcf⟩)
  | some v =>
    obtain rfl : v = w := Option.some.inj (((ho₁.slotOk i).crash v hcf).symm.trans hw)
    obtain ⟨he, hrd⟩ := drain_ends hl hdr v hcf
    have hfifo := hd₁.fifo i v hcf
    rcases hrd with hrd | ⟨m, hrd, hlong⟩
    · rw [hrd, (hd₁.broken i v hcf he hrd).1] at hfifo
      simp only [ReadState.inFlight, List.append_nil] at hfifo
      rw [← hfifo, readable_of_all (hc₁.short v)]
    · rw [hrd] at hfifo
      simp only [ReadState.inFlight, List.append_assoc, List.singleton_append] at hfifo
      rw [← hfifo, readable_append_overflow (hc₁.short v) hlong]

theorem Cutoff.processShutdown {o : ShutdownOutcome} {b : Bool} (ho : Owners W) (hd : Delivery W)
    (hc : Cutoff W) (hl : ∀ w, (W.slot i).crashFile = some w → (W.slot i).pipeEvent.isSome)
    (hs : processShutdown i o W = some (b, W')) : Cutoff W' := by
  obtain ⟨W₁, hdr, hr⟩ := processShutdown_cases hs
  have h₂ := (hc.drain ho hdr).closeHandles (drain_cutoff ho hd hc hl hdr)
  rcases hr with ⟨-, rfl, -⟩ | ⟨w, c, hp, -, -, hdr'⟩
  · exact h₂
  have hi : i < W₁.slots.length := W₁.lt_of_slot_ne fun h => by simp [h] at hp
  have h₃ := h₂.reap (by rw [W₁.slot_setSlot_self hi]; exact hp)
    (by rw [W₁.slot_setSlot_self hi]; rfl)
  rcases decideRestart_cases hdr' with ⟨-, rfl⟩ | ⟨-, -, -, rfl, -⟩
  exacts [h₃, h₃.setSlot fun h => .inr ⟨rfl, h⟩]

end Preservation

section Run

variable (ord : IterationOrder) {W W' : World}

theorem cutoff_masterStep {o : MasterOutcome} (ho : Owners W) (hq : PendingOk W) (hd : Delivery W)
    (hl : Live W) (hc : Cutoff W) (hs : masterStep ord o W = some W') : Cutoff W' := by
  rcases masterStep_cases ord hs with ⟨n, b, W₁, hph, -, hn, hsp, rfl⟩ | ⟨n, -, -, -, rfl⟩ |
    ⟨-, -, -, rfl⟩ | ⟨-, -, -, -, rfl⟩ | ⟨-, -, i, b, hpo⟩ | ⟨-, -, i, -, rfl⟩ |
    ⟨i, -, -, rfl⟩ | ⟨i, W₁, ⟨b, W₂⟩, hte, hsh, rfl⟩ | ⟨i, w, line, lines, W₁, -, hsl, rfl⟩ |
    ⟨i, w, b, W₁, hq₀, hfin, rfl⟩
  · have hA : Cutoff (W.setSlot n (W.assignRange n)) := hc.setSlot fun h => .inr ⟨rfl, h⟩
    have hoA : Owners (W.setSlot n (W.assignRange n)) :=
      ho.setSlot rfl ⟨(ho.slotOk n).crash, (ho.slotOk n).idle⟩
    have h₁ := hA.startChildProcess hoA ord (by simpa using hn) hsp
    split_ifs <;> exact h₁.of_eq rfl rfl
  · exact hc.of_eq rfl rfl
  · exact hc.of_eq rfl rfl
  · exact hc.of_eq rfl rfl
  · rcases processOnce_cases hpo with ⟨rfl, -, -⟩ | ⟨w, s, x, f, hcw, he, rfl, c, -⟩
    exacts [hc, hc.collected ho ⟨w, s, x, f, hcw, he, rfl, c⟩]
  · exact hc.of_eq rfl rfl
  · exact hc.of_eq rfl rfl
  · -- the terminate call changes one exit code, which no invariant here reads
    obtain ⟨ho₁, hd₁, hl₁, hph₁, hq₁, -⟩ := shutdown_start ho hq hd hl hte
    have hc₁ : Cutoff W₁ := by
      rcases hte with ⟨-, -, rfl⟩ | ⟨w, -, -, hte⟩
      · exact hc
      · obtain ⟨-, rfl⟩ := terminate_eq hte
        have hc' : Cutoff ({ W with pending := .idle } : World) := hc.of_eq rfl rfl
        exact hc'.setWorker .inl (fun _ => .inl) fun _ => ⟨rfl, rfl⟩
    exact (hc₁.processShutdown ho₁ hd₁ (hl₁ (by rw [hph₁]; simp) i fun _ _ h => by rw [hq₁] at h; cases h)
      hsh).restart (ho₁.processShutdown hsh) ord fun hb => by subst hb; exact (processShutdown_true hsh).1
  · rcases sendLine_cases hsl with ⟨-, rfl⟩ | ⟨-, -, rfl⟩
    · exact hc.of_eq rfl rfl
    · have h₁ : Cutoff (W.setWorker w { W.worker w with reading := (strtoull16 line).1 != 0 }) :=
        hc.setWorker .inl (fun _ => .inl) fun _ => ⟨rfl, rfl⟩
      exact h₁.of_eq rfl rfl
  · have hw := hq.worker_lt ho hq₀
    have h₁ : Cutoff W₁ := by
      have hc' : Cutoff ({ W with pending := .idle } : World) := hc.of_eq rfl rfl
      rcases finishSpawn_cases (show w < ({ W with pending := .idle } : World).workers.length from hw) hfin with
        ⟨-, -, rfl⟩ | ⟨r, x, -, hk, -, rfl⟩
      · exact hc'.setWorker .inl (fun _ => .inl) fun _ => ⟨rfl, rfl⟩
      · obtain ⟨hx, -⟩ := kick_eq { ({ W with pending := .idle } : World).worker w with reading := false }
        rw [hk] at hx
        dsimp only at hx
        have hA : Cutoff (({ W with pending := .idle } : World).setSlot i
            { ({ W with pending := .idle } : World).slot i with pipeEvent := some r.isCompleted, read := r }) :=
          hc'.setSlot fun h => .inr ⟨rfl, h⟩
        exact hA.setWorker (fun h => .inl (by rw [hx] at h; exact h))
          (fun m hm => .inl (by rw [hx] at hm; exact hm)) fun _ => by rw [hx]; exact ⟨rfl, rfl⟩
    split_ifs <;> exact h₁.of_eq rfl rfl

/-- A worker writes a message: it has not exited, so its pipe is open. -/
theorem Cutoff.write (hd : Delivery W) (hc : Cutoff W) {w : Nat} {m : List Char}
    (hx : (W.worker w).exitCode = none) :
    Cutoff (W.setWorker w
      { W.worker w with pipe := (W.worker w).pipe ++ [m], wrote := (W.worker w).wrote ++ [m] }) := by
  refine hc.setWorker .inl (fun _ => .inl) fun hcl => ?_
  have hdone : (W.worker w).Done := by
    rcases hcl with hr | ⟨j, hj, hcj⟩
    exacts [hd.reaped w hr, hd.drained j w hj hcj]
  have hex := hdone.1
  rw [hx] at hex
  cases hex

theorem cutoff_step {e : Event} (ho : Owners W) (hq : PendingOk W) (hd : Delivery W) (hl : Live W)
    (hc : Cutoff W) (hs : step ord e W = some W') : Cutoff W' := by
  rcases step_cases ord hs with ⟨o, hs⟩ | ⟨w, m, -, hx, -, -, rfl⟩ | ⟨w, c, -, -, -, rfl⟩ |
    ⟨i, w, e, r, x, -, -, -, ha, rfl⟩ | ⟨i, -, rfl⟩
  · exact cutoff_masterStep ord ho hq hd hl hc hs
  · exact hc.write hd hx
  · exact hc.setWorker .inl (fun _ => .inl) fun _ => ⟨rfl, rfl⟩
  · have hx := (Worker.answer_eq ha).1
    have hA : Cutoff (W.setSlot i { W.slot i with read := r, pipeEvent := some true }) :=
      hc.setSlot fun h => .inr ⟨rfl, h⟩
    exact hA.setWorker (fun h => .inl (by rw [hx] at h; exact h)) (fun m hm => .inl (by rw [hx] at hm; exact hm))
      fun _ => by rw [hx]; exact ⟨rfl, rfl⟩
  · exact hc.setSlot fun h => .inr ⟨rfl, h⟩

theorem cutoff_initial (g c n : Nat) : Cutoff (World.initial g c n) := by
  have hworker : ∀ w, (World.initial g c n).worker w = { masked := [] } := fun w => by
    simp [World.worker, World.initial]
  refine ⟨fun w m hm => by simp [hworker] at hm, fun w _ => by simp [hworker, readable]⟩

/-- What `parse` was given of each worker, in every world a run reaches. -/
theorem cutoff_reach (hR : Reach ord W) : Cutoff W := by
  induction hR with
  | initial g c n => exact cutoff_initial g c n
  | step e hR hs ih =>
    obtain ⟨ho, -, hq⟩ := bookkeeping_reach ord hR
    obtain ⟨hd, hl⟩ := delivery_reach ord hR
    exact cutoff_step ord ho hq hd hl ih hs

/-- In every world a run reaches, `parse` has been given, of each worker, the messages it wrote,
in order from the first, and none from its first message that does not fit the 1024-byte
buffer on; once the worker is reaped, or its slot has closed its pipe, every message before
that one. -/
theorem parse_stops_at_first_overflow (hR : Reach ord W) (w : Nat) :
    (W.worker w).parsed <+: (W.worker w).wrote.takeWhile (fun m => m.length < 1024) ∧
      ((W.worker w).reaped = true ∨ (∃ i, (W.slot i).process = some w ∧ (W.slot i).crashFile = none) →
        (W.worker w).parsed = (W.worker w).wrote.takeWhile (fun m => m.length < 1024)) :=
  have hc := cutoff_reach ord hR
  ⟨prefix_readable ((delivery_reach ord hR).1.ordered w) (hc.short w), hc.closed w⟩

end Run

/-- One slot, over one graphics and one compute pipeline: its worker reports a crash and
progress `1`, writes a message of 1024 bytes, and reports progress `5`, which nothing reads any
more, so it hangs in `FlushFileBuffers`; the timer armed by the crash report fires, and the
supervisor terminates the worker and reaps it. -/
def overflowRun : List Event :=
  [.master {}, .master {}, .master {},
    .write 0 "CRASH\n".toList, .complete 0, .master {}, .write 0 "GRAPHICS 1\n".toList, .complete 0, .master {},
    .write 0 (List.replicate 1024 'x'), .complete 0, .master {}, .write 0 "GRAPHICS 5\n".toList,
    .fire 0, .master {}, .master {}]

def overflowedWorld : World :=
  (run IterationOrder.insertion overflowRun (World.initial 1 1 1)).getD (World.initial 1 1 1)

set_option maxRecDepth 8000 in
theorem reach_overflowedWorld : Reach IterationOrder.insertion overflowedWorld :=
  @reach_run _ overflowRun _ _ (.initial 1 1 1) (by rfl)

set_option maxRecDepth 8000 in
/-- The reaped worker of `overflowRun` was read up to its message of 1024 bytes: its report of
progress `5` never reached `parse`. -/
theorem overflowed_worker_read_to_overflow :
    Reach IterationOrder.insertion overflowedWorld ∧ (overflowedWorld.worker 0).reaped = true ∧
      (overflowedWorld.worker 0).wrote.length = 4 ∧
      (overflowedWorld.worker 0).parsed = ["CRASH\n".toList, "GRAPHICS 1\n".toList] ∧
      ((overflowedWorld.worker 0).parsed <+:
          (overflowedWorld.worker 0).wrote.takeWhile (fun m => m.length < 1024) ∧
        ((overflowedWorld.worker 0).reaped = true ∨
            (∃ i, (overflowedWorld.slot i).process = some 0 ∧ (overflowedWorld.slot i).crashFile = none) →
          (overflowedWorld.worker 0).parsed =
            (overflowedWorld.worker 0).wrote.takeWhile (fun m => m.length < 1024))) :=
  ⟨reach_overflowedWorld, by rfl, by rfl, by rfl,
    parse_stops_at_first_overflow _ reach_overflowedWorld 0⟩

end Fossilize.Supervisor
