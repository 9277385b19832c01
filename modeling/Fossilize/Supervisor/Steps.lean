import Fossilize.Supervisor.Master

/-! # What each operation of the supervisor can do

One lemma per operation says everything its result can be; `Collect` sums up collecting
messages from a pipe.
-/

namespace Fossilize.Supervisor

/-! ## What parsing messages in order leaves -/

/-- The value `strtol(…, 0)` reads after `tag` in the last message that starts with it, or
`v` when none does. -/
def lastReport (tag : List Char) (v : Int) (ms : List (List Char)) : Int :=
  ms.foldl (fun v m => if startsWith (cString m) tag then strtol0 ((cString m).drop tag.length) else v) v

/-- The hash a `MODULE` message reports. -/
def moduleHash (m : List Char) : Option Hash :=
  if startsWith (cString m) "MODULE".toList then some (strtoull16 ((cString m).drop 6)).1
  else none

/-- The blacklist once the module hashes of `ms` are in. -/
def blacklistAfter (f : HashSet) (ms : List (List Char)) : HashSet :=
  ms.foldl (fun f m => match moduleHash m with
    | some h => f.insert h
    | none => f) f

/-- Whether `parse` takes a message for a crash report. -/
def crashReport (m : List Char) : Bool := startsWith (cString m) "CRASH".toList

/-- The slot's timer once the messages `ms` are parsed: each crash report arms a new one. -/
def timerAfter (t : Option Bool) (ms : List (List Char)) : Option Bool :=
  ms.foldl (fun t m => if crashReport m then some false else t) t

theorem lastReport_append (tag : List Char) (v : Int) (ms ms' : List (List Char)) :
    lastReport tag v (ms ++ ms') = lastReport tag (lastReport tag v ms) ms' :=
  List.foldl_append ..

theorem blacklistAfter_append (f : HashSet) (ms ms' : List (List Char)) :
    blacklistAfter f (ms ++ ms') = blacklistAfter (blacklistAfter f ms) ms' :=
  List.foldl_append ..

theorem timerAfter_append (t : Option Bool) (ms ms' : List (List Char)) :
    timerAfter t (ms ++ ms') = timerAfter (timerAfter t ms) ms' :=
  List.foldl_append ..

theorem mem_blacklistAfter_of_mem {h : Hash} :
    ∀ {f : HashSet} (ms : List (List Char)), h ∈ f.items → h ∈ (blacklistAfter f ms).items
  | _, [], hf => hf
  | f, m :: ms, hf => by
    simp only [blacklistAfter, List.foldl_cons]
    refine mem_blacklistAfter_of_mem ms ?_
    split <;> simp [hf]

/-- Every module hash the messages report is in the blacklist after them. -/
theorem mem_blacklistAfter {h : Hash} :
    ∀ {f : HashSet} {ms : List (List Char)} {m : List Char}, m ∈ ms → moduleHash m = some h →
      h ∈ (blacklistAfter f ms).items
  | _, [], _, hm, _ => absurd hm (List.not_mem_nil _)
  | f, m' :: ms, m, hm, hh => by
    simp only [blacklistAfter, List.foldl_cons]
    rcases List.mem_cons.mp hm with rfl | hm
    · exact mem_blacklistAfter_of_mem ms (by simp [hh])
    · exact mem_blacklistAfter hm hh

theorem parse_collect (m : List Char) (s : Slot) (f : HashSet) :
    (parse (cString m) s f).1.graphicsProgress = lastReport "GRAPHICS".toList s.graphicsProgress [m] ∧
    (parse (cString m) s f).1.computeProgress = lastReport "COMPUTE".toList s.computeProgress [m] ∧
    (parse (cString m) s f).2 = blacklistAfter f [m] ∧
    (parse (cString m) s f).1.timer = timerAfter s.timer [m] := by
  refine ⟨parse_graphicsProgress .., parse_computeProgress .., ?_, ?_⟩
  · rw [parse_faulty]; simp only [blacklistAfter, moduleHash, List.foldl_cons, List.foldl_nil]
    split_ifs <;> rfl
  · unfold parse
    split_ifs with hc <;> simp only [timerAfter, crashReport, List.foldl_cons, List.foldl_nil, hc,
      Bool.false_eq_true, if_true, if_false]

/-! ## Collecting messages -/

/-- What collecting messages from slot `s`, whose pipe is worker `x`'s, changes, and the
blacklist `f` with it. -/
structure Collect (s : Slot) (x : Worker) (f : HashSet) (s' : Slot) (x' : Worker) (f' : HashSet) :
    Prop where
  slot : s' = { s with timer := s'.timer, pipeEvent := s'.pipeEvent, read := s'.read,
                       graphicsProgress := s'.graphicsProgress, computeProgress := s'.computeProgress }
  worker : x' = { x with pipe := x'.pipe, parsed := x'.parsed }
  event : s'.pipeEvent.isSome = s.pipeEvent.isSome
  fifo : x'.parsed ++ s'.read.inFlight ++ x'.pipe = x.parsed ++ s.read.inFlight ++ x.pipe
  parsed : ∃ ms, x'.parsed = x.parsed ++ ms ∧
    s'.graphicsProgress = lastReport "GRAPHICS".toList s.graphicsProgress ms ∧
    s'.computeProgress = lastReport "COMPUTE".toList s.computeProgress ms ∧
    f' = blacklistAfter f ms ∧ s'.timer = timerAfter s.timer ms ∧ ∀ m ∈ ms, m.length < 1024
  /-- The read ends broken only on an empty pipe of a worker that has exited. -/
  broken : s'.read = .failed → (s.read = .failed → x.pipe = [] ∧ x.exitCode.isSome) →
    x'.pipe = [] ∧ x'.exitCode.isSome

theorem Collect.trans {s s₁ s₂ : Slot} {x x₁ x₂ : Worker} {f f₁ f₂ : HashSet}
    (c₁ : Collect s x f s₁ x₁ f₁) (c₂ : Collect s₁ x₁ f₁ s₂ x₂ f₂) : Collect s x f s₂ x₂ f₂ where
  slot := by rw [c₂.slot, c₁.slot]
  worker := by rw [c₂.worker, c₁.worker]
  event := c₂.event.trans c₁.event
  fifo := c₂.fifo.trans c₁.fifo
  parsed := by
    obtain ⟨ms₁, hp₁, hg₁, hc₁, hf₁, ht₁⟩ := c₁.parsed
    obtain ⟨ms₂, hp₂, hg₂, hc₂, hf₂, ht₂⟩ := c₂.parsed
    refine ⟨ms₁ ++ ms₂, by rw [hp₂, hp₁, List.append_assoc], by rw [hg₂, hg₁, lastReport_append],
      by rw [hc₂, hc₁, lastReport_append], by rw [hf₂, hf₁, blacklistAfter_append],
      by rw [ht₂.1, ht₁.1, timerAfter_append], fun m hm => (List.mem_append.mp hm).elim (ht₁.2 m) (ht₂.2 m)⟩
  broken h hx := c₂.broken h fun h₁ => c₁.broken h₁ hx

theorem Collect.process {s s' : Slot} {x x' : Worker} {f f' : HashSet}
    (c : Collect s x f s' x' f') : s'.process = s.process ∧ s'.crashFile = s.crashFile := by
  rw [c.slot]; exact ⟨rfl, rfl⟩

/-! ## One turn of `process_once` -/

section World

variable {W W' : World} {i : Nat}

theorem World.setWorker_setSlot (W : World) (i w : Nat) (s s' : Slot) (x x' : Worker)
    (f f' : HashSet) :
    { ({ (W.setSlot i s).setWorker w x with faulty := f }.setSlot i s').setWorker w x' with
        faulty := f' } = { (W.setSlot i s').setWorker w x' with faulty := f' } := by
  simp [World.setSlot, World.setWorker, List.set_set]

/-- `process_once` leaves the world as it is, when the pipe is closed or the event null, or
collects from the slot's pipe; it answers `false` then only when the read is broken or holds
a message too long for the buffer. -/
theorem processOnce_cases {b : Bool} (h : processOnce i W = some (b, W')) :
    W' = W ∧ b = false ∧ ((W.slot i).crashFile = none ∨ (W.slot i).pipeEvent = none) ∨
      ∃ w s x f, (W.slot i).crashFile = some w ∧ (W.slot i).pipeEvent.isSome ∧
        W' = { (W.setSlot i s).setWorker w x with faulty := f } ∧
        Collect (W.slot i) (W.worker w) W.faulty s x f ∧
        (b = false → s.read = .failed ∨ ∃ m, s.read = .completed m ∧ 1024 ≤ m.length) := by
  unfold processOnce at h
  split at h
  · cases h; exact .inl ⟨rfl, rfl, .inl (by assumption)⟩
  · cases h; exact .inl ⟨rfl, rfl, .inr (by assumption)⟩
  rename_i w e hc he
  obtain ⟨⟨r, x⟩, hset, h⟩ := Option.bind_eq_some.mp h
  dsimp only at h
  obtain ⟨hx, hfifo⟩ := settle_eq hset
  have hbroken : r = .failed → ((W.slot i).read = .failed → (W.worker w).pipe = [] ∧
      (W.worker w).exitCode.isSome) → x.pipe = [] ∧ x.exitCode.isSome := fun hr hold => by
    subst hr
    obtain ⟨rfl, h | h⟩ := settle_failed hset
    exacts [hold h, h]
  refine .inr ⟨w, ?_⟩
  simp only [he, Option.isSome_some, hc, true_and, exists_and_left]
  split at h
  · rename_i m
    split_ifs at h with hlen
    · cases h
      obtain ⟨hk, hkfifo⟩ := kick_eq { x with parsed := x.parsed ++ [m] }
      obtain ⟨hg, hcp, hf, ht⟩ := parse_collect m { W.slot i with pipeEvent := some false, read := .completed m } W.faulty
      refine ⟨_, _, _, rfl, ⟨?_, ?_, by simp [he], ?_, ⟨[m], ?_⟩, fun hr _ => ?_⟩, fun hb => .inl ?_⟩
      · rw [parse_slot]
      · rw [hk, hx]
      · simp only [← List.append_assoc] at hkfifo ⊢
        rw [hkfifo]; simpa [ReadState.inFlight] using hfifo
      · refine ⟨by rw [hk, hx], by simpa using hg, by simpa using hcp, hf, by simpa using ht, by simpa⟩
      · obtain ⟨hk', hp, hex⟩ := kick_failed hr
        rw [hk']
        exact ⟨hp, hex⟩
      · simpa using hb
    · cases h
      exact ⟨_, _, _, rfl, ⟨rfl, by rw [hx], by simp [he], hfifo,
        ⟨[], by rw [hx]; simp, rfl, rfl, rfl, rfl, by simp⟩, fun hr => (by cases hr)⟩,
        fun _ => .inr ⟨m, rfl, by omega⟩⟩
  · cases h
    rename_i hr
    refine ⟨_, _, _, rfl, ⟨rfl, by rw [hx], by simp [he], hfifo,
      ⟨[], by rw [hx]; simp, rfl, rfl, rfl, rfl, by simp⟩, hbroken⟩, fun _ => .inl ?_⟩
    cases r with
    | pending => exact absurd rfl (settle_ne_pending hset)
    | completed m => exact absurd rfl (hr m)
    | failed => rfl

/-- `W'` is `W` once messages were collected from slot `i`'s pipe. -/
def Collected (i : Nat) (W W' : World) : Prop :=
  ∃ w s x f, (W.slot i).crashFile = some w ∧ (W.slot i).pipeEvent.isSome ∧
    W' = { (W.setSlot i s).setWorker w x with faulty := f } ∧
    Collect (W.slot i) (W.worker w) W.faulty s x f

theorem Collected.trans {W₁ W₂ : World} (hw : ∀ w, (W.slot i).crashFile = some w → w < W.workers.length)
    (h₁ : Collected i W W₁) (h₂ : Collected i W₁ W₂) : Collected i W W₂ := by
  obtain ⟨w, s₁, x₁, f₁, hc, he, rfl, c₁⟩ := h₁
  have hi : i < W.slots.length := W.lt_of_slot_ne fun h => by simp [h] at hc
  have hs : ((W.setSlot i s₁).setWorker w x₁).slot i = s₁ := by simp [hi]
  have hx : ((W.setSlot i s₁).setWorker w x₁).worker w = x₁ := by
    rw [World.worker_setWorker _ (by simpa using hw w hc), if_pos rfl]
  obtain ⟨w', s₂, x₂, f₂, hc', -, rfl, c₂⟩ := h₂
  change (((W.setSlot i s₁).setWorker w x₁).slot i).crashFile = some w' at hc'
  rw [hs, c₁.process.2, hc, Option.some.injEq] at hc'
  subst hc'
  refine ⟨w, s₂, x₂, f₂, hc, he, World.setWorker_setSlot .., c₁.trans ?_⟩
  rwa [← hs, ← hx]

/-- The drain loop leaves the world as it is, or collects from the slot's pipe. -/
theorem drain_cases : ∀ {fuel : Nat} {W W' : World},
    (∀ w, (W.slot i).crashFile = some w → w < W.workers.length) →
    drain fuel i W = some W' → W' = W ∨ Collected i W W'
  | 0, _, _, _, h => by cases h
  | fuel + 1, W, W', hw, h => by
    obtain ⟨⟨b, W₁⟩, h₁, h⟩ := Option.bind_eq_some.mp h
    have c₁ := processOnce_cases h₁
    cases b with
    | false =>
      cases h
      rcases c₁ with ⟨h, -⟩ | ⟨w, s, x, f, hc, he, hW, c, -⟩
      exacts [.inl h, .inr ⟨w, s, x, f, hc, he, hW, c⟩]
    | true =>
      rcases c₁ with ⟨-, h, -⟩ | ⟨w, s, x, f, hc, he, hW, c, -⟩
      · cases h
      replace c₁ : Collected i W W₁ := ⟨w, s, x, f, hc, he, hW, c⟩
      have hw₁ : ∀ w, (W₁.slot i).crashFile = some w → w < W₁.workers.length := by
        obtain ⟨w, s, x, f, hc, -, rfl, c⟩ := c₁
        have hi : i < W.slots.length := W.lt_of_slot_ne fun h => by simp [h] at hc
        intro v hv
        change (((W.setSlot i s).setWorker w x).slot i).crashFile = some v at hv
        simpa [hi, c.process.2] using hw v (by simpa [hi, c.process.2] using hv)
      rcases drain_cases hw₁ h with rfl | c₂
      · exact .inr c₁
      · exact .inr (Collected.trans hw c₁ c₂)

/-! ## `process_shutdown` -/

/-- `decideRestart` leaves the world, or moves the slot's start to the progress it holds. -/
theorem decideRestart_cases {code : UInt32} {b : Bool} (h : decideRestart i code W = (b, W')) :
    b = false ∧ W' = W ∨
      code ≠ 0 ∧ 0 ≤ (W.slot i).graphicsProgress ∧ 0 ≤ (W.slot i).computeProgress ∧
      W' = W.setSlot i { W.slot i with
        startGraphicsIndex := UInt32.ofNat (W.slot i).graphicsProgress.toNat
        startComputeIndex := UInt32.ofNat (W.slot i).computeProgress.toNat } ∧
      (b = true → UInt32.ofNat (W.slot i).graphicsProgress.toNat < (W.slot i).endGraphicsIndex ∨
        UInt32.ofNat (W.slot i).computeProgress.toNat < (W.slot i).endComputeIndex) := by
  unfold decideRestart at h
  dsimp only at h
  split_ifs at h with h0 hp
  · cases h; exact .inl ⟨rfl, rfl⟩
  · cases h; exact .inl ⟨rfl, rfl⟩
  · cases h
    refine .inr ⟨h0, by omega, by omega, rfl, fun hb => ?_⟩
    simp only [ge_iff_le, Bool.not_eq_true', Bool.and_eq_false_iff, decide_eq_false_iff_not] at hb
    exact hb.imp UInt32.not_le.mp UInt32.not_le.mp

/-- `process_shutdown` drains the pipe and closes the handles; then it keeps the worker,
which has exited, or reaps it and decides on a restart. -/
theorem processShutdown_cases {o : ShutdownOutcome} {b : Bool}
    (h : processShutdown i o W = some (b, W')) :
    ∃ W₁, drain (drainFuel W i) i W = some W₁ ∧
      (b = false ∧ W' = W₁.setSlot i (W₁.slot i).closeHandles ∧
        (∀ w, (W₁.slot i).process = some w → (W₁.worker w).exitCode.isSome) ∨
       ∃ w c, (W₁.slot i).process = some w ∧ (W₁.worker w).exitCode = some c ∧ o.waitSucceeds ∧
        decideRestart i (if o.exitCodeRead then c else 0)
          ((W₁.setSlot i (W₁.slot i).closeHandles).reap i w) = (b, W')) := by
  obtain ⟨W₁, hd, h⟩ := Option.bind_eq_some.mp h
  refine ⟨W₁, hd, ?_⟩
  dsimp only at h
  split at h
  · rename_i hn
    cases h
    refine .inl ⟨rfl, rfl, fun w hw => ?_⟩
    have hi : i < W₁.slots.length := W₁.lt_of_slot_ne fun h => by simp [h] at hw
    simp [World.slot_setSlot_self _ hi, Slot.closeHandles, hw] at hn
  rename_i w hw
  split at h
  · cases h
  rename_i c hc
  have hi : i < W₁.slots.length := by
    by_contra hle
    rw [World.slot_of_le _ (by simpa using hle)] at hw
    cases hw
  simp only [World.slot_setSlot_self _ hi, Slot.closeHandles, World.worker_setSlot] at hw hc
  by_cases ho : o.waitSucceeds
  · rw [if_pos ho] at h; exact .inr ⟨w, c, hw, hc, ho, Option.some.inj h⟩
  · rw [if_neg ho] at h; cases h
    exact .inl ⟨rfl, rfl, fun v hv => by rw [hw] at hv; cases hv; simp [hc]⟩

/-! ## `start_child_process` -/

variable (ord : IterationOrder)

theorem World.setSlot_setSlot (W : World) (i : Nat) (s s' : Slot) :
    (W.setSlot i s).setSlot i s' = W.setSlot i s' := by
  simp [World.setSlot, List.set_set]

theorem World.setWorker_worker (W : World) (w : Nat) : W.setWorker w (W.worker w) = W := by
  by_cases hw : w < W.workers.length
  · have : W.workers.set w (W.worker w) = W.workers :=
      List.ext_getElem (by simp) fun j _ _ => by
        by_cases hj : w = j
        · subst hj; simp [World.worker, hw]
        · simp [List.getElem_set, hj]
    simp [World.setWorker, this]
  · simp [World.setWorker, List.set_eq_of_length_le (Nat.le_of_not_lt hw)]

theorem World.setSlot_setWorker_worker (W : World) (i w : Nat) (s : Slot) :
    (W.setSlot i s).setWorker w (W.worker w) = W.setSlot i s :=
  (W.setSlot i s).setWorker_worker w

/-- `start_child_process` resets the progress; then it stops there, with nothing to replay or
failing before `CreateProcessA`, or it starts a worker and the blacklist send. -/
theorem startChildProcess_cases {o : SpawnOutcome} {b : Bool}
    (h : startChildProcess ord i o W = (b, W')) :
    W' = W.setSlot i { W.slot i with graphicsProgress := -1, computeProgress := -1 } ∧
      (b = true → (W.slot i).endGraphicsIndex ≤ (W.slot i).startGraphicsIndex ∧
        (W.slot i).endComputeIndex ≤ (W.slot i).startComputeIndex) ∧
      (b = false → o = .failsBeforeProcess) ∨
    (o ≠ .failsBeforeProcess ∧ b = true ∧
      W' = startedWorld ord i { W.slot i with graphicsProgress := -1, computeProgress := -1 } W) := by
  unfold startChildProcess at h
  dsimp only at h
  split_ifs at h with hr
  · cases h; exact .inl ⟨rfl, fun _ => hr, fun h => by cases h⟩
  cases o with
  | failsBeforeProcess => cases h; exact .inl ⟨rfl, by simp, fun _ => rfl⟩
  | _ => cases h; exact .inr ⟨by simp, rfl, rfl⟩

/-- A blacklist line is read by a worker still in its loop, or lost on a worker that has
exited. -/
theorem sendLine_cases {w : Nat} {line : List Char} (h : sendLine w line W = some W') :
    (W.worker w).exitCode.isSome ∧ W' = W ∨
      (W.worker w).exitCode = none ∧ (W.worker w).reading = true ∧
        W' = W.setWorker w { W.worker w with reading := (strtoull16 line).1 != 0 } := by
  unfold sendLine at h
  split_ifs at h with hx hr <;> cases h
  · exact .inl ⟨hx, rfl⟩
  · exact .inr ⟨by simpa using hx, hr, rfl⟩

theorem sendLine_eq_none {w : Nat} {line : List Char} :
    sendLine w line W = none ↔ (W.worker w).exitCode = none ∧ (W.worker w).reading = false := by
  cases hx : (W.worker w).exitCode <;> cases hr : (W.worker w).reading <;> simp [sendLine, hx, hr]

/-- The end of `start_child_process`: the worker's blacklist loop ends, and the first read is
issued on its pipe unless `CreateEvent` failed. -/
theorem finishSpawn_cases {w : Nat} {o : SpawnOutcome} {b : Bool} (hw : w < W.workers.length)
    (h : finishSpawn i w o W = (b, W')) :
    o = .eventFails ∧ b = false ∧ W' = W.setWorker w { W.worker w with reading := false } ∨
      ∃ r x, o ≠ .eventFails ∧ kick { W.worker w with reading := false } = (r, x) ∧
        b = (r != .failed) ∧
        W' = (W.setSlot i { W.slot i with pipeEvent := some r.isCompleted, read := r }).setWorker w x := by
  have hx : (W.setWorker w { W.worker w with reading := false }).worker w =
      { W.worker w with reading := false } := by rw [World.worker_setWorker _ hw, if_pos rfl]
  unfold finishSpawn at h
  dsimp only at h
  rw [hx] at h
  split at h
  · cases h; exact .inl ⟨rfl, rfl, rfl⟩
  · rename_i hne
    generalize hk : kick { W.worker w with reading := false } = p at h
    obtain ⟨r, x⟩ := p
    cases h
    exact .inr ⟨r, x, hne, rfl, rfl, by simp only [World.setSlot, World.setWorker, List.set_set]; rfl⟩

/-- `finishSpawn` changes the new worker and slot `i`'s pipe, none of the supervisor's own state. -/
theorem finishSpawn_frame {w : Nat} {o : SpawnOutcome} {b : Bool} (hw : w < W.workers.length)
    (h : finishSpawn i w o W = (b, W')) :
    W'.phase = W.phase ∧ W'.pending = W.pending ∧ W'.activeProcesses = W.activeProcesses := by
  rcases finishSpawn_cases hw h with ⟨-, -, rfl⟩ | ⟨r, x, -, -, -, rfl⟩ <;> exact ⟨rfl, rfl, rfl⟩

/-- A restart asked for is `start_child_process`, and `log_and_die` if that fails. -/
theorem restart_cases (i : Nat) (o : SpawnOutcome) (b : Bool) (W : World) :
    restart ord i o (b, W) = W ∨ ∃ b' W₂, b = true ∧ startChildProcess ord i o W = (b', W₂) ∧
      (restart ord i o (b, W)).slots = W₂.slots ∧ (restart ord i o (b, W)).workers = W₂.workers := by
  cases b with
  | false => exact .inl rfl
  | true =>
    have key : ∀ b' W₂, startChildProcess ord i o W = (b', W₂) →
        (restart ord i o (true, W)).slots = W₂.slots ∧ (restart ord i o (true, W)).workers = W₂.workers := by
      rintro (_ | _) W₂ hs <;> simp [restart, hs, World.exit]
    exact .inr ⟨_, _, rfl, rfl, key _ _ rfl⟩

/-! ## A step of the supervisor -/

theorem terminate_eq {w : Nat} (h : W.terminate w = some W') :
    (W.worker w).exitCode = none ∧ W' = W.setWorker w { W.worker w with exitCode := some 3 } := by
  unfold World.terminate at h
  split_ifs at h with he
  cases h
  exact ⟨by simpa using he, rfl⟩

/-- A step of the supervisor: a turn of the spawning loop or its end, the end of the wait
loop, a failure that ends it, a message collected, the wait returning a timer, a worker shut
down (after `TerminateProcess`, for a timer) and maybe started again, or a line of the
blacklist sent, or the end of its sending. -/
theorem masterStep_cases {o : MasterOutcome} (h : masterStep ord o W = some W') :
    (∃ n b W₁, W.phase = .spawning n ∧ W.pending = .idle ∧ n < W.slots.length ∧
      startChildProcess ord n o.spawn (W.setSlot n (W.assignRange n)) = (b, W₁) ∧
      W' = if b then { W₁ with phase := .spawning (n + 1) } else W₁.exit false) ∨
    (∃ n, W.phase = .spawning n ∧ W.pending = .idle ∧ W.slots.length ≤ n ∧ W' = { W with phase := .waiting }) ∨
    (W.phase = .waiting ∧ W.pending = .idle ∧ W.activeProcesses = 0 ∧ W' = W.exit true) ∨
    (W.phase = .waiting ∧ W.pending = .idle ∧ W.activeProcesses ≠ 0 ∧
      (waitList W.slots = [] ∨ World.maximumWaitObjects < (waitList W.slots).length) ∧
      W' = W.exit false) ∨
    (W.phase = .waiting ∧ W.pending = .idle ∧ ∃ i b, processOnce i W = some (b, W')) ∨
    (W.phase = .waiting ∧ W.pending = .idle ∧ ∃ i, (waitList W.slots).find? W.signalled =
      some (i, .timer) ∧ W' = { W with pending := .terminate i }) ∨
    (∃ i, W.pending = .terminate i ∧ (W.slot i).process.bind { W with pending := .idle }.terminate = none ∧
      W' = { W with pending := .idle }.exit false) ∨
    (∃ i W₁ r, (W.phase = .waiting ∧ W.pending = .idle ∧ W₁ = W ∨
        ∃ w, W.pending = .terminate i ∧ (W.slot i).process = some w ∧
          { W with pending := .idle }.terminate w = some W₁) ∧
      processShutdown i o.shutdown W₁ = some r ∧ W' = restart ord i o.spawn r) ∨
    (∃ i w line lines W₁, W.pending = .send i w (line :: lines) ∧ sendLine w line W = some W₁ ∧
      W' = { W₁ with pending := .send i w lines }) ∨
    (∃ i w b W₁, W.pending = .send i w [] ∧ finishSpawn i w o.spawn { W with pending := .idle } = (b, W₁) ∧
      W' = if b then W₁ else W₁.exit false) := by
  unfold masterStep at h
  split at h
  · cases h
  · rename_i i w line lines hp _
    obtain ⟨W₁, h₁, rfl⟩ := Option.map_eq_some'.mp h
    exact .inr <| .inr <| .inr <| .inr <| .inr <| .inr <| .inr <| .inr <| .inl ⟨i, w, line, lines, W₁, hp, h₁, rfl⟩
  · rename_i i w hp _
    rcases hf : finishSpawn i w o.spawn { W with pending := .idle } with ⟨b, W₁⟩
    rw [hf] at h
    refine .inr <| .inr <| .inr <| .inr <| .inr <| .inr <| .inr <| .inr <| .inr ⟨i, w, b, W₁, hp, hf, ?_⟩
    cases b <;> (cases h; rfl)
  · rename_i i hp _
    dsimp only at h
    split at h
    · rename_i hnt
      cases h; exact .inr <| .inr <| .inr <| .inr <| .inr <| .inr <| .inl ⟨i, hp, hnt, rfl⟩
    · rename_i W₁ ht
      obtain ⟨w, hw, ht⟩ := Option.bind_eq_some.mp ht
      obtain ⟨r, hr, rfl⟩ := Option.map_eq_some'.mp h
      exact .inr <| .inr <| .inr <| .inr <| .inr <| .inr <| .inr <| .inl ⟨i, W₁, r, .inr ⟨w, hp, hw, ht⟩, hr, rfl⟩
  · rename_i n hph hp
    split_ifs at h with hn
    · rcases hs : startChildProcess ord n o.spawn (W.setSlot n (W.assignRange n)) with ⟨b, W₁⟩
      rw [hs] at h
      refine .inl ⟨n, b, W₁, hph, hp, hn, hs, ?_⟩
      cases b <;> (cases h; rfl)
    · cases h; exact .inr (.inl ⟨n, hph, hp, Nat.le_of_not_lt hn, rfl⟩)
  · rename_i hph hp
    split_ifs at h with ha hw
    · cases h; exact .inr (.inr (.inl ⟨hph, hp, ha, rfl⟩))
    · cases h; exact .inr (.inr (.inr (.inl ⟨hph, hp, ha, hw, rfl⟩)))
    split at h
    · cases h
    · rename_i i _
      obtain ⟨r, hr, rfl⟩ := Option.map_eq_some'.mp h
      exact .inr <| .inr <| .inr <| .inr <| .inr <| .inr <| .inr <| .inl ⟨i, W, r, .inl ⟨hph, hp, rfl⟩, hr, rfl⟩
    · rename_i i _
      obtain ⟨⟨b, W₁⟩, hr, rfl⟩ := Option.map_eq_some'.mp h
      exact .inr (.inr (.inr (.inr (.inl ⟨hph, hp, i, b, hr⟩))))
    · rename_i i hf
      cases h
      exact .inr (.inr (.inr (.inr (.inr (.inl ⟨hph, hp, i, hf, rfl⟩)))))

/-- The supervisor takes no step once it has ended. -/
theorem masterStep_not_exited {o : MasterOutcome} (h : masterStep ord o W = some W') (b : Bool) :
    W.phase ≠ .exited b := by
  intro hx
  simp [masterStep, hx] at h

/-- What a step can do: the supervisor's own, a running worker writing a message or exiting,
a pending read finishing with what the pipe gives it, or an armed timer firing. -/
theorem step_cases {e : Event} (h : step ord e W = some W') :
    (∃ o, masterStep ord o W = some W') ∨
    (∃ w m, w < W.workers.length ∧ (W.worker w).exitCode = none ∧ (W.worker w).pipe = [] ∧
      (W.worker w).reading = false ∧ W' = W.setWorker w
      { W.worker w with pipe := (W.worker w).pipe ++ [m], wrote := (W.worker w).wrote ++ [m] }) ∨
    (∃ w c, w < W.workers.length ∧ (W.worker w).exitCode = none ∧ (W.worker w).pipe = [] ∧
      W' = W.setWorker w { W.worker w with exitCode := some c }) ∨
    (∃ i w e r x, (W.slot i).crashFile = some w ∧ (W.slot i).read = .pending ∧
      (W.slot i).pipeEvent = some e ∧ (W.worker w).answer = some (r, x) ∧
      W' = (W.setSlot i { W.slot i with read := r, pipeEvent := some true }).setWorker w x) ∨
    (∃ i, (W.slot i).timer = some false ∧ W' = W.setSlot i { W.slot i with timer := some true }) := by
  cases e with
  | master o => exact .inl ⟨o, h⟩
  | write w m =>
    simp only [step] at h
    split_ifs at h with hw
    cases h
    exact .inr (.inl ⟨w, m, hw.1, hw.2.1, hw.2.2.1, hw.2.2.2, rfl⟩)
  | exit w c =>
    simp only [step] at h
    split_ifs at h with hw
    cases h
    exact .inr (.inr (.inl ⟨w, c, hw.1, hw.2.1, hw.2.2, rfl⟩))
  | complete i =>
    simp only [step] at h
    split at h
    · rename_i w e hc hr he
      obtain ⟨⟨r, x⟩, ha, rfl⟩ := Option.map_eq_some'.mp h
      exact .inr (.inr (.inr (.inl ⟨i, w, e, r, x, hc, hr, he, ha, rfl⟩)))
    · cases h
  | fire i =>
    simp only [step] at h
    split_ifs at h with ht
    cases h
    exact .inr (.inr (.inr (.inr ⟨i, ht, rfl⟩)))

end World

end Fossilize.Supervisor
