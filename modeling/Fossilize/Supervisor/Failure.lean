import Fossilize.Supervisor.Progress

/-! # When `run_master_process` returns `EXIT_FAILURE`

A failed spawn, a broken first read, more than `MAXIMUM_WAIT_OBJECTS` handles, or a worker
that exits between the wait returning its timer and `TerminateProcess`.
-/

namespace Fossilize.Supervisor

section Failure

variable (ord : IterationOrder) {W W' : World}

/-- `start_child_process` returns `true` when none of its calls fails. -/
theorem startChildProcess_ok {i : Nat} {b : Bool} (h : startChildProcess ord i .ok W = (b, W')) :
    b = true := by
  rcases startChildProcess_cases ord h with ⟨-, -, hb⟩ | ⟨-, hb, -⟩
  · cases b
    · cases hb rfl
    · rfl
  · exact hb

/-- A restart whose calls all succeed leaves the phase as it was. -/
theorem restart_ok_phase (i : Nat) (b : Bool) (W : World) :
    (restart ord i .ok (b, W)).phase = W.phase := by
  cases b with
  | false => rfl
  | true =>
    rcases hs : startChildProcess ord i .ok W with ⟨b', W₂⟩
    obtain rfl := startChildProcess_ok ord hs
    have hph : W₂.phase = W.phase := by
      rcases startChildProcess_cases ord hs with ⟨rfl, -⟩ | ⟨-, -, rfl⟩ <;> rfl
    simp [restart, hs, hph]

/-- In every world a run reaches, a step of `run_master_process` that ends it with
`EXIT_FAILURE` is one in which a call of `start_child_process` fails; in which the pipe of the
worker it started is broken when its first read is issued, the worker having exited; in which
the wait list holds more than `MAXIMUM_WAIT_OBJECTS` handles; or in which `TerminateProcess`
is called for a worker that has exited since the wait returned its timer. -/
theorem fails_on_spawn_wait_or_terminate {o : MasterOutcome} (hR : Reach ord W)
    (hs : masterStep ord o W = some W') (hf : W'.phase = .exited false) :
    o.spawn ≠ .ok ∨
      (∃ i w, W.pending = .send i w [] ∧ (W.worker w).pipe = [] ∧ (W.worker w).exitCode.isSome) ∨
      World.maximumWaitObjects < (waitList W.slots).length ∨
      ∃ i w, W.pending = .terminate i ∧ (W.slot i).process = some w ∧ (W.worker w).exitCode.isSome := by
  obtain ⟨ho, -, hq⟩ := bookkeeping_reach ord hR
  have hx := masterStep_not_exited ord hs false
  rcases masterStep_cases ord hs with ⟨n, b, W₁, -, -, -, hsp, rfl⟩ | ⟨n, -, -, -, rfl⟩ | ⟨-, -, -, rfl⟩ |
    ⟨-, -, ha, hw, -⟩ | ⟨hph, -, i, b, hpo⟩ | ⟨hph, -, i, -, rfl⟩ | ⟨i, hq₀, hnt, -⟩ |
    ⟨i, W₁, ⟨b, W₂⟩, ht, hsh, rfl⟩ | ⟨i, w, line, lines, W₁, -, hsl, rfl⟩ | ⟨i, w, b, W₁, hq₀, hfin, rfl⟩
  · -- a turn of the spawning loop
    refine .inl fun hok => ?_
    rw [hok] at hsp
    rw [startChildProcess_ok ord hsp] at hf
    cases hf
  · cases hf
  · cases hf
  · -- the wait list: never empty while a worker is active
    obtain ⟨i, -, -, hmem⟩ := active_process_waited ho ha
    rcases hw with hw | hw
    · rw [hw] at hmem; cases hmem
    · exact .inr (.inr (.inl hw))
  · -- a message
    have hph' : W'.phase = W.phase := by
      rcases processOnce_cases hpo with ⟨hW, -⟩ | ⟨w, s, x, f, -, -, hW, -⟩ <;> rw [hW]; rfl
    rw [hph', hph] at hf
    cases hf
  · cases hph.symm.trans hf
  · -- `TerminateProcess` on a worker that has exited
    -- the slot holds a worker, since it holds a timer
    obtain ⟨w, hw⟩ := Option.ne_none_iff_exists'.mp fun hps =>
      Option.noConfusion ((hq.terminate i hq₀).2.symm.trans ((ho.slotOk i).idle hps).2)
    rw [hw, Option.some_bind] at hnt
    refine .inr (.inr (.inr ⟨i, w, hq₀, hw, ?_⟩))
    unfold World.terminate at hnt
    split_ifs at hnt with hex
    exact hex
  · -- a worker shut down, and started again
    refine .inl fun hok => ?_
    have h₁ : Owners W₁ ∧ W₁.phase = .waiting := by
      rcases ht with ⟨hph, -, rfl⟩ | ⟨w, hq₀, -, ht⟩
      · exact ⟨ho, hph⟩
      · obtain ⟨-, rfl⟩ := terminate_eq ht
        exact ⟨(ho.withPending _).setWorker rfl, (hq.terminate i hq₀).1⟩
    rw [hok, restart_ok_phase, (processShutdown_phase h₁.1 hsh).1, h₁.2] at hf
    cases hf
  · -- a line of the blacklist
    rcases sendLine_cases hsl with ⟨-, rfl⟩ | ⟨-, -, rfl⟩ <;> exact absurd hf hx
  · -- the end of a spawn: `CreateEvent`, or the first read
    have hw : w < ({ W with pending := .idle } : World).workers.length := hq.worker_lt ho hq₀
    cases b
    · rcases finishSpawn_cases hw hfin with ⟨he, -, -⟩ | ⟨r, x, -, hk, hb, -⟩
      · exact .inl (by rw [he]; decide)
      · have hr : r = .failed := by cases r <;> first | rfl | simp at hb
        obtain ⟨-, hp, hex⟩ := kick_failed (show (kick _).1 = .failed by rw [hk, hr])
        exact .inr (.inl ⟨i, w, hq₀, hp, hex⟩)
    · rw [if_pos rfl, (finishSpawn_frame hw hfin).1] at hf
      exact absurd hf hx

/-- One slot whose worker reports a crash and stalls: its timer fires, the wait returns it,
and the worker exits before `TerminateProcess` is called. -/
def raceRun : List Event :=
  [.master {}, .master {}, .master {}, .write 0 "CRASH\n".toList, .complete 0, .master {}, .fire 0,
    .master {}, .exit 0 2]

def racedWorld : World :=
  (run IterationOrder.insertion raceRun (World.initial 1 1 1)).getD (World.initial 1 1 1)

theorem reach_racedWorld : Reach IterationOrder.insertion racedWorld :=
  @reach_run _ raceRun _ _ (.initial 1 1 1) (by rfl)

/-- `TerminateProcess` fails on the worker of `racedWorld`, and the supervisor ends with
`EXIT_FAILURE`, though every call of `start_child_process` succeeds. -/
theorem terminate_race_fails :
    Reach IterationOrder.insertion racedWorld ∧ ({} : MasterOutcome).spawn = .ok ∧
      racedWorld.pending = .terminate 0 ∧ (racedWorld.worker 0).exitCode = some 2 ∧
      masterStep IterationOrder.insertion {} racedWorld = some ({ racedWorld with pending := .idle }.exit false) ∧
      ({ racedWorld with pending := .idle }.exit false).phase = .exited false ∧
      (({} : MasterOutcome).spawn ≠ .ok ∨
        (∃ i w, racedWorld.pending = .send i w [] ∧ (racedWorld.worker w).pipe = [] ∧
          (racedWorld.worker w).exitCode.isSome) ∨
        World.maximumWaitObjects < (waitList racedWorld.slots).length ∨
        ∃ i w, racedWorld.pending = .terminate i ∧ (racedWorld.slot i).process = some w ∧
          (racedWorld.worker w).exitCode.isSome) :=
  have hs : masterStep IterationOrder.insertion {} racedWorld =
      some ({ racedWorld with pending := .idle }.exit false) := by rfl
  ⟨reach_racedWorld, rfl, by rfl, by rfl, hs, rfl,
    fails_on_spawn_wait_or_terminate _ reach_racedWorld hs rfl⟩

end Failure

end Fossilize.Supervisor
