import Fossilize.Supervisor.Master
import Mathlib.Data.Nat.ModEq

/-! # How `run_master_process` shares the pipelines out

Slot `i` of `P` gets `[i * N / P, (i + 1) * N / P)` in 32-bit arithmetic: a partition of
`[0, N)` exactly when `P * N` fits in 32 bits.
-/

namespace Fossilize.Supervisor

theorem uint32_toNat_ofNat (n : Nat) : (UInt32.ofNat n).toNat = n % 2 ^ 32 := by
  simp [UInt32.toNat, UInt32.ofNat, Fin.ofNat]

theorem uint32_toNat_mul (a b : UInt32) : (a * b).toNat = a.toNat * b.toNat % 2 ^ 32 := by
  simp [UInt32.toNat, UInt32.mul_def, BitVec.toNat_mul]

theorem uint32_toNat_add (a b : UInt32) : (a + b).toNat = (a.toNat + b.toNat) % 2 ^ 32 := by
  simp [UInt32.toNat, UInt32.add_def, BitVec.toNat_add]

theorem uint32_ofNat_succ (i : Nat) : UInt32.ofNat (i + 1) = UInt32.ofNat i + 1 := by
  apply UInt32.toNat.inj
  rw [uint32_toNat_add, uint32_toNat_ofNat, uint32_toNat_ofNat]
  simp [Nat.add_mod]

/-- `(i * unsigned(N)) / processes`, the bound the loop computes for slot `i`. -/
def shareBound (n p i : Nat) : UInt32 := UInt32.ofNat i * UInt32.ofNat n / UInt32.ofNat p

theorem assignRange_graphics (W : World) (i : Nat) :
    (W.assignRange i).startGraphicsIndex = shareBound W.numGraphicsPipelines W.slots.length i ∧
    (W.assignRange i).endGraphicsIndex = shareBound W.numGraphicsPipelines W.slots.length (i + 1) :=
  ⟨rfl, by rw [shareBound, uint32_ofNat_succ]; rfl⟩

theorem assignRange_compute (W : World) (i : Nat) :
    (W.assignRange i).startComputeIndex = shareBound W.numComputePipelines W.slots.length i ∧
    (W.assignRange i).endComputeIndex = shareBound W.numComputePipelines W.slots.length (i + 1) :=
  ⟨rfl, by rw [shareBound, uint32_ofNat_succ]; rfl⟩

/-! ## The bounds as numbers -/

theorem shareBound_zero (n p : Nat) : (shareBound n p 0).toNat = 0 := by
  simp [shareBound, uint32_toNat_mul, uint32_toNat_ofNat]

/-- Without wraparound the bound is `i * n / p`. -/
theorem shareBound_toNat {n p i : Nat} (hp0 : 0 < p) (hp : p < 2 ^ 32) (hi : i ≤ p)
    (hn : p * n < 2 ^ 32) : (shareBound n p i).toNat = i * n / p := by
  have hin : i * n ≤ p * n := Nat.mul_le_mul_right n hi
  have hn' : n < 2 ^ 32 := lt_of_le_of_lt (Nat.le_mul_of_pos_left n hp0) hn
  simp only [shareBound, UInt32.toNat_div, uint32_toNat_mul, uint32_toNat_ofNat,
    Nat.mod_eq_of_lt hp, Nat.mod_eq_of_lt hn', Nat.mod_eq_of_lt (show i < 2 ^ 32 by omega),
    Nat.mod_eq_of_lt (lt_of_le_of_lt hin hn)]

/-- Once `p * n` wraps, the last bound falls short of `n`. -/
theorem shareBound_self_lt {n p : Nat} (hp0 : 0 < p) (hp : p < 2 ^ 32) (hn : 2 ^ 32 ≤ p * n) :
    (shareBound n p p).toNat < n := by
  simp only [shareBound, UInt32.toNat_div, uint32_toNat_mul, uint32_toNat_ofNat,
    Nat.mod_eq_of_lt hp]
  have hwrap : p * (n % 2 ^ 32) % 2 ^ 32 < n * p := by
    have := Nat.mod_lt (p * (n % 2 ^ 32)) (show 0 < 2 ^ 32 by decide)
    rw [Nat.mul_comm n p]; omega
  exact (Nat.div_lt_iff_lt_mul hp0).mpr hwrap

/-- Consecutive bounds `i * n / p` and `(i + 1) * n / p` are `⌊n/p⌋` or `⌈n/p⌉` apart. -/
theorem share_step (n p i : Nat) (hp : 0 < p) :
    i * n / p ≤ (i + 1) * n / p ∧
      ((i + 1) * n / p - i * n / p = n / p ∨ (i + 1) * n / p - i * n / p = (n + p - 1) / p) := by
  have hstep : (i + 1) * n / p = i * n / p + n / p + if p ≤ i * n % p + n % p then 1 else 0 := by
    rw [Nat.succ_mul]; exact Nat.add_div hp
  have hceil : (n + p - 1) / p = n / p + if p ≤ n % p + (p - 1) then 1 else 0 := by
    rw [Nat.add_sub_assoc hp, Nat.add_div hp, Nat.div_eq_of_lt (show p - 1 < p by omega),
      Nat.mod_eq_of_lt (show p - 1 < p by omega), Nat.add_zero]
  have := Nat.mod_lt (i * n) hp
  generalize (i + 1) * n / p = A at hstep ⊢
  generalize i * n / p = B at hstep ⊢
  generalize (n + p - 1) / p = C at hceil ⊢
  generalize n / p = q at hstep hceil ⊢
  split_ifs at hstep hceil <;> omega

/-! ## The ranges -/

/-- `start` and `stop` cut `[0, n)` into `p` ranges, in order, of `⌊n/p⌋` or `⌈n/p⌉`
elements each. -/
structure Cut (start stop : Nat → Nat) (n p : Nat) : Prop where
  first : start 0 = 0
  last : stop (p - 1) = n
  meet : ∀ i, i + 1 < p → stop i = start (i + 1)
  balanced : ∀ i < p, start i ≤ stop i ∧
    (stop i - start i = n / p ∨ stop i - start i = (n + p - 1) / p)

/-- The bounds cut `[0, n)` exactly when `p * n` fits in 32 bits. -/
theorem shareBound_cut_iff (n p : Nat) (hp0 : 0 < p) (hp : p < 2 ^ 32) :
    Cut (fun i => (shareBound n p i).toNat) (fun i => (shareBound n p (i + 1)).toNat) n p ↔
      p * n < 2 ^ 32 := by
  have hlast : p - 1 + 1 = p := Nat.sub_add_cancel hp0
  constructor
  · intro h
    refine Nat.lt_of_not_le fun hn => ?_
    have := shareBound_self_lt hp0 hp hn
    have hl := h.last
    simp only [hlast] at hl
    omega
  · intro hn
    refine ⟨shareBound_zero n p, ?_, fun _ _ => rfl, fun i hi => ?_⟩
    · simp only [hlast, shareBound_toNat hp0 hp le_rfl hn, Nat.mul_div_cancel_left n hp0]
    · rw [shareBound_toNat hp0 hp hi.le hn, shareBound_toNat hp0 hp hi hn]
      exact share_step n p i hp0

/-- For `P` slots with `0 < P < 2^32` and any counts, the ranges `run_master_process` gives the
slots meet end to start from 0, and they cut `[0, N)` into balanced pieces if and only if
`P * N < 2^32`, separately for graphics and compute pipelines. -/
theorem assign_range_cuts_iff (W : World) (hp0 : 0 < W.slots.length)
    (hp : W.slots.length < 2 ^ 32) :
    (Cut (fun i => (W.assignRange i).startGraphicsIndex.toNat)
        (fun i => (W.assignRange i).endGraphicsIndex.toNat) W.numGraphicsPipelines W.slots.length ↔
      W.slots.length * W.numGraphicsPipelines < 2 ^ 32) ∧
    (Cut (fun i => (W.assignRange i).startComputeIndex.toNat)
        (fun i => (W.assignRange i).endComputeIndex.toNat) W.numComputePipelines W.slots.length ↔
      W.slots.length * W.numComputePipelines < 2 ^ 32) := by
  simp only [assignRange_graphics, assignRange_compute]
  exact ⟨shareBound_cut_iff _ _ hp0 hp, shareBound_cut_iff _ _ hp0 hp⟩

/-- Two slots and `2^31` graphics pipelines: `2 * 2^31` wraps to 0, so the second range is
`[2^30, 0)`: the `2^30` pipelines from the middle on are never replayed. -/
theorem assign_range_wraps_two_slots :
    ((World.initial (2 ^ 31) 0 2).assignRange 0).startGraphicsIndex = 0 ∧
    ((World.initial (2 ^ 31) 0 2).assignRange 0).endGraphicsIndex = 1073741824 ∧
    ((World.initial (2 ^ 31) 0 2).assignRange 1).startGraphicsIndex = 1073741824 ∧
    ((World.initial (2 ^ 31) 0 2).assignRange 1).endGraphicsIndex = 0 ∧
    ¬ Cut (fun i => ((World.initial (2 ^ 31) 0 2).assignRange i).startGraphicsIndex.toNat)
      (fun i => ((World.initial (2 ^ 31) 0 2).assignRange i).endGraphicsIndex.toNat) (2 ^ 31) 2 :=
  ⟨by decide, by decide, by decide, by decide, fun h =>
    absurd ((assign_range_cuts_iff (World.initial (2 ^ 31) 0 2) (by decide) (by decide)).1.mp h)
      (by decide)⟩

end Fossilize.Supervisor
