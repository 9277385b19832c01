import Fossilize.Supervisor.Steps
import Fossilize.Supervisor.Partition

/-! # The crash report

The hashes of the `MODULE` lines come back whole; the indices come back through `strtol`
with a 32-bit `long`, which clamps them at `2^31 - 1`.
-/

namespace Fossilize.Supervisor

/-- The line `sprintf(buffer, "MODULE %llx\n", m)` writes. -/
def moduleLine (m : Hash) : List Char := "MODULE ".toList ++ hexText m ++ ['\n']

/-- The lines `crash_handler` writes for graphics index `g`, compute index `c` and failed
module hashes `M`. -/
def crashMessages (g c : UInt32) (M : List Hash) : List (List Char) :=
  "CRASH\n".toList :: M.map moduleLine ++
    ["GRAPHICS ".toList ++ decText g ++ ['\n'], "COMPUTE ".toList ++ decText c ++ ['\n']]

/-- `ProcessProgress::parse` called on each message of `ms` in order. -/
def parseAll (s : Slot) (f : HashSet) (ms : List (List Char)) : Slot × HashSet :=
  ms.foldl (fun r m => parse (cString m) r.1 r.2) (s, f)

/-- The world once the master has parsed the messages `ms` into slot `i` and the blacklist. -/
def World.afterReport (W : World) (i : Nat) (ms : List (List Char)) : World :=
  { W.setSlot i (parseAll (W.slot i) W.faulty ms).1 with faulty := (parseAll (W.slot i) W.faulty ms).2 }

/-! ## Parsing messages in order -/

theorem parseAll_collect : ∀ (ms : List (List Char)) (s : Slot) (f : HashSet),
    (parseAll s f ms).1.graphicsProgress = lastReport "GRAPHICS".toList s.graphicsProgress ms ∧
    (parseAll s f ms).1.computeProgress = lastReport "COMPUTE".toList s.computeProgress ms ∧
    (parseAll s f ms).2 = blacklistAfter f ms
  | [], _, _ => ⟨rfl, rfl, rfl⟩
  | m :: ms, s, f => by
    obtain ⟨hg, hc, hf, -⟩ := parse_collect m s f
    have e : parseAll s f (m :: ms) =
        parseAll (parse (cString m) s f).1 (parse (cString m) s f).2 ms := rfl
    rw [e, ← List.singleton_append, lastReport_append, lastReport_append, blacklistAfter_append,
      ← hg, ← hc, ← hf]
    exact parseAll_collect ms _ _

theorem lastReport_of_not_startsWith {tag : List Char} {v : Int} :
    ∀ {ms : List (List Char)}, (∀ m ∈ ms, startsWith (cString m) tag = false) →
      lastReport tag v ms = v
  | [], _ => rfl
  | m :: ms, h => by
    rw [← List.singleton_append, lastReport_append]
    simp only [lastReport, List.foldl_cons, List.foldl_nil, h m (List.mem_cons_self _ _),
      Bool.false_eq_true, if_false]
    exact lastReport_of_not_startsWith fun m' hm => h m' (List.mem_cons_of_mem _ hm)

/-- The blacklist after `ms` holds what it held and the hashes the `MODULE` messages name. -/
theorem mem_blacklistAfter_iff {h : Hash} :
    ∀ {f : HashSet} {ms : List (List Char)},
      h ∈ (blacklistAfter f ms).items ↔ h ∈ f.items ∨ ∃ m ∈ ms, moduleHash m = some h
  | _, [] => by simp [blacklistAfter]
  | f, m :: ms => by
    rw [← List.singleton_append, blacklistAfter_append, @mem_blacklistAfter_iff h (blacklistAfter f [m]) ms]
    cases hm : moduleHash m <;> simp [blacklistAfter, hm, or_and_right, exists_or, eq_comm, or_assoc, or_left_comm]

/-! ## What `parse` reads from each line -/

theorem hexChar_ne_nul {d : Nat} (h : d < 16) : hexChar d ≠ '\x00' := by
  have : ∀ d < 16, hexChar d ≠ '\x00' := by decide
  exact this d h

theorem cString_of_digits {pre : List Char} {ds : List Nat} (hpre : '\x00' ∉ pre)
    (hds : ∀ d ∈ ds, d < 16) : cString (pre ++ ds.map hexChar ++ ['\n']) = pre ++ ds.map hexChar ++ ['\n'] := by
  refine List.takeWhile_eq_self_iff.mpr fun c hc => ?_
  simp only [List.mem_append, List.mem_map, List.mem_singleton] at hc
  rcases hc with (hc | ⟨d, hd, rfl⟩) | rfl
  · exact bne_iff_ne.mpr fun h => hpre (h ▸ hc)
  · exact bne_iff_ne.mpr (hexChar_ne_nul (hds d hd))
  · rfl

theorem decText_lt (n : UInt32) : ∀ d ∈ (decDigits 10 n.toNat).reverse, d < 16 :=
  fun _ hd => by have := decDigits_lt (List.mem_reverse.mp hd); omega

theorem hexText_lt (m : Hash) : ∀ d ∈ (hexDigits 16 m.toNat).reverse, d < 16 :=
  fun _ hd => hexDigits_lt (List.mem_reverse.mp hd)

theorem cString_moduleLine (m : Hash) : cString (moduleLine m) = moduleLine m :=
  cString_of_digits (by decide) (hexText_lt m)

theorem moduleHash_moduleLine (m : Hash) : moduleHash (moduleLine m) = some m := by
  rw [moduleHash, cString_moduleLine]
  exact congrArg some (congrArg Prod.fst (strtoull16_hexLine m))

theorem cString_graphicsLine (g : UInt32) :
    cString ("GRAPHICS ".toList ++ decText g ++ ['\n']) = "GRAPHICS ".toList ++ decText g ++ ['\n'] :=
  cString_of_digits (by decide) (decText_lt g)

theorem cString_computeLine (c : UInt32) :
    cString ("COMPUTE ".toList ++ decText c ++ ['\n']) = "COMPUTE ".toList ++ decText c ++ ['\n'] :=
  cString_of_digits (by decide) (decText_lt c)

/-- `MODULE` lines leave a report of another tag as it was. -/
theorem lastReport_moduleLines {tag : List Char} (htag : ∀ m, startsWith (moduleLine m) tag = false)
    (v : Int) (M : List Hash) : lastReport tag v (M.map moduleLine) = v := by
  refine lastReport_of_not_startsWith fun _ hm => ?_
  obtain ⟨m, -, rfl⟩ := List.mem_map.mp hm
  rw [cString_moduleLine]; exact htag m

/-- The `GRAPHICS` report is read back as the index, clamped to `LONG_MAX`. -/
theorem lastReport_graphics_crashMessages (g c : UInt32) (M : List Hash) (v : Int) :
    lastReport "GRAPHICS".toList v (crashMessages g c M) = min (g.toNat : Int) (2 ^ 31 - 1) := by
  rw [crashMessages, ← List.singleton_append, lastReport_append, lastReport_append,
    @lastReport_moduleLines "GRAPHICS".toList fun _ => rfl]
  have hc : startsWith ("COMPUTE ".toList ++ decText c ++ ['\n']) "GRAPHICS".toList = false := rfl
  have hg : startsWith ("GRAPHICS ".toList ++ decText g ++ ['\n']) "GRAPHICS".toList = true := rfl
  simp only [lastReport, List.foldl_cons, List.foldl_nil, cString_graphicsLine, cString_computeLine,
    hc, hg, Bool.false_eq_true, if_true, if_false]
  exact (strtol0_space _).trans (strtol0_decText g)

theorem lastReport_compute_crashMessages (g c : UInt32) (M : List Hash) (v : Int) :
    lastReport "COMPUTE".toList v (crashMessages g c M) = min (c.toNat : Int) (2 ^ 31 - 1) := by
  rw [crashMessages, ← List.singleton_append, lastReport_append, lastReport_append,
    @lastReport_moduleLines "COMPUTE".toList fun _ => rfl]
  have hc : startsWith ("COMPUTE ".toList ++ decText c ++ ['\n']) "COMPUTE".toList = true := rfl
  simp only [lastReport, List.foldl_cons, List.foldl_nil, cString_computeLine, hc, if_true]
  exact (strtol0_space _).trans (strtol0_decText c)

/-- The blacklist gains exactly the hashes of the report. -/
theorem mem_blacklistAfter_crashMessages (g c : UInt32) (M : List Hash) (f : HashSet) (h : Hash) :
    h ∈ (blacklistAfter f (crashMessages g c M)).items ↔ h ∈ f.items ∨ h ∈ M := by
  have hg : moduleHash ("GRAPHICS ".toList ++ decText g ++ ['\n']) = none := by
    rw [moduleHash, cString_graphicsLine]; rfl
  have hc : moduleHash ("COMPUTE ".toList ++ decText c ++ ['\n']) = none := by
    rw [moduleHash, cString_computeLine]; rfl
  have hcrash : moduleHash "CRASH\n".toList = none := by decide
  rw [mem_blacklistAfter_iff, crashMessages]
  refine or_congr_right ⟨?_, fun hm => ⟨moduleLine h,
    List.mem_append_left _ (List.mem_cons_of_mem _ (List.mem_map_of_mem _ hm)), moduleHash_moduleLine h⟩⟩
  rintro ⟨m, hm, hmh⟩
  simp only [List.mem_cons, List.mem_append, List.mem_map, List.not_mem_nil, or_false] at hm
  rcases hm with (rfl | ⟨a, ha, rfl⟩) | rfl | rfl
  · rw [hcrash] at hmh; cases hmh
  · rw [moduleHash_moduleLine] at hmh; cases hmh; exact ha
  · rw [hg] at hmh; cases hmh
  · rw [hc] at hmh; cases hmh

/-! ## The restart -/

theorem decideRestart_start {W : World} {i : Nat} {code : UInt32} (hi : i < W.slots.length)
    (hcode : code ≠ 0) (hg : 0 ≤ (W.slot i).graphicsProgress) (hc : 0 ≤ (W.slot i).computeProgress) :
    ((decideRestart i code W).2.slot i).startGraphicsIndex = UInt32.ofNat (W.slot i).graphicsProgress.toNat ∧
    ((decideRestart i code W).2.slot i).startComputeIndex = UInt32.ofNat (W.slot i).computeProgress.toNat := by
  have : ¬ ((W.slot i).graphicsProgress < 0 ∨ (W.slot i).computeProgress < 0) := by omega
  simp only [decideRestart, if_neg hcode, if_neg this, World.slot_setSlot_self W hi, and_self]

/-- The start index `uint32_t(graphics_progress)` is the reported index exactly below `2^31`. -/
theorem ofNat_clamp_eq_iff (g : UInt32) :
    UInt32.ofNat (min (g.toNat : Int) (2 ^ 31 - 1)).toNat = g ↔ g.toNat < 2 ^ 31 := by
  constructor
  · intro h
    have h' := congrArg UInt32.toNat h
    rw [uint32_toNat_ofNat] at h'
    omega
  · intro h
    rw [min_eq_left (by omega), Int.toNat_ofNat]
    exact UInt32.toNat.inj (UInt32.toNat_ofNat_of_lt g.toNat_lt_size)

/-- Passing the report of a crash at graphics index `g` and compute index `c`, with failed
module hashes `M`, to `parse` line by line leaves the progress at `g` and `c` clamped to
`LONG_MAX`, and the blacklist holding what it held and `M`. When the worker exited with a
nonzero code, `process_shutdown` starts it again at `g` (or `c`) exactly when that index is
below `2^31`. -/
theorem crash_report_read_back (W : World) (i : Nat) (code g c : UInt32) (M : List Hash)
    (hi : i < W.slots.length) (hcode : code ≠ 0) :
    ((W.afterReport i (crashMessages g c M)).slot i).graphicsProgress = min (g.toNat : Int) (2 ^ 31 - 1) ∧
    ((W.afterReport i (crashMessages g c M)).slot i).computeProgress = min (c.toNat : Int) (2 ^ 31 - 1) ∧
    (∀ h, h ∈ (W.afterReport i (crashMessages g c M)).faulty.items ↔ h ∈ W.faulty.items ∨ h ∈ M) ∧
    (((decideRestart i code (W.afterReport i (crashMessages g c M))).2.slot i).startGraphicsIndex = g ↔
      g.toNat < 2 ^ 31) ∧
    (((decideRestart i code (W.afterReport i (crashMessages g c M))).2.slot i).startComputeIndex = c ↔
      c.toNat < 2 ^ 31) := by
  obtain ⟨hg, hc, hf⟩ := parseAll_collect (crashMessages g c M) (W.slot i) W.faulty
  have hslot : (W.afterReport i (crashMessages g c M)).slot i =
      (parseAll (W.slot i) W.faulty (crashMessages g c M)).1 := World.slot_setSlot_self W hi
  have hg' : ((W.afterReport i (crashMessages g c M)).slot i).graphicsProgress =
      min (g.toNat : Int) (2 ^ 31 - 1) := by rw [hslot, hg, lastReport_graphics_crashMessages]
  have hc' : ((W.afterReport i (crashMessages g c M)).slot i).computeProgress =
      min (c.toNat : Int) (2 ^ 31 - 1) := by rw [hslot, hc, lastReport_compute_crashMessages]
  obtain ⟨hsg, hsc⟩ := @decideRestart_start (W.afterReport i (crashMessages g c M)) i code
    (by simpa [World.afterReport] using hi) hcode
    (by rw [hg']; omega) (by rw [hc']; omega)
  refine ⟨hg', hc', fun h => ?_, ?_, ?_⟩
  · show h ∈ (parseAll (W.slot i) W.faulty (crashMessages g c M)).2.items ↔ _
    rw [hf, mem_blacklistAfter_crashMessages]
  · rw [hsg, hg', ofNat_clamp_eq_iff]
  · rw [hsc, hc', ofNat_clamp_eq_iff]

/-- A worker that crashes at graphics index `2^31` reports it, the master reads
`2^31 - 1`, and the worker is started again one pipeline early. -/
theorem crash_report_clamps_top_half :
    ((decideRestart 0 2 ((World.initial 1 1 1).afterReport 0 (crashMessages 2147483648 0 []))).2.slot
      0).startGraphicsIndex ≠ 2147483648 :=
  fun h => absurd ((crash_report_read_back (World.initial 1 1 1) 0 2 2147483648 0 [] (by decide)
    (by decide)).2.2.2.1.mp h) (by decide)

end Fossilize.Supervisor
