import Fossilize.Vulkan

/-! # `ScratchAllocator`, the bump allocator behind every copy

`allocate_raw`'s `& ~alignment` and `offset + size <= size` are modelled as written;
`allocateRawResult` is the outcome of its recursion, `none` where it never returns.
-/

namespace Fossilize

/-- How a call of the source ends when it does not return a value. -/
inductive Fault
  | runtimeError (what : String)
  | logicError (what : String)
  /-- `std::bad_alloc`, from a `new` that finds no memory left. -/
  | badAlloc
  /-- A `RAPIDJSON_ASSERT` that fails: a value read as a type it does not have. -/
  | assertion
  /-- A read through a null pointer or past the end of an array. -/
  | invalidRead
  /-- A write past the end of an array. -/
  | invalidWrite
  deriving DecidableEq, Repr

theorem except_bind_eq_ok {ε α β : Type} {x : Except ε α} {f : α → Except ε β} {b : β} :
    x >>= f = .ok b ↔ ∃ a, x = .ok a ∧ f a = .ok b := by
  cases x <;> simp [bind, Except.bind]

theorem except_map_eq_ok {ε α β : Type} {x : Except ε α} {f : α → β} {b : β} :
    f <$> x = .ok b ↔ ∃ a, x = .ok a ∧ f a = b := by
  cases x <;> simp [Functor.map, Except.map]

/-- `ScratchAllocator::Block`: `size` bytes, of which the first `offset` are handed out. -/
structure Block where
  offset : UInt64
  size : UInt64
  deriving DecidableEq, Repr

/-- `ScratchAllocator`, with `blocks` newest first: the head is `blocks.back()`. A block's
`blob` comes from `new`, which throws rather than return null, so it is not kept. -/
structure ScratchAllocator where
  blocks : List Block
  deriving DecidableEq, Repr

/-- `blocks[block].blob.get() + offset`, blocks counted oldest first. -/
structure Ptr where
  block : Nat
  offset : UInt64
  deriving DecidableEq, Repr

namespace ScratchAllocator

def empty : ScratchAllocator := ⟨[]⟩

/-- The block `add_block(minimum_size)` appends. -/
def newBlock (minimumSize : UInt64) : Block :=
  ⟨0, if minimumSize < 64 * 1024 then 64 * 1024 else minimumSize⟩

/-- The body of `allocate_raw` once a block exists: `block` is `blocks.back()`, `rest` the
older blocks. On a miss it adds a block and calls itself again. -/
def allocateRawIn : Nat → Block → List Block → UInt64 → UInt64 → Option (ScratchAllocator × Ptr)
  | 0, _, _, _, _ => none
  | fuel + 1, block, rest, size, alignment =>
    let offset := (block.offset + alignment - 1) &&& ~~~alignment
    let requiredSize := offset + size
    if requiredSize ≤ size then
      some (⟨{ block with offset := requiredSize } :: rest⟩, ⟨rest.length, offset⟩)
    else
      allocateRawIn fuel (newBlock (size + alignment)) (block :: rest) size alignment

/-- `ScratchAllocator::allocate_raw(size, alignment)`, allowed `fuel` calls in all. -/
def allocateRaw (fuel : Nat) (a : ScratchAllocator) (size alignment : UInt64) :
    Option (ScratchAllocator × Ptr) :=
  match a.blocks with
  | [] => allocateRawIn fuel (newBlock (size + alignment)) [] size alignment
  | block :: rest => allocateRawIn fuel block rest size alignment

/-! ## Two calls decide everything -/

/-- The first attempt in a block. -/
def fits (block : Block) (size alignment : UInt64) : Prop :=
  ((block.offset + alignment - 1) &&& ~~~alignment) + size ≤ size

instance (block : Block) (size alignment : UInt64) : Decidable (fits block size alignment) :=
  inferInstanceAs (Decidable (_ ≤ _))

theorem allocateRawIn_succ_of_fits {fuel : Nat} {block : Block} {rest : List Block}
    {size alignment : UInt64} (h : fits block size alignment) :
    allocateRawIn (fuel + 1) block rest size alignment =
      some (⟨{ block with offset := ((block.offset + alignment - 1) &&& ~~~alignment) + size }
        :: rest⟩, ⟨rest.length, (block.offset + alignment - 1) &&& ~~~alignment⟩) :=
  if_pos h

theorem allocateRawIn_succ_of_not_fits {fuel : Nat} {block : Block} {rest : List Block}
    {size alignment : UInt64} (h : ¬ fits block size alignment) :
    allocateRawIn (fuel + 1) block rest size alignment =
      allocateRawIn fuel (newBlock (size + alignment)) (block :: rest) size alignment :=
  if_neg h

/-- A request the fresh block cannot serve is never served: each retry adds the same block. -/
theorem allocateRawIn_fresh_none {size alignment : UInt64}
    (h : ¬ fits (newBlock (size + alignment)) size alignment) :
    ∀ fuel rest, allocateRawIn fuel (newBlock (size + alignment)) rest size alignment = none
  | 0, _ => rfl
  | fuel + 1, rest => by
    rw [allocateRawIn_succ_of_not_fits h]
    exact allocateRawIn_fresh_none h fuel _

theorem allocateRawIn_fuel_stable (block : Block) (rest : List Block) (size alignment : UInt64)
    (fuel : Nat) : allocateRawIn (fuel + 2) block rest size alignment =
      allocateRawIn 2 block rest size alignment := by
  by_cases h1 : fits block size alignment
  · rw [allocateRawIn_succ_of_fits h1, allocateRawIn_succ_of_fits h1]
  rw [allocateRawIn_succ_of_not_fits h1, allocateRawIn_succ_of_not_fits h1]
  by_cases h2 : fits (newBlock (size + alignment)) size alignment
  · rw [allocateRawIn_succ_of_fits h2, allocateRawIn_succ_of_fits h2]
  · rw [allocateRawIn_fresh_none h2, allocateRawIn_fresh_none h2]

/-- What `allocate_raw` returns, or `none` if it never returns. -/
def allocateRawResult (a : ScratchAllocator) (size alignment : UInt64) :
    Option (ScratchAllocator × Ptr) :=
  allocateRaw 2 a size alignment

theorem allocateRaw_eq_result (a : ScratchAllocator) (size alignment : UInt64) (fuel : Nat)
    (h : 2 ≤ fuel) : allocateRaw fuel a size alignment = allocateRawResult a size alignment := by
  obtain ⟨fuel, rfl⟩ := Nat.exists_eq_add_of_le' h
  unfold allocateRawResult allocateRaw
  split <;> exact allocateRawIn_fuel_stable ..

/-- The fuel bound only cuts calls that never return. -/
theorem allocateRaw_le_result (a : ScratchAllocator) (size alignment : UInt64) (fuel : Nat)
    (r : ScratchAllocator × Ptr) (h : allocateRaw fuel a size alignment = some r) :
    allocateRawResult a size alignment = some r := by
  rcases fuel with _ | _ | fuel
  · cases a with | mk bs => cases bs <;> simp [allocateRaw, allocateRawIn] at h
  · have h1 : allocateRaw 2 a size alignment = some r := by
      cases a with | mk bs => cases bs <;>
        simp only [allocateRaw, allocateRawIn] at h ⊢ <;> split at h <;> simp_all
    exact h1
  · rwa [allocateRaw_eq_result _ _ _ _ (by omega)] at h

/-- Two one-byte requests from an empty allocator get the same address: `& ~alignment`
rounds `1` down to `0`, and `required_size <= size` compares `0 + 1` with the request
instead of the block, so the second region `[0, 1)` is the first one again. -/
theorem allocate_raw_returns_same_region_twice :
    allocateRawResult empty 1 1 = some (⟨[⟨1, 65536⟩]⟩, ⟨0, 0⟩) ∧
    allocateRawResult ⟨[⟨1, 65536⟩]⟩ 1 1 = some (⟨[⟨1, 65536⟩]⟩, ⟨0, 0⟩) := by
  decide

/-! ## Requests from a fresh block -/

theorem uint64_le_iff_toNat_le {a b : UInt64} : a ≤ b ↔ a.toNat ≤ b.toNat := by
  simp [UInt64.le_def, BitVec.le_def, UInt64.toNat]

theorem uint64_toNat_add (a b : UInt64) : (a + b).toNat = (a.toNat + b.toNat) % 2 ^ 64 := by
  simp [UInt64.toNat, UInt64.add_def, BitVec.toNat_add]

/-- Without wraparound, `offset + size <= size` holds only at offset 0. -/
theorem not_fits_of_offset {block : Block} {size alignment : UInt64}
    (hoff : (block.offset + alignment - 1) &&& ~~~alignment ≠ 0)
    (hwrap : ((block.offset + alignment - 1) &&& ~~~alignment).toNat + size.toNat < 2 ^ 64) :
    ¬ fits block size alignment := by
  have hne : ((block.offset + alignment - 1) &&& ~~~alignment).toNat ≠ 0 :=
    fun h => hoff (UInt64.toNat.inj (by simpa using h))
  unfold fits
  rw [uint64_le_iff_toNat_le, uint64_toNat_add, Nat.mod_eq_of_lt hwrap]
  omega

/-- With an alignment of 2, 4 or 8, a fresh block yields offset `alignment - 1`, so
`allocate_raw` keeps adding blocks and never returns. -/
theorem allocateRawResult_empty_none {size alignment : UInt64}
    (ha : alignment = 2 ∨ alignment = 4 ∨ alignment = 8)
    (hs : size.toNat + alignment.toNat ≤ 2 ^ 64) :
    allocateRawResult empty size alignment = none := by
  have hoff : (0 + alignment - 1) &&& ~~~alignment = alignment - 1 := by
    rcases ha with rfl | rfl | rfl <;> decide
  have hlt : (alignment - 1).toNat + 1 = alignment.toNat := by
    rcases ha with rfl | rfl | rfl <;> decide
  have hnf : ¬ fits (newBlock (size + alignment)) size alignment := by
    apply not_fits_of_offset <;> simp only [newBlock, hoff]
    · rcases ha with rfl | rfl | rfl <;> decide
    · omega
  exact allocateRawIn_fresh_none hnf 2 []

/-! ## Power-of-two alignments -/

theorem allocateRawIn_one_isSome (block : Block) (rest : List Block) (size alignment : UInt64) :
    (allocateRawIn 1 block rest size alignment).isSome ↔ fits block size alignment := by
  by_cases h : fits block size alignment
  · rw [allocateRawIn_succ_of_fits h]; exact iff_of_true rfl h
  · rw [allocateRawIn_succ_of_not_fits h]; exact iff_of_false Bool.false_ne_true h

/-- A call returns when the back block serves it or, after one `add_block`, the fresh one. -/
theorem allocateRawIn_two_isSome (block : Block) (rest : List Block) (size alignment : UInt64) :
    (allocateRawIn 2 block rest size alignment).isSome ↔
      fits block size alignment ∨ fits (newBlock (size + alignment)) size alignment := by
  by_cases h : fits block size alignment
  · rw [allocateRawIn_succ_of_fits h]; exact iff_of_true rfl (Or.inl h)
  · rw [allocateRawIn_succ_of_not_fits h, allocateRawIn_one_isSome]; exact (or_iff_right h).symm

/-- `& ~alignment` clears bit `k` of `alignment - 1`, which is already clear. -/
theorem fresh_offset_of_pow_two {alignment : UInt64} {k : Nat} (ha : alignment.toNat = 2 ^ k) :
    (0 + alignment - 1) &&& ~~~alignment = alignment - 1 := by
  have hk : k < 64 := (Nat.pow_lt_pow_iff_right (by decide)).mp (ha ▸ alignment.toNat_lt_size)
  have hofNat : alignment = UInt64.ofNat (2 ^ k) :=
    UInt64.toNat.inj (by rw [ha, UInt64.toNat_ofNat_of_lt (ha ▸ alignment.toNat_lt_size)])
  have key : ∀ k < 64, (0 + UInt64.ofNat (2 ^ k) - 1) &&& ~~~(UInt64.ofNat (2 ^ k)) =
      UInt64.ofNat (2 ^ k) - 1 := by decide
  rw [hofNat]
  exact key k hk

/-- A fresh block serves a request with a power-of-two alignment only when the alignment
is 1: otherwise the first attempt lands at `alignment - 1`, not at 0. -/
theorem fits_newBlock_iff {size alignment : UInt64} {k : Nat} (ha : alignment.toNat = 2 ^ k)
    (hs : size.toNat + alignment.toNat < 2 ^ 64) :
    fits (newBlock (size + alignment)) size alignment ↔ alignment = 1 := by
  have hpos : 1 ≤ alignment.toNat := ha ▸ Nat.one_le_two_pow
  have hsub : (alignment - 1).toNat = alignment.toNat - 1 :=
    UInt64.toNat_sub_of_le _ _ (uint64_le_iff_toNat_le.mpr hpos)
  unfold fits newBlock
  rw [fresh_offset_of_pow_two ha, uint64_le_iff_toNat_le, uint64_toNat_add, hsub,
    Nat.mod_eq_of_lt (by omega)]
  constructor
  · intro h
    exact UInt64.toNat.inj (show alignment.toNat = 1 by omega)
  · rintro rfl
    have : (1 : UInt64).toNat = 1 := rfl
    omega

/-- For an alignment `2^k` and `size + alignment < 2^64`, `allocate_raw` returns exactly
when the alignment is 1 or the back block serves the request; otherwise it adds a block its
request can never fit in and calls itself forever. So the fresh block satisfies the request
if and only if the alignment is 1. -/
theorem allocate_raw_returns_iff (a : ScratchAllocator) (size alignment : UInt64) (k : Nat)
    (ha : alignment.toNat = 2 ^ k) (hs : size.toNat + alignment.toNat < 2 ^ 64) :
    ((allocateRawResult a size alignment).isSome ↔
      alignment = 1 ∨ ∃ block rest, a.blocks = block :: rest ∧ fits block size alignment) ∧
    (fits (newBlock (size + alignment)) size alignment ↔ alignment = 1) := by
  refine ⟨?_, fits_newBlock_iff ha hs⟩
  rcases a with ⟨_ | ⟨block, rest⟩⟩
  · simp only [allocateRawResult, allocateRaw, allocateRawIn_two_isSome, fits_newBlock_iff ha hs,
      or_self, reduceCtorEq, false_and, exists_false, or_false]
  · simp only [allocateRawResult, allocateRaw, allocateRawIn_two_isSome, fits_newBlock_iff ha hs,
      List.cons.injEq, exists_and_right, exists_eq_right', exists_eq_left', or_comm]

/-- An empty allocator asked for 80 bytes aligned to 8, the request of a
`VkSamplerCreateInfo`, never returns a region: with any fuel the model finds none. -/
theorem allocate_raw_diverges_aligned_eight :
    ¬ (allocateRawResult empty 80 8).isSome := fun h => by
  rcases (allocate_raw_returns_iff empty 80 8 3 (by decide) (by decide)).1.mp h with h | ⟨_, _, hb, -⟩
  · exact absurd h (by decide)
  · cases hb

/-! ## Where a region lands -/

/-- A call served after at most one `add_block` lands in the back block it was given or in the
fresh block appended after it, at that block's rounded offset. -/
theorem allocateRawIn_two_eq_some {block : Block} {rest : List Block} {size alignment : UInt64}
    {a' : ScratchAllocator} {p : Ptr} (h : allocateRawIn 2 block rest size alignment = some (a', p)) :
    ∃ b bs, a'.blocks = { b with offset := p.offset + size } :: bs ∧ p.block = bs.length ∧
      fits b size alignment ∧ p.offset = (b.offset + alignment - 1) &&& ~~~alignment ∧
      (b :: bs = block :: rest ∨
        ¬ fits block size alignment ∧ b = newBlock (size + alignment) ∧ bs = block :: rest) := by
  by_cases h1 : fits block size alignment
  · rw [allocateRawIn_succ_of_fits h1] at h
    cases h
    exact ⟨block, rest, rfl, rfl, h1, rfl, .inl rfl⟩
  rw [allocateRawIn_succ_of_not_fits h1] at h
  by_cases h2 : fits (newBlock (size + alignment)) size alignment
  · rw [allocateRawIn_succ_of_fits h2] at h
    cases h
    exact ⟨_, _, rfl, rfl, h2, rfl, .inr ⟨h1, rfl, rfl⟩⟩
  · rw [allocateRawIn_fresh_none h2] at h; cases h

/-- `offset + size <= size` accepts an offset other than 0 only when the sum wraps. -/
theorem offset_of_fits {block : Block} {size alignment : UInt64} (h : fits block size alignment) :
    (block.offset + alignment - 1) &&& ~~~alignment = 0 ∨
      2 ^ 64 ≤ ((block.offset + alignment - 1) &&& ~~~alignment).toNat + size.toNat :=
  or_iff_not_imp_left.mpr fun hoff => Nat.le_of_not_lt fun hw => not_fits_of_offset hoff hw h

/-- The rounded offset in a fresh block is below the alignment, so a request that does not
wrap fits in the `max(64 KiB, size + alignment)` bytes `add_block` gives it. -/
theorem newBlock_holds {size alignment : UInt64} (ha : alignment ≠ 0)
    (hs : size.toNat + alignment.toNat < 2 ^ 64) :
    ((0 + alignment - 1) &&& ~~~alignment).toNat + size.toNat ≤
      (newBlock (size + alignment)).size.toNat := by
  have hpos : 1 ≤ alignment.toNat :=
    Nat.one_le_iff_ne_zero.mpr fun h0 => ha (UInt64.toNat.inj (by simpa using h0))
  have h0 : 0 + alignment = alignment := UInt64.toNat.inj (by
    rw [uint64_toNat_add, UInt64.toNat_zero, Nat.zero_add]
    exact Nat.mod_eq_of_lt alignment.toNat_lt_size)
  have hsub : (alignment - 1).toNat = alignment.toNat - 1 :=
    UInt64.toNat_sub_of_le _ _ (uint64_le_iff_toNat_le.mpr hpos)
  have hand := @Nat.and_le_left (alignment - 1).toNat (~~~alignment).toNat
  have hsz : (size + alignment).toNat = size.toNat + alignment.toNat := by
    rw [uint64_toNat_add, Nat.mod_eq_of_lt hs]
  rw [h0, UInt64.and_toNat]
  unfold newBlock
  split_ifs with hlt
  · have : (size + alignment).toNat < 65536 := hlt
    show _ ≤ 65536
    omega
  · show _ ≤ (size + alignment).toNat
    omega

/-- Every region `allocate_raw` hands out starts at byte 0 of its block unless
`offset + size` wraps, so the regions of one block all overlap, and the block's offset
becomes the region's end. Only a reused back block can be overrun: the fresh block always
holds its request, and older blocks are left as they were. An alignment of 0, which no
`alignof` gives, rounds a fresh block's offset to `2^64 - 1`. -/
theorem allocate_raw_serves_block_start {a a' : ScratchAllocator} {size alignment : UInt64}
    {p : Ptr} (ha : alignment ≠ 0) (hs : size.toNat + alignment.toNat < 2 ^ 64)
    (h : allocateRawResult a size alignment = some (a', p)) :
    (p.offset = 0 ∨ 2 ^ 64 ≤ p.offset.toNat + size.toNat) ∧
    ∃ block rest, a'.blocks = { block with offset := p.offset + size } :: rest ∧
      p.block = rest.length ∧
      (a.blocks = block :: rest ∨ p.offset.toNat + size.toNat ≤ block.size.toNat ∧ rest = a.blocks) := by
  rcases a with ⟨_ | ⟨block, rest⟩⟩ <;> obtain ⟨b, bs, ha', hp, hf, ho, hbs⟩ := allocateRawIn_two_eq_some h
  all_goals refine ⟨ho ▸ offset_of_fits hf, b, bs, ha', hp, ?_⟩
  · -- an empty allocator: its first block is the fresh one
    rcases hbs with hbs | ⟨hnf, rfl, -⟩
    · obtain ⟨rfl, rfl⟩ := List.cons.inj hbs
      exact .inr ⟨ho ▸ newBlock_holds ha hs, rfl⟩
    · exact absurd hf hnf
  · rcases hbs with hbs | ⟨-, rfl, rfl⟩
    · exact .inl hbs.symm
    · exact .inr ⟨ho ▸ newBlock_holds ha hs, rfl⟩

/-- A back block of 64 KiB that has handed out one byte serves a 100000-byte request from its
first byte: `1 & ~1` is 0 and `0 + 100000 <= 100000`, so the region runs past the block. -/
theorem long_request_overruns_back_block :
    allocateRawResult ⟨[⟨1, 65536⟩]⟩ 100000 1 = some (⟨[⟨100000, 65536⟩]⟩, ⟨0, 0⟩) ∧
      ∃ block rest, [(⟨1, 65536⟩ : Block)] = block :: rest ∧ block.size.toNat < 100000 := by
  have h : allocateRawResult ⟨[⟨1, 65536⟩]⟩ 100000 1 = some (⟨[⟨100000, 65536⟩]⟩, ⟨0, 0⟩) := by
    decide
  obtain ⟨-, block, rest, ha', -, hr⟩ := allocate_raw_serves_block_start (by decide) (by decide) h
  obtain ⟨hb, rfl⟩ := List.cons.inj ha'
  have hsize : block.size = 65536 := congrArg Block.size hb.symm
  refine ⟨h, block, [], ?_, by rw [hsize]; decide⟩
  rcases hr with hr | ⟨hr, -⟩
  · exact hr
  · rw [hsize] at hr; exact absurd hr (by decide)

end ScratchAllocator

/-- `sizeof(T)` and `alignof(T)` of a type the source allocates. -/
structure CLayout where
  size : UInt64
  align : UInt64
  deriving DecidableEq, Repr

namespace ScratchAllocator

/-- `allocate_n<T>(count)` and `allocate_n_cleared<T>(count)`: null for an empty request,
else `allocate_raw(sizeof(T) * count, alignof(T))`, whose endless loop ends in `bad_alloc`. -/
def allocateN (a : ScratchAllocator) (t : CLayout) (count : UInt64) :
    Except Fault (ScratchAllocator × Option Ptr) :=
  if count = 0 then .ok (a, none)
  else match allocateRawResult a (t.size * count) t.align with
    | some (a', p) => .ok (a', some p)
    | none => .error .badAlloc

theorem allocateN_empty {t : CLayout} {count : UInt64} (hc : count ≠ 0)
    (ha : t.align = 2 ∨ t.align = 4 ∨ t.align = 8)
    (hs : (t.size * count).toNat + t.align.toNat ≤ 2 ^ 64) :
    allocateN empty t count = .error .badAlloc := by
  simp only [allocateN, if_neg hc, allocateRawResult_empty_none ha hs]

end ScratchAllocator

/-! ## Layouts on a 64-bit target -/

namespace CLayout

def uint8 : CLayout := ⟨1, 1⟩
def uint32 : CLayout := ⟨4, 4⟩
def handle : CLayout := ⟨8, 8⟩
def samplerCreateInfo : CLayout := ⟨80, 8⟩
def descriptorSetLayoutBinding : CLayout := ⟨24, 8⟩
def descriptorSetLayoutCreateInfo : CLayout := ⟨32, 8⟩
def pushConstantRange : CLayout := ⟨12, 4⟩
def pipelineLayoutCreateInfo : CLayout := ⟨48, 8⟩
def shaderModuleCreateInfo : CLayout := ⟨40, 8⟩
def specializationInfo : CLayout := ⟨32, 8⟩
def specializationMapEntry : CLayout := ⟨16, 8⟩
def pipelineShaderStageCreateInfo : CLayout := ⟨48, 8⟩
def vertexInputBindingDescription : CLayout := ⟨12, 4⟩
def vertexInputAttributeDescription : CLayout := ⟨16, 4⟩
def pipelineVertexInputStateCreateInfo : CLayout := ⟨48, 8⟩
def pipelineInputAssemblyStateCreateInfo : CLayout := ⟨32, 8⟩
def pipelineTessellationStateCreateInfo : CLayout := ⟨24, 8⟩
def pipelineViewportStateCreateInfo : CLayout := ⟨48, 8⟩
def pipelineRasterizationStateCreateInfo : CLayout := ⟨64, 8⟩
def pipelineMultisampleStateCreateInfo : CLayout := ⟨48, 8⟩
def pipelineDepthStencilStateCreateInfo : CLayout := ⟨104, 8⟩
def pipelineColorBlendAttachmentState : CLayout := ⟨32, 4⟩
def pipelineColorBlendStateCreateInfo : CLayout := ⟨56, 8⟩
def pipelineDynamicStateCreateInfo : CLayout := ⟨32, 8⟩
def attachmentDescription : CLayout := ⟨36, 4⟩
def attachmentReference : CLayout := ⟨8, 4⟩
def subpassDescription : CLayout := ⟨72, 8⟩
def subpassDependency : CLayout := ⟨28, 4⟩
def renderPassCreateInfo : CLayout := ⟨64, 8⟩

end CLayout

end Fossilize
