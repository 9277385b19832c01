import Fossilize.Recorder

/-! # What `register_<kind>` stores

A copy stores a cross-reference as `<kind>_to_index[handle] + 1`, so a handle that is not
bound, `VK_NULL_HANDLE` among them, is stored as 1.
-/

namespace Fossilize

namespace StateRecorder

/-- The index `<kind>_to_index[handle]` reads: the one bound, or the `0` that `operator[]`
binds. -/
def lookup (R : StateRecorder) (k : Kind) (h : Handle) : UInt32 := (R.toIndex k h).getD 0

/-! ## Reads through `operator[]` -/

theorem index_snd (R : StateRecorder) (k : Kind) (h : Handle) :
    (R.index k h).2 = R.lookup k h := by
  unfold index lookup
  split <;> simp_all

/-- Binding a missing handle to 0 changes no lookup. -/
theorem lookup_index (R : StateRecorder) (k : Kind) (h : Handle) :
    (R.index k h).1.lookup = R.lookup := by
  unfold index
  split
  · rfl
  · rename_i hn
    funext k' h'
    by_cases hk : k' = k
    · subst hk
      by_cases hh : h' = h
      · subst hh; simp [lookup, setHandle, hn]
      · simp [lookup, setHandle, hh]
    · simp [lookup, setHandle, hk]

theorem biasedIndex_eq (R : StateRecorder) (k : Kind) (h : Handle) :
    R.biasedIndex k h = ((R.index k h).1, handleOfIndex (R.lookup k h)) := by
  rw [← index_snd]; rfl

theorem copyArray_lookup {R R' : StateRecorder} {t : CLayout} {n : UInt64}
    (h : R.copyArray t n = .ok R') : R'.lookup = R.lookup := by
  obtain ⟨_, -, h⟩ := except_bind_eq_ok.mp h
  cases h; rfl

/-- `copy(p, 1)` of a null `p` never returns a copy. -/
theorem copyOne_none {α : Type} (R : StateRecorder) (t : CLayout) (x : StateRecorder × α) :
    R.copyOne t none ≠ .ok x := fun h => by
  obtain ⟨_, -, h⟩ := except_bind_eq_ok.mp h
  cases h

theorem copySpecializationInfo_none (R : StateRecorder) (x : StateRecorder × VkSpecializationInfo) :
    R.copySpecializationInfo none ≠ .ok x := fun h => by
  obtain ⟨_, h, -⟩ := except_bind_eq_ok.mp h
  exact copyOne_none R _ _ h

/-! ## Loops -/

/-- A loop whose steps keep `Inv` and relate input and output elements by `P` does so for
each index. -/
theorem loop_spec {α : Type} {f : StateRecorder → Nat → α → Except Fault (StateRecorder × α)}
    (Inv : StateRecorder → Prop) (P : Nat → α → α → Prop)
    (hf : ∀ R i x R' y, Inv R → f R i x = .ok (R', y) → Inv R' ∧ P i x y) :
    ∀ {xs : List α} {R R' : StateRecorder} {i : Nat} {ys : List α}, Inv R →
      loop f R i xs = .ok (R', ys) →
      Inv R' ∧ ∀ j x, xs[j]? = some x → ∃ y, ys[j]? = some y ∧ P (i + j) x y
  | [], _, _, _, _, hR, h => by cases h; exact ⟨hR, by simp⟩
  | x :: xs, R, R', i, ys, hR, h => by
    obtain ⟨⟨R₁, y⟩, h₁, h⟩ := except_bind_eq_ok.mp h
    obtain ⟨⟨R₂, ys'⟩, h₂, h⟩ := except_bind_eq_ok.mp h
    cases h
    obtain ⟨hR₁, hy⟩ := hf R i x R₁ y hR h₁
    obtain ⟨hR₂, hys⟩ := loop_spec Inv P hf hR₁ h₂
    refine ⟨hR₂, fun j x' hj => ?_⟩
    cases j with
    | zero =>
      rw [List.getElem?_cons_zero, Option.some.injEq] at hj
      subst hj
      exact ⟨y, List.getElem?_cons_zero, hy⟩
    | succ j =>
      rw [List.getElem?_cons_succ] at hj
      obtain ⟨y', hy', hp⟩ := hys j x' hj
      exact ⟨y', by rwa [List.getElem?_cons_succ], by rwa [Nat.add_right_comm, Nat.add_assoc] at hp⟩

/-! ## Descriptor set layouts -/

/-- The immutable samplers the loop of `copy_descriptor_set_layout` leaves in binding `i`:
element `i` rewritten to `look` of it plus one, for a sampler binding. -/
def rewrittenSamplers (look : Handle → UInt32) (i : Nat) (b : VkDescriptorSetLayoutBinding) :
    Option (List Handle) :=
  b.pImmutableSamplers.map fun l =>
    if b.descriptorType = VK_DESCRIPTOR_TYPE_SAMPLER ∨
        b.descriptorType = VK_DESCRIPTOR_TYPE_COMBINED_IMAGE_SAMPLER then
      l.set i (handleOfIndex (look (l.getD i 0)))
    else l

/-- `b'` is binding `b` as the loop leaves it at index `i`. -/
structure RewritesBinding (look : Handle → UInt32) (i : Nat) (b b' : VkDescriptorSetLayoutBinding) :
    Prop where
  binding : b'.binding = b.binding
  descriptorType : b'.descriptorType = b.descriptorType
  descriptorCount : b'.descriptorCount = b.descriptorCount
  stageFlags : b'.stageFlags = b.stageFlags
  samplers : b'.pImmutableSamplers = rewrittenSamplers look i b

theorem rewriteImmutableSampler_spec {R R' : StateRecorder} {i : Nat}
    {b b' : VkDescriptorSetLayoutBinding} (h : R.rewriteImmutableSampler i b = .ok (R', b')) :
    R'.lookup = R.lookup ∧ RewritesBinding (R.lookup .sampler) i b b' := by
  unfold rewriteImmutableSampler at h
  split at h
  · rename_i hp
    cases h
    exact ⟨rfl, rfl, rfl, rfl, rfl, by simp [rewrittenSamplers, hp]⟩
  · rename_i l hp
    split_ifs at h with ht
    · split at h
      · cases h
      · rename_i s hs
        rw [biasedIndex_eq] at h
        cases h
        refine ⟨lookup_index .., rfl, rfl, rfl, rfl, ?_⟩
        simp [rewrittenSamplers, hp, ht, List.getD_eq_getElem?_getD, hs]
    · cases h
      exact ⟨rfl, rfl, rfl, rfl, rfl, by simp [rewrittenSamplers, hp, ht]⟩

theorem copyDescriptorSetLayout_spec {R R' : StateRecorder} {c c' : VkDescriptorSetLayoutCreateInfo}
    (h : R.copyDescriptorSetLayout c = .ok (R', c')) :
    c'.flags = c.flags ∧ c'.pBindings.items.length = c.pBindings.items.length ∧
      ∀ j b, c.pBindings.items[j]? = some b → ∃ b', c'.pBindings.items[j]? = some b' ∧
        RewritesBinding (R.lookup .sampler) j b b' := by
  obtain ⟨R₁, h₁, h⟩ := except_bind_eq_ok.mp h
  split at h
  · cases h
  · rename_i R₂ bs hl
    cases h
    have step : ∀ (S : StateRecorder) i x (S' : StateRecorder) y, S.lookup = R.lookup →
        S.rewriteImmutableSampler i x = .ok (S', y) →
        S'.lookup = R.lookup ∧ RewritesBinding (R.lookup .sampler) i x y := by
      intro S i x S' y hS hy
      obtain ⟨h₁, h₂⟩ := rewriteImmutableSampler_spec hy
      exact ⟨h₁.trans hS, hS ▸ h₂⟩
    obtain ⟨-, hbs⟩ := loop_spec _ _ step (copyArray_lookup h₁) hl
    exact ⟨rfl, loop_length hl, fun j b hb => by simpa using hbs j b hb⟩

/-! ## Pipeline layouts -/

theorem rewriteSetLayouts_spec (R : StateRecorder) (hs : List Handle) :
    (R.rewriteSetLayouts hs).2 = hs.map fun h => handleOfIndex (R.lookup .descriptorSetLayout h) := by
  induction hs generalizing R with
  | nil => rfl
  | cons h hs ih =>
    simp only [rewriteSetLayouts, biasedIndex_eq, ih, lookup_index, List.map_cons]

theorem copyPipelineLayout_spec {R R' : StateRecorder} {c c' : VkPipelineLayoutCreateInfo}
    (h : R.copyPipelineLayout c = .ok (R', c')) :
    c'.flags = c.flags ∧ c'.pPushConstantRanges = c.pPushConstantRanges ∧
      c'.pSetLayouts.items = c.pSetLayouts.items.map fun h =>
        handleOfIndex (R.lookup .descriptorSetLayout h) := by
  obtain ⟨R₁, h₁, h⟩ := except_bind_eq_ok.mp h
  obtain ⟨R₂, h₂, h⟩ := except_bind_eq_ok.mp h
  cases h
  refine ⟨rfl, rfl, ?_⟩
  show (R₂.rewriteSetLayouts c.pSetLayouts.items).2 = _
  rw [rewriteSetLayouts_spec, copyArray_lookup h₂, copyArray_lookup h₁]

/-! ## Registration -/

theorem register_stores_copy {R R' : StateRecorder} {k : Kind} {hash : Hash} {info : k.Info}
    {i : UInt32} (h : R.register k hash info = .ok (R', i)) :
    ∃ R₁ c', R.copy k info = .ok (R₁, c') ∧ R'.entries k = R₁.entries k ++ [⟨hash, c'⟩] := by
  obtain ⟨⟨R₁, c'⟩, h₁, h⟩ := except_bind_eq_ok.mp h
  cases h
  exact ⟨R₁, c', h₁, by simp⟩

/-- What `register_<kind>` stores, for every recorder and create-info. A pipeline layout's
set layouts become `<kind>_to_index[handle] + 1` as `operator[]` reads them, null ones
included; binding `j` of a descriptor set layout gets element `j` of its immutable samplers
rewritten and no other; a compute pipeline without specialization info, or a graphics
pipeline without tessellation state, is never stored. -/
theorem register_stores_rewritten_copy (R : StateRecorder) (hash : Hash) :
    (∀ c R' i, R.registerPipelineLayout hash c = .ok (R', i) → ∃ pre c',
      R'.entries .pipelineLayout = pre ++ [⟨hash, c'⟩] ∧ c'.flags = c.flags ∧
      c'.pPushConstantRanges = c.pPushConstantRanges ∧
      c'.pSetLayouts.items = c.pSetLayouts.items.map fun h =>
        handleOfIndex (R.lookup .descriptorSetLayout h)) ∧
    (∀ c R' i, R.registerDescriptorSetLayout hash c = .ok (R', i) → ∃ pre c',
      R'.entries .descriptorSetLayout = pre ++ [⟨hash, c'⟩] ∧ c'.flags = c.flags ∧
      c'.pBindings.items.length = c.pBindings.items.length ∧
      ∀ j b, c.pBindings.items[j]? = some b → ∃ b', c'.pBindings.items[j]? = some b' ∧
        RewritesBinding (R.lookup .sampler) j b b') ∧
    (∀ c R' i, c.stage.pSpecializationInfo = none → R.registerComputePipeline hash c ≠ .ok (R', i)) ∧
    (∀ c R' i, c.pTessellationState = none → R.registerGraphicsPipeline hash c ≠ .ok (R', i)) := by
  refine ⟨fun c R' i h => ?_, fun c R' i h => ?_, fun c R' i hc h => ?_, fun c R' i hc h => ?_⟩
  · obtain ⟨R₁, c', h₁, he⟩ := register_stores_copy h
    exact ⟨_, c', he, copyPipelineLayout_spec h₁⟩
  · obtain ⟨R₁, c', h₁, he⟩ := register_stores_copy h
    exact ⟨_, c', he, copyDescriptorSetLayout_spec h₁⟩
  · obtain ⟨R₁, c', h₁, -⟩ := register_stores_copy h
    obtain ⟨_, h₂, -⟩ := except_bind_eq_ok.mp h₁
    exact copySpecializationInfo_none R _ (hc ▸ h₂)
  · obtain ⟨R₁, c', h₁, -⟩ := register_stores_copy h
    obtain ⟨R₂, -, h₂⟩ := except_bind_eq_ok.mp h₁
    obtain ⟨_, h₃, -⟩ := except_bind_eq_ok.mp h₂
    exact copyOne_none R₂ _ _ (hc ▸ h₃)

/-- A recorder whose back block sits at offset 1: `(1 + 8 - 1) & ~8` is 0, so it serves one
request aligned to 4 or 8. -/
def oneBlockRecorder : StateRecorder := { empty with allocator := ⟨[⟨1, 65536⟩]⟩ }

/-- `oneBlockRecorder` with samplers 5 and 6 bound to indices 0 and 1. -/
def twoSamplerRecorder : StateRecorder := (oneBlockRecorder.setSamplerHandle 0 5).setSamplerHandle 1 6

/-- A pipeline layout whose one set layout is `VK_NULL_HANDLE`. -/
def nullSetLayout : VkPipelineLayoutCreateInfo :=
  ⟨0, ⟨[VK_NULL_HANDLE], show 1 < 2 ^ 32 by decide⟩, VkArray.nil⟩

/-- One `SAMPLER` binding with the two immutable samplers 5 and 6. -/
def twoSamplerLayout : VkDescriptorSetLayoutCreateInfo :=
  ⟨0, ⟨[⟨0, VK_DESCRIPTOR_TYPE_SAMPLER, 2, 0, some [5, 6], fun _ h => Option.some.inj h ▸ rfl⟩],
    show 1 < 2 ^ 32 by decide⟩⟩

/-- A compute pipeline without specialization info. -/
def plainCompute : VkComputePipelineCreateInfo := ⟨0, ⟨0, 0, 1, "main", none⟩, 0, 0, ⟨0⟩⟩

/-- The null set layout is stored as 1, not 0; of two immutable samplers bound to indices 0
and 1, the stored binding has `[1, 6]`, the second left as the caller's handle; and a
compute pipeline without specialization info is not stored. The recorder starts from a block
at offset 1, which registering layouts alone never reaches: from the empty allocator every
request aligned to 2, 4 or 8 fails (`allocateRawResult_empty_none`). -/
theorem register_stores_null_as_one :
    (∃ R' i pre c', oneBlockRecorder.registerPipelineLayout 0 nullSetLayout = .ok (R', i) ∧
      R'.entries .pipelineLayout = pre ++ [⟨0, c'⟩] ∧ c'.pSetLayouts.items = [1]) ∧
    (∃ R' i pre c', twoSamplerRecorder.registerDescriptorSetLayout 0 twoSamplerLayout = .ok (R', i) ∧
      R'.entries .descriptorSetLayout = pre ++ [⟨0, c'⟩] ∧
      c'.pBindings.items.map VkDescriptorSetLayoutBinding.pImmutableSamplers = [some [1, 6]]) ∧
    (∀ R' i, oneBlockRecorder.registerComputePipeline 0 plainCompute ≠ .ok (R', i)) := by
  refine ⟨?_, ?_, fun R' i => (register_stores_rewritten_copy oneBlockRecorder 0).2.2.1 _ R' i rfl⟩
  · obtain ⟨⟨R', i⟩, hr⟩ : ∃ r, oneBlockRecorder.registerPipelineLayout 0 nullSetLayout = .ok r :=
      ⟨_, rfl⟩
    obtain ⟨pre, c', he, -, -, hs⟩ := (register_stores_rewritten_copy oneBlockRecorder 0).1 _ _ _ hr
    exact ⟨R', i, pre, c', hr, he, hs.trans rfl⟩
  · obtain ⟨⟨R', i⟩, hr⟩ :
        ∃ r, twoSamplerRecorder.registerDescriptorSetLayout 0 twoSamplerLayout = .ok r := ⟨_, rfl⟩
    obtain ⟨pre, c', he, -, hl, hb⟩ := (register_stores_rewritten_copy twoSamplerRecorder 0).2.1 _ _ _ hr
    obtain ⟨b', hb', hrw⟩ := hb 0 _ rfl
    obtain ⟨a, ha⟩ := List.length_eq_one.mp hl
    rw [ha, List.getElem?_cons_zero, Option.some.injEq] at hb'
    subst hb'
    refine ⟨R', i, pre, c', hr, he, ?_⟩
    rw [ha, List.map_singleton, hrw.samplers]
    rfl

end StateRecorder

end Fossilize
