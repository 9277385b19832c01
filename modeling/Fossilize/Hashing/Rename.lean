import Fossilize.Hashing.Feed
import Fossilize.Session

/-! # Hashes compose by reference

A hash depends on a create-info's content and on the recorder's answers for the handles the
walk looks up, never on the handle values or the registry indices behind them.
-/

namespace Fossilize

/-- A renaming of handles that maps null, and only null, to null. -/
structure HandleRenaming where
  map : Handle → Handle
  null_iff : ∀ h, map h = VK_NULL_HANDLE ↔ h = VK_NULL_HANDLE

namespace HandleRenaming

variable (r : HandleRenaming)

def binding (b : VkDescriptorSetLayoutBinding) : VkDescriptorSetLayoutBinding :=
  { b with
    pImmutableSamplers := b.pImmutableSamplers.map (List.map r.map)
    immutableSamplers_length := fun l hl => by
      obtain ⟨l0, h0, rfl⟩ := Option.map_eq_some'.mp hl
      simpa using b.immutableSamplers_length l0 h0 }

def descriptorSetLayout (c : VkDescriptorSetLayoutCreateInfo) : VkDescriptorSetLayoutCreateInfo :=
  { c with pBindings := c.pBindings.map r.binding }

def pipelineLayout (c : VkPipelineLayoutCreateInfo) : VkPipelineLayoutCreateInfo :=
  { c with pSetLayouts := c.pSetLayouts.map r.map }

def stage (s : VkPipelineShaderStageCreateInfo) : VkPipelineShaderStageCreateInfo :=
  { s with module := r.map s.module }

def graphicsPipeline (c : VkGraphicsPipelineCreateInfo) : VkGraphicsPipelineCreateInfo :=
  { c with
    pStages := c.pStages.map r.stage
    layout := r.map c.layout
    renderPass := r.map c.renderPass
    basePipelineHandle := r.map c.basePipelineHandle }

def computePipeline (c : VkComputePipelineCreateInfo) : VkComputePipelineCreateInfo :=
  { c with
    stage := r.stage c.stage
    layout := r.map c.layout
    basePipelineHandle := r.map c.basePipelineHandle }

end HandleRenaming

namespace Hashing

/-! ## What a walk looks up -/

def bindingLookups (b : VkDescriptorSetLayoutBinding) : List (Kind × Handle) :=
  match b.pImmutableSamplers with
  | some l =>
    if b.descriptorType = VK_DESCRIPTOR_TYPE_COMBINED_IMAGE_SAMPLER ∨
        b.descriptorType = VK_DESCRIPTOR_TYPE_SAMPLER then l.map (Kind.sampler, ·)
    else []
  | none => []

def descriptorSetLayoutLookups (c : VkDescriptorSetLayoutCreateInfo) : List (Kind × Handle) :=
  c.pBindings.items.flatMap bindingLookups

def pipelineLayoutLookups (c : VkPipelineLayoutCreateInfo) : List (Kind × Handle) :=
  (c.pSetLayouts.items.filter (· != VK_NULL_HANDLE)).map (Kind.descriptorSetLayout, ·)

def basePipelineLookups (k : Kind) (base : Handle) : List (Kind × Handle) :=
  if base ≠ VK_NULL_HANDLE then [(k, base)] else []

def graphicsPipelineLookups (c : VkGraphicsPipelineCreateInfo) : List (Kind × Handle) :=
  basePipelineLookups .graphicsPipeline c.basePipelineHandle ++
    [(.pipelineLayout, c.layout), (.renderPass, c.renderPass)] ++
    c.pStages.items.map fun s => (.shaderModule, s.module)

def computePipelineLookups (c : VkComputePipelineCreateInfo) : List (Kind × Handle) :=
  [(.pipelineLayout, c.layout)] ++ basePipelineLookups .computePipeline c.basePipelineHandle ++
    [(.shaderModule, c.stage.module)]

/-- `R1` answers for each looked-up handle what `R2` answers for its renamed handle. -/
def LookupsAgree (R1 R2 : StateRecorder) (r : HandleRenaming) (refs : List (Kind × Handle)) :
    Prop :=
  ∀ p ∈ refs, R1.getHashFor p.1 p.2 = R2.getHashFor p.1 (r.map p.2)

section

variable {R1 R2 : StateRecorder} {r : HandleRenaming}

theorem LookupsAgree.append {a b : List (Kind × Handle)} :
    LookupsAgree R1 R2 r (a ++ b) ↔ LookupsAgree R1 R2 r a ∧ LookupsAgree R1 R2 r b := by
  simp only [LookupsAgree, List.mem_append, or_imp, forall_and]

theorem hashBinding_rename {b : VkDescriptorSetLayoutBinding}
    (h : LookupsAgree R1 R2 r (bindingLookups b)) :
    hashBinding R1 b = hashBinding R2 (r.binding b) := by
  unfold hashBinding
  unfold bindingLookups at h
  rcases hs : b.pImmutableSamplers with _ | l
  · simp [HandleRenaming.binding, hs]
  · simp only [hs] at h
    simp only [HandleRenaming.binding, hs, Option.map_some']
    split_ifs with ht
    · rw [if_pos ht] at h
      have hl : ∀ s ∈ l, hashLookup (R1.getHashForSampler s) =
          hashLookup (R2.getHashForSampler (r.map s)) :=
        fun s hs' => congrArg hashLookup (h (.sampler, s) (List.mem_map_of_mem _ hs'))
      rw [hashEach_map (fun s => hashLookup (R2.getHashForSampler s)) r.map hl]
    · rfl

theorem descriptorSetLayoutTokens_rename {c : VkDescriptorSetLayoutCreateInfo}
    (h : LookupsAgree R1 R2 r (descriptorSetLayoutLookups c)) :
    descriptorSetLayoutTokens R1 c = descriptorSetLayoutTokens R2 (r.descriptorSetLayout c) := by
  have hb : ∀ b ∈ c.pBindings.items, hashBinding R1 b = hashBinding R2 (r.binding b) :=
    fun b hb => hashBinding_rename fun p hp => h p (List.mem_flatMap.mpr ⟨b, hb, hp⟩)
  simp only [descriptorSetLayoutTokens, HandleRenaming.descriptorSetLayout, VkArray.map_items,
    hashEach_map (hashBinding R2) r.binding hb, VkDescriptorSetLayoutCreateInfo.bindingCount,
    VkArray.count_map]

theorem pipelineLayoutTokens_rename {c : VkPipelineLayoutCreateInfo}
    (h : LookupsAgree R1 R2 r (pipelineLayoutLookups c)) :
    pipelineLayoutTokens R1 c = pipelineLayoutTokens R2 (r.pipelineLayout c) := by
  have hs : ∀ s ∈ c.pSetLayouts.items, setLayoutTokens R1 s = setLayoutTokens R2 (r.map s) := by
    intro s hs
    by_cases h0 : s = VK_NULL_HANDLE
    · subst h0; simp [setLayoutTokens, (r.null_iff _).mpr rfl]
    · have hl := h (.descriptorSetLayout, s) (by simp [pipelineLayoutLookups, hs, h0])
      simp only [setLayoutTokens, if_pos h0, if_pos (mt (r.null_iff s).mp h0)]
      exact congrArg hashLookup hl
  simp only [pipelineLayoutTokens, HandleRenaming.pipelineLayout, VkArray.map_items,
    VkArray.count_map, hashEach_map (setLayoutTokens R2) r.map hs]

theorem stageTokens_rename {s : VkPipelineShaderStageCreateInfo}
    (h : R1.getHashFor .shaderModule s.module = R2.getHashFor .shaderModule (r.map s.module)) :
    stageTokens R1 s = stageTokens R2 (r.stage s) := by
  simp only [stageTokens, HandleRenaming.stage, StateRecorder.getHashForShaderModule, h]

theorem basePipelineTokens_rename {k : Kind} {base : Handle} {index : Int32} {absent : List Token}
    (h : LookupsAgree R1 R2 r (basePipelineLookups k base)) :
    basePipelineTokens (R1.getHashFor k) base index absent =
      basePipelineTokens (R2.getHashFor k) (r.map base) index absent := by
  by_cases h0 : base = VK_NULL_HANDLE
  · subst h0; simp [basePipelineTokens, (r.null_iff _).mpr rfl]
  · have hl := h (k, base) (by simp [basePipelineLookups, h0])
    simp only [basePipelineTokens, if_pos h0, if_pos (mt (r.null_iff base).mp h0)]
    exact congrArg _ hl

theorem graphicsPipelineTokens_rename {c : VkGraphicsPipelineCreateInfo}
    (h : LookupsAgree R1 R2 r (graphicsPipelineLookups c)) :
    graphicsPipelineTokens R1 c = graphicsPipelineTokens R2 (r.graphicsPipeline c) := by
  simp only [graphicsPipelineLookups, LookupsAgree.append] at h
  obtain ⟨⟨hbase, hfixed⟩, hstages⟩ := h
  have hs : ∀ s ∈ c.pStages.items, stageTokens R1 s = stageTokens R2 (r.stage s) :=
    fun s hs => stageTokens_rename (hstages _ (List.mem_map_of_mem _ hs))
  simp only [graphicsPipelineTokens, HandleRenaming.graphicsPipeline,
    StateRecorder.getHashForGraphicsPipelineHandle, StateRecorder.getHashForPipelineLayout,
    StateRecorder.getHashForRenderPass, basePipelineTokens_rename hbase,
    hfixed (.pipelineLayout, c.layout) (by simp), hfixed (.renderPass, c.renderPass) (by simp),
    VkArray.map_items, VkArray.count_map, hashEach_map (stageTokens R2) r.stage hs]

theorem computePipelineTokens_rename {c : VkComputePipelineCreateInfo}
    (h : LookupsAgree R1 R2 r (computePipelineLookups c)) :
    computePipelineTokens R1 c = computePipelineTokens R2 (r.computePipeline c) := by
  simp only [computePipelineLookups, LookupsAgree.append] at h
  obtain ⟨⟨hlayout, hbase⟩, hmodule⟩ := h
  simp only [computePipelineTokens, HandleRenaming.computePipeline, HandleRenaming.stage,
    StateRecorder.getHashForComputePipelineHandle, StateRecorder.getHashForPipelineLayout,
    StateRecorder.getHashForShaderModule, basePipelineTokens_rename hbase,
    hlayout (.pipelineLayout, c.layout) (by simp), hmodule (.shaderModule, c.stage.module) (by simp)]

end

/-- **Composition by reference.** For each of the six `compute_hash_*`, a create-info and
its renaming hash alike in two recorders that answer alike for every handle the walk looks
up, null ones included. -/
theorem compute_hash_depends_only_on_lookups (digest : List Token → Hash)
    (R1 R2 : StateRecorder) (r : HandleRenaming) :
    (∀ c, LookupsAgree R1 R2 r (descriptorSetLayoutLookups c) →
      computeHashDescriptorSetLayout digest R1 c =
        computeHashDescriptorSetLayout digest R2 (r.descriptorSetLayout c)) ∧
    (∀ c, LookupsAgree R1 R2 r (pipelineLayoutLookups c) →
      computeHashPipelineLayout digest R1 c = computeHashPipelineLayout digest R2 (r.pipelineLayout c)) ∧
    (∀ c, computeHashShaderModule digest R1 c = computeHashShaderModule digest R2 c) ∧
    (∀ c, LookupsAgree R1 R2 r (graphicsPipelineLookups c) →
      computeHashGraphicsPipeline digest R1 c =
        computeHashGraphicsPipeline digest R2 (r.graphicsPipeline c)) ∧
    (∀ c, LookupsAgree R1 R2 r (computePipelineLookups c) →
      computeHashComputePipeline digest R1 c =
        computeHashComputePipeline digest R2 (r.computePipeline c)) ∧
    (∀ c, computeHashRenderPass digest R1 c = computeHashRenderPass digest R2 c) :=
  ⟨fun _ h => congrArg _ (descriptorSetLayoutTokens_rename h),
    fun _ h => congrArg _ (pipelineLayoutTokens_rename h), fun _ => rfl,
    fun _ h => congrArg _ (graphicsPipelineTokens_rename h),
    fun _ h => congrArg _ (computePipelineTokens_rename h), fun _ => rfl⟩

/-- The recorder of a session that binds the null handle to a pipeline layout and to a
shader module. -/
def nullBoundRecorder : StateRecorder :=
  match StateRecorder.empty.run [.register .pipelineLayout 1 ⟨0, .nil, .nil⟩,
      .setHandle .pipelineLayout 0 VK_NULL_HANDLE, .register .shaderModule 2 ⟨0, 0, [], rfl⟩,
      .setHandle .shaderModule 0 VK_NULL_HANDLE] with
  | .ok R => R
  | .error _ => .empty

/-- Whatever the `Hasher`, a compute pipeline whose handles are all null, so that no
non-null handle constrains the two recorders, hashes differently in an empty recorder (the
layout lookup throws) and in `nullBoundRecorder`. -/
theorem compute_hash_reads_null_handles :
    ¬ ∃ digest : List Token → Hash, ∀ (R1 R2 : StateRecorder) (r : HandleRenaming)
      (c : VkComputePipelineCreateInfo),
      (∀ p ∈ computePipelineLookups c, p.2 ≠ VK_NULL_HANDLE →
        ∃ v, R1.getHashFor p.1 p.2 = .ok v ∧ R2.getHashFor p.1 (r.map p.2) = .ok v) →
      computeHashComputePipeline digest R1 c =
        computeHashComputePipeline digest R2 (r.computePipeline c) := by
  rintro ⟨digest, h⟩
  have := h .empty nullBoundRecorder ⟨id, fun _ => Iff.rfl⟩
    ⟨0, ⟨0, 0, VK_NULL_HANDLE, "main", none⟩, VK_NULL_HANDLE, VK_NULL_HANDLE, ⟨0⟩⟩
    (by simp [computePipelineLookups, basePipelineLookups])
  exact Except.noConfusion this

end Hashing

end Fossilize
