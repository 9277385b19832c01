import Fossilize.Allocator

/-! # `StateRecorder`: seven registries and seven handle-to-index maps

`get_hash_for_<kind>` reads a map with `find`; the `copy_*` helpers read it with
`operator[]`, which binds a missing handle to `0`.
-/

namespace Fossilize

/-- The seven entity kinds, one registry and one handle map each. -/
inductive Kind
  | sampler
  | descriptorSetLayout
  | pipelineLayout
  | shaderModule
  | renderPass
  | computePipeline
  | graphicsPipeline
  deriving DecidableEq, Repr

/-- The create-info a kind's registry holds. -/
@[reducible] def Kind.Info : Kind → Type
  | .sampler => VkSamplerCreateInfo
  | .descriptorSetLayout => VkDescriptorSetLayoutCreateInfo
  | .pipelineLayout => VkPipelineLayoutCreateInfo
  | .shaderModule => VkShaderModuleCreateInfo
  | .renderPass => VkRenderPassCreateInfo
  | .computePipeline => VkComputePipelineCreateInfo
  | .graphicsPipeline => VkGraphicsPipelineCreateInfo

/-- An entry of a registry: the hash the caller passed and the recorder's copy. -/
structure Entry (α : Type) where
  hash : Hash
  info : α

/-- A `std::unordered_map<VkX, unsigned>`. -/
def HandleMap := Handle → Option UInt32

def HandleMap.insert (m : HandleMap) (h : Handle) (i : UInt32) : HandleMap :=
  fun h' => if h' = h then some i else m h'

@[simp] theorem HandleMap.insert_apply (m : HandleMap) (h h' : Handle) (i : UInt32) :
    m.insert h i h' = if h' = h then some i else m h' := rfl

/-- `entries k` is the registry `samplers`, `descriptor_sets`, `pipeline_layouts`,
`shader_modules`, `render_passes`, `compute_pipelines` or `graphics_pipelines`; `toIndex k`
is the matching `<kind>_to_index` map. -/
structure StateRecorder where
  allocator : ScratchAllocator
  entries : (k : Kind) → List (Entry k.Info)
  toIndex : Kind → HandleMap

namespace StateRecorder

def empty : StateRecorder := ⟨ScratchAllocator.empty, fun _ => [], fun _ _ => none⟩

def hashes (R : StateRecorder) (k : Kind) : List Hash := (R.entries k).map Entry.hash

/-! ## Handles -/

/-- `set_<kind>_handle(index, handle)`: `<kind>_to_index[handle] = index`. -/
def setHandle (R : StateRecorder) (k : Kind) (index : UInt32) (h : Handle) : StateRecorder :=
  { R with toIndex := Function.update R.toIndex k ((R.toIndex k).insert h index) }

def setSamplerHandle (R : StateRecorder) (index : UInt32) (sampler : Handle) :=
  R.setHandle .sampler index sampler
def setDescriptorSetLayoutHandle (R : StateRecorder) (index : UInt32) (layout : Handle) :=
  R.setHandle .descriptorSetLayout index layout
def setPipelineLayoutHandle (R : StateRecorder) (index : UInt32) (layout : Handle) :=
  R.setHandle .pipelineLayout index layout
def setShaderModuleHandle (R : StateRecorder) (index : UInt32) (module : Handle) :=
  R.setHandle .shaderModule index module
def setRenderPassHandle (R : StateRecorder) (index : UInt32) (renderPass : Handle) :=
  R.setHandle .renderPass index renderPass
def setComputePipelineHandle (R : StateRecorder) (index : UInt32) (pipeline : Handle) :=
  R.setHandle .computePipeline index pipeline
def setGraphicsPipelineHandle (R : StateRecorder) (index : UInt32) (pipeline : Handle) :=
  R.setHandle .graphicsPipeline index pipeline

/-- `get_hash_for_<kind>(handle)`: `find`, then `registry[index].hash`. An index past the
registry is a read outside it. -/
def getHashFor (R : StateRecorder) (k : Kind) (h : Handle) : Except Fault Hash :=
  match R.toIndex k h with
  | none => .error (.runtimeError "Handle is not registered.")
  | some i =>
    match (R.hashes k)[i.toNat]? with
    | some hash => .ok hash
    | none => .error .invalidRead

def getHashForSampler (R : StateRecorder) : Handle → Except Fault Hash := R.getHashFor .sampler
def getHashForDescriptorSetLayout (R : StateRecorder) : Handle → Except Fault Hash :=
  R.getHashFor .descriptorSetLayout
def getHashForPipelineLayout (R : StateRecorder) : Handle → Except Fault Hash :=
  R.getHashFor .pipelineLayout
def getHashForShaderModule (R : StateRecorder) : Handle → Except Fault Hash :=
  R.getHashFor .shaderModule
def getHashForRenderPass (R : StateRecorder) : Handle → Except Fault Hash :=
  R.getHashFor .renderPass
def getHashForComputePipelineHandle (R : StateRecorder) : Handle → Except Fault Hash :=
  R.getHashFor .computePipeline
def getHashForGraphicsPipelineHandle (R : StateRecorder) : Handle → Except Fault Hash :=
  R.getHashFor .graphicsPipeline

/-- `<kind>_to_index[handle]`: `std::map::operator[]` binds a missing handle to `0`. -/
def index (R : StateRecorder) (k : Kind) (h : Handle) : StateRecorder × UInt32 :=
  match R.toIndex k h with
  | some i => (R, i)
  | none => (R.setHandle k 0 h, 0)

/-- `reinterpret_cast<VkX>(uint64_t(index + 1))`, the `+ 1` in `unsigned`. -/
def handleOfIndex (i : UInt32) : Handle := (i + 1).toUInt64

/-- `<kind>_to_index[handle]` rewritten to a 1-based index. -/
def biasedIndex (R : StateRecorder) (k : Kind) (h : Handle) : StateRecorder × Handle :=
  let (R, i) := R.index k h
  (R, handleOfIndex i)

/-! ## `copy` -/

def withAllocator (R : StateRecorder) (a : ScratchAllocator) : StateRecorder :=
  { R with allocator := a }

/-- `copy(src, count)`: `allocate_n<T>(count)`; the copied elements are the source's. -/
def copyArray (R : StateRecorder) (t : CLayout) (count : UInt64) : Except Fault StateRecorder := do
  let (a, _) ← R.allocator.allocateN t count
  pure (R.withAllocator a)

/-- `copy(p, 1)` for a pointer that may be null: the copy reads `*p`. -/
def copyOne {α : Type} (R : StateRecorder) (t : CLayout) (p : Option α) :
    Except Fault (StateRecorder × α) := do
  let R ← R.copyArray t 1
  match p with
  | some x => pure (R, x)
  | none => throw .invalidRead

/-- A `for (i = start; i < count; i++)` loop over an array that may throw, each step
threading the recorder and rewriting one element. -/
def loop {α : Type} (f : StateRecorder → Nat → α → Except Fault (StateRecorder × α)) :
    StateRecorder → Nat → List α → Except Fault (StateRecorder × List α)
  | R, _, [] => pure (R, [])
  | R, i, x :: xs => do
    let (R, y) ← f R i x
    let (R, ys) ← loop f R (i + 1) xs
    pure (R, y :: ys)

theorem loop_length {α : Type} {f : StateRecorder → Nat → α → Except Fault (StateRecorder × α)}
    {R R' : StateRecorder} {i : Nat} {xs ys : List α} (h : loop f R i xs = .ok (R', ys)) :
    ys.length = xs.length := by
  induction xs generalizing R i ys with
  | nil => cases h; rfl
  | cons x xs ih =>
    simp only [loop, bind, Except.bind] at h
    rcases h1 : f R i x with _ | ⟨R1, y⟩ <;> rw [h1] at h
    · cases h
    rcases h2 : loop f R1 (i + 1) xs with _ | ⟨R2, ys'⟩ <;> simp only [h2] at h
    · cases h
    cases h
    simp [ih h2]

/-- The length of a `VkArray` as the `size_t` count `copy` gets. -/
def arrayCount {α : Type} (a : VkArray α) : UInt64 := a.count.toUInt64

def copyShaderModule (R : StateRecorder) (c : VkShaderModuleCreateInfo) :
    Except Fault (StateRecorder × VkShaderModuleCreateInfo) := do
  let R ← R.copyArray CLayout.uint32 (c.codeSize / 4)
  pure (R, c)

def copySampler (R : StateRecorder) (c : VkSamplerCreateInfo) :
    Except Fault (StateRecorder × VkSamplerCreateInfo) :=
  pure (R, c)

/-- The loop body of `copy_descriptor_set_layout` for binding `i`: it rewrites element `i`
(the binding's index, not `j`) of the caller's immutable-sampler array in place. -/
def rewriteImmutableSampler (R : StateRecorder) (i : Nat) (b : VkDescriptorSetLayoutBinding) :
    Except Fault (StateRecorder × VkDescriptorSetLayoutBinding) :=
  match hp : b.pImmutableSamplers with
  | none => pure (R, b)
  | some l =>
    if b.descriptorType = VK_DESCRIPTOR_TYPE_SAMPLER ∨
        b.descriptorType = VK_DESCRIPTOR_TYPE_COMBINED_IMAGE_SAMPLER then
      match l[i]? with
      | none => throw .invalidRead
      | some h =>
        let (R, v) := R.biasedIndex .sampler h
        pure (R, { b with
          pImmutableSamplers := some (l.set i v)
          immutableSamplers_length := by
            rintro l' ⟨rfl⟩; simpa using b.immutableSamplers_length l hp })
    else pure (R, b)

def copyDescriptorSetLayout (R : StateRecorder) (c : VkDescriptorSetLayoutCreateInfo) :
    Except Fault (StateRecorder × VkDescriptorSetLayoutCreateInfo) := do
  let R ← R.copyArray CLayout.descriptorSetLayoutBinding (arrayCount c.pBindings)
  match h : loop rewriteImmutableSampler R 0 c.pBindings.items with
  | .error e => throw e
  | .ok (R, bs) =>
    pure (R, { c with pBindings := ⟨bs, by rw [loop_length h]; exact c.pBindings.bounded⟩ })

/-- The `pSetLayouts` loop of `copy_pipeline_layout`. -/
def rewriteSetLayouts (R : StateRecorder) : List Handle → StateRecorder × List Handle
  | [] => (R, [])
  | h :: hs =>
    let (R, v) := R.biasedIndex .descriptorSetLayout h
    let (R, vs) := R.rewriteSetLayouts hs
    (R, v :: vs)

theorem rewriteSetLayouts_length (R : StateRecorder) (hs : List Handle) :
    (R.rewriteSetLayouts hs).2.length = hs.length := by
  induction hs generalizing R with
  | nil => rfl
  | cons h hs ih => simp [rewriteSetLayouts, ih]

def copyPipelineLayout (R : StateRecorder) (c : VkPipelineLayoutCreateInfo) :
    Except Fault (StateRecorder × VkPipelineLayoutCreateInfo) := do
  let R ← R.copyArray CLayout.pushConstantRange (arrayCount c.pPushConstantRanges)
  let R ← R.copyArray CLayout.handle (arrayCount c.pSetLayouts)
  let r := R.rewriteSetLayouts c.pSetLayouts.items
  pure (r.1, { c with pSetLayouts := ⟨r.2, by
    rw [rewriteSetLayouts_length]; exact c.pSetLayouts.bounded⟩ })

/-- `copy_specialization_info(info)`: copies `*info` even when `info` is null. -/
def copySpecializationInfo (R : StateRecorder) (info : Option VkSpecializationInfo) :
    Except Fault (StateRecorder × VkSpecializationInfo) := do
  let (R, ret) ← R.copyOne CLayout.specializationInfo info
  let R ← R.copyArray CLayout.specializationMapEntry (arrayCount ret.pMapEntries)
  let R ← R.copyArray CLayout.uint8 ret.dataSize
  pure (R, ret)

/-- `copy(pName, strlen(pName) + 1)`. -/
def copyName (R : StateRecorder) (name : String) : Except Fault StateRecorder :=
  R.copyArray CLayout.uint8 (UInt64.ofNat (name.utf8ByteSize + 1))

def copyComputePipeline (R : StateRecorder) (c : VkComputePipelineCreateInfo) :
    Except Fault (StateRecorder × VkComputePipelineCreateInfo) := do
  let (R, spec) ← R.copySpecializationInfo c.stage.pSpecializationInfo
  let (R, module) := R.biasedIndex .shaderModule c.stage.module
  let R ← R.copyName c.stage.pName
  let (R, base) :=
    if c.basePipelineHandle ≠ VK_NULL_HANDLE then R.biasedIndex .computePipeline c.basePipelineHandle
    else (R, c.basePipelineHandle)
  pure (R, { c with
    stage := { c.stage with pSpecializationInfo := some spec, module := module }
    basePipelineHandle := base })

/-- One pass of the `pStages` loop of `copy_graphics_pipeline`. -/
def copyStage (R : StateRecorder) (_ : Nat) (s : VkPipelineShaderStageCreateInfo) :
    Except Fault (StateRecorder × VkPipelineShaderStageCreateInfo) := do
  let R ← R.copyName s.pName
  let (R, spec) ← R.copySpecializationInfo s.pSpecializationInfo
  let (R, module) := R.biasedIndex .shaderModule s.module
  pure (R, { s with pSpecializationInfo := some spec, module := module })

/-- The sample-mask copy: `copy(pSampleMask, (rasterizationSamples + 31) / 32)`, null when
that count is 0. -/
def copySampleMask (R : StateRecorder) (ms : VkPipelineMultisampleStateCreateInfo) :
    Except Fault (StateRecorder × VkPipelineMultisampleStateCreateInfo) :=
  match ms.pSampleMask with
  | none => pure (R, ms)
  | some _ => do
    let n := sampleMaskWords ms.rasterizationSamples
    let R ← R.copyArray CLayout.uint32 n.toUInt64
    if n = 0 then pure (R, { ms with pSampleMask := none, sampleMask_length := by simp })
    else pure (R, ms)

def copyGraphicsPipeline (R : StateRecorder) (c : VkGraphicsPipelineCreateInfo) :
    Except Fault (StateRecorder × VkGraphicsPipelineCreateInfo) := do
  let R ← R.copyArray CLayout.pipelineShaderStageCreateInfo (arrayCount c.pStages)
  let (R, tess) ← R.copyOne CLayout.pipelineTessellationStateCreateInfo c.pTessellationState
  let (R, blend) ← R.copyOne CLayout.pipelineColorBlendStateCreateInfo c.pColorBlendState
  let (R, vi) ← R.copyOne CLayout.pipelineVertexInputStateCreateInfo c.pVertexInputState
  let (R, ms) ← R.copyOne CLayout.pipelineMultisampleStateCreateInfo c.pMultisampleState
  let (R, vi) ← R.copyOne CLayout.pipelineVertexInputStateCreateInfo (some vi)
  let (R, vp) ← R.copyOne CLayout.pipelineViewportStateCreateInfo c.pViewportState
  let (R, ia) ← R.copyOne CLayout.pipelineInputAssemblyStateCreateInfo c.pInputAssemblyState
  let (R, ds) ← R.copyOne CLayout.pipelineDepthStencilStateCreateInfo c.pDepthStencilState
  let (R, rs) ← R.copyOne CLayout.pipelineRasterizationStateCreateInfo c.pRasterizationState
  let (R, dyn) ← R.copyOne CLayout.pipelineDynamicStateCreateInfo c.pDynamicState
  let (R, renderPass) := R.biasedIndex .renderPass c.renderPass
  let (R, base) :=
    if c.basePipelineHandle ≠ VK_NULL_HANDLE then R.biasedIndex .graphicsPipeline c.basePipelineHandle
    else (R, c.basePipelineHandle)
  match hs : loop copyStage R 0 c.pStages.items with
  | .error e => throw e
  | .ok (R, stages) =>
  let R ← R.copyArray CLayout.pipelineColorBlendAttachmentState (arrayCount blend.pAttachments)
  let R ← R.copyArray CLayout.vertexInputAttributeDescription
    (arrayCount vi.pVertexAttributeDescriptions)
  let R ← R.copyArray CLayout.vertexInputBindingDescription (arrayCount vi.pVertexBindingDescriptions)
  let (R, ms) ← R.copySampleMask ms
  let R ← R.copyArray CLayout.uint32 (arrayCount dyn.pDynamicStates)
  pure (R, { c with
    pStages := ⟨stages, by rw [loop_length hs]; exact c.pStages.bounded⟩
    pTessellationState := some tess
    pColorBlendState := some blend
    pVertexInputState := some vi
    pMultisampleState := some ms
    pViewportState := some vp
    pInputAssemblyState := some ia
    pDepthStencilState := some ds
    pRasterizationState := some rs
    pDynamicState := some dyn
    renderPass := renderPass
    basePipelineHandle := base })

/-- The subpass loop of `copy_render_pass`: a resolve array copied with count 0 is null. -/
def copySubpass (R : StateRecorder) (_ : Nat) (sub : VkSubpassDescription) :
    Except Fault (StateRecorder × VkSubpassDescription) := do
  let R ← match sub.pDepthStencilAttachment with
    | some _ => R.copyArray CLayout.attachmentReference 1
    | none => pure R
  let R ← R.copyArray CLayout.attachmentReference (arrayCount sub.pColorAttachments)
  let (R, sub) ← match sub.pResolveAttachments with
    | some _ => do
      let R ← R.copyArray CLayout.attachmentReference (arrayCount sub.pColorAttachments)
      if sub.pColorAttachments.items.length = 0 then
        pure (R, { sub with pResolveAttachments := none, resolve_length := by simp })
      else pure (R, sub)
    | none => pure (R, sub)
  let R ← R.copyArray CLayout.attachmentReference (arrayCount sub.pInputAttachments)
  let R ← R.copyArray CLayout.uint32 (arrayCount sub.pPreserveAttachments)
  pure (R, sub)

def copyRenderPass (R : StateRecorder) (c : VkRenderPassCreateInfo) :
    Except Fault (StateRecorder × VkRenderPassCreateInfo) := do
  let R ← R.copyArray CLayout.attachmentDescription (arrayCount c.pAttachments)
  let R ← R.copyArray CLayout.subpassDescription (arrayCount c.pSubpasses)
  let R ← R.copyArray CLayout.subpassDependency (arrayCount c.pDependencies)
  match h : loop copySubpass R 0 c.pSubpasses.items with
  | .error e => throw e
  | .ok (R, subs) =>
    pure (R, { c with pSubpasses := ⟨subs, by rw [loop_length h]; exact c.pSubpasses.bounded⟩ })

/-- The `copy_<kind>` a registration runs. -/
def copy (R : StateRecorder) : (k : Kind) → k.Info → Except Fault (StateRecorder × k.Info)
  | .sampler, c => R.copySampler c
  | .descriptorSetLayout, c => R.copyDescriptorSetLayout c
  | .pipelineLayout, c => R.copyPipelineLayout c
  | .shaderModule, c => R.copyShaderModule c
  | .renderPass, c => R.copyRenderPass c
  | .computePipeline, c => R.copyComputePipeline c
  | .graphicsPipeline, c => R.copyGraphicsPipeline c

/-! ## Registration -/

/-- `register_<kind>(hash, info)`: the index is the registry's old size as an `unsigned`. -/
def register (R : StateRecorder) (k : Kind) (hash : Hash) (info : k.Info) :
    Except Fault (StateRecorder × UInt32) := do
  let index := UInt32.ofNat (R.entries k).length
  let (R, copied) ← R.copy k info
  pure ({ R with entries := Function.update R.entries k (R.entries k ++ [⟨hash, copied⟩]) }, index)

def registerSampler (R : StateRecorder) (hash : Hash) (info : VkSamplerCreateInfo) :=
  R.register .sampler hash info
def registerDescriptorSetLayout (R : StateRecorder) (hash : Hash)
    (info : VkDescriptorSetLayoutCreateInfo) :=
  R.register .descriptorSetLayout hash info
def registerPipelineLayout (R : StateRecorder) (hash : Hash) (info : VkPipelineLayoutCreateInfo) :=
  R.register .pipelineLayout hash info
def registerShaderModule (R : StateRecorder) (hash : Hash) (info : VkShaderModuleCreateInfo) :=
  R.register .shaderModule hash info
def registerRenderPass (R : StateRecorder) (hash : Hash) (info : VkRenderPassCreateInfo) :=
  R.register .renderPass hash info
def registerComputePipeline (R : StateRecorder) (hash : Hash) (info : VkComputePipelineCreateInfo) :=
  R.register .computePipeline hash info
def registerGraphicsPipeline (R : StateRecorder) (hash : Hash)
    (info : VkGraphicsPipelineCreateInfo) :=
  R.register .graphicsPipeline hash info

end StateRecorder

end Fossilize
