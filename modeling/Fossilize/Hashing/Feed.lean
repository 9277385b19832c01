import Fossilize.Recorder

/-! # The token streams of `Hashing::compute_hash_*`

The `Hasher` is declared outside the sources: `digest` stands for it, and every result
about hashes holds for any digest.
-/

namespace Fossilize

/-- One call on the `Hasher`: `u32`, `s32`, `f32`, `u64`, `string` and `data`. -/
inductive Token
  | u32 (v : UInt32)
  | s32 (v : Int32)
  | f32 (v : F32)
  | u64 (v : UInt64)
  | string (s : String)
  | data (bytes : List UInt8)
  deriving DecidableEq, Repr

namespace Hashing

/-- A `for` loop whose body feeds `f x`; the first exception ends it. -/
def hashEach {α : Type} (f : α → Except Fault (List Token)) : List α → Except Fault (List Token)
  | [] => pure []
  | x :: xs => do
    let a ← f x
    let b ← hashEach f xs
    pure (a ++ b)

/-- Two loops feed alike when their bodies agree element by element. -/
theorem hashEach_map {α β : Type} {f : α → Except Fault (List Token)}
    (g : β → Except Fault (List Token)) (σ : α → β) {l : List α} (h : ∀ x ∈ l, f x = g (σ x)) :
    hashEach f l = hashEach g (l.map σ) := by
  induction l with
  | nil => rfl
  | cons x xs ih =>
    simp only [hashEach, List.map_cons, h x (List.mem_cons_self _ _),
      ih fun y hy => h y (List.mem_cons_of_mem _ hy)]

/-- `h.u64(recorder.get_hash_for_<kind>(handle))`. -/
def hashLookup (lookup : Except Fault Hash) : Except Fault (List Token) :=
  (fun v => [Token.u64 v]) <$> lookup

/-! ## Descriptor set layouts, pipeline layouts, shader modules -/

def hashBinding (R : StateRecorder) (b : VkDescriptorSetLayoutBinding) :
    Except Fault (List Token) := do
  let samplers ← match b.pImmutableSamplers with
    | some l =>
      if b.descriptorType = VK_DESCRIPTOR_TYPE_COMBINED_IMAGE_SAMPLER ∨
          b.descriptorType = VK_DESCRIPTOR_TYPE_SAMPLER then
        hashEach (fun s => hashLookup (R.getHashForSampler s)) l
      else pure []
    | none => pure []
  pure ([.u32 b.binding, .u32 b.descriptorCount, .u32 b.descriptorType, .u32 b.stageFlags] ++
    samplers)

def descriptorSetLayoutTokens (R : StateRecorder) (layout : VkDescriptorSetLayoutCreateInfo) :
    Except Fault (List Token) := do
  let bindings ← hashEach (hashBinding R) layout.pBindings.items
  pure ([.u32 layout.bindingCount, .u32 layout.flags] ++ bindings)

def pushConstantRangeTokens (push : VkPushConstantRange) : List Token :=
  [.u32 push.stageFlags, .u32 push.size, .u32 push.offset]

/-- A set layout of a pipeline layout: its hash, or `u32(0)` for a null one. -/
def setLayoutTokens (R : StateRecorder) (setLayout : Handle) : Except Fault (List Token) :=
  if setLayout ≠ VK_NULL_HANDLE then hashLookup (R.getHashForDescriptorSetLayout setLayout)
  else pure [.u32 0]

def pipelineLayoutTokens (R : StateRecorder) (layout : VkPipelineLayoutCreateInfo) :
    Except Fault (List Token) := do
  let sets ← hashEach (setLayoutTokens R) layout.pSetLayouts.items
  pure ([.u32 layout.pSetLayouts.count] ++ sets ++ [.u32 layout.pPushConstantRanges.count] ++
    layout.pPushConstantRanges.items.flatMap pushConstantRangeTokens ++ [.u32 layout.flags])

def shaderModuleTokens (createInfo : VkShaderModuleCreateInfo) : List Token :=
  [.data createInfo.pCode, .u32 createInfo.flags]

def mapEntryTokens (e : VkSpecializationMapEntry) : List Token :=
  [.u32 e.offset, .u32 e.size.toUInt32, .u32 e.constantID]

/-- `hash_specialization_info`: the `size_t` fields `dataSize` and `size` go through
`h.u32`, which keeps their low 32 bits. -/
def hashSpecializationInfo (spec : VkSpecializationInfo) : List Token :=
  [.data spec.pData, .u32 spec.dataSize.toUInt32, .u32 spec.pMapEntries.count] ++
    spec.pMapEntries.items.flatMap mapEntryTokens

/-- A stage's specialization info, or `u32(0)` when there is none. -/
def specializationTokens : Option VkSpecializationInfo → List Token
  | some spec => hashSpecializationInfo spec
  | none => [.u32 0]

/-! ## Graphics pipelines -/

/-- The nine `dynamic_*` flags `compute_hash_graphics_pipeline` sets from the dynamic states. -/
structure DynamicFlags where
  stencilCompare : Bool := false
  stencilReference : Bool := false
  stencilWriteMask : Bool := false
  depthBounds : Bool := false
  depthBias : Bool := false
  lineWidth : Bool := false
  blendConstants : Bool := false
  scissor : Bool := false
  viewport : Bool := false
  deriving DecidableEq, Repr

/-- One case of the `switch` over `pDynamicStates[i]`. -/
def DynamicFlags.set (d : DynamicFlags) (s : UInt32) : DynamicFlags :=
  if s = VK_DYNAMIC_STATE_DEPTH_BIAS then { d with depthBias := true }
  else if s = VK_DYNAMIC_STATE_DEPTH_BOUNDS then { d with depthBounds := true }
  else if s = VK_DYNAMIC_STATE_STENCIL_WRITE_MASK then { d with stencilWriteMask := true }
  else if s = VK_DYNAMIC_STATE_STENCIL_REFERENCE then { d with stencilReference := true }
  else if s = VK_DYNAMIC_STATE_STENCIL_COMPARE_MASK then { d with stencilCompare := true }
  else if s = VK_DYNAMIC_STATE_BLEND_CONSTANTS then { d with blendConstants := true }
  else if s = VK_DYNAMIC_STATE_SCISSOR then { d with scissor := true }
  else if s = VK_DYNAMIC_STATE_VIEWPORT then { d with viewport := true }
  else if s = VK_DYNAMIC_STATE_LINE_WIDTH then { d with lineWidth := true }
  else d

def dynamicFlags : Option VkPipelineDynamicStateCreateInfo → DynamicFlags
  | some state => state.pDynamicStates.items.foldl DynamicFlags.set {}
  | none => {}

def dynamicStateTokens : Option VkPipelineDynamicStateCreateInfo → List Token
  | some state => [.u32 state.pDynamicStates.count, .u32 state.flags] ++
    state.pDynamicStates.items.map .u32
  | none => [.u32 0]

def depthStencilTokens (d : DynamicFlags) : Option VkPipelineDepthStencilStateCreateInfo → List Token
  | some ds =>
    [.u32 ds.flags, .u32 ds.depthBoundsTestEnable, .u32 ds.depthCompareOp, .u32 ds.depthTestEnable,
      .u32 ds.depthWriteEnable, .u32 ds.front.compareOp, .u32 ds.front.depthFailOp,
      .u32 ds.front.failOp, .u32 ds.front.passOp, .u32 ds.back.compareOp, .u32 ds.back.depthFailOp,
      .u32 ds.back.failOp, .u32 ds.back.passOp, .u32 ds.stencilTestEnable] ++
    (if !d.depthBounds ∧ ds.depthBoundsTestEnable ≠ 0 then
      [.f32 ds.minDepthBounds, .f32 ds.maxDepthBounds] else []) ++
    (if ds.stencilTestEnable ≠ 0 then
      (if !d.stencilCompare then [.u32 ds.front.compareMask, .u32 ds.back.compareMask] else []) ++
      (if !d.stencilReference then [.u32 ds.front.reference, .u32 ds.back.reference] else []) ++
      (if !d.stencilWriteMask then [.u32 ds.front.writeMask, .u32 ds.back.writeMask] else [])
    else [])
  | none => [.u32 0]

def inputAssemblyTokens : Option VkPipelineInputAssemblyStateCreateInfo → List Token
  | some ia => [.u32 ia.flags, .u32 ia.primitiveRestartEnable, .u32 ia.topology]
  | none => [.u32 0]

def rasterizationTokens (d : DynamicFlags) :
    Option VkPipelineRasterizationStateCreateInfo → List Token
  | some rs =>
    [.u32 rs.flags, .u32 rs.cullMode, .u32 rs.depthClampEnable, .u32 rs.frontFace,
      .u32 rs.rasterizerDiscardEnable, .u32 rs.polygonMode, .u32 rs.depthBiasEnable] ++
    (if rs.depthBiasEnable ≠ 0 ∧ !d.depthBias then
      [.f32 rs.depthBiasClamp, .f32 rs.depthBiasSlopeFactor, .f32 rs.depthBiasConstantFactor]
    else []) ++
    (if !d.lineWidth then [.f32 rs.lineWidth] else [])
  | none => [.u32 0]

/-- Unlike every other block, an absent multisample state feeds nothing. -/
def multisampleTokens : Option VkPipelineMultisampleStateCreateInfo → List Token
  | some ms =>
    [.u32 ms.flags, .u32 ms.alphaToCoverageEnable, .u32 ms.alphaToOneEnable,
      .f32 ms.minSampleShading, .u32 ms.rasterizationSamples, .u32 ms.sampleShadingEnable] ++
    (match ms.pSampleMask with
      | some mask => mask.map .u32
      | none => [.u32 0])
  | none => []

/-- `count` elements read through a pointer that may be null. -/
def readArray {α : Type} (p : Option (List α)) (count : UInt32) : Except Fault (List α) :=
  match p with
  | some l => pure l
  | none => if count = 0 then pure [] else throw .invalidRead

def scissorTokens (r : VkRect2D) : List Token := [.s32 r.x, .s32 r.y, .u32 r.width, .u32 r.height]

def viewportTokens (v : VkViewport) : List Token :=
  [.f32 v.x, .f32 v.y, .f32 v.width, .f32 v.height, .f32 v.minDepth, .f32 v.maxDepth]

/-- The rectangles of a viewport state, read through their pointer unless dynamic. -/
def rectangleTokens {α : Type} (enc : α → List Token) (dynamic : Bool) (p : Option (List α))
    (count : UInt32) : Except Fault (List Token) :=
  if !dynamic then (·.flatMap enc) <$> readArray p count else pure []

def viewportStateTokens (d : DynamicFlags) :
    Option VkPipelineViewportStateCreateInfo → Except Fault (List Token)
  | some vp => do
    let scissors ← rectangleTokens scissorTokens d.scissor vp.pScissors vp.scissorCount
    let viewports ← rectangleTokens viewportTokens d.viewport vp.pViewports vp.viewportCount
    pure ([.u32 vp.flags, .u32 vp.scissorCount, .u32 vp.viewportCount] ++ scissors ++ viewports)
  | none => pure [.u32 0]

def attributeTokens (a : VkVertexInputAttributeDescription) : List Token :=
  [.u32 a.offset, .u32 a.binding, .u32 a.format, .u32 a.location]

def vertexBindingTokens (b : VkVertexInputBindingDescription) : List Token :=
  [.u32 b.binding, .u32 b.inputRate, .u32 b.stride]

def vertexInputTokens : Option VkPipelineVertexInputStateCreateInfo → List Token
  | some vi =>
    [.u32 vi.flags, .u32 vi.pVertexAttributeDescriptions.count,
      .u32 vi.pVertexBindingDescriptions.count] ++
    vi.pVertexAttributeDescriptions.items.flatMap attributeTokens ++
    vi.pVertexBindingDescriptions.items.flatMap vertexBindingTokens
  | none => [.u32 0]

def attachmentTokens (a : VkPipelineColorBlendAttachmentState) : List Token :=
  if a.blendEnable ≠ 0 then
    [.u32 a.blendEnable, .u32 a.colorWriteMask, .u32 a.alphaBlendOp, .u32 a.colorBlendOp,
      .u32 a.dstAlphaBlendFactor, .u32 a.srcAlphaBlendFactor, .u32 a.dstColorBlendFactor,
      .u32 a.srcColorBlendFactor]
  else [.u32 a.blendEnable, .u32 0]

/-- The condition that sets `need_blend_constants`: only `CONSTANT_ALPHA` and
`CONSTANT_COLOR` are tested, not their `ONE_MINUS_` forms. -/
def readsBlendConstants (a : VkPipelineColorBlendAttachmentState) : Prop :=
  a.dstAlphaBlendFactor = VK_BLEND_FACTOR_CONSTANT_ALPHA ∨
  a.dstAlphaBlendFactor = VK_BLEND_FACTOR_CONSTANT_COLOR ∨
  a.srcAlphaBlendFactor = VK_BLEND_FACTOR_CONSTANT_ALPHA ∨
  a.srcAlphaBlendFactor = VK_BLEND_FACTOR_CONSTANT_COLOR ∨
  a.dstColorBlendFactor = VK_BLEND_FACTOR_CONSTANT_ALPHA ∨
  a.dstColorBlendFactor = VK_BLEND_FACTOR_CONSTANT_COLOR ∨
  a.srcColorBlendFactor = VK_BLEND_FACTOR_CONSTANT_ALPHA ∨
  a.srcColorBlendFactor = VK_BLEND_FACTOR_CONSTANT_COLOR

instance (a : VkPipelineColorBlendAttachmentState) : Decidable (readsBlendConstants a) := by
  unfold readsBlendConstants; infer_instance

/-- `need_blend_constants` after the attachment loop. -/
def needBlendConstants (attachments : List VkPipelineColorBlendAttachmentState) : Prop :=
  ∃ a ∈ attachments, a.blendEnable ≠ 0 ∧ readsBlendConstants a

instance (attachments : List VkPipelineColorBlendAttachmentState) :
    Decidable (needBlendConstants attachments) := by
  unfold needBlendConstants; infer_instance

def colorBlendTokens (d : DynamicFlags) : Option VkPipelineColorBlendStateCreateInfo → List Token
  | some b =>
    [.u32 b.flags, .u32 b.pAttachments.count, .u32 b.logicOpEnable, .u32 b.logicOp] ++
    b.pAttachments.items.flatMap attachmentTokens ++
    (if needBlendConstants b.pAttachments.items ∧ !d.blendConstants then b.blendConstants.map .f32
    else [])
  | none => [.u32 0]

def tessellationTokens : Option VkPipelineTessellationStateCreateInfo → List Token
  | some tess => [.u32 tess.flags, .u32 tess.patchControlPoints]
  | none => [.u32 0]

def stageTokens (R : StateRecorder) (stage : VkPipelineShaderStageCreateInfo) :
    Except Fault (List Token) := do
  let module ← R.getHashForShaderModule stage.module
  pure ([.u32 stage.flags, .string stage.pName, .u32 stage.stage, .u64 module] ++
    specializationTokens stage.pSpecializationInfo)

/-- `h.u64(base hash)` and `h.s32(basePipelineIndex)` for a non-null base pipeline. -/
def basePipelineTokens (lookup : Handle → Except Fault Hash) (base : Handle) (index : Int32)
    (absent : List Token) : Except Fault (List Token) :=
  if base ≠ VK_NULL_HANDLE then (fun v => [Token.u64 v, .s32 index]) <$> lookup base
  else pure absent

def graphicsPipelineTokens (R : StateRecorder) (createInfo : VkGraphicsPipelineCreateInfo) :
    Except Fault (List Token) := do
  let base ← basePipelineTokens R.getHashForGraphicsPipelineHandle createInfo.basePipelineHandle
    createInfo.basePipelineIndex []
  let layout ← R.getHashForPipelineLayout createInfo.layout
  let renderPass ← R.getHashForRenderPass createInfo.renderPass
  let d := dynamicFlags createInfo.pDynamicState
  let viewport ← viewportStateTokens d createInfo.pViewportState
  let stages ← hashEach (stageTokens R) createInfo.pStages.items
  pure ([.u32 createInfo.flags] ++ base ++
    [.u64 layout, .u64 renderPass, .u32 createInfo.subpass, .u32 createInfo.pStages.count] ++
    dynamicStateTokens createInfo.pDynamicState ++ depthStencilTokens d createInfo.pDepthStencilState ++
    inputAssemblyTokens createInfo.pInputAssemblyState ++
    rasterizationTokens d createInfo.pRasterizationState ++
    multisampleTokens createInfo.pMultisampleState ++ viewport ++
    vertexInputTokens createInfo.pVertexInputState ++ colorBlendTokens d createInfo.pColorBlendState ++
    tessellationTokens createInfo.pTessellationState ++ stages)

def computePipelineTokens (R : StateRecorder) (createInfo : VkComputePipelineCreateInfo) :
    Except Fault (List Token) := do
  let layout ← R.getHashForPipelineLayout createInfo.layout
  let base ← basePipelineTokens R.getHashForComputePipelineHandle createInfo.basePipelineHandle
    createInfo.basePipelineIndex [.u32 0]
  let module ← R.getHashForShaderModule createInfo.stage.module
  pure ([.u64 layout, .u32 createInfo.flags] ++ base ++
    [.u64 module, .string createInfo.stage.pName, .u32 createInfo.stage.flags,
      .u32 createInfo.stage.stage] ++ specializationTokens createInfo.stage.pSpecializationInfo)

/-! ## Render passes -/

def hashAttachment (att : VkAttachmentDescription) : List Token :=
  [.u32 att.flags, .u32 att.initialLayout, .u32 att.finalLayout, .u32 att.format, .u32 att.loadOp,
    .u32 att.storeOp, .u32 att.stencilLoadOp, .u32 att.stencilStoreOp, .u32 att.samples]

def hashDependency (dep : VkSubpassDependency) : List Token :=
  [.u32 dep.dependencyFlags, .u32 dep.dstAccessMask, .u32 dep.srcAccessMask, .u32 dep.srcSubpass,
    .u32 dep.dstSubpass, .u32 dep.srcStageMask, .u32 dep.dstStageMask]

def referenceTokens (ref : VkAttachmentReference) : List Token := [.u32 ref.attachment, .u32 ref.layout]

def hashSubpass (subpass : VkSubpassDescription) : List Token :=
  [.u32 subpass.flags, .u32 subpass.pColorAttachments.count, .u32 subpass.pInputAttachments.count,
    .u32 subpass.pPreserveAttachments.count, .u32 subpass.pipelineBindPoint] ++
  subpass.pPreserveAttachments.items.map .u32 ++
  subpass.pColorAttachments.items.flatMap referenceTokens ++
  subpass.pInputAttachments.items.flatMap referenceTokens ++
  (match subpass.pResolveAttachments with
    | some resolve => resolve.flatMap referenceTokens
    | none => []) ++
  (match subpass.pDepthStencilAttachment with
    | some ref => referenceTokens ref
    | none => [.u32 0])

def renderPassTokens (createInfo : VkRenderPassCreateInfo) : List Token :=
  [.u32 createInfo.pAttachments.count, .u32 createInfo.pDependencies.count,
    .u32 createInfo.pSubpasses.count] ++
  createInfo.pAttachments.items.flatMap hashAttachment ++
  createInfo.pDependencies.items.flatMap hashDependency ++
  createInfo.pSubpasses.items.flatMap hashSubpass

/-! ## The six `compute_hash_*` -/

section
-- `digest` is `Hasher::get()` after the tokens were fed.
variable (digest : List Token → Hash)

def computeHashDescriptorSetLayout (R : StateRecorder) (layout : VkDescriptorSetLayoutCreateInfo) :
    Except Fault Hash :=
  digest <$> descriptorSetLayoutTokens R layout

def computeHashPipelineLayout (R : StateRecorder) (layout : VkPipelineLayoutCreateInfo) :
    Except Fault Hash :=
  digest <$> pipelineLayoutTokens R layout

def computeHashShaderModule (_R : StateRecorder) (createInfo : VkShaderModuleCreateInfo) :
    Except Fault Hash :=
  pure (digest (shaderModuleTokens createInfo))

def computeHashGraphicsPipeline (R : StateRecorder) (createInfo : VkGraphicsPipelineCreateInfo) :
    Except Fault Hash :=
  digest <$> graphicsPipelineTokens R createInfo

def computeHashComputePipeline (R : StateRecorder) (createInfo : VkComputePipelineCreateInfo) :
    Except Fault Hash :=
  digest <$> computePipelineTokens R createInfo

def computeHashRenderPass (_R : StateRecorder) (createInfo : VkRenderPassCreateInfo) :
    Except Fault Hash :=
  pure (digest (renderPassTokens createInfo))

end

end Hashing

end Fossilize
