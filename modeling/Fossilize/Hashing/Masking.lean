import Fossilize.Hashing.Feed

/-! # Values the driver ignores do not reach the hash

A field that a declared dynamic state overrides or a disabled test never reads feeds no
token, nor do the immutable samplers of a binding that is not a sampler binding.
-/

namespace Fossilize

namespace Hashing

/-! ## The dynamic-state scan -/

/-- `pDynamicStates` lists `state`. -/
def declares : Option VkPipelineDynamicStateCreateInfo → UInt32 → Bool
  | some s, state => s.pDynamicStates.items.contains state
  | none, _ => false

/-- Each flag is whether its dynamic state is declared. -/
def declaredFlags (dyn : Option VkPipelineDynamicStateCreateInfo) : DynamicFlags where
  stencilCompare := declares dyn VK_DYNAMIC_STATE_STENCIL_COMPARE_MASK
  stencilReference := declares dyn VK_DYNAMIC_STATE_STENCIL_REFERENCE
  stencilWriteMask := declares dyn VK_DYNAMIC_STATE_STENCIL_WRITE_MASK
  depthBounds := declares dyn VK_DYNAMIC_STATE_DEPTH_BOUNDS
  depthBias := declares dyn VK_DYNAMIC_STATE_DEPTH_BIAS
  lineWidth := declares dyn VK_DYNAMIC_STATE_LINE_WIDTH
  blendConstants := declares dyn VK_DYNAMIC_STATE_BLEND_CONSTANTS
  scissor := declares dyn VK_DYNAMIC_STATE_SCISSOR
  viewport := declares dyn VK_DYNAMIC_STATE_VIEWPORT

/-- One case of the `switch` sets exactly the flag of its state. -/
theorem DynamicFlags.set_eq (d : DynamicFlags) (s : UInt32) :
    d.set s =
      { stencilCompare := d.stencilCompare || s == VK_DYNAMIC_STATE_STENCIL_COMPARE_MASK
        stencilReference := d.stencilReference || s == VK_DYNAMIC_STATE_STENCIL_REFERENCE
        stencilWriteMask := d.stencilWriteMask || s == VK_DYNAMIC_STATE_STENCIL_WRITE_MASK
        depthBounds := d.depthBounds || s == VK_DYNAMIC_STATE_DEPTH_BOUNDS
        depthBias := d.depthBias || s == VK_DYNAMIC_STATE_DEPTH_BIAS
        lineWidth := d.lineWidth || s == VK_DYNAMIC_STATE_LINE_WIDTH
        blendConstants := d.blendConstants || s == VK_DYNAMIC_STATE_BLEND_CONSTANTS
        scissor := d.scissor || s == VK_DYNAMIC_STATE_SCISSOR
        viewport := d.viewport || s == VK_DYNAMIC_STATE_VIEWPORT } := by
  unfold DynamicFlags.set
  repeat' refine ite_eq_iff'.mpr ⟨fun _ => ?_, fun _ => ?_⟩
  all_goals simp_all [Bool.beq_eq_decide_eq, VK_DYNAMIC_STATE_STENCIL_COMPARE_MASK,
    VK_DYNAMIC_STATE_STENCIL_REFERENCE, VK_DYNAMIC_STATE_STENCIL_WRITE_MASK,
    VK_DYNAMIC_STATE_DEPTH_BOUNDS, VK_DYNAMIC_STATE_DEPTH_BIAS, VK_DYNAMIC_STATE_LINE_WIDTH,
    VK_DYNAMIC_STATE_BLEND_CONSTANTS, VK_DYNAMIC_STATE_SCISSOR, VK_DYNAMIC_STATE_VIEWPORT]

theorem foldl_set (l : List UInt32) (d : DynamicFlags) :
    l.foldl DynamicFlags.set d =
      { stencilCompare := d.stencilCompare || l.contains VK_DYNAMIC_STATE_STENCIL_COMPARE_MASK
        stencilReference := d.stencilReference || l.contains VK_DYNAMIC_STATE_STENCIL_REFERENCE
        stencilWriteMask := d.stencilWriteMask || l.contains VK_DYNAMIC_STATE_STENCIL_WRITE_MASK
        depthBounds := d.depthBounds || l.contains VK_DYNAMIC_STATE_DEPTH_BOUNDS
        depthBias := d.depthBias || l.contains VK_DYNAMIC_STATE_DEPTH_BIAS
        lineWidth := d.lineWidth || l.contains VK_DYNAMIC_STATE_LINE_WIDTH
        blendConstants := d.blendConstants || l.contains VK_DYNAMIC_STATE_BLEND_CONSTANTS
        scissor := d.scissor || l.contains VK_DYNAMIC_STATE_SCISSOR
        viewport := d.viewport || l.contains VK_DYNAMIC_STATE_VIEWPORT } := by
  induction l generalizing d with
  | nil => simp
  | cons s l ih =>
    simp only [List.foldl_cons, ih, DynamicFlags.set_eq, List.contains_cons, Bool.or_assoc,
      Bool.beq_comm]

/-- The scan leaves each flag set exactly when its state is declared. -/
theorem dynamicFlags_eq (dyn : Option VkPipelineDynamicStateCreateInfo) :
    dynamicFlags dyn = declaredFlags dyn := by
  cases dyn with
  | none => rfl
  | some s => simp [dynamicFlags, declaredFlags, declares, foldl_set]

/-! ## Resetting what the driver ignores -/

section

variable (dyn : Option VkPipelineDynamicStateCreateInfo)

/-- Resets the stencil fields a dynamic state or a disabled stencil test makes unused. -/
def maskStencilOp (compare reference writeMask : Bool) (s : VkStencilOpState) : VkStencilOpState :=
  { s with
    compareMask := if compare then 0 else s.compareMask
    reference := if reference then 0 else s.reference
    writeMask := if writeMask then 0 else s.writeMask }

def maskDepthStencil (ds : VkPipelineDepthStencilStateCreateInfo) :
    VkPipelineDepthStencilStateCreateInfo :=
  let bounds := declares dyn VK_DYNAMIC_STATE_DEPTH_BOUNDS || ds.depthBoundsTestEnable == 0
  let off := ds.stencilTestEnable == 0
  let compare := declares dyn VK_DYNAMIC_STATE_STENCIL_COMPARE_MASK || off
  let reference := declares dyn VK_DYNAMIC_STATE_STENCIL_REFERENCE || off
  let writeMask := declares dyn VK_DYNAMIC_STATE_STENCIL_WRITE_MASK || off
  { ds with
    minDepthBounds := if bounds then 0 else ds.minDepthBounds
    maxDepthBounds := if bounds then 0 else ds.maxDepthBounds
    front := maskStencilOp compare reference writeMask ds.front
    back := maskStencilOp compare reference writeMask ds.back }

def maskRasterization (rs : VkPipelineRasterizationStateCreateInfo) :
    VkPipelineRasterizationStateCreateInfo :=
  let bias := declares dyn VK_DYNAMIC_STATE_DEPTH_BIAS || rs.depthBiasEnable == 0
  { rs with
    depthBiasConstantFactor := if bias then 0 else rs.depthBiasConstantFactor
    depthBiasClamp := if bias then 0 else rs.depthBiasClamp
    depthBiasSlopeFactor := if bias then 0 else rs.depthBiasSlopeFactor
    lineWidth := if declares dyn VK_DYNAMIC_STATE_LINE_WIDTH then 0 else rs.lineWidth }

def maskViewport (vp : VkPipelineViewportStateCreateInfo) : VkPipelineViewportStateCreateInfo :=
  { vp with
    pViewports := if declares dyn VK_DYNAMIC_STATE_VIEWPORT then none else vp.pViewports
    pScissors := if declares dyn VK_DYNAMIC_STATE_SCISSOR then none else vp.pScissors
    viewports_length := by split; · simp
                           · exact vp.viewports_length
    scissors_length := by split; · simp
                          · exact vp.scissors_length }

/-- `CONSTANT_COLOR`, `ONE_MINUS_CONSTANT_COLOR`, `CONSTANT_ALPHA` or
`ONE_MINUS_CONSTANT_ALPHA`. -/
def readsConstants (factor : UInt32) : Bool :=
  factor == VK_BLEND_FACTOR_CONSTANT_COLOR || factor == VK_BLEND_FACTOR_ONE_MINUS_CONSTANT_COLOR ||
    factor == VK_BLEND_FACTOR_CONSTANT_ALPHA || factor == VK_BLEND_FACTOR_ONE_MINUS_CONSTANT_ALPHA

/-- A blending attachment with a factor that reads the blend constants. -/
def usesBlendConstants (a : VkPipelineColorBlendAttachmentState) : Bool :=
  a.blendEnable != 0 && (readsConstants a.srcColorBlendFactor || readsConstants a.dstColorBlendFactor ||
    readsConstants a.srcAlphaBlendFactor || readsConstants a.dstAlphaBlendFactor)

def maskAttachment (a : VkPipelineColorBlendAttachmentState) : VkPipelineColorBlendAttachmentState :=
  if a.blendEnable = 0 then
    { a with
      srcColorBlendFactor := 0, dstColorBlendFactor := 0, colorBlendOp := 0
      srcAlphaBlendFactor := 0, dstAlphaBlendFactor := 0, alphaBlendOp := 0 }
  else a

def maskColorBlend (b : VkPipelineColorBlendStateCreateInfo) : VkPipelineColorBlendStateCreateInfo :=
  { b with
    pAttachments := b.pAttachments.map maskAttachment
    blendConstants :=
      if declares dyn VK_DYNAMIC_STATE_BLEND_CONSTANTS || !b.pAttachments.items.any usesBlendConstants
      then [0, 0, 0, 0] else b.blendConstants
    blendConstants_length := by split <;> simp [b.blendConstants_length] }

end

/-- The pipeline with every field the hash must ignore reset: two pipelines that differ only
in such fields have the same mask. -/
def maskGraphicsPipeline (p : VkGraphicsPipelineCreateInfo) : VkGraphicsPipelineCreateInfo :=
  { p with
    pDepthStencilState := p.pDepthStencilState.map (maskDepthStencil p.pDynamicState)
    pRasterizationState := p.pRasterizationState.map (maskRasterization p.pDynamicState)
    pViewportState := p.pViewportState.map (maskViewport p.pDynamicState)
    pColorBlendState := p.pColorBlendState.map (maskColorBlend p.pDynamicState) }

def maskBinding (b : VkDescriptorSetLayoutBinding) : VkDescriptorSetLayoutBinding :=
  if b.descriptorType = VK_DESCRIPTOR_TYPE_COMBINED_IMAGE_SAMPLER ∨
      b.descriptorType = VK_DESCRIPTOR_TYPE_SAMPLER then b
  else { b with pImmutableSamplers := none, immutableSamplers_length := by simp }

def maskDescriptorSetLayout (c : VkDescriptorSetLayoutCreateInfo) : VkDescriptorSetLayoutCreateInfo :=
  { c with pBindings := c.pBindings.map maskBinding }

/-! ## Masked fields feed no token -/

section

variable (dyn : Option VkPipelineDynamicStateCreateInfo)

theorem depthStencilTokens_mask (o : Option VkPipelineDepthStencilStateCreateInfo) :
    depthStencilTokens (declaredFlags dyn) (o.map (maskDepthStencil dyn)) =
      depthStencilTokens (declaredFlags dyn) o := by
  cases o with
  | none => rfl
  | some ds =>
    by_cases hs : ds.stencilTestEnable = 0 <;>
      simp +contextual [depthStencilTokens, maskDepthStencil, maskStencilOp, declaredFlags, hs]

theorem rasterizationTokens_mask (o : Option VkPipelineRasterizationStateCreateInfo) :
    rasterizationTokens (declaredFlags dyn) (o.map (maskRasterization dyn)) =
      rasterizationTokens (declaredFlags dyn) o := by
  cases o with
  | none => rfl
  | some rs =>
    by_cases hb : rs.depthBiasEnable = 0 <;>
      simp +contextual [rasterizationTokens, maskRasterization, declaredFlags, hb]

theorem viewportStateTokens_mask (o : Option VkPipelineViewportStateCreateInfo) :
    viewportStateTokens (declaredFlags dyn) (o.map (maskViewport dyn)) =
      viewportStateTokens (declaredFlags dyn) o := by
  cases o with
  | none => rfl
  | some vp => simp +contextual [viewportStateTokens, rectangleTokens, maskViewport, declaredFlags]

theorem attachmentTokens_mask (a : VkPipelineColorBlendAttachmentState) :
    attachmentTokens (maskAttachment a) = attachmentTokens a := by
  by_cases h : a.blendEnable = 0 <;> simp [maskAttachment, attachmentTokens, h]

/-- Masking touches no blending attachment, so `need_blend_constants` is unchanged. -/
theorem needBlendConstants_mask (l : List VkPipelineColorBlendAttachmentState) :
    needBlendConstants (l.map maskAttachment) ↔ needBlendConstants l := by
  simp only [needBlendConstants, List.mem_map, exists_exists_and_eq_and]
  refine exists_congr fun a => and_congr_right fun _ => ?_
  by_cases h : a.blendEnable = 0 <;> simp [maskAttachment, h]

/-- The two factors the code tests are among the four that read the constants. -/
theorem usesBlendConstants_of_need {l : List VkPipelineColorBlendAttachmentState}
    (h : needBlendConstants l) : l.any usesBlendConstants = true := by
  obtain ⟨a, ha, he, hr⟩ := h
  refine List.any_eq_true.mpr ⟨a, ha, ?_⟩
  unfold readsBlendConstants at hr
  rcases hr with h | h | h | h | h | h | h | h <;> simp [usesBlendConstants, readsConstants, he, h]

theorem colorBlendTokens_mask (o : Option VkPipelineColorBlendStateCreateInfo) :
    colorBlendTokens (declaredFlags dyn) (o.map (maskColorBlend dyn)) =
      colorBlendTokens (declaredFlags dyn) o := by
  cases o with
  | none => rfl
  | some b =>
    simp only [Option.map_some', colorBlendTokens, maskColorBlend, declaredFlags, VkArray.count_map,
      VkArray.map_items, List.flatMap_map, attachmentTokens_mask, needBlendConstants_mask]
    by_cases hn : needBlendConstants b.pAttachments.items
    · simp +contextual [hn, usesBlendConstants_of_need hn]
    · simp [hn]

end

theorem graphicsPipelineTokens_mask (R : StateRecorder) (p : VkGraphicsPipelineCreateInfo) :
    graphicsPipelineTokens R (maskGraphicsPipeline p) = graphicsPipelineTokens R p := by
  simp only [graphicsPipelineTokens, maskGraphicsPipeline, dynamicFlags_eq, depthStencilTokens_mask,
    rasterizationTokens_mask, viewportStateTokens_mask, colorBlendTokens_mask]

theorem hashBinding_mask (R : StateRecorder) (b : VkDescriptorSetLayoutBinding) :
    hashBinding R (maskBinding b) = hashBinding R b := by
  unfold maskBinding
  split_ifs with h
  · rfl
  · rcases hs : b.pImmutableSamplers with _ | l <;> simp [hashBinding, hs, h]

theorem descriptorSetLayoutTokens_mask (R : StateRecorder) (c : VkDescriptorSetLayoutCreateInfo) :
    descriptorSetLayoutTokens R (maskDescriptorSetLayout c) = descriptorSetLayoutTokens R c := by
  simp only [descriptorSetLayoutTokens, maskDescriptorSetLayout, VkArray.map_items,
    VkDescriptorSetLayoutCreateInfo.bindingCount, VkArray.count_map,
    ← hashEach_map (hashBinding R) maskBinding fun b _ => (hashBinding_mask R b).symm]

/-- **Masking.** Two graphics pipelines with the same dynamic states that differ only in
fields those states declare dynamic, or in fields of a test disabled in both, hash alike;
so do two descriptor set layouts that differ only in the immutable samplers of bindings
that are not sampler bindings. -/
theorem compute_hash_ignores_masked_fields (digest : List Token → Hash) (R : StateRecorder) :
    (∀ p1 p2, maskGraphicsPipeline p1 = maskGraphicsPipeline p2 →
      computeHashGraphicsPipeline digest R p1 = computeHashGraphicsPipeline digest R p2) ∧
    (∀ c1 c2, maskDescriptorSetLayout c1 = maskDescriptorSetLayout c2 →
      computeHashDescriptorSetLayout digest R c1 = computeHashDescriptorSetLayout digest R c2) := by
  refine ⟨fun p1 p2 h => ?_, fun c1 c2 h => ?_⟩
  · rw [computeHashGraphicsPipeline, computeHashGraphicsPipeline, ← graphicsPipelineTokens_mask R p1,
      h, graphicsPipelineTokens_mask]
  · rw [computeHashDescriptorSetLayout, computeHashDescriptorSetLayout,
      ← descriptorSetLayoutTokens_mask R c1, h, descriptorSetLayoutTokens_mask]

end Hashing

end Fossilize
