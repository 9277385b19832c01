import Mathlib.Data.List.Basic
import Mathlib.Algebra.Group.Nat.Basic
import Mathlib.Algebra.Group.Int

/-! # The Vulkan create-infos the recorder, the hasher and the parser read

Only fields a modelled function reads are kept; a `(count, pointer)` pair is a `VkArray`,
and a float is its 32-bit pattern.
-/

namespace Fossilize

/-- A non-dispatchable handle. `VK_NULL_HANDLE` is `0`. -/
abbrev Handle := UInt64

abbrev Hash := UInt64

/-- A `float`, held as its IEEE-754 bits. -/
abbrev F32 := UInt32

def VK_NULL_HANDLE : Handle := 0

/-- A C `int32_t`, held as its two's-complement bits. -/
structure Int32 where
  bits : UInt32
  deriving DecidableEq, Repr

namespace Int32

def toInt (x : Int32) : Int :=
  if x.bits.toNat < 2 ^ 31 then x.bits.toNat else (x.bits.toNat : Int) - 2 ^ 32

/-- The conversion `int(x)` of an integer, wrapping modulo `2^32`. -/
def ofInt (i : Int) : Int32 := ⟨UInt32.ofNat (i % 2 ^ 32).toNat⟩

end Int32

/-- A C array given by a `uint32_t` count and a pointer to that many elements. -/
structure VkArray (α : Type) where
  items : List α
  bounded : items.length < 2 ^ 32
  deriving DecidableEq, Repr

namespace VkArray

variable {α β : Type}

def count (a : VkArray α) : UInt32 := UInt32.ofNat a.items.length

@[simp] theorem count_toNat (a : VkArray α) : a.count.toNat = a.items.length :=
  UInt32.toNat_ofNat_of_lt a.bounded

def nil : VkArray α := ⟨[], Nat.two_pow_pos 32⟩

def map (f : α → β) (a : VkArray α) : VkArray β := ⟨a.items.map f, by simpa using a.bounded⟩

@[simp] theorem map_items (f : α → β) (a : VkArray α) : (a.map f).items = a.items.map f := rfl

@[simp] theorem count_map (f : α → β) (a : VkArray α) : (a.map f).count = a.count := by
  simp [count]

end VkArray

/-! ## Constants of `vulkan_core.h` the source names -/

def VK_DESCRIPTOR_TYPE_SAMPLER : UInt32 := 0
def VK_DESCRIPTOR_TYPE_COMBINED_IMAGE_SAMPLER : UInt32 := 1

def VK_DYNAMIC_STATE_VIEWPORT : UInt32 := 0
def VK_DYNAMIC_STATE_SCISSOR : UInt32 := 1
def VK_DYNAMIC_STATE_LINE_WIDTH : UInt32 := 2
def VK_DYNAMIC_STATE_DEPTH_BIAS : UInt32 := 3
def VK_DYNAMIC_STATE_BLEND_CONSTANTS : UInt32 := 4
def VK_DYNAMIC_STATE_DEPTH_BOUNDS : UInt32 := 5
def VK_DYNAMIC_STATE_STENCIL_COMPARE_MASK : UInt32 := 6
def VK_DYNAMIC_STATE_STENCIL_WRITE_MASK : UInt32 := 7
def VK_DYNAMIC_STATE_STENCIL_REFERENCE : UInt32 := 8

def VK_BLEND_FACTOR_CONSTANT_COLOR : UInt32 := 10
def VK_BLEND_FACTOR_ONE_MINUS_CONSTANT_COLOR : UInt32 := 11
def VK_BLEND_FACTOR_CONSTANT_ALPHA : UInt32 := 12
def VK_BLEND_FACTOR_ONE_MINUS_CONSTANT_ALPHA : UInt32 := 13

def VK_IMAGE_LAYOUT_UNDEFINED : UInt32 := 0

/-! ## Samplers and layouts -/

structure VkSamplerCreateInfo where
  flags : UInt32
  magFilter : UInt32
  minFilter : UInt32
  mipmapMode : UInt32
  addressModeU : UInt32
  addressModeV : UInt32
  addressModeW : UInt32
  mipLodBias : F32
  anisotropyEnable : UInt32
  maxAnisotropy : F32
  compareEnable : UInt32
  compareOp : UInt32
  minLod : F32
  maxLod : F32
  borderColor : UInt32
  unnormalizedCoordinates : UInt32
  deriving DecidableEq, Repr

structure VkDescriptorSetLayoutBinding where
  binding : UInt32
  descriptorType : UInt32
  descriptorCount : UInt32
  stageFlags : UInt32
  pImmutableSamplers : Option (List Handle)
  immutableSamplers_length : ∀ l, pImmutableSamplers = some l → l.length = descriptorCount.toNat
  deriving DecidableEq

structure VkDescriptorSetLayoutCreateInfo where
  flags : UInt32
  pBindings : VkArray VkDescriptorSetLayoutBinding
  deriving DecidableEq

def VkDescriptorSetLayoutCreateInfo.bindingCount (c : VkDescriptorSetLayoutCreateInfo) : UInt32 :=
  c.pBindings.count

structure VkPushConstantRange where
  stageFlags : UInt32
  offset : UInt32
  size : UInt32
  deriving DecidableEq, Repr

structure VkPipelineLayoutCreateInfo where
  flags : UInt32
  pSetLayouts : VkArray Handle
  pPushConstantRanges : VkArray VkPushConstantRange
  deriving DecidableEq

/-! ## Shader modules and stages -/

/-- `pCode` is read as `codeSize` bytes by the hasher and the serializer. -/
structure VkShaderModuleCreateInfo where
  flags : UInt32
  codeSize : UInt64
  pCode : List UInt8
  code_length : pCode.length = codeSize.toNat
  deriving DecidableEq

structure VkSpecializationMapEntry where
  constantID : UInt32
  offset : UInt32
  size : UInt64
  deriving DecidableEq, Repr

structure VkSpecializationInfo where
  pMapEntries : VkArray VkSpecializationMapEntry
  dataSize : UInt64
  pData : List UInt8
  data_length : pData.length = dataSize.toNat
  deriving DecidableEq

/-- `pName` is the NUL-free text of the entry point's C string. -/
structure VkPipelineShaderStageCreateInfo where
  flags : UInt32
  stage : UInt32
  module : Handle
  pName : String
  pSpecializationInfo : Option VkSpecializationInfo
  deriving DecidableEq

structure VkComputePipelineCreateInfo where
  flags : UInt32
  stage : VkPipelineShaderStageCreateInfo
  layout : Handle
  basePipelineHandle : Handle
  basePipelineIndex : Int32
  deriving DecidableEq

/-! ## Graphics pipelines -/

structure VkVertexInputBindingDescription where
  binding : UInt32
  stride : UInt32
  inputRate : UInt32
  deriving DecidableEq, Repr

structure VkVertexInputAttributeDescription where
  location : UInt32
  binding : UInt32
  format : UInt32
  offset : UInt32
  deriving DecidableEq, Repr

structure VkPipelineVertexInputStateCreateInfo where
  flags : UInt32
  pVertexBindingDescriptions : VkArray VkVertexInputBindingDescription
  pVertexAttributeDescriptions : VkArray VkVertexInputAttributeDescription
  deriving DecidableEq

structure VkPipelineInputAssemblyStateCreateInfo where
  flags : UInt32
  topology : UInt32
  primitiveRestartEnable : UInt32
  deriving DecidableEq, Repr

structure VkPipelineTessellationStateCreateInfo where
  flags : UInt32
  patchControlPoints : UInt32
  deriving DecidableEq, Repr

structure VkViewport where
  x : F32
  y : F32
  width : F32
  height : F32
  minDepth : F32
  maxDepth : F32
  deriving DecidableEq, Repr

/-- `offset.x`, `offset.y`, `extent.width`, `extent.height`. -/
structure VkRect2D where
  x : Int32
  y : Int32
  width : UInt32
  height : UInt32
  deriving DecidableEq, Repr

/-- `pViewports` and `pScissors` may be null when the state is dynamic. -/
structure VkPipelineViewportStateCreateInfo where
  flags : UInt32
  viewportCount : UInt32
  pViewports : Option (List VkViewport)
  scissorCount : UInt32
  pScissors : Option (List VkRect2D)
  viewports_length : ∀ l, pViewports = some l → l.length = viewportCount.toNat
  scissors_length : ∀ l, pScissors = some l → l.length = scissorCount.toNat
  deriving DecidableEq

structure VkPipelineRasterizationStateCreateInfo where
  flags : UInt32
  depthClampEnable : UInt32
  rasterizerDiscardEnable : UInt32
  polygonMode : UInt32
  cullMode : UInt32
  frontFace : UInt32
  depthBiasEnable : UInt32
  depthBiasConstantFactor : F32
  depthBiasClamp : F32
  depthBiasSlopeFactor : F32
  lineWidth : F32
  deriving DecidableEq, Repr

/-- The number of `pSampleMask` words, `(rasterizationSamples + 31) / 32` in `uint32_t`. -/
def sampleMaskWords (rasterizationSamples : UInt32) : UInt32 := (rasterizationSamples + 31) / 32

structure VkPipelineMultisampleStateCreateInfo where
  flags : UInt32
  rasterizationSamples : UInt32
  sampleShadingEnable : UInt32
  minSampleShading : F32
  pSampleMask : Option (List UInt32)
  alphaToCoverageEnable : UInt32
  alphaToOneEnable : UInt32
  sampleMask_length :
    ∀ l, pSampleMask = some l → l.length = (sampleMaskWords rasterizationSamples).toNat
  deriving DecidableEq

structure VkStencilOpState where
  failOp : UInt32
  passOp : UInt32
  depthFailOp : UInt32
  compareOp : UInt32
  compareMask : UInt32
  writeMask : UInt32
  reference : UInt32
  deriving DecidableEq, Repr

structure VkPipelineDepthStencilStateCreateInfo where
  flags : UInt32
  depthTestEnable : UInt32
  depthWriteEnable : UInt32
  depthCompareOp : UInt32
  depthBoundsTestEnable : UInt32
  stencilTestEnable : UInt32
  front : VkStencilOpState
  back : VkStencilOpState
  minDepthBounds : F32
  maxDepthBounds : F32
  deriving DecidableEq, Repr

structure VkPipelineColorBlendAttachmentState where
  blendEnable : UInt32
  srcColorBlendFactor : UInt32
  dstColorBlendFactor : UInt32
  colorBlendOp : UInt32
  srcAlphaBlendFactor : UInt32
  dstAlphaBlendFactor : UInt32
  alphaBlendOp : UInt32
  colorWriteMask : UInt32
  deriving DecidableEq, Repr

structure VkPipelineColorBlendStateCreateInfo where
  flags : UInt32
  logicOpEnable : UInt32
  logicOp : UInt32
  pAttachments : VkArray VkPipelineColorBlendAttachmentState
  blendConstants : List F32
  blendConstants_length : blendConstants.length = 4
  deriving DecidableEq

structure VkPipelineDynamicStateCreateInfo where
  flags : UInt32
  pDynamicStates : VkArray UInt32
  deriving DecidableEq

structure VkGraphicsPipelineCreateInfo where
  flags : UInt32
  pStages : VkArray VkPipelineShaderStageCreateInfo
  pVertexInputState : Option VkPipelineVertexInputStateCreateInfo
  pInputAssemblyState : Option VkPipelineInputAssemblyStateCreateInfo
  pTessellationState : Option VkPipelineTessellationStateCreateInfo
  pViewportState : Option VkPipelineViewportStateCreateInfo
  pRasterizationState : Option VkPipelineRasterizationStateCreateInfo
  pMultisampleState : Option VkPipelineMultisampleStateCreateInfo
  pDepthStencilState : Option VkPipelineDepthStencilStateCreateInfo
  pColorBlendState : Option VkPipelineColorBlendStateCreateInfo
  pDynamicState : Option VkPipelineDynamicStateCreateInfo
  layout : Handle
  renderPass : Handle
  subpass : UInt32
  basePipelineHandle : Handle
  basePipelineIndex : Int32
  deriving DecidableEq

/-! ## Render passes -/

structure VkAttachmentDescription where
  flags : UInt32
  format : UInt32
  samples : UInt32
  loadOp : UInt32
  storeOp : UInt32
  stencilLoadOp : UInt32
  stencilStoreOp : UInt32
  initialLayout : UInt32
  finalLayout : UInt32
  deriving DecidableEq, Repr

structure VkAttachmentReference where
  attachment : UInt32
  layout : UInt32
  deriving DecidableEq, Repr

/-- `pResolveAttachments`, when present, has `colorAttachmentCount` entries. -/
structure VkSubpassDescription where
  flags : UInt32
  pipelineBindPoint : UInt32
  pInputAttachments : VkArray VkAttachmentReference
  pColorAttachments : VkArray VkAttachmentReference
  pResolveAttachments : Option (List VkAttachmentReference)
  pDepthStencilAttachment : Option VkAttachmentReference
  pPreserveAttachments : VkArray UInt32
  resolve_length : ∀ l, pResolveAttachments = some l → l.length = pColorAttachments.items.length
  deriving DecidableEq

structure VkSubpassDependency where
  srcSubpass : UInt32
  dstSubpass : UInt32
  srcStageMask : UInt32
  dstStageMask : UInt32
  srcAccessMask : UInt32
  dstAccessMask : UInt32
  dependencyFlags : UInt32
  deriving DecidableEq, Repr

structure VkRenderPassCreateInfo where
  flags : UInt32
  pAttachments : VkArray VkAttachmentDescription
  pSubpasses : VkArray VkSubpassDescription
  pDependencies : VkArray VkSubpassDependency
  deriving DecidableEq

end Fossilize
