import Fossilize.Hashing.RenderPass

/-! # What the streams of layouts, modules and compute pipelines determine

These streams delimit everything they feed, so equal streams fix the inputs up to the hashes
of what they reference, except for the fields never fed.
-/

namespace Fossilize

namespace Hashing

/-- A loop of `h.u64(get_hash_for_<kind>(handle))` feeds one `u64` per handle. -/
theorem hashEach_lookup_eq_ok {g : Handle → Except Fault Hash} :
    ∀ {l : List Handle} {t : List Token}, hashEach (fun s => hashLookup (g s)) l = .ok t →
      ∃ hs : List Hash, t = hs.map .u64 ∧ l.map g = hs.map .ok
  | [], _, h => ⟨[], (Except.ok.inj h).symm, rfl⟩
  | x :: xs, _, h => by
    obtain ⟨a, b, ha, hb, rfl⟩ := hashEach_cons_eq_ok h
    obtain ⟨v, hv, rfl⟩ := except_map_eq_ok.mp ha
    obtain ⟨hs, rfl, hl⟩ := hashEach_lookup_eq_ok hb
    exact ⟨v :: hs, rfl, by simp [hv, hl]⟩

theorem u64s_decode {hs1 hs2 : List Hash} {r1 r2 : List Token} (hl : hs1.length = hs2.length)
    (h : hs1.map Token.u64 ++ r1 = hs2.map Token.u64 ++ r2) : hs1 = hs2 ∧ r1 = r2 := by
  obtain ⟨h1, h2⟩ := List.append_inj h (by simpa using hl)
  exact ⟨List.map_injective_iff.mpr (fun _ _ h => Token.u64.inj h) h1, h2⟩

/-! ## Descriptor set layouts -/

/-- `compute_hash_descriptor_set_layout` feeds binding `b`'s immutable samplers: they are
present, of a sampler type, and there is at least one. -/
def feedsSamplers (b : VkDescriptorSetLayoutBinding) : Prop :=
  b.pImmutableSamplers.isSome ∧ (b.descriptorType = VK_DESCRIPTOR_TYPE_COMBINED_IMAGE_SAMPLER ∨
    b.descriptorType = VK_DESCRIPTOR_TYPE_SAMPLER) ∧ b.descriptorCount ≠ 0

instance (b : VkDescriptorSetLayoutBinding) : Decidable (feedsSamplers b) := by
  unfold feedsSamplers; infer_instance

/-- A binding as its stream shows it: its four scalar fields, and the recorder's hashes of
its immutable samplers when they are fed. -/
def bindingView (R : StateRecorder) (b : VkDescriptorSetLayoutBinding) :
    UInt32 × UInt32 × UInt32 × UInt32 × Option (List (Except Fault Hash)) :=
  (b.binding, b.descriptorCount, b.descriptorType, b.stageFlags,
    if feedsSamplers b then b.pImmutableSamplers.map (·.map R.getHashForSampler) else none)

theorem hashBinding_eq_ok {R : StateRecorder} {b : VkDescriptorSetLayoutBinding} {t : List Token}
    (h : hashBinding R b = .ok t) :
    ∃ s, t = [.u32 b.binding, .u32 b.descriptorCount, .u32 b.descriptorType, .u32 b.stageFlags] ++ s ∧
      (feedsSamplers b → ∃ hs : List Hash, s = hs.map .u64 ∧ hs.length = b.descriptorCount.toNat ∧
        b.pImmutableSamplers.map (·.map R.getHashForSampler) = some (hs.map .ok)) ∧
      (¬ feedsSamplers b → s = []) := by
  rcases hp : b.pImmutableSamplers with _ | l
  · simp only [hashBinding, hp] at h
    exact ⟨[], (Except.ok.inj h).symm, fun hf => absurd hf.1 (by simp [hp]), fun _ => rfl⟩
  by_cases htype : b.descriptorType = VK_DESCRIPTOR_TYPE_COMBINED_IMAGE_SAMPLER ∨
      b.descriptorType = VK_DESCRIPTOR_TYPE_SAMPLER
  · simp only [hashBinding, hp, if_pos htype] at h
    obtain ⟨s, hs, h⟩ := except_bind_eq_ok.mp h
    obtain ⟨hs', rfl, hm⟩ := hashEach_lookup_eq_ok hs
    have hlen : hs'.length = b.descriptorCount.toNat := by
      rw [← b.immutableSamplers_length l hp, ← List.length_map hs' Except.ok, ← hm, List.length_map]
    refine ⟨_, (Except.ok.inj h).symm,
      fun _ => ⟨hs', rfl, hlen, congrArg some hm⟩, fun hf => ?_⟩
    have hc : b.descriptorCount = 0 := by
      by_contra hc; exact hf ⟨by simp [hp], htype, hc⟩
    rw [List.eq_nil_of_length_eq_zero (hlen.trans (by rw [hc]; rfl)), List.map_nil]
  · simp only [hashBinding, hp, if_neg htype] at h
    exact ⟨[], (Except.ok.inj h).symm, fun hf => absurd hf.2.1 htype, fun _ => rfl⟩

/-- Every binding's tokens start with a `u32`. -/
theorem bindings_head {R : StateRecorder} :
    ∀ {l : List VkDescriptorSetLayoutBinding} {t : List Token}, hashEach (hashBinding R) l = .ok t →
      t = [] ∨ ∃ v t', t = .u32 v :: t'
  | [], _, h => .inl (Except.ok.inj h).symm
  | _ :: _, _, h => by
    obtain ⟨a, b, ha, -, rfl⟩ := hashEach_cons_eq_ok h
    obtain ⟨s, rfl, -⟩ := hashBinding_eq_ok ha
    exact .inr ⟨_, _, rfl⟩

/-- Fed samplers cannot stand where a binding does not feed them. -/
theorem samplers_not_shifted {R : StateRecorder} {l : List VkDescriptorSetLayoutBinding}
    {hs : List Hash} {r t : List Token} (hne : hs ≠ []) (ht : hashEach (hashBinding R) l = .ok t)
    (h : hs.map Token.u64 ++ r = t) : False := by
  obtain ⟨v, hs', rfl⟩ := List.exists_cons_of_ne_nil hne
  rcases bindings_head ht with rfl | ⟨w, t', rfl⟩ <;> simp at h

theorem bindings_decode {R : StateRecorder} :
    ∀ {l1 l2 : List VkDescriptorSetLayoutBinding} {t : List Token}, l1.length = l2.length →
      hashEach (hashBinding R) l1 = .ok t → hashEach (hashBinding R) l2 = .ok t →
      l1.map (bindingView R) = l2.map (bindingView R)
  | [], [], _, _, _, _ => rfl
  | b1 :: l1, b2 :: l2, t, hl, h1, h2 => by
    obtain ⟨a1, c1, ha1, hc1, rfl⟩ := hashEach_cons_eq_ok h1
    obtain ⟨a2, c2, ha2, hc2, h⟩ := hashEach_cons_eq_ok h2
    obtain ⟨s1, rfl, hf1, hn1⟩ := hashBinding_eq_ok ha1
    obtain ⟨s2, rfl, hf2, hn2⟩ := hashBinding_eq_ok ha2
    simp only [List.append_assoc, List.cons_append, List.cons.injEq, Token.u32.injEq,
      List.nil_append] at h
    obtain ⟨hb, hc, hty, hst, h⟩ := h
    have hsam : (if feedsSamplers b1 then b1.pImmutableSamplers.map (·.map R.getHashForSampler)
        else none) = (if feedsSamplers b2 then b2.pImmutableSamplers.map (·.map R.getHashForSampler)
        else none) ∧ c1 = c2 := by
      by_cases f1 : feedsSamplers b1 <;> by_cases f2 : feedsSamplers b2
      · obtain ⟨hs1, rfl, hl1, hm1⟩ := hf1 f1
        obtain ⟨hs2, rfl, hl2, hm2⟩ := hf2 f2
        obtain ⟨rfl, hr⟩ := u64s_decode (by rw [hl1, hl2, hc]) h
        rw [if_pos f1, if_pos f2, hm1, hm2]
        exact ⟨rfl, hr⟩
      · obtain ⟨hs1, rfl, hl1, -⟩ := hf1 f1
        rw [hn2 f2, List.nil_append] at h
        refine (samplers_not_shifted ?_ hc2 h).elim
        rintro rfl; exact f1.2.2 (UInt32.toNat.inj (by simpa using hl1.symm))
      · obtain ⟨hs2, rfl, hl2, -⟩ := hf2 f2
        rw [hn1 f1, List.nil_append] at h
        refine (samplers_not_shifted ?_ hc1 h.symm).elim
        rintro rfl; exact f2.2.2 (UInt32.toNat.inj (by simpa using hl2.symm))
      · rw [hn1 f1, hn2 f2, List.nil_append, List.nil_append] at h
        rw [if_neg f1, if_neg f2]
        exact ⟨rfl, h⟩
    obtain ⟨hv, rfl⟩ := hsam
    rw [List.map_cons, List.map_cons, bindings_decode (by simpa using hl) hc1 hc2]
    simp only [bindingView, hb, hc, hty, hst, hv]

/-! ## Pipeline layouts -/

/-- A set layout as its stream shows it: nothing when null, else the recorder's hash of it. -/
def setLayoutView (R : StateRecorder) (h : Handle) : Option (Except Fault Hash) :=
  if h = VK_NULL_HANDLE then none else some (R.getHashForDescriptorSetLayout h)

theorem setLayoutTokens_eq_ok {R : StateRecorder} {s : Handle} {a : List Token}
    (h : setLayoutTokens R s = .ok a) :
    (s = VK_NULL_HANDLE ∧ a = [.u32 0]) ∨
      (s ≠ VK_NULL_HANDLE ∧ ∃ v, R.getHashForDescriptorSetLayout s = .ok v ∧ a = [.u64 v]) := by
  unfold setLayoutTokens at h
  split_ifs at h with hs
  · obtain ⟨v, hv, rfl⟩ := except_map_eq_ok.mp h
    exact .inr ⟨hs, v, hv, rfl⟩
  · exact .inl ⟨not_not.mp hs, (Except.ok.inj h).symm⟩

theorem setLayout_decode {R : StateRecorder} {h1 h2 : Handle} {a1 a2 r1 r2 : List Token}
    (ha1 : setLayoutTokens R h1 = .ok a1) (ha2 : setLayoutTokens R h2 = .ok a2)
    (h : a1 ++ r1 = a2 ++ r2) : setLayoutView R h1 = setLayoutView R h2 ∧ r1 = r2 := by
  rcases setLayoutTokens_eq_ok ha1 with ⟨n1, rfl⟩ | ⟨n1, v1, hv1, rfl⟩ <;>
    rcases setLayoutTokens_eq_ok ha2 with ⟨n2, rfl⟩ | ⟨n2, v2, hv2, rfl⟩ <;>
    simp only [List.singleton_append, List.cons.injEq, Token.u64.injEq, reduceCtorEq,
      false_and] at h
  · exact ⟨by simp [setLayoutView, n1, n2], h.2⟩
  · obtain ⟨rfl, hr⟩ := h
    exact ⟨by simp [setLayoutView, n1, n2, hv1, hv2], hr⟩

theorem setLayouts_decode {R : StateRecorder} :
    ∀ {l1 l2 : List Handle} {t1 t2 r1 r2 : List Token}, l1.length = l2.length →
      hashEach (setLayoutTokens R) l1 = .ok t1 → hashEach (setLayoutTokens R) l2 = .ok t2 →
      t1 ++ r1 = t2 ++ r2 → l1.map (setLayoutView R) = l2.map (setLayoutView R) ∧ r1 = r2
  | [], [], _, _, _, _, _, h1, h2, h => by
    cases h1; cases h2; exact ⟨rfl, h⟩
  | x :: xs, y :: ys, _, _, _, _, hl, h1, h2, h => by
    obtain ⟨a1, b1, ha1, hb1, rfl⟩ := hashEach_cons_eq_ok h1
    obtain ⟨a2, b2, ha2, hb2, rfl⟩ := hashEach_cons_eq_ok h2
    simp only [List.append_assoc] at h
    obtain ⟨hv, h'⟩ := setLayout_decode ha1 ha2 h
    obtain ⟨hvs, hr⟩ := setLayouts_decode (by simpa using hl) hb1 hb2 h'
    exact ⟨by rw [List.map_cons, List.map_cons, hv, hvs], hr⟩

theorem decodes_pushConstantRange : Decodes pushConstantRangeTokens id :=
  decodes_of_length (fun _ _ => rfl) fun x y h => by
    cases x; cases y; simp_all [pushConstantRangeTokens]

/-! ## Compute pipelines -/

/-- A compute pipeline as its stream shows it: referenced handles only through their hashes
(`computePipelineLookups`), the index of a base pipeline only when there is one, and the
stage as `maskStage` shows it. -/
def computeStreamMask (c : VkComputePipelineCreateInfo) : VkComputePipelineCreateInfo :=
  { c with
    stage := maskStage c.stage
    layout := VK_NULL_HANDLE
    basePipelineHandle := VK_NULL_HANDLE
    basePipelineIndex := if c.basePipelineHandle = VK_NULL_HANDLE then ⟨0⟩ else c.basePipelineIndex }

theorem computePipelineTokens_eq_ok {R : StateRecorder} {c : VkComputePipelineCreateInfo}
    {t : List Token} (h : computePipelineTokens R c = .ok t) :
    ∃ vl base vm, R.getHashForPipelineLayout c.layout = .ok vl ∧
      basePipelineTokens R.getHashForComputePipelineHandle c.basePipelineHandle
        c.basePipelineIndex [.u32 0] = .ok base ∧
      R.getHashForShaderModule c.stage.module = .ok vm ∧
      t = [.u64 vl, .u32 c.flags] ++ base ++ [.u64 vm, .string c.stage.pName, .u32 c.stage.flags,
        .u32 c.stage.stage] ++ specializationTokens c.stage.pSpecializationInfo := by
  obtain ⟨vl, hl, h⟩ := except_bind_eq_ok.mp h
  obtain ⟨base, hb, h⟩ := except_bind_eq_ok.mp h
  obtain ⟨vm, hm, h⟩ := except_bind_eq_ok.mp h
  exact ⟨vl, base, vm, hl, hb, hm, (Except.ok.inj h).symm⟩

/-- Specialization info is present in both streams or in neither: an absent one feeds `u32`
where a present one feeds `data`. -/
theorem specialization_isSome {s1 s2 : Option VkSpecializationInfo} {r1 r2 : List Token}
    (h : specializationTokens s1 ++ r1 = specializationTokens s2 ++ r2) : s1.isSome = s2.isSome := by
  cases s1 <;> cases s2 <;> simp_all [specializationTokens, hashSpecializationInfo]

/-- What the stage part of a compute pipeline's stream fixes: the stage as `maskStage`
shows it. -/
theorem stage_decode {s1 s2 : VkPipelineShaderStageCreateInfo} (hn : s1.pName = s2.pName)
    (hf : s1.flags = s2.flags) (hs : s1.stage = s2.stage)
    (h : specializationTokens s1.pSpecializationInfo = specializationTokens s2.pSpecializationInfo) :
    maskStage s1 = maskStage s2 := by
  have h' : specializationTokens s1.pSpecializationInfo ++ [] =
      specializationTokens s2.pSpecializationInfo ++ [] := by rw [h]
  obtain ⟨hsp, -⟩ := decodes_specialization _ _ _ _ (specialization_isSome h') h'
  simp only [maskStage, hn, hf, hs, hsp]

/-! ## The four streams -/

theorem descriptorSetLayout_stream_decode {R : StateRecorder}
    {l1 l2 : VkDescriptorSetLayoutCreateInfo} {t : List Token}
    (h1 : descriptorSetLayoutTokens R l1 = .ok t) (h2 : descriptorSetLayoutTokens R l2 = .ok t) :
    l1.flags = l2.flags ∧ l1.pBindings.items.map (bindingView R) = l2.pBindings.items.map (bindingView R) := by
  obtain ⟨b1, hb1, h1⟩ := except_bind_eq_ok.mp h1
  obtain ⟨b2, hb2, h2⟩ := except_bind_eq_ok.mp h2
  have h := (Except.ok.inj h1).trans (Except.ok.inj h2).symm
  simp only [VkDescriptorSetLayoutCreateInfo.bindingCount, List.cons_append, List.nil_append,
    List.cons.injEq, Token.u32.injEq] at h
  obtain ⟨hc, hf, rfl⟩ := h
  exact ⟨hf, bindings_decode (VkArray.length_eq_of_count hc) hb1 hb2⟩

theorem pipelineLayout_stream_decode {R : StateRecorder} {l1 l2 : VkPipelineLayoutCreateInfo}
    {t : List Token} (h1 : pipelineLayoutTokens R l1 = .ok t) (h2 : pipelineLayoutTokens R l2 = .ok t) :
    l1.flags = l2.flags ∧ l1.pPushConstantRanges = l2.pPushConstantRanges ∧
      l1.pSetLayouts.items.map (setLayoutView R) = l2.pSetLayouts.items.map (setLayoutView R) := by
  obtain ⟨s1, hs1, h1⟩ := except_bind_eq_ok.mp h1
  obtain ⟨s2, hs2, h2⟩ := except_bind_eq_ok.mp h2
  have h := (Except.ok.inj h1).trans (Except.ok.inj h2).symm
  simp only [List.append_assoc, List.cons_append, List.nil_append, List.singleton_append,
    List.cons.injEq, Token.u32.injEq] at h
  obtain ⟨hc, h⟩ := h
  obtain ⟨hv, h⟩ := setLayouts_decode (VkArray.length_eq_of_count hc) hs1 hs2 h
  simp only [List.cons.injEq, Token.u32.injEq] at h
  obtain ⟨hp, h⟩ := h
  obtain ⟨hP, h⟩ := decodes_pushConstantRange.flatMap (VkArray.length_eq_of_count hp) h
  simp only [List.map_id, List.cons.injEq, Token.u32.injEq, and_true] at hP h
  exact ⟨h, VkArray.eq_of_items hP, hv⟩

theorem shaderModule_stream_decode {m1 m2 : VkShaderModuleCreateInfo}
    (h : shaderModuleTokens m1 = shaderModuleTokens m2) : m1 = m2 := by
  obtain ⟨f1, s1, c1, hc1⟩ := m1
  obtain ⟨f2, s2, c2, hc2⟩ := m2
  simp only [shaderModuleTokens, List.cons.injEq, Token.data.injEq, Token.u32.injEq, and_true] at h
  obtain ⟨rfl, rfl⟩ := h
  obtain rfl : s1 = s2 := UInt64.toNat.inj (hc1.symm.trans hc2)
  rfl

theorem computePipeline_stream_decode {R : StateRecorder} {c1 c2 : VkComputePipelineCreateInfo}
    {t : List Token} (h1 : computePipelineTokens R c1 = .ok t) (h2 : computePipelineTokens R c2 = .ok t) :
    computeStreamMask c1 = computeStreamMask c2 ∧
      (computePipelineLookups c1).map (fun q => R.getHashFor q.1 q.2) =
        (computePipelineLookups c2).map (fun q => R.getHashFor q.1 q.2) := by
  obtain ⟨vl1, b1, vm1, hl1, hb1, hm1, rfl⟩ := computePipelineTokens_eq_ok h1
  obtain ⟨vl2, b2, vm2, hl2, hb2, hm2, h⟩ := computePipelineTokens_eq_ok h2
  simp only [StateRecorder.getHashForPipelineLayout, StateRecorder.getHashForShaderModule,
    StateRecorder.getHashForComputePipelineHandle] at hl1 hl2 hm1 hm2 hb1 hb2
  simp only [List.append_assoc, List.cons_append, List.nil_append, List.cons.injEq,
    Token.u64.injEq, Token.u32.injEq] at h
  obtain ⟨rfl, hf, h⟩ := h
  rcases basePipelineTokens_eq_ok hb1 with ⟨n1, rfl⟩ | ⟨n1, w1, hw1, rfl⟩ <;>
    rcases basePipelineTokens_eq_ok hb2 with ⟨n2, rfl⟩ | ⟨n2, w2, hw2, rfl⟩ <;>
    simp only [List.cons_append, List.nil_append, List.cons.injEq, Token.u64.injEq, Token.s32.injEq,
      Token.u32.injEq, Token.string.injEq, reduceCtorEq, false_and, true_and] at h
  · obtain ⟨rfl, hn, hsf, hss, hsp⟩ := h
    refine ⟨?_, ?_⟩
    · simp only [computeStreamMask, hf, stage_decode hn hsf hss hsp, n1, n2, if_true]
    · simp [computePipelineLookups, basePipelineLookups, n1, n2, hl1, hl2, hm1, hm2]
  · obtain ⟨rfl, hi, rfl, hn, hsf, hss, hsp⟩ := h
    refine ⟨?_, ?_⟩
    · simp only [computeStreamMask, hf, hi, stage_decode hn hsf hss hsp, n1, n2, if_false]
    · simp [computePipelineLookups, basePipelineLookups, n1, n2, hl1, hl2, hm1, hm2, hw1, hw2]

/-- **What the four streams fix.** For every recorder, two inputs on which
`compute_hash_descriptor_set_layout`, `compute_hash_pipeline_layout`,
`compute_hash_shader_module` or `compute_hash_compute_pipeline` returns and feeds the same
tokens agree as the stream shows them: bindings up to `bindingView`, set layouts up to
`setLayoutView`, shader modules entirely, compute pipelines up to `computeStreamMask` with
the same answers from the recorder for what they reference. -/
theorem compute_hash_streams_determine_inputs (R : StateRecorder) :
    (∀ l1 l2 t, descriptorSetLayoutTokens R l1 = .ok t → descriptorSetLayoutTokens R l2 = .ok t →
      l1.flags = l2.flags ∧
        l1.pBindings.items.map (bindingView R) = l2.pBindings.items.map (bindingView R)) ∧
    (∀ l1 l2 t, pipelineLayoutTokens R l1 = .ok t → pipelineLayoutTokens R l2 = .ok t →
      l1.flags = l2.flags ∧ l1.pPushConstantRanges = l2.pPushConstantRanges ∧
        l1.pSetLayouts.items.map (setLayoutView R) = l2.pSetLayouts.items.map (setLayoutView R)) ∧
    (∀ m1 m2, shaderModuleTokens m1 = shaderModuleTokens m2 → m1 = m2) ∧
    (∀ c1 c2 t, computePipelineTokens R c1 = .ok t → computePipelineTokens R c2 = .ok t →
      computeStreamMask c1 = computeStreamMask c2 ∧
        (computePipelineLookups c1).map (fun q => R.getHashFor q.1 q.2) =
          (computePipelineLookups c2).map (fun q => R.getHashFor q.1 q.2)) :=
  ⟨fun _ _ _ => descriptorSetLayout_stream_decode, fun _ _ _ => pipelineLayout_stream_decode,
    fun _ _ => shaderModule_stream_decode, fun _ _ _ => computePipeline_stream_decode⟩

/-- One binding of descriptor type 2, not a sampler type, with the given immutable samplers. -/
def storageLayout (samplers : Option (List Handle)) (h : ∀ l, samplers = some l → l.length = 1) :
    VkDescriptorSetLayoutCreateInfo :=
  ⟨0, ⟨[⟨0, 2, 1, 0, samplers, h⟩], show 1 < 2 ^ 32 by decide⟩⟩

/-- Specialization info with one map entry of the given `size`. -/
def oneEntrySpecialization (size : UInt64) : VkSpecializationInfo :=
  ⟨⟨[⟨0, 0, size⟩], show 1 < 2 ^ 32 by decide⟩, 0, [], rfl⟩

/-- A compute pipeline whose layout 1 and module 3 `referencedRecorder` holds, with no base
pipeline. -/
def referencingCompute (spec : Option VkSpecializationInfo) (index : Int32) :
    VkComputePipelineCreateInfo :=
  ⟨0, ⟨0, 0, 3, "main", spec⟩, 1, VK_NULL_HANDLE, index⟩

/-- The samplers of a non-sampler binding, and the high half of a map entry's `size`, do not
show in the streams the theorem reads back. -/
theorem unfed_fields_share_views :
    (storageLayout (some [7]) fun _ h => Option.some.inj h ▸ rfl).pBindings.items.map
        (bindingView referencedRecorder) =
      (storageLayout none fun _ h => by cases h).pBindings.items.map (bindingView referencedRecorder) ∧
    computeStreamMask (referencingCompute (some (oneEntrySpecialization 4294967296)) ⟨0⟩) =
      computeStreamMask (referencingCompute (some (oneEntrySpecialization 0)) ⟨0⟩) := by
  obtain ⟨hd, -, -, hc⟩ := compute_hash_streams_determine_inputs referencedRecorder
  exact ⟨(hd (storageLayout (some [7]) fun _ h => Option.some.inj h ▸ rfl)
    (storageLayout none fun _ h => by cases h) _ rfl rfl).2,
    (hc (referencingCompute (some (oneEntrySpecialization 4294967296)) ⟨0⟩)
      (referencingCompute (some (oneEntrySpecialization 0)) ⟨0⟩) _ rfl rfl).1⟩

/-- Compute pipelines that differ and feed the same tokens: in `basePipelineIndex` beside a
null base pipeline, and in the high half of a map entry's `size`. -/
theorem compute_pipeline_tokens_collide :
    (∃ t, computePipelineTokens referencedRecorder (referencingCompute none ⟨0⟩) = .ok t ∧
      computePipelineTokens referencedRecorder (referencingCompute none ⟨5⟩) = .ok t) ∧
    referencingCompute none ⟨0⟩ ≠ referencingCompute none ⟨5⟩ ∧
    (∃ t, computePipelineTokens referencedRecorder
        (referencingCompute (some (oneEntrySpecialization 4294967296)) ⟨0⟩) = .ok t ∧
      computePipelineTokens referencedRecorder
        (referencingCompute (some (oneEntrySpecialization 0)) ⟨0⟩) = .ok t) ∧
    referencingCompute (some (oneEntrySpecialization 4294967296)) ⟨0⟩ ≠
      referencingCompute (some (oneEntrySpecialization 0)) ⟨0⟩ :=
  ⟨⟨_, rfl, rfl⟩, by decide, ⟨_, rfl, rfl⟩, by decide⟩

end Hashing

end Fossilize
