import Fossilize.Hashing.Rename
import Fossilize.Hashing.Masking

/-! # What a graphics-pipeline token stream determines

Read back block by block once its optional parts are known (`shape`), a stream fixes the
pipeline up to `streamMask`: the fields `maskGraphicsPipeline` resets and a few never fed.
-/

namespace Fossilize

namespace Hashing

/-! ## Reading encodings back -/

/-- `enc` is read back off the front of a stream, up to `key`. -/
def Decodes {α κ : Type} (enc : α → List Token) (key : α → κ) : Prop :=
  ∀ x y r1 r2, enc x ++ r1 = enc y ++ r2 → key x = key y ∧ r1 = r2

section

variable {α κ : Type} {enc : α → List Token} {key : α → κ}

theorem decodes_of_length (hlen : ∀ x y, (enc x).length = (enc y).length)
    (hinj : ∀ x y, enc x = enc y → key x = key y) : Decodes enc key := fun x y _ _ h =>
  let ⟨h1, h2⟩ := List.append_inj h (hlen x y)
  ⟨hinj x y h1, h2⟩

/-- A counted array of decodable elements is decodable. -/
theorem Decodes.flatMap (hd : Decodes enc key) :
    ∀ {l1 l2 : List α} {r1 r2 : List Token}, l1.length = l2.length →
      l1.flatMap enc ++ r1 = l2.flatMap enc ++ r2 → l1.map key = l2.map key ∧ r1 = r2
  | [], [], _, _, _, h => ⟨rfl, by simpa using h⟩
  | x :: xs, y :: ys, _, _, hl, h => by
    simp only [List.flatMap_cons, List.append_assoc] at h
    obtain ⟨hk, h'⟩ := hd x y _ _ h
    obtain ⟨hks, hr⟩ := hd.flatMap (by simpa using hl) h'
    exact ⟨by simp [hk, hks], hr⟩

end

theorem decodes_scissor : Decodes scissorTokens id :=
  decodes_of_length (fun _ _ => rfl) fun x y h => by
    cases x; cases y; simp_all [scissorTokens]

theorem decodes_viewport : Decodes viewportTokens id :=
  decodes_of_length (fun _ _ => rfl) fun x y h => by
    cases x; cases y; simp_all [viewportTokens]

theorem decodes_attribute : Decodes attributeTokens id :=
  decodes_of_length (fun _ _ => rfl) fun x y h => by
    cases x; cases y; simp_all [attributeTokens]

theorem decodes_vertexBinding : Decodes vertexBindingTokens id :=
  decodes_of_length (fun _ _ => rfl) fun x y h => by
    cases x; cases y; simp_all [vertexBindingTokens]

/-- The map entry with only the low 32 bits of `size`, all that `h.u32` hashes. -/
def maskMapEntry (e : VkSpecializationMapEntry) : VkSpecializationMapEntry :=
  { e with size := e.size.toUInt32.toUInt64 }

theorem decodes_mapEntry : Decodes mapEntryTokens maskMapEntry :=
  decodes_of_length (fun _ _ => rfl) fun x y h => by
    cases x; cases y; simp_all [mapEntryTokens, maskMapEntry]

/-- An attachment as its stream shows it: `maskAttachment`, and no write mask when it
does not blend. -/
def maskAttachmentStream (a : VkPipelineColorBlendAttachmentState) :
    VkPipelineColorBlendAttachmentState :=
  { maskAttachment a with colorWriteMask := if a.blendEnable = 0 then 0 else a.colorWriteMask }

theorem decodes_attachment : Decodes attachmentTokens maskAttachmentStream := by
  rintro ⟨e1, a1, a2, a3, a4, a5, a6, a7⟩ ⟨e2, b1, b2, b3, b4, b5, b6, b7⟩ r1 r2 h
  by_cases h1 : e1 = 0 <;> by_cases h2 : e2 = 0 <;>
    simp_all [attachmentTokens, maskAttachmentStream, maskAttachment]

/-! ## Optional blocks -/

/-- An optional block is read back once it is known whether it is present. -/
def DecodesOpt {α κ : Type} (enc : Option α → List Token) (key : α → κ) : Prop :=
  ∀ x y r1 r2, x.isSome = y.isSome → enc x ++ r1 = enc y ++ r2 → x.map key = y.map key ∧ r1 = r2

theorem decodesOpt_of_some {α κ : Type} {enc : Option α → List Token} {key : α → κ}
    (h : Decodes (fun x => enc (some x)) key) : DecodesOpt enc key := by
  rintro (_ | x) (_ | y) r1 r2 hs he
  · exact ⟨rfl, List.append_cancel_left he⟩
  · cases hs
  · cases hs
  · obtain ⟨hk, hr⟩ := h x y r1 r2 he
    exact ⟨congrArg some hk, hr⟩

/-- Tokens fed under a condition both streams share are read back under it. -/
theorem ite_tokens_decode {c : Prop} [Decidable c] {l l' r1 r2 : List Token} {P : Prop}
    (h : (if c then l else []) ++ r1 = (if c then l' else []) ++ r2)
    (hd : l ++ r1 = l' ++ r2 → P ∧ r1 = r2) : (c → P) ∧ r1 = r2 := by
  by_cases hc : c
  · simp only [if_pos hc] at h
    exact (hd h).imp (fun hp _ => hp) id
  · simp only [if_neg hc, List.nil_append] at h
    exact ⟨fun h' => absurd h' hc, h⟩

theorem pair_decode {a b a' b' : Token} {r1 r2 : List Token} (h : [a, b] ++ r1 = [a', b'] ++ r2) :
    (a = a' ∧ b = b') ∧ r1 = r2 := by
  simpa [and_assoc] using h

/-- A field the mask resets under `c` agrees once it agrees whenever `c` fails. -/
theorem ite_zero_congr {α : Type} [Zero α] {c : Prop} [Decidable c] {x y : α} :
    ((if c then 0 else x) = (if c then 0 else y)) ↔ (¬c → x = y) := by
  by_cases hc : c <;> simp [hc]

theorem VkArray.eq_of_items {α : Type} {a b : VkArray α} (h : a.items = b.items) : a = b := by
  cases a; cases b; simp_all

theorem u32s_decode {l1 l2 : List UInt32} {r1 r2 : List Token} (hl : l1.length = l2.length)
    (h : l1.map Token.u32 ++ r1 = l2.map Token.u32 ++ r2) : l1 = l2 ∧ r1 = r2 := by
  obtain ⟨h1, h2⟩ := List.append_inj h (by simpa using hl)
  exact ⟨List.map_injective_iff.mpr (fun _ _ h => Token.u32.inj h) h1, h2⟩

theorem decodes_dynamicState : DecodesOpt dynamicStateTokens id := by
  refine decodesOpt_of_some ?_
  rintro ⟨f1, s1⟩ ⟨f2, s2⟩ r1 r2 h
  simp only [dynamicStateTokens, List.cons_append, List.cons.injEq, Token.u32.injEq] at h
  obtain ⟨hc, rfl, h⟩ := h
  obtain ⟨hs, hr⟩ := u32s_decode (by simpa using congrArg UInt32.toNat hc) h
  exact ⟨by simp [VkArray.eq_of_items hs], hr⟩

theorem decodes_depthStencil (dyn : Option VkPipelineDynamicStateCreateInfo) :
    DecodesOpt (depthStencilTokens (declaredFlags dyn)) (maskDepthStencil dyn) := by
  refine decodesOpt_of_some ?_
  rintro ⟨f, dte, dwe, dco, dbte, ste, ⟨a1, a2, a3, a4, a5, a6, a7⟩, ⟨b1, b2, b3, b4, b5, b6, b7⟩,
    mn, mx⟩ ⟨f', dte', dwe', dco', dbte', ste', ⟨a1', a2', a3', a4', a5', a6', a7'⟩,
    ⟨b1', b2', b3', b4', b5', b6', b7'⟩, mn', mx'⟩ r1 r2 h
  simp only [depthStencilTokens, declaredFlags, List.cons_append, List.append_assoc,
    List.cons.injEq, Token.u32.injEq] at h
  obtain ⟨rfl, rfl, rfl, rfl, rfl, rfl, rfl, rfl, rfl, rfl, rfl, rfl, rfl, rfl, h⟩ := h
  -- the depth bounds, then the three stencil pairs, each read under its own condition
  obtain ⟨hb, h⟩ := ite_tokens_decode h pair_decode
  obtain ⟨hs, hr⟩ := ite_tokens_decode h fun h => by
    simp only [List.append_assoc] at h
    obtain ⟨hc, h⟩ := ite_tokens_decode h pair_decode
    obtain ⟨hr, h⟩ := ite_tokens_decode h pair_decode
    obtain ⟨hw, h⟩ := ite_tokens_decode h pair_decode
    exact ⟨And.intro hc (And.intro hr hw), h⟩
  refine ⟨?_, hr⟩
  simp_all +contextual [maskDepthStencil, maskStencilOp, ite_zero_congr]

theorem decodes_inputAssembly : DecodesOpt inputAssemblyTokens id :=
  decodesOpt_of_some <| decodes_of_length (fun _ _ => rfl) fun x y h => by
    cases x; cases y; simp_all [inputAssemblyTokens]

theorem decodes_tessellation : DecodesOpt tessellationTokens id :=
  decodesOpt_of_some <| decodes_of_length (fun _ _ => rfl) fun x y h => by
    cases x; cases y; simp_all [tessellationTokens]

theorem decodes_rasterization (dyn : Option VkPipelineDynamicStateCreateInfo) :
    DecodesOpt (rasterizationTokens (declaredFlags dyn)) (maskRasterization dyn) := by
  refine decodesOpt_of_some ?_
  rintro ⟨f, dce, rde, pm, cm, ff, dbe, bc, bcl, bs, lw⟩ ⟨f', dce', rde', pm', cm', ff', dbe', bc', bcl',
    bs', lw'⟩ r1 r2 h
  simp only [rasterizationTokens, declaredFlags, List.cons_append, List.append_assoc,
    List.cons.injEq, Token.u32.injEq] at h
  obtain ⟨rfl, rfl, rfl, rfl, rfl, rfl, rfl, h⟩ := h
  by_cases hd : declares dyn VK_DYNAMIC_STATE_DEPTH_BIAS <;> split_ifs at h <;>
    simp_all [maskRasterization]

theorem decodes_vertexInput : DecodesOpt vertexInputTokens id := by
  refine decodesOpt_of_some ?_
  rintro ⟨f, bs, as⟩ ⟨f', bs', as'⟩ r1 r2 h
  simp only [vertexInputTokens, List.cons_append, List.append_assoc, List.cons.injEq,
    Token.u32.injEq] at h
  obtain ⟨rfl, ha, hb, h⟩ := h
  obtain ⟨ha, h⟩ := decodes_attribute.flatMap (by simpa using congrArg UInt32.toNat ha) h
  obtain ⟨hb, hr⟩ := decodes_vertexBinding.flatMap (by simpa using congrArg UInt32.toNat hb) h
  simp only [List.map_id] at ha hb
  exact ⟨by simp [VkArray.eq_of_items ha, VkArray.eq_of_items hb], hr⟩

/-- A present multisample state is read back once it is known whether it has a sample
mask; an absent one feeds nothing. -/
theorem multisample_decode {x y : Option VkPipelineMultisampleStateCreateInfo}
    {r1 r2 : List Token} (hs : x.map (·.pSampleMask.isSome) = y.map (·.pSampleMask.isSome))
    (h : multisampleTokens x ++ r1 = multisampleTokens y ++ r2) : x = y ∧ r1 = r2 := by
  rcases x with _ | ⟨f, rs, sse, mss, m, a2c, a2o, hm⟩ <;>
    rcases y with _ | ⟨f', rs', sse', mss', m', a2c', a2o', hm'⟩
  · exact ⟨rfl, h⟩
  · cases hs
  · cases hs
  · simp only [multisampleTokens, List.cons_append, List.append_assoc, List.cons.injEq,
      Token.u32.injEq, Token.f32.injEq] at h
    obtain ⟨rfl, rfl, rfl, rfl, rfl, rfl, h⟩ := h
    rcases m with _ | m <;> rcases m' with _ | m' <;> simp at hs
    · simpa using h
    · obtain ⟨rfl, hr⟩ := u32s_decode ((hm m rfl).trans (hm' m' rfl).symm) h
      exact ⟨rfl, hr⟩

/-! ## Viewport states -/

/-- The rectangles a stream shows: none behind a dynamic state, and a null pointer and an
empty array alike. -/
def maskRectangles {α : Type} (dynamic : Bool) (p : Option (List α)) (count : UInt32) :
    Option (List α) :=
  if dynamic || count == 0 then none else p

def maskViewportStream (dyn : Option VkPipelineDynamicStateCreateInfo)
    (vp : VkPipelineViewportStateCreateInfo) : VkPipelineViewportStateCreateInfo :=
  { vp with
    pViewports := maskRectangles (declares dyn VK_DYNAMIC_STATE_VIEWPORT) vp.pViewports
      vp.viewportCount
    pScissors := maskRectangles (declares dyn VK_DYNAMIC_STATE_SCISSOR) vp.pScissors vp.scissorCount
    viewports_length := fun l hl => by
      unfold maskRectangles at hl; split at hl
      · cases hl
      · exact vp.viewports_length l hl
    scissors_length := fun l hl => by
      unfold maskRectangles at hl; split at hl
      · cases hl
      · exact vp.scissors_length l hl }

theorem readArray_eq_ok {α : Type} {p : Option (List α)} {count : UInt32} {l : List α}
    (hlen : ∀ l, p = some l → l.length = count.toNat) (h : readArray p count = .ok l) :
    l.length = count.toNat ∧ (count ≠ 0 → p = some l) := by
  unfold readArray at h
  rcases p with _ | l'
  · split_ifs at h with hc
    cases h; simp [hc]
  · cases h; exact ⟨hlen _ rfl, fun _ => rfl⟩

theorem rectangleTokens_decode {α : Type} {enc : α → List Token} (hd : Decodes enc id)
    {dynamic : Bool} {p1 p2 : Option (List α)} {count : UInt32} {t1 t2 r1 r2 : List Token}
    (hl1 : ∀ l, p1 = some l → l.length = count.toNat)
    (hl2 : ∀ l, p2 = some l → l.length = count.toNat)
    (h1 : rectangleTokens enc dynamic p1 count = .ok t1)
    (h2 : rectangleTokens enc dynamic p2 count = .ok t2) (h : t1 ++ r1 = t2 ++ r2) :
    maskRectangles dynamic p1 count = maskRectangles dynamic p2 count ∧ r1 = r2 := by
  unfold rectangleTokens at h1 h2
  unfold maskRectangles
  cases dynamic
  · obtain ⟨l1, hr1, rfl⟩ := except_map_eq_ok.mp h1
    obtain ⟨l2, hr2, rfl⟩ := except_map_eq_ok.mp h2
    obtain ⟨n1, s1⟩ := readArray_eq_ok hl1 hr1
    obtain ⟨n2, s2⟩ := readArray_eq_ok hl2 hr2
    obtain ⟨he, hr⟩ := hd.flatMap (n1.trans n2.symm) h
    simp only [List.map_id] at he
    refine ⟨?_, hr⟩
    by_cases hc : count = 0
    · simp [hc]
    · simp [hc, s1 hc, s2 hc, he]
  · cases h1; cases h2; exact ⟨rfl, h⟩

theorem viewportState_decode {dyn : Option VkPipelineDynamicStateCreateInfo}
    {x y : Option VkPipelineViewportStateCreateInfo} {t1 t2 r1 r2 : List Token}
    (hs : x.isSome = y.isSome) (h1 : viewportStateTokens (declaredFlags dyn) x = .ok t1)
    (h2 : viewportStateTokens (declaredFlags dyn) y = .ok t2) (h : t1 ++ r1 = t2 ++ r2) :
    x.map (maskViewportStream dyn) = y.map (maskViewportStream dyn) ∧ r1 = r2 := by
  rcases x with _ | ⟨f, vc, vs, sc, ss, hv, hs'⟩ <;> rcases y with _ | ⟨f', vc', vs', sc', ss', hv', hs''⟩
  · cases h1; cases h2; exact ⟨rfl, List.append_cancel_left h⟩
  · cases hs
  · cases hs
  · simp only [viewportStateTokens] at h1 h2
    obtain ⟨s1, hs1, h1⟩ := except_bind_eq_ok.mp h1
    obtain ⟨v1, hv1, h1⟩ := except_bind_eq_ok.mp h1
    obtain ⟨s2, hs2, h2⟩ := except_bind_eq_ok.mp h2
    obtain ⟨v2, hv2, h2⟩ := except_bind_eq_ok.mp h2
    cases h1; cases h2
    simp only [List.cons_append, List.append_assoc, List.cons.injEq, Token.u32.injEq] at h
    obtain ⟨rfl, rfl, rfl, h⟩ := h
    obtain ⟨hsm, h⟩ := rectangleTokens_decode decodes_scissor hs' hs'' hs1 hs2 h
    obtain ⟨hvm, hr⟩ := rectangleTokens_decode decodes_viewport hv hv' hv1 hv2 h
    refine ⟨?_, hr⟩
    simp only [Option.map_some', maskViewportStream, declaredFlags] at hsm hvm ⊢
    simp [hsm, hvm]

/-! ## Color blend states -/

/-- The color blend state a stream shows: attachments as `maskAttachmentStream`, and the
blend constants only when a blending attachment uses `CONSTANT_COLOR` or `CONSTANT_ALPHA`
and they are not dynamic. -/
def maskColorBlendStream (dyn : Option VkPipelineDynamicStateCreateInfo)
    (b : VkPipelineColorBlendStateCreateInfo) : VkPipelineColorBlendStateCreateInfo :=
  { b with
    pAttachments := b.pAttachments.map maskAttachmentStream
    blendConstants :=
      if declares dyn VK_DYNAMIC_STATE_BLEND_CONSTANTS || !decide (needBlendConstants b.pAttachments.items)
      then [0, 0, 0, 0] else b.blendConstants
    blendConstants_length := by split <;> simp [b.blendConstants_length] }

theorem needBlendConstants_maskStream (l : List VkPipelineColorBlendAttachmentState) :
    needBlendConstants (l.map maskAttachmentStream) ↔ needBlendConstants l := by
  simp only [needBlendConstants, List.mem_map, exists_exists_and_eq_and]
  refine exists_congr fun a => and_congr_right fun _ => ?_
  by_cases h : a.blendEnable = 0 <;> simp [maskAttachmentStream, maskAttachment, h]

theorem decodes_colorBlend (dyn : Option VkPipelineDynamicStateCreateInfo) :
    DecodesOpt (colorBlendTokens (declaredFlags dyn)) (maskColorBlendStream dyn) := by
  refine decodesOpt_of_some ?_
  rintro ⟨f, loe, lo, as, bc, hbc⟩ ⟨f', loe', lo', as', bc', hbc'⟩ r1 r2 h
  simp only [colorBlendTokens, declaredFlags, List.cons_append, List.append_assoc, List.cons.injEq,
    Token.u32.injEq] at h
  obtain ⟨rfl, hn, rfl, rfl, h⟩ := h
  obtain ⟨ha, h⟩ := decodes_attachment.flatMap (by simpa using congrArg UInt32.toNat hn) h
  have hA : as.map maskAttachmentStream = as'.map maskAttachmentStream :=
    VkArray.eq_of_items (by simpa only [VkArray.map_items] using ha)
  have hneed : needBlendConstants as.items ↔ needBlendConstants as'.items := by
    rw [← needBlendConstants_maskStream, ha, needBlendConstants_maskStream]
  by_cases hd : declares dyn VK_DYNAMIC_STATE_BLEND_CONSTANTS
  · simp only [hd, Bool.not_true, Bool.false_eq_true, and_false, if_false, List.nil_append] at h
    exact ⟨by simp [maskColorBlendStream, hA, hd], h⟩
  · by_cases hc : needBlendConstants as.items
    · simp only [hd, hc, hneed.mp hc, Bool.not_false, and_self, if_true] at h
      obtain ⟨hb, hr⟩ := List.append_inj h (by simp [hbc, hbc'])
      have hb : bc = bc' := List.map_injective_iff.mpr (fun _ _ => Token.f32.inj) hb
      exact ⟨by simp [maskColorBlendStream, hA, hd, hc, hneed.mp hc, hb], hr⟩
    · simp only [hc, mt hneed.mpr hc, false_and, if_false, List.nil_append] at h
      exact ⟨by simp [maskColorBlendStream, hA, hd, hc, mt hneed.mpr hc], h⟩

/-! ## Stages -/

def maskSpecialization (spec : VkSpecializationInfo) : VkSpecializationInfo :=
  { spec with pMapEntries := spec.pMapEntries.map maskMapEntry }

theorem decodes_specialization : DecodesOpt specializationTokens maskSpecialization := by
  refine decodesOpt_of_some ?_
  rintro ⟨es, ds, d, hd⟩ ⟨es', ds', d', hd'⟩ r1 r2 h
  simp only [specializationTokens, hashSpecializationInfo, List.cons_append, List.append_assoc,
    List.cons.injEq, Token.data.injEq, Token.u32.injEq] at h
  obtain ⟨rfl, -, hn, h⟩ := h
  obtain ⟨he, hr⟩ := decodes_mapEntry.flatMap (by simpa using congrArg UInt32.toNat hn) h
  obtain rfl : ds = ds' := UInt64.toNat.inj (hd.symm.trans hd')
  have hE : es.map maskMapEntry = es'.map maskMapEntry :=
    VkArray.eq_of_items (by simpa only [VkArray.map_items] using he)
  exact ⟨by simp [maskSpecialization, hE], hr⟩

/-- A stage as its stream shows it: its module only through the module's hash. -/
def maskStage (s : VkPipelineShaderStageCreateInfo) : VkPipelineShaderStageCreateInfo :=
  { s with
    module := VK_NULL_HANDLE
    pSpecializationInfo := s.pSpecializationInfo.map maskSpecialization }

theorem hashEach_cons_eq_ok {α : Type} {f : α → Except Fault (List Token)} {x : α} {xs : List α}
    {t : List Token} (h : hashEach f (x :: xs) = .ok t) :
    ∃ a b, f x = .ok a ∧ hashEach f xs = .ok b ∧ t = a ++ b := by
  obtain ⟨a, ha, h⟩ := except_bind_eq_ok.mp h
  obtain ⟨b, hb, h⟩ := except_bind_eq_ok.mp h
  exact ⟨a, b, ha, hb, (Except.ok.inj h).symm⟩

theorem stageTokens_eq_ok {R : StateRecorder} {s : VkPipelineShaderStageCreateInfo}
    {t : List Token} (h : stageTokens R s = .ok t) :
    ∃ v, R.getHashForShaderModule s.module = .ok v ∧
      t = [.u32 s.flags, .string s.pName, .u32 s.stage, .u64 v] ++
        specializationTokens s.pSpecializationInfo := by
  obtain ⟨v, hv, h⟩ := except_bind_eq_ok.mp h
  exact ⟨v, hv, (Except.ok.inj h).symm⟩

theorem stages_decode {R : StateRecorder} :
    ∀ {l1 l2 : List VkPipelineShaderStageCreateInfo} {t1 t2 r1 r2 : List Token},
      l1.map (·.pSpecializationInfo.isSome) = l2.map (·.pSpecializationInfo.isSome) →
      hashEach (stageTokens R) l1 = .ok t1 → hashEach (stageTokens R) l2 = .ok t2 →
      t1 ++ r1 = t2 ++ r2 →
      l1.map maskStage = l2.map maskStage ∧
        l1.map (fun s => R.getHashForShaderModule s.module) =
          l2.map (fun s => R.getHashForShaderModule s.module) ∧ r1 = r2
  | [], [], _, _, _, _, _, h1, h2, h => by
    cases h1; cases h2; exact ⟨rfl, rfl, h⟩
  | x :: xs, y :: ys, _, _, _, _, hs, h1, h2, h => by
    obtain ⟨a1, b1, ha1, hb1, rfl⟩ := hashEach_cons_eq_ok h1
    obtain ⟨a2, b2, ha2, hb2, rfl⟩ := hashEach_cons_eq_ok h2
    obtain ⟨v1, hv1, rfl⟩ := stageTokens_eq_ok ha1
    obtain ⟨v2, hv2, rfl⟩ := stageTokens_eq_ok ha2
    simp only [List.map_cons, List.cons.injEq] at hs
    simp only [List.cons_append, List.append_assoc, List.cons.injEq, Token.u32.injEq,
      Token.string.injEq, Token.u64.injEq, List.nil_append] at h
    obtain ⟨hf, hn, hst, rfl, h⟩ := h
    obtain ⟨hsp, h⟩ := decodes_specialization _ _ _ _ hs.1 h
    obtain ⟨hm, hh, hr⟩ := stages_decode hs.2 hb1 hb2 h
    refine ⟨?_, ?_, hr⟩
    · simp only [List.map_cons, hm, maskStage, hf, hn, hst, hsp]
    · simp only [List.map_cons, hh, hv1, hv2]

/-! ## Whole pipelines -/

/-- Which optional parts of a pipeline are present, what its stream does not delimit: the
base pipeline, the nine state blocks (the multisample one with whether it has a sample
mask) and each stage's specialization info. -/
structure Shape where
  base : Bool
  dynamicState : Bool
  depthStencil : Bool
  inputAssembly : Bool
  rasterization : Bool
  sampleMask : Option Bool
  viewport : Bool
  vertexInput : Bool
  colorBlend : Bool
  tessellation : Bool
  specializations : List Bool
  deriving DecidableEq

def shape (p : VkGraphicsPipelineCreateInfo) : Shape where
  base := p.basePipelineHandle != VK_NULL_HANDLE
  dynamicState := p.pDynamicState.isSome
  depthStencil := p.pDepthStencilState.isSome
  inputAssembly := p.pInputAssemblyState.isSome
  rasterization := p.pRasterizationState.isSome
  sampleMask := p.pMultisampleState.map (·.pSampleMask.isSome)
  viewport := p.pViewportState.isSome
  vertexInput := p.pVertexInputState.isSome
  colorBlend := p.pColorBlendState.isSome
  tessellation := p.pTessellationState.isSome
  specializations := p.pStages.items.map (·.pSpecializationInfo.isSome)

/-- The pipeline as its stream shows it: referenced handles only through their hashes
(`referencedHashes`), the index of a base pipeline only when there is one, and each block
as its stream shows it. -/
def streamMask (p : VkGraphicsPipelineCreateInfo) : VkGraphicsPipelineCreateInfo :=
  { p with
    pStages := p.pStages.map maskStage
    pDepthStencilState := p.pDepthStencilState.map (maskDepthStencil p.pDynamicState)
    pRasterizationState := p.pRasterizationState.map (maskRasterization p.pDynamicState)
    pViewportState := p.pViewportState.map (maskViewportStream p.pDynamicState)
    pColorBlendState := p.pColorBlendState.map (maskColorBlendStream p.pDynamicState)
    layout := VK_NULL_HANDLE
    renderPass := VK_NULL_HANDLE
    basePipelineHandle := VK_NULL_HANDLE
    basePipelineIndex :=
      if p.basePipelineHandle = VK_NULL_HANDLE then ⟨0⟩ else p.basePipelineIndex }

/-- What the recorder answers for each handle `compute_hash_graphics_pipeline` looks up. -/
def referencedHashes (R : StateRecorder) (p : VkGraphicsPipelineCreateInfo) :
    List (Except Fault Hash) :=
  (graphicsPipelineLookups p).map fun q => R.getHashFor q.1 q.2

theorem graphicsPipelineTokens_eq_ok {R : StateRecorder} {p : VkGraphicsPipelineCreateInfo}
    {t : List Token} (h : graphicsPipelineTokens R p = .ok t) :
    ∃ base vl vr vp st,
      basePipelineTokens R.getHashForGraphicsPipelineHandle p.basePipelineHandle
        p.basePipelineIndex [] = .ok base ∧
      R.getHashForPipelineLayout p.layout = .ok vl ∧ R.getHashForRenderPass p.renderPass = .ok vr ∧
      viewportStateTokens (declaredFlags p.pDynamicState) p.pViewportState = .ok vp ∧
      hashEach (stageTokens R) p.pStages.items = .ok st ∧
      t = [.u32 p.flags] ++ base ++ [.u64 vl, .u64 vr, .u32 p.subpass, .u32 p.pStages.count] ++
        (dynamicStateTokens p.pDynamicState ++
        (depthStencilTokens (declaredFlags p.pDynamicState) p.pDepthStencilState ++
        (inputAssemblyTokens p.pInputAssemblyState ++
        (rasterizationTokens (declaredFlags p.pDynamicState) p.pRasterizationState ++
        (multisampleTokens p.pMultisampleState ++ (vp ++
        (vertexInputTokens p.pVertexInputState ++
        (colorBlendTokens (declaredFlags p.pDynamicState) p.pColorBlendState ++
        (tessellationTokens p.pTessellationState ++ st))))))))) := by
  simp only [graphicsPipelineTokens, dynamicFlags_eq] at h
  obtain ⟨base, hb, h⟩ := except_bind_eq_ok.mp h
  obtain ⟨vl, hl, h⟩ := except_bind_eq_ok.mp h
  obtain ⟨vr, hr, h⟩ := except_bind_eq_ok.mp h
  obtain ⟨vp, hv, h⟩ := except_bind_eq_ok.mp h
  obtain ⟨st, hs, h⟩ := except_bind_eq_ok.mp h
  exact ⟨base, vl, vr, vp, st, hb, hl, hr, hv, hs, by simpa using (Except.ok.inj h).symm⟩

theorem basePipelineTokens_eq_ok {lookup : Handle → Except Fault Hash} {base : Handle}
    {index : Int32} {absent t : List Token} (h : basePipelineTokens lookup base index absent = .ok t) :
    (base = VK_NULL_HANDLE ∧ t = absent) ∨
      (base ≠ VK_NULL_HANDLE ∧ ∃ v, lookup base = .ok v ∧ t = [.u64 v, .s32 index]) := by
  unfold basePipelineTokens at h
  split_ifs at h with hb
  · obtain ⟨v, hv, rfl⟩ := except_map_eq_ok.mp h
    exact .inr ⟨hb, v, hv, rfl⟩
  · exact .inl ⟨not_not.mp hb, (Except.ok.inj h).symm⟩

theorem basePipeline_decode {R : StateRecorder} {base1 base2 : Handle} {idx1 idx2 : Int32}
    {b1 b2 : List Token} (hs : (base1 != VK_NULL_HANDLE) = (base2 != VK_NULL_HANDLE))
    (h1 : basePipelineTokens R.getHashForGraphicsPipelineHandle base1 idx1 [] = .ok b1)
    (h2 : basePipelineTokens R.getHashForGraphicsPipelineHandle base2 idx2 [] = .ok b2) :
    b1.length = b2.length ∧ (b1 = b2 →
      (if base1 = VK_NULL_HANDLE then ⟨0⟩ else idx1) = (if base2 = VK_NULL_HANDLE then ⟨0⟩ else idx2) ∧
      (basePipelineLookups .graphicsPipeline base1).map (fun q => R.getHashFor q.1 q.2) =
        (basePipelineLookups .graphicsPipeline base2).map (fun q => R.getHashFor q.1 q.2)) := by
  rcases basePipelineTokens_eq_ok h1 with ⟨hn1, rfl⟩ | ⟨hn1, w1, hw1, rfl⟩ <;>
    rcases basePipelineTokens_eq_ok h2 with ⟨hn2, rfl⟩ | ⟨hn2, w2, hw2, rfl⟩
  · simp [basePipelineLookups, hn1, hn2]
  · simp [hn1, hn2] at hs
  · simp [hn1, hn2] at hs
  · refine ⟨rfl, fun h => ?_⟩
    simp only [List.cons.injEq, Token.u64.injEq, Token.s32.injEq, and_true] at h
    obtain ⟨rfl, rfl⟩ := h
    simp only [StateRecorder.getHashForGraphicsPipelineHandle] at hw1 hw2
    simp [basePipelineLookups, hn1, hn2, hw1, hw2]

/-- **What the stream fixes.** Two pipelines of the same shape on which
`compute_hash_graphics_pipeline` feeds the same tokens agree up to `streamMask`, and the
recorder answers alike for what they reference. -/
theorem graphics_pipeline_stream_determines_pipeline {R : StateRecorder}
    {p1 p2 : VkGraphicsPipelineCreateInfo} {t : List Token} (hshape : shape p1 = shape p2)
    (h1 : graphicsPipelineTokens R p1 = .ok t) (h2 : graphicsPipelineTokens R p2 = .ok t) :
    streamMask p1 = streamMask p2 ∧ referencedHashes R p1 = referencedHashes R p2 := by
  obtain ⟨b1, l1, q1, v1, s1, hb1, hl1, hq1, hv1, hs1, rfl⟩ := graphicsPipelineTokens_eq_ok h1
  obtain ⟨b2, l2, q2, v2, s2, hb2, hl2, hq2, hv2, hs2, h⟩ := graphicsPipelineTokens_eq_ok h2
  simp only [shape, Shape.mk.injEq] at hshape
  obtain ⟨hsb, hsd, hsds, hsia, hsrs, hsms, hsvp, hsvi, hscb, hst, hssp⟩ := hshape
  obtain ⟨hlen, hbase⟩ := basePipeline_decode hsb hb1 hb2
  simp only [List.append_assoc, List.singleton_append, List.cons_append, List.cons.injEq,
    Token.u32.injEq] at h
  obtain ⟨hf, h⟩ := h
  obtain ⟨hb, h⟩ := @List.append_inj _ b1 b2 _ _ h hlen
  simp only [List.cons_append, List.cons.injEq, Token.u64.injEq, Token.u32.injEq,
    List.nil_append] at h
  obtain ⟨rfl, rfl, hsp, -, h⟩ := h
  obtain ⟨hd, h⟩ := decodes_dynamicState _ _ _ _ hsd h
  replace hd : p1.pDynamicState = p2.pDynamicState := by simpa using hd
  rw [← hd] at h hv2
  obtain ⟨hds, h⟩ := decodes_depthStencil p1.pDynamicState _ _ _ _ hsds h
  obtain ⟨hia, h⟩ := decodes_inputAssembly _ _ _ _ hsia h
  obtain ⟨hrs, h⟩ := decodes_rasterization p1.pDynamicState _ _ _ _ hsrs h
  obtain ⟨hms, h⟩ := multisample_decode hsms h
  obtain ⟨hvp, h⟩ := viewportState_decode hsvp hv1 hv2 h
  obtain ⟨hvi, h⟩ := decodes_vertexInput _ _ _ _ hsvi h
  obtain ⟨hcb, h⟩ := decodes_colorBlend p1.pDynamicState _ _ _ _ hscb h
  obtain ⟨hte, h⟩ := decodes_tessellation _ _ _ _ hst h
  obtain ⟨hsm, hmh, -⟩ := stages_decode hssp hs1 hs2 (show s1 ++ [] = s2 ++ [] by rw [h])
  have hS : p1.pStages.map maskStage = p2.pStages.map maskStage :=
    VkArray.eq_of_items (by simpa only [VkArray.map_items] using hsm)
  obtain ⟨hidx, hbl⟩ := hbase hb
  simp only [Option.map_id, id_eq] at hia hvi hte
  constructor
  · simp only [streamMask, ← hd, hds, hrs, hvp, hcb, hf, hia, hms, hvi, hte, hsp, hidx, hS]
  · simp only [referencedHashes, graphicsPipelineLookups, List.map_append, hbl, List.map_cons,
      List.map_nil, List.map_map]
    simp only [StateRecorder.getHashForPipelineLayout, StateRecorder.getHashForRenderPass] at hl1 hl2 hq1 hq2
    simp only [StateRecorder.getHashForShaderModule] at hmh
    simp only [hl1, hl2, hq1, hq2, Function.comp_def, hmh]

/-- A recorder with a pipeline layout bound to handle 1, a render pass bound to handle 2 and
a shader module bound to handle 3. -/
def referencedRecorder : StateRecorder :=
  match StateRecorder.empty.run [.register .pipelineLayout 1 ⟨0, .nil, .nil⟩,
      .setHandle .pipelineLayout 0 1, .register .renderPass 2 ⟨0, .nil, .nil, .nil⟩,
      .setHandle .renderPass 0 2, .register .shaderModule 3 ⟨0, 0, [], rfl⟩,
      .setHandle .shaderModule 0 3] with
  | .ok R => R
  | .error _ => .empty

/-- A pipeline with one stage, whose references `referencedRecorder` holds, and a color
blend state with one attachment. -/
def referencingPipeline (attachment : VkPipelineColorBlendAttachmentState)
    (blendConstants : List F32) (h : blendConstants.length = 4) : VkGraphicsPipelineCreateInfo where
  flags := 0
  pStages := ⟨[⟨0, 0, 3, "main", none⟩], by decide⟩
  pVertexInputState := none
  pInputAssemblyState := none
  pTessellationState := none
  pViewportState := none
  pRasterizationState := none
  pMultisampleState := none
  pDepthStencilState := none
  pColorBlendState := some ⟨0, 0, 0, ⟨[attachment], show 1 < 2 ^ 32 by decide⟩, blendConstants, h⟩
  pDynamicState := none
  layout := 1
  renderPass := 2
  subpass := 0
  basePipelineHandle := VK_NULL_HANDLE
  basePipelineIndex := ⟨0⟩

/-- Two pipelines that differ only in the write mask of a non-blending attachment have one
stream, so they agree up to `streamMask`. -/
theorem write_masks_share_stream_mask :
    shape (referencingPipeline ⟨0, 0, 0, 0, 0, 0, 0, 15⟩ [0, 0, 0, 0] rfl) =
        shape (referencingPipeline ⟨0, 0, 0, 0, 0, 0, 0, 0⟩ [0, 0, 0, 0] rfl) ∧
      streamMask (referencingPipeline ⟨0, 0, 0, 0, 0, 0, 0, 15⟩ [0, 0, 0, 0] rfl) =
        streamMask (referencingPipeline ⟨0, 0, 0, 0, 0, 0, 0, 0⟩ [0, 0, 0, 0] rfl) :=
  ⟨rfl, (@graphics_pipeline_stream_determines_pipeline referencedRecorder _ _ _ (by rfl) (by rfl)
    (by rfl)).1⟩

/-- `compute_hash_graphics_pipeline` returns on both and feeds them the same tokens. -/
def SameStream (R : StateRecorder) (p1 p2 : VkGraphicsPipelineCreateInfo) : Prop :=
  ∃ t, graphicsPipelineTokens R p1 = .ok t ∧ graphicsPipelineTokens R p2 = .ok t

/-- Pairs of pipelines that differ in a field their behaviour depends on and feed the same
tokens: the write mask of a non-blending attachment; blend constants read through
`ONE_MINUS_CONSTANT_COLOR`; `basePipelineIndex` beside a null base pipeline; the high half
of a map entry's `size`; an empty sample mask and none; and a zero tessellation state
beside no dynamic state, against an empty dynamic state and no tessellation state (the
color blend state left out, so that the shift reaches the tessellation block). -/
theorem graphics_pipeline_tokens_collide :
    SameStream referencedRecorder (referencingPipeline ⟨0, 0, 0, 0, 0, 0, 0, 15⟩ [0, 0, 0, 0] rfl)
      (referencingPipeline ⟨0, 0, 0, 0, 0, 0, 0, 0⟩ [0, 0, 0, 0] rfl) ∧
    SameStream referencedRecorder (referencingPipeline ⟨1, 11, 0, 0, 0, 0, 0, 15⟩ [0, 0, 0, 0] rfl)
      (referencingPipeline ⟨1, 11, 0, 0, 0, 0, 0, 15⟩ [1, 1, 1, 1] rfl) ∧
    SameStream referencedRecorder
      { referencingPipeline ⟨0, 0, 0, 0, 0, 0, 0, 15⟩ [0, 0, 0, 0] rfl with basePipelineIndex := ⟨5⟩ }
      (referencingPipeline ⟨0, 0, 0, 0, 0, 0, 0, 15⟩ [0, 0, 0, 0] rfl) ∧
    SameStream referencedRecorder
      { referencingPipeline ⟨0, 0, 0, 0, 0, 0, 0, 15⟩ [0, 0, 0, 0] rfl with
        pStages := ⟨[⟨0, 0, 3, "main", some ⟨⟨[⟨0, 0, 4294967296⟩], by decide⟩, 0, [], rfl⟩⟩],
          by decide⟩ }
      { referencingPipeline ⟨0, 0, 0, 0, 0, 0, 0, 15⟩ [0, 0, 0, 0] rfl with
        pStages := ⟨[⟨0, 0, 3, "main", some ⟨⟨[⟨0, 0, 0⟩], by decide⟩, 0, [], rfl⟩⟩], by decide⟩ } ∧
    SameStream referencedRecorder
      { referencingPipeline ⟨0, 0, 0, 0, 0, 0, 0, 15⟩ [0, 0, 0, 0] rfl with
        pMultisampleState := some ⟨0, 1, 0, 0, some [0], 0, 0, fun _ h => by cases h; rfl⟩ }
      { referencingPipeline ⟨0, 0, 0, 0, 0, 0, 0, 15⟩ [0, 0, 0, 0] rfl with
        pMultisampleState := some ⟨0, 1, 0, 0, none, 0, 0, fun _ h => by cases h⟩ } ∧
    SameStream referencedRecorder
      { referencingPipeline ⟨0, 0, 0, 0, 0, 0, 0, 15⟩ [0, 0, 0, 0] rfl with
        pColorBlendState := none, pTessellationState := some ⟨0, 0⟩ }
      { referencingPipeline ⟨0, 0, 0, 0, 0, 0, 0, 15⟩ [0, 0, 0, 0] rfl with
        pColorBlendState := none, pDynamicState := some ⟨0, .nil⟩ } :=
  ⟨⟨_, rfl, rfl⟩, ⟨_, rfl, rfl⟩, ⟨_, rfl, rfl⟩, ⟨_, rfl, rfl⟩, ⟨_, rfl, rfl⟩, ⟨_, rfl, rfl⟩⟩

end Hashing

end Fossilize
