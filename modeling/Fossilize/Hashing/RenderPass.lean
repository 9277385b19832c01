import Fossilize.Hashing.Decode

/-! # What a render-pass token stream determines

A subpass delimits its arrays but not its optional parts; once those are known, the stream
fixes the render pass, whose `flags` are not fed.
-/

namespace Fossilize

namespace Hashing

theorem VkArray.length_eq_of_count {α : Type} {a b : VkArray α} (h : a.count = b.count) :
    a.items.length = b.items.length := by
  simpa using congrArg UInt32.toNat h

/-- A list of elements, each read back once its shape is known, is read back once the
shapes are known. -/
theorem flatMap_decode_of_shape {α σ : Type} {enc : α → List Token} {sh : α → σ}
    (hd : ∀ x y r1 r2, sh x = sh y → enc x ++ r1 = enc y ++ r2 → x = y ∧ r1 = r2) :
    ∀ {l1 l2 : List α} {r1 r2 : List Token}, l1.map sh = l2.map sh →
      l1.flatMap enc ++ r1 = l2.flatMap enc ++ r2 → l1 = l2 ∧ r1 = r2
  | [], [], _, _, _, h => ⟨rfl, by simpa using h⟩
  | x :: xs, y :: ys, _, _, hs, h => by
    simp only [List.map_cons, List.cons.injEq] at hs
    simp only [List.flatMap_cons, List.append_assoc] at h
    obtain ⟨rfl, h'⟩ := hd x y _ _ hs.1 h
    obtain ⟨rfl, hr⟩ := flatMap_decode_of_shape hd hs.2 h'
    exact ⟨rfl, hr⟩

theorem decodes_reference : Decodes referenceTokens id :=
  decodes_of_length (fun _ _ => rfl) fun x y h => by
    cases x; cases y; simp_all [referenceTokens]

theorem decodes_hashAttachment : Decodes hashAttachment id :=
  decodes_of_length (fun _ _ => rfl) fun x y h => by
    cases x; cases y; simp_all [hashAttachment]

theorem decodes_hashDependency : Decodes hashDependency id :=
  decodes_of_length (fun _ _ => rfl) fun x y h => by
    cases x; cases y; simp_all [hashDependency]

/-! ## Subpasses -/

/-- Which optional parts of a subpass are present: resolve attachments, and a depth-stencil
attachment. -/
def subpassShape (s : VkSubpassDescription) : Bool × Bool :=
  (s.pResolveAttachments.isSome, s.pDepthStencilAttachment.isSome)

theorem references_decode {l1 l2 : List VkAttachmentReference} {r1 r2 : List Token}
    (hl : l1.length = l2.length) (h : l1.flatMap referenceTokens ++ r1 = l2.flatMap referenceTokens ++ r2) :
    l1 = l2 ∧ r1 = r2 := by
  simpa using decodes_reference.flatMap hl h

/-- `hash_subpass` with its two optional parts written as functions of the options. -/
theorem hashSubpass_eq (s : VkSubpassDescription) :
    hashSubpass s =
      [.u32 s.flags, .u32 s.pColorAttachments.count, .u32 s.pInputAttachments.count,
        .u32 s.pPreserveAttachments.count, .u32 s.pipelineBindPoint] ++
      s.pPreserveAttachments.items.map .u32 ++
      s.pColorAttachments.items.flatMap referenceTokens ++
      s.pInputAttachments.items.flatMap referenceTokens ++
      (s.pResolveAttachments.getD []).flatMap referenceTokens ++
      s.pDepthStencilAttachment.elim [.u32 0] referenceTokens := by
  unfold hashSubpass
  cases s.pResolveAttachments <;> cases s.pDepthStencilAttachment <;> rfl

theorem resolve_decode {res res' : Option (List VkAttachmentReference)} {n : Nat}
    {r1 r2 : List Token} (hs : res.isSome = res'.isSome) (hl : ∀ l, res = some l → l.length = n)
    (hl' : ∀ l, res' = some l → l.length = n)
    (h : (res.getD []).flatMap referenceTokens ++ r1 = (res'.getD []).flatMap referenceTokens ++ r2) :
    res = res' ∧ r1 = r2 := by
  cases res with
  | none => cases res' with
    | none => exact ⟨rfl, h⟩
    | some _ => cases hs
  | some l => cases res' with
    | none => cases hs
    | some l' =>
      obtain ⟨rfl, hr⟩ := references_decode ((hl l rfl).trans (hl' l' rfl).symm) h
      exact ⟨rfl, hr⟩

theorem decodes_depth : DecodesOpt (fun d => Option.elim d [.u32 0] referenceTokens) id :=
  decodesOpt_of_some decodes_reference

theorem subpass_decode (s1 s2 : VkSubpassDescription) (r1 r2 : List Token)
    (hs : subpassShape s1 = subpassShape s2) (h : hashSubpass s1 ++ r1 = hashSubpass s2 ++ r2) :
    s1 = s2 ∧ r1 = r2 := by
  obtain ⟨f, bp, inp, col, res, ds, pres, hres⟩ := s1
  obtain ⟨f', bp', inp', col', res', ds', pres', hres'⟩ := s2
  simp only [subpassShape, Prod.mk.injEq] at hs
  simp only [hashSubpass_eq, List.append_assoc, List.cons_append, List.cons.injEq, Token.u32.injEq,
    List.nil_append] at h
  obtain ⟨rfl, hc, hi, hp, rfl, h₁⟩ := h
  obtain ⟨hpres, h₂⟩ := u32s_decode (VkArray.length_eq_of_count hp) h₁
  obtain ⟨hcol, h₃⟩ := references_decode (VkArray.length_eq_of_count hc) h₂
  obtain ⟨hinp, h₄⟩ := references_decode (VkArray.length_eq_of_count hi) h₃
  obtain rfl := VkArray.eq_of_items hpres
  obtain rfl := VkArray.eq_of_items hcol
  obtain rfl := VkArray.eq_of_items hinp
  obtain ⟨rfl, h₅⟩ := resolve_decode hs.1 hres hres' h₄
  obtain ⟨hd, hr⟩ := decodes_depth ds ds' r1 r2 hs.2 h₅
  simp only [Option.map_id, id_eq] at hd
  subst hd
  exact ⟨rfl, hr⟩

/-! ## Render passes -/

/-- Two render passes whose subpasses have the same optional parts, and on which
`compute_hash_render_pass` feeds the same tokens, have the same attachments, dependencies and
subpasses. -/
theorem render_pass_stream_determines_render_pass {r1 r2 : VkRenderPassCreateInfo}
    (hshape : r1.pSubpasses.items.map subpassShape = r2.pSubpasses.items.map subpassShape)
    (h : renderPassTokens r1 = renderPassTokens r2) :
    r1.pAttachments = r2.pAttachments ∧ r1.pDependencies = r2.pDependencies ∧
      r1.pSubpasses = r2.pSubpasses := by
  have h' : renderPassTokens r1 ++ [] = renderPassTokens r2 ++ [] := by rw [h]
  simp only [renderPassTokens, List.append_assoc, List.cons_append, List.cons.injEq,
    Token.u32.injEq, List.nil_append] at h'
  obtain ⟨ha, hd, -, h'⟩ := h'
  obtain ⟨hA, h'⟩ := decodes_hashAttachment.flatMap (VkArray.length_eq_of_count ha) h'
  obtain ⟨hD, h'⟩ := decodes_hashDependency.flatMap (VkArray.length_eq_of_count hd) h'
  obtain ⟨hS, -⟩ := flatMap_decode_of_shape subpass_decode hshape h'
  simp only [List.map_id] at hA hD
  exact ⟨VkArray.eq_of_items hA, VkArray.eq_of_items hD, VkArray.eq_of_items hS⟩

/-- A render pass with no attachments and no dependencies. -/
def renderPassOf (subpasses : List VkSubpassDescription) (h : subpasses.length < 2 ^ 32) :
    VkRenderPassCreateInfo :=
  ⟨0, .nil, ⟨subpasses, h⟩, .nil⟩

/-- A subpass with no attachment arrays and no resolve attachments. -/
def bareSubpass (flags bindPoint : UInt32) (depth : Option VkAttachmentReference) :
    VkSubpassDescription :=
  ⟨flags, bindPoint, .nil, .nil, none, depth, .nil, fun _ h => by cases h⟩

/-- `flags` is not fed: a render pass and its copy with other flags have one stream, and
the theorem reads back their subpasses. -/
theorem render_pass_flags_not_fed :
    (renderPassOf [bareSubpass 1 0 none] (show 1 < 2 ^ 32 by decide)).pSubpasses =
      ({ renderPassOf [bareSubpass 1 0 none] (show 1 < 2 ^ 32 by decide) with flags := 1 }).pSubpasses :=
  (@render_pass_stream_determines_render_pass
    (renderPassOf [bareSubpass 1 0 none] (show 1 < 2 ^ 32 by decide))
    { renderPassOf [bareSubpass 1 0 none] (show 1 < 2 ^ 32 by decide) with flags := 1 } rfl rfl).2.2

/-- Two render passes with one stream and different subpasses: the first subpass's missing
depth-stencil attachment feeds `u32(0)`, the same token as the first half of a present one,
and the second subpass's header absorbs the shift. Also, resolve attachments with no color
attachments feed nothing, present or not. -/
theorem render_pass_tokens_collide :
    renderPassTokens (renderPassOf [bareSubpass 1 0 none, bareSubpass 2 0 (some ⟨3, 0⟩)]
        (show 2 < 2 ^ 32 by decide)) =
      renderPassTokens (renderPassOf [bareSubpass 1 0 (some ⟨0, 2⟩), bareSubpass 0 3 none]
        (show 2 < 2 ^ 32 by decide)) ∧
    (renderPassOf [bareSubpass 1 0 none, bareSubpass 2 0 (some ⟨3, 0⟩)]
        (show 2 < 2 ^ 32 by decide)).pSubpasses ≠
      (renderPassOf [bareSubpass 1 0 (some ⟨0, 2⟩), bareSubpass 0 3 none]
        (show 2 < 2 ^ 32 by decide)).pSubpasses ∧
    renderPassTokens (renderPassOf [bareSubpass 0 0 none] (show 1 < 2 ^ 32 by decide)) =
      renderPassTokens (renderPassOf [{ bareSubpass 0 0 none with
        pResolveAttachments := some [], resolve_length := fun _ h => by cases h; rfl }]
        (show 1 < 2 ^ 32 by decide)) ∧
    (renderPassOf [bareSubpass 0 0 none] (show 1 < 2 ^ 32 by decide)).pSubpasses ≠
      (renderPassOf [{ bareSubpass 0 0 none with
        pResolveAttachments := some [], resolve_length := fun _ h => by cases h; rfl }]
        (show 1 < 2 ^ 32 by decide)).pSubpasses :=
  ⟨by decide, by decide, by decide, by decide⟩

end Hashing

end Fossilize
