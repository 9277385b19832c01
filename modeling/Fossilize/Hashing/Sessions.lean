import Fossilize.Hashing.Rename

/-! # Hashes over a recording session

Registries only grow, so a hash stays as it was unless a handle it looks up is bound again,
and a lookup throws exactly for a handle no `set_<kind>_handle` of the session bound.
-/

namespace Fossilize

/-- No `set_<kind>_handle` of `ops` binds one of the handles `refs` looks up. -/
def NotRebound (ops : List RecorderOp) (refs : List (Kind × Handle)) : Prop :=
  ∀ p ∈ refs, ∀ i, RecorderOp.setHandle p.1 i p.2 ∉ ops

/-- Some `set_<kind>_handle` of `ops` binds handle `p.2` of kind `p.1`. -/
def Binds (ops : List RecorderOp) (p : Kind × Handle) : Prop := ∃ i, RecorderOp.setHandle p.1 i p.2 ∈ ops

namespace HashStore

theorem validFrom_append (ops ops' : List RecorderOp) :
    ∀ S : HashStore, S.ValidFrom (ops ++ ops') ↔ S.ValidFrom ops ∧ (ops.foldl step S).ValidFrom ops' := by
  induction ops with
  | nil => simp [ValidFrom]
  | cons op ops ih => exact fun S => (and_congr_right fun _ => ih (S.step op)).trans and_assoc.symm

theorem registered_grows (k : Kind) : ∀ (ops : List RecorderOp) (S : HashStore),
    S.registered k <+: (ops.foldl step S).registered k
  | [], _ => List.prefix_refl _
  | op :: ops, S => by
    refine List.IsPrefix.trans ?_ (registered_grows k ops (S.step op))
    cases op with
    | register k' =>
      by_cases hk : k = k'
      · subst hk; simp [step]
      · simp [step, Function.update_noteq hk]
    | setHandle => exact List.prefix_refl _

theorem bound_foldl_of_notRebound {k : Kind} {h : Handle} :
    ∀ {ops : List RecorderOp} (S : HashStore), (∀ i, RecorderOp.setHandle k i h ∉ ops) →
      (ops.foldl step S).bound k h = S.bound k h
  | [], _, _ => rfl
  | op :: ops, S, hn => by
    rw [List.foldl_cons, bound_foldl_of_notRebound _ fun i hi => hn i (List.mem_cons_of_mem _ hi)]
    cases op with
    | register => rfl
    | setHandle k' i' h' =>
      have hne : ¬ (k' = k ∧ h' = h) := by
        rintro ⟨rfl, rfl⟩; exact hn i' (List.mem_cons_self _ _)
      by_cases hk : k = k'
      · subst hk
        simp only [step, Function.update_same, HandleMap.insert_apply]
        rw [if_neg fun hh => hne ⟨rfl, hh.symm⟩]
      · simp [step, Function.update_noteq hk]

/-- What the store answers for a handle that later steps do not bind again stays the same. -/
theorem getHashFor_foldl {S : HashStore} {k : Kind} {h : Handle} (ops : List RecorderOp)
    (hin : ∀ i, S.bound k h = some i → i.toNat < (S.registered k).length)
    (hn : ∀ i, RecorderOp.setHandle k i h ∉ ops) :
    (ops.foldl step S).getHashFor k h = S.getHashFor k h := by
  unfold getHashFor
  rw [bound_foldl_of_notRebound S hn]
  rcases hb : S.bound k h with _ | i
  · rfl
  · obtain ⟨t, ht⟩ := registered_grows k ops S
    simp only [← ht, List.getD_eq_getElem?_getD, List.getElem?_append_left (hin i hb)]

end HashStore

namespace StateRecorder

variable {ops ops' : List RecorderOp} {R R' : StateRecorder}

/-- Over a session that goes on, `get_hash_for_<kind>` answers for a handle that is not bound
again what it answered before. -/
theorem getHashFor_run_frame (hv : HashStore.empty.ValidFrom (ops ++ ops'))
    (h : empty.run ops = .ok R) (h' : R.run ops' = .ok R') {k : Kind} {hd : Handle}
    (hn : ∀ i, RecorderOp.setHandle k i hd ∉ ops') : R'.getHashFor k hd = R.getHashFor k hd := by
  obtain ⟨hv₁, hv₂⟩ := (HashStore.validFrom_append ops ops' _).mp hv
  have hR := run_refines refines_empty hv₁ h
  rw [getHashFor_of_refines (run_refines hR hv₂ h') k hd, getHashFor_of_refines hR k hd,
    HashStore.getHashFor_foldl ops' (hR.inRange k hd) hn]

/-- In a session, `get_hash_for_<kind>` returns exactly for a handle the session bound, and
otherwise throws `Handle is not registered.`. -/
theorem getHashFor_of_session (hv : HashStore.empty.ValidFrom ops) (h : empty.run ops = .ok R)
    (k : Kind) (hd : Handle) :
    ((∃ v, R.getHashFor k hd = .ok v) ↔ Binds ops (k, hd)) ∧
      ∀ e, R.getHashFor k hd = .error e → e = .runtimeError "Handle is not registered." := by
  have hR := run_refines refines_empty hv h
  have hnone := (HashStore.bound_eq_none_iff ops HashStore.empty k hd).trans (and_iff_right rfl)
  rw [getHashFor_of_refines hR k hd]
  unfold HashStore.getHashFor Binds
  rcases hb : (ops.foldl HashStore.step HashStore.empty).bound k hd with _ | i
  · refine ⟨⟨(fun ⟨v, hv⟩ => by cases hv), fun ⟨j, hj⟩ => absurd hj (hnone.mp hb j)⟩, fun e he => ?_⟩
    cases he; rfl
  · refine ⟨⟨fun _ => ?_, fun _ => ⟨_, rfl⟩⟩, fun e he => by cases he⟩
    by_contra hc
    rw [hnone.mpr fun j hj => hc ⟨j, hj⟩] at hb
    cases hb

end StateRecorder

/-! ## The identity renaming -/

/-- Handles left as they are. -/
def HandleRenaming.identity : HandleRenaming := ⟨id, fun _ => Iff.rfl⟩

namespace HandleRenaming

@[simp] theorem identity_map (h : Handle) : identity.map h = h := rfl

@[simp] theorem identity_binding (b : VkDescriptorSetLayoutBinding) : identity.binding b = b := by
  cases b; simp [binding, identity]

theorem identity_map_array {α : Type} {f : α → α} (hf : ∀ x, f x = x) (a : VkArray α) : a.map f = a := by
  rw [show f = id from funext hf]; cases a; simp [VkArray.map]

@[simp] theorem identity_descriptorSetLayout (c : VkDescriptorSetLayoutCreateInfo) :
    identity.descriptorSetLayout c = c := by
  cases c; simp [descriptorSetLayout, identity_map_array identity_binding]

@[simp] theorem identity_pipelineLayout (c : VkPipelineLayoutCreateInfo) : identity.pipelineLayout c = c := by
  cases c; simp [pipelineLayout, identity_map_array identity_map]

@[simp] theorem identity_stage (s : VkPipelineShaderStageCreateInfo) : identity.stage s = s := rfl

@[simp] theorem identity_graphicsPipeline (c : VkGraphicsPipelineCreateInfo) :
    identity.graphicsPipeline c = c := by
  cases c; simp [graphicsPipeline, identity_map_array identity_stage]

@[simp] theorem identity_computePipeline (c : VkComputePipelineCreateInfo) :
    identity.computePipeline c = c := rfl

end HandleRenaming

namespace Hashing

/-! ## What a walk can throw -/

/-- `x` fails as the lookups of `refs` in `R` and its own check `own` do: it returns exactly
when every lookup returns and `own` passes, and it throws only what one of them throws. -/
structure FailsAs {α : Type} (R : StateRecorder) (x : Except Fault α)
    (refs : List (Kind × Handle)) (own : Except Fault Unit) : Prop where
  ok_iff : (∃ v, x = .ok v) ↔ (∀ p ∈ refs, ∃ v, R.getHashFor p.1 p.2 = .ok v) ∧ own = .ok ()
  error : ∀ e, x = .error e → (∃ p ∈ refs, R.getHashFor p.1 p.2 = .error e) ∨ own = .error e

/-- What a walk's own check says of it. -/
theorem unit_map_eq_ok {α : Type} {x : Except Fault α} : (fun _ => ()) <$> x = .ok () ↔ ∃ v, x = .ok v := by
  cases x <;> simp [Functor.map, Except.map]

theorem unit_map_eq_error {α : Type} {x : Except Fault α} {e : Fault} :
    (fun _ => ()) <$> x = .error e ↔ x = .error e := by
  cases x <;> simp [Functor.map, Except.map]

namespace FailsAs

variable {α β : Type} {R : StateRecorder} {refs refs' : List (Kind × Handle)} {o o' : Except Fault Unit}

theorem congr {x : Except Fault α} (h : FailsAs R x refs o) (hr : ∀ p, p ∈ refs ↔ p ∈ refs')
    (ho : o = o') : FailsAs R x refs' o' := by
  subst ho
  exact ⟨h.ok_iff.trans (and_congr_left' (forall_congr' fun p => imp_congr_left (hr p))),
    fun e he => (h.error e he).imp_left fun ⟨p, hp, hp'⟩ => ⟨p, (hr p).mp hp, hp'⟩⟩

theorem pure (a : α) : FailsAs R (Pure.pure a) [] (Pure.pure ()) :=
  ⟨by simp [Pure.pure, Except.pure], fun _ he => by cases he⟩

theorem lookup (k : Kind) (h : Handle) : FailsAs R (R.getHashFor k h) [(k, h)] (Pure.pure ()) :=
  ⟨by simp [Pure.pure, Except.pure], fun e he => .inl ⟨(k, h), List.mem_singleton_self _, he⟩⟩

/-- A walk that looks nothing up fails as itself. -/
theorem self (x : Except Fault α) : FailsAs R x [] ((fun _ => ()) <$> x) :=
  ⟨by cases x <;> simp [Functor.map, Except.map], fun e he => .inr (by rw [he]; rfl)⟩

theorem map {x : Except Fault α} (f : α → β) (h : FailsAs R x refs o) : FailsAs R (f <$> x) refs o := by
  refine ⟨(?_ : _ ↔ ∃ v, x = .ok v).trans h.ok_iff, fun e he => h.error e ?_⟩
  · cases x <;> simp [Functor.map, Except.map]
  · cases x <;> simp_all [Functor.map, Except.map]

theorem bind {x : Except Fault α} {f : α → Except Fault β} (hx : FailsAs R x refs o)
    (hf : ∀ a, FailsAs R (f a) refs' o') : FailsAs R (x >>= f) (refs ++ refs') (o >>= fun _ => o') := by
  refine ⟨⟨fun ⟨v, hv⟩ => ?_, fun ⟨hall, ho⟩ => ?_⟩, fun e he => ?_⟩
  · obtain ⟨a, ha, hfa⟩ := except_bind_eq_ok.mp hv
    obtain ⟨h1, ho1⟩ := hx.ok_iff.mp ⟨a, ha⟩
    obtain ⟨h2, ho2⟩ := (hf a).ok_iff.mp ⟨v, hfa⟩
    rw [ho1, ho2]
    exact ⟨fun p hp => (List.mem_append.mp hp).elim (h1 p) (h2 p), rfl⟩
  · obtain ⟨u, hou, ho'⟩ := except_bind_eq_ok.mp ho
    obtain ⟨a, ha⟩ := hx.ok_iff.mpr ⟨fun p hp => hall p (List.mem_append_left _ hp), hou⟩
    obtain ⟨v, hv⟩ := (hf a).ok_iff.mpr ⟨fun p hp => hall p (List.mem_append_right _ hp), ho'⟩
    exact ⟨v, by rw [ha]; exact hv⟩
  · cases hxe : x with
    | error e' =>
      rw [hxe] at he; cases he
      rcases hx.error e hxe with ⟨p, hp, hpe⟩ | ho
      · exact .inl ⟨p, List.mem_append_left _ hp, hpe⟩
      · exact .inr (by rw [ho]; rfl)
    | ok a =>
      rw [hxe] at he
      have ho : o = .ok () := (hx.ok_iff.mp ⟨a, hxe⟩).2
      rcases (hf a).error e he with ⟨p, hp, hpe⟩ | ho'
      · exact .inl ⟨p, List.mem_append_right _ hp, hpe⟩
      · exact .inr (by rw [ho, ho']; rfl)

theorem hashEach {f : α → Except Fault (List Token)} {refsOf : α → List (Kind × Handle)} :
    ∀ {l : List α}, (∀ a ∈ l, FailsAs R (f a) (refsOf a) (Pure.pure ())) →
      FailsAs R (Hashing.hashEach f l) (l.flatMap refsOf) (Pure.pure ())
  | [], _ => pure _
  | a :: l, h =>
    ((h a (List.mem_cons_self _ _)).bind fun _ =>
      (hashEach fun b hb => h b (List.mem_cons_of_mem _ hb)).bind fun _ => pure _).congr
      (by simp) rfl

/-- Within a session, a walk throws only `Handle is not registered.` or a fault of its own
check, and returns exactly when the session bound every handle it looks up and the check
passes. -/
theorem of_session {ops : List RecorderOp} {x : Except Fault α} (hv : HashStore.empty.ValidFrom ops)
    (h : StateRecorder.empty.run ops = .ok R) (hx : FailsAs R x refs o) :
    ((∃ v, x = .ok v) ↔ (∀ p ∈ refs, Binds ops p) ∧ o = .ok ()) ∧
      ∀ e, x = .error e → e = .runtimeError "Handle is not registered." ∨ o = .error e :=
  ⟨hx.ok_iff.trans (and_congr_left' (forall_congr' fun p => imp_congr_right fun _ =>
      (StateRecorder.getHashFor_of_session hv h p.1 p.2).1)),
    fun e he => (hx.error e he).imp_left fun ⟨p, _, hp⟩ =>
      (StateRecorder.getHashFor_of_session hv h p.1 p.2).2 e hp⟩

/-- The same for a walk with no check of its own. -/
theorem of_session_pure {ops : List RecorderOp} {x : Except Fault α} (hv : HashStore.empty.ValidFrom ops)
    (h : StateRecorder.empty.run ops = .ok R) (hx : FailsAs R x refs (Pure.pure ())) :
    ((∃ v, x = .ok v) ↔ ∀ p ∈ refs, Binds ops p) ∧
      ∀ e, x = .error e → e = .runtimeError "Handle is not registered." := by
  simpa [Pure.pure, Except.pure] using hx.of_session hv h

end FailsAs

theorem failsAs_hashBinding (R : StateRecorder) (b : VkDescriptorSetLayoutBinding) :
    FailsAs R (hashBinding R b) (bindingLookups b) (pure ()) := by
  unfold hashBinding bindingLookups
  rcases b.pImmutableSamplers with _ | l
  · exact ((FailsAs.pure _).bind fun _ => .pure _).congr (by simp) rfl
  · split_ifs
    · exact ((FailsAs.hashEach fun s _ => (FailsAs.lookup .sampler s).map _).bind
        fun _ => .pure _).congr (by simp [eq_comm]) rfl
    · exact ((FailsAs.pure _).bind fun _ => .pure _).congr (by simp) rfl

theorem failsAs_descriptorSetLayoutTokens (R : StateRecorder) (c : VkDescriptorSetLayoutCreateInfo) :
    FailsAs R (descriptorSetLayoutTokens R c) (descriptorSetLayoutLookups c) (pure ()) :=
  ((FailsAs.hashEach fun b _ => failsAs_hashBinding R b).bind fun _ => .pure _).congr
    (by simp [descriptorSetLayoutLookups]) rfl

theorem failsAs_setLayoutTokens (R : StateRecorder) (s : Handle) :
    FailsAs R (setLayoutTokens R s) (if s ≠ VK_NULL_HANDLE then [(.descriptorSetLayout, s)] else [])
      (pure ()) := by
  unfold setLayoutTokens
  split_ifs
  · exact (FailsAs.lookup _ _).map _
  · exact .pure _

theorem failsAs_pipelineLayoutTokens (R : StateRecorder) (c : VkPipelineLayoutCreateInfo) :
    FailsAs R (pipelineLayoutTokens R c) (pipelineLayoutLookups c) (pure ()) :=
  ((FailsAs.hashEach fun s _ => failsAs_setLayoutTokens R s).bind fun _ => .pure _).congr
    (fun p => by simp [pipelineLayoutLookups, and_assoc, @eq_comm _ p]) rfl

theorem failsAs_basePipelineTokens (R : StateRecorder) (k : Kind) (base : Handle) (index : Int32)
    (absent : List Token) :
    FailsAs R (basePipelineTokens (R.getHashFor k) base index absent) (basePipelineLookups k base)
      (pure ()) := by
  unfold basePipelineTokens basePipelineLookups
  split_ifs
  · exact (FailsAs.lookup _ _).map _
  · exact .pure _

theorem failsAs_stageTokens (R : StateRecorder) (s : VkPipelineShaderStageCreateInfo) :
    FailsAs R (stageTokens R s) [(.shaderModule, s.module)] (pure ()) :=
  ((FailsAs.lookup _ _).bind fun _ => .pure _).congr (by simp) rfl

/-- The graphics pipeline's own check is the walk of its viewport state, which reads the
scissor and viewport arrays that are not dynamic. -/
theorem failsAs_graphicsPipelineTokens (R : StateRecorder) (c : VkGraphicsPipelineCreateInfo) :
    FailsAs R (graphicsPipelineTokens R c) (graphicsPipelineLookups c)
      ((fun _ => ()) <$> viewportStateTokens (dynamicFlags c.pDynamicState) c.pViewportState) :=
  ((failsAs_basePipelineTokens R _ _ _ _).bind fun _ => (FailsAs.lookup _ _).bind fun _ =>
    (FailsAs.lookup _ _).bind fun _ => (FailsAs.self _).bind fun _ =>
      (FailsAs.hashEach fun s _ => failsAs_stageTokens R s).bind fun _ => .pure _).congr
    (by simp [graphicsPipelineLookups, or_assoc, eq_comm])
    (by cases viewportStateTokens (dynamicFlags c.pDynamicState) c.pViewportState <;> rfl)

theorem failsAs_computePipelineTokens (R : StateRecorder) (c : VkComputePipelineCreateInfo) :
    FailsAs R (computePipelineTokens R c) (computePipelineLookups c) (pure ()) :=
  ((FailsAs.lookup _ _).bind fun _ => (failsAs_basePipelineTokens R _ _ _ _).bind fun _ =>
    (FailsAs.lookup _ _).bind fun _ => .pure _).congr (by simp [computePipelineLookups]) rfl

section Sessions

variable (digest : List Token → Hash) {ops ops' : List RecorderOp} {R R' : StateRecorder}

/-- Two recorders of one session agree on the handles not bound again in between. -/
theorem lookupsAgree_of_notRebound (hv : HashStore.empty.ValidFrom (ops ++ ops'))
    (h : StateRecorder.empty.run ops = .ok R) (h' : R.run ops' = .ok R') {refs : List (Kind × Handle)}
    (hn : NotRebound ops' refs) : LookupsAgree R' R HandleRenaming.identity refs :=
  fun p hp => StateRecorder.getHashFor_run_frame hv h h' (hn p hp)

/-- Over a recording session that goes on with more registrations and bindings, what
`get_hash_for_<kind>` answers for a handle not bound again stays the same, and so does the
hash of a descriptor set layout, a pipeline layout, a graphics or a compute pipeline none of
whose looked-up handles is bound again. -/
theorem hashes_stable_along_session (hv : HashStore.empty.ValidFrom (ops ++ ops'))
    (h : StateRecorder.empty.run ops = .ok R) (h' : R.run ops' = .ok R') :
    (∀ k hd, (∀ i, RecorderOp.setHandle k i hd ∉ ops') → R'.getHashFor k hd = R.getHashFor k hd) ∧
    (∀ c, NotRebound ops' (descriptorSetLayoutLookups c) →
      computeHashDescriptorSetLayout digest R' c = computeHashDescriptorSetLayout digest R c) ∧
    (∀ c, NotRebound ops' (pipelineLayoutLookups c) →
      computeHashPipelineLayout digest R' c = computeHashPipelineLayout digest R c) ∧
    (∀ c, NotRebound ops' (graphicsPipelineLookups c) →
      computeHashGraphicsPipeline digest R' c = computeHashGraphicsPipeline digest R c) ∧
    (∀ c, NotRebound ops' (computePipelineLookups c) →
      computeHashComputePipeline digest R' c = computeHashComputePipeline digest R c) := by
  refine ⟨fun _ _ hn => StateRecorder.getHashFor_run_frame hv h h' hn, fun c hn => ?_, fun c hn => ?_,
    fun c hn => ?_, fun c hn => ?_⟩
  · have := descriptorSetLayoutTokens_rename (lookupsAgree_of_notRebound hv h h' hn)
    simp only [computeHashDescriptorSetLayout, HandleRenaming.identity_descriptorSetLayout, this]
  · have := pipelineLayoutTokens_rename (lookupsAgree_of_notRebound hv h h' hn)
    simp only [computeHashPipelineLayout, HandleRenaming.identity_pipelineLayout, this]
  · have := graphicsPipelineTokens_rename (lookupsAgree_of_notRebound hv h h' hn)
    simp only [computeHashGraphicsPipeline, HandleRenaming.identity_graphicsPipeline, this]
  · have := computePipelineTokens_rename (lookupsAgree_of_notRebound hv h h' hn)
    simp only [computeHashComputePipeline, HandleRenaming.identity_computePipeline, this]

/-- A session of two empty set layouts: the first is registered under hash `7` and bound to
handle `42`, then the second under hash `8`, bound to handle `43`. -/
def firstLayoutOps : List RecorderOp :=
  [.register .descriptorSetLayout 7 ⟨0, .nil⟩, .setHandle .descriptorSetLayout 0 42]

def secondLayoutOps : List RecorderOp :=
  [.register .descriptorSetLayout 8 ⟨0, .nil⟩, .setHandle .descriptorSetLayout 1 43]

def firstLayoutRecorder : StateRecorder :=
  match StateRecorder.empty.run firstLayoutOps with
  | .ok R => R
  | .error _ => .empty

def secondLayoutRecorder : StateRecorder :=
  match firstLayoutRecorder.run secondLayoutOps with
  | .ok R => R
  | .error _ => .empty

theorem layout_session_valid : HashStore.empty.ValidFrom (firstLayoutOps ++ secondLayoutOps) :=
  ⟨trivial, ⟨0, by simp [HashStore.step, HashStore.empty], rfl⟩, trivial,
    ⟨1, by simp [HashStore.step, HashStore.empty], rfl⟩, trivial⟩

theorem layout_hashes_stable :
    HashStore.empty.ValidFrom (firstLayoutOps ++ secondLayoutOps) ∧
      StateRecorder.empty.run firstLayoutOps = .ok firstLayoutRecorder ∧
      firstLayoutRecorder.run secondLayoutOps = .ok secondLayoutRecorder ∧
      ((∀ k hd, (∀ i, RecorderOp.setHandle k i hd ∉ secondLayoutOps) →
          secondLayoutRecorder.getHashFor k hd = firstLayoutRecorder.getHashFor k hd) ∧
        (∀ c, NotRebound secondLayoutOps (descriptorSetLayoutLookups c) →
          computeHashDescriptorSetLayout (fun ts => ts.length.toUInt64) secondLayoutRecorder c =
            computeHashDescriptorSetLayout (fun ts => ts.length.toUInt64) firstLayoutRecorder c) ∧
        (∀ c, NotRebound secondLayoutOps (pipelineLayoutLookups c) →
          computeHashPipelineLayout (fun ts => ts.length.toUInt64) secondLayoutRecorder c =
            computeHashPipelineLayout (fun ts => ts.length.toUInt64) firstLayoutRecorder c) ∧
        (∀ c, NotRebound secondLayoutOps (graphicsPipelineLookups c) →
          computeHashGraphicsPipeline (fun ts => ts.length.toUInt64) secondLayoutRecorder c =
            computeHashGraphicsPipeline (fun ts => ts.length.toUInt64) firstLayoutRecorder c) ∧
        (∀ c, NotRebound secondLayoutOps (computePipelineLookups c) →
          computeHashComputePipeline (fun ts => ts.length.toUInt64) secondLayoutRecorder c =
            computeHashComputePipeline (fun ts => ts.length.toUInt64) firstLayoutRecorder c)) :=
  ⟨layout_session_valid, rfl, rfl, hashes_stable_along_session _ layout_session_valid rfl rfl⟩

/-- In a recording session, hashing a descriptor set layout, a pipeline layout or a compute
pipeline throws only the `runtime_error` `Handle is not registered.`, never a read past a
registry, and it returns exactly when the session bound every handle the walk looks up.
Hashing a graphics pipeline may also fault in its own walk of the viewport state, and
returns exactly when that walk does too. -/
theorem hashes_throw_only_for_unbound_handles {R : StateRecorder} (hv : HashStore.empty.ValidFrom ops)
    (h : StateRecorder.empty.run ops = .ok R) :
    (∀ c, ((∃ v, computeHashDescriptorSetLayout digest R c = .ok v) ↔
        ∀ p ∈ descriptorSetLayoutLookups c, Binds ops p) ∧
      ∀ e, computeHashDescriptorSetLayout digest R c = .error e → e = .runtimeError "Handle is not registered.") ∧
    (∀ c, ((∃ v, computeHashPipelineLayout digest R c = .ok v) ↔ ∀ p ∈ pipelineLayoutLookups c, Binds ops p) ∧
      ∀ e, computeHashPipelineLayout digest R c = .error e → e = .runtimeError "Handle is not registered.") ∧
    (∀ c, ((∃ v, computeHashComputePipeline digest R c = .ok v) ↔ ∀ p ∈ computePipelineLookups c, Binds ops p) ∧
      ∀ e, computeHashComputePipeline digest R c = .error e → e = .runtimeError "Handle is not registered.") ∧
    (∀ c, ((∃ v, computeHashGraphicsPipeline digest R c = .ok v) ↔
        (∀ p ∈ graphicsPipelineLookups c, Binds ops p) ∧
          ∃ ts, viewportStateTokens (dynamicFlags c.pDynamicState) c.pViewportState = .ok ts) ∧
      ∀ e, computeHashGraphicsPipeline digest R c = .error e → e = .runtimeError "Handle is not registered." ∨
        viewportStateTokens (dynamicFlags c.pDynamicState) c.pViewportState = .error e) := by
  refine ⟨fun c => ((failsAs_descriptorSetLayoutTokens R c).map digest).of_session_pure hv h,
    fun c => ((failsAs_pipelineLayoutTokens R c).map digest).of_session_pure hv h,
    fun c => ((failsAs_computePipelineTokens R c).map digest).of_session_pure hv h, fun c => ?_⟩
  have hg : FailsAs R (computeHashGraphicsPipeline digest R c) _ _ := (failsAs_graphicsPipelineTokens R c).map digest
  simpa only [unit_map_eq_ok, unit_map_eq_error] using hg.of_session hv h

theorem first_layout_session_valid : HashStore.empty.ValidFrom firstLayoutOps :=
  ⟨trivial, ⟨0, by simp [HashStore.step, HashStore.empty], rfl⟩, trivial⟩

/-- The session of the first set layout. -/
theorem first_layout_hashes_throw :
    HashStore.empty.ValidFrom firstLayoutOps ∧ StateRecorder.empty.run firstLayoutOps = .ok firstLayoutRecorder ∧
    ((∀ c, ((∃ v, computeHashDescriptorSetLayout (fun ts => ts.length.toUInt64) firstLayoutRecorder c = .ok v) ↔
        ∀ p ∈ descriptorSetLayoutLookups c, Binds firstLayoutOps p) ∧
      ∀ e, computeHashDescriptorSetLayout (fun ts => ts.length.toUInt64) firstLayoutRecorder c = .error e →
        e = .runtimeError "Handle is not registered.") ∧
    (∀ c, ((∃ v, computeHashPipelineLayout (fun ts => ts.length.toUInt64) firstLayoutRecorder c = .ok v) ↔
        ∀ p ∈ pipelineLayoutLookups c, Binds firstLayoutOps p) ∧
      ∀ e, computeHashPipelineLayout (fun ts => ts.length.toUInt64) firstLayoutRecorder c = .error e →
        e = .runtimeError "Handle is not registered.") ∧
    (∀ c, ((∃ v, computeHashComputePipeline (fun ts => ts.length.toUInt64) firstLayoutRecorder c = .ok v) ↔
        ∀ p ∈ computePipelineLookups c, Binds firstLayoutOps p) ∧
      ∀ e, computeHashComputePipeline (fun ts => ts.length.toUInt64) firstLayoutRecorder c = .error e →
        e = .runtimeError "Handle is not registered.") ∧
    (∀ c, ((∃ v, computeHashGraphicsPipeline (fun ts => ts.length.toUInt64) firstLayoutRecorder c = .ok v) ↔
        (∀ p ∈ graphicsPipelineLookups c, Binds firstLayoutOps p) ∧
          ∃ ts, viewportStateTokens (dynamicFlags c.pDynamicState) c.pViewportState = .ok ts) ∧
      ∀ e, computeHashGraphicsPipeline (fun ts => ts.length.toUInt64) firstLayoutRecorder c = .error e →
        e = .runtimeError "Handle is not registered." ∨
          viewportStateTokens (dynamicFlags c.pDynamicState) c.pViewportState = .error e)) :=
  ⟨first_layout_session_valid, rfl, hashes_throw_only_for_unbound_handles _ first_layout_session_valid rfl⟩

end Sessions

end Hashing

end Fossilize
