import Fossilize.Replayer.Interface

/-! # The order of the calls `parse` makes on the interface

The calls `parse` makes are a prefix of `protocol doc`: per section `set_num_<kind>s`, the
enqueues at indices `0, 1, …`, then `wait_enqueue`.
-/

namespace Fossilize.Replay

/-- An enqueue with the handles its create-info refers to left out: what the order of the
calls fixes. -/
def Call.erase : Call → Call
  | .enqueue k hash index _ => .enqueue k hash index []
  | c => c

/-- Calls owed to the interface, and whether `parse` goes on past them. -/
def Owed := List Call × Bool

/-- The calls of `a`, then those of `b` when `parse` goes on past `a`. -/
def Owed.seq (a b : Owed) : Owed := if a.2 then (a.1 ++ b.1, b.2) else a

@[simp] theorem Owed.seq_nil (a : Owed) : a.seq ([], true) = a := by
  rcases a with ⟨cs, _ | _⟩ <;> simp [Owed.seq]

@[simp] theorem Owed.seq_true (cs : List Call) (b : Owed) : Owed.seq (cs, true) b = (cs ++ b.1, b.2) := rfl

@[simp] theorem Owed.seq_false (cs : List Call) (b : Owed) : Owed.seq (cs, false) b = (cs, false) := rfl

/-- The owed calls of a loop over `xs` from position `i`, `g` for each value. -/
def Owed.forEach (g : Nat → Json → Owed) : Nat → List Json → Owed
  | _, [] => ([], true)
  | i, x :: xs => (g i x).seq (Owed.forEach g (i + 1) xs)

/-- `enqueue_create_<kind>(obj["hash"].GetUint64(), index, …)`, when the hash reads. -/
def enqueueProtocol (k : Kind) (index : Nat) (obj : Json) : Owed :=
  match obj.get "hash" >>= Json.getUint64 with
  | .ok hash => ([.enqueue k hash index []], true)
  | .error _ => ([], false)

/-- The calls of a section: `set_num_<kind>s(Size())`, one enqueue per object, then
`wait_enqueue()`; nothing for a value that is not an array. -/
def sectionProtocol (k : Kind) (objs : Json) : Owed :=
  match objs.elements with
  | .error _ => ([], false)
  | .ok xs => Owed.seq ([.setNum k (xs.length % 2 ^ 32)], true)
      ((Owed.forEach (enqueueProtocol k) 0 xs).seq ([.waitEnqueue], true))

/-- The calls owed for the member `key`: its section, or `set_num_<kind>s(0)`. -/
def memberProtocol (doc : Json) (key : String) (k : Kind) : Owed :=
  match doc.hasMember key, doc.get key with
  | .error _, _ => ([], false)
  | .ok false, _ => ([.setNum k 0], true)
  | .ok true, .ok v => sectionProtocol k v
  | .ok true, .error _ => ([], false)

/-- The calls `parse` owes the interface for `doc`: the five members in the order it reads
them. -/
def protocol (doc : Json) : Owed :=
  (memberProtocol doc "shaderModules" .shaderModule).seq <|
  (memberProtocol doc "samplers" .sampler).seq <|
  (memberProtocol doc "descriptorSetLayouts" .descriptorSetLayout).seq <|
  (memberProtocol doc "pipelineLayouts" .pipelineLayout).seq <|
  memberProtocol doc "renderPasses" .renderPass

/-! ## Steps that make no call -/

/-- From every replayer, `x` leaves the calls made so far as they are. -/
def Silent {α : Type} (x : ReplayM α) : Prop := ∀ r, (exec x r).2.calls = r.calls

namespace Silent

variable {α β : Type}

theorem pure (a : α) : Silent (Pure.pure a : ReplayM α) := fun _ => rfl

theorem throw (e : Fault) : Silent (MonadExcept.throw e : ReplayM α) := fun _ => rfl

theorem get : Silent (MonadState.get : ReplayM Replayer) := fun _ => rfl

theorem ofExcept (x : Except Fault α) : Silent (MonadExcept.ofExcept x : ReplayM α) := fun r => by
  rw [exec_ofExcept]

/-- A step on `replayed_<kind>s` alone. -/
theorem modifyReplayed (f : Replayer → Kind → List Handle) :
    Silent (modify fun r => { r with replayed := f r } : ReplayM Unit) := fun _ => rfl

theorem onAllocator (f : ScratchAllocator → Except Fault (ScratchAllocator × α)) :
    Silent (Replay.onAllocator f) := fun r => by
  rw [exec_onAllocator]
  split <;> rfl

theorem writeElement (count index : Nat) : Silent (Replay.writeElement count index) := fun r => by
  rw [exec_writeElement]

theorem bind {x : ReplayM α} {f : α → ReplayM β} (hx : Silent x) (hf : ∀ a, Silent (f a)) :
    Silent (x >>= f) := fun r => by
  rw [exec_bind]
  rcases hxr : exec x r with ⟨_ | a, r₁⟩
  · exact (congrArg (·.2.calls) hxr).symm.trans (hx r)
  · exact (hf a r₁).trans ((congrArg (·.2.calls) hxr).symm.trans (hx r))

theorem ite {c : Prop} [Decidable c] {x y : ReplayM α} (hx : Silent x) (hy : Silent y) :
    Silent (if c then x else y) := by
  split <;> assumption

theorem map {x : ReplayM α} (f : α → β) (hx : Silent x) : Silent (f <$> x) := fun r => by
  rw [exec_map]
  rcases hxr : exec x r with ⟨_ | a, r₁⟩ <;> exact (congrArg (·.2.calls) hxr).symm.trans (hx r)

theorem forEach {f : Nat → Json → ReplayM α} (hf : ∀ i x, Silent (f i x)) :
    ∀ (i : Nat) (xs : List Json), Silent (Replay.forEach f i xs)
  | _, [] => pure _
  | i, x :: xs => (hf i x).bind fun _ => (Silent.forEach hf (i + 1) xs).bind fun _ => pure _

end Silent

theorem silent_allocateN (t : CLayout) (count : Nat) : Silent (allocateN t count) := Silent.onAllocator _

theorem silent_withMember {α : Type} (obj : Json) (key : String) {f : Json → ReplayM α}
    (hf : ∀ v, Silent (f v)) : Silent (withMember obj key f) :=
  (Silent.ofExcept _).bind fun _ => .ite ((Silent.ofExcept _).bind fun v => (hf v).map _) (.pure _)

theorem silent_withList {α : Type} (obj : Json) (key : String) {f : Json → ReplayM α}
    (hf : ∀ v, Silent (f v)) : Silent (withList obj key f) :=
  silent_withMember obj key fun v => (Silent.ofExcept _).bind fun _ => hf v

theorem silent_parseIndices (k : Kind) (what : String) (getIndex : Json → Except Fault Nat) (v : Json) :
    Silent (parseIndices k what getIndex v) :=
  (Silent.ofExcept _).bind fun _ => (silent_allocateN _ _).bind fun _ => (Silent.ofExcept _).bind fun _ =>
    Silent.forEach (fun _ _ => (Silent.ofExcept _).bind fun _ => Silent.get.bind fun _ =>
      (Silent.ofExcept _).bind fun _ => (Silent.writeElement _ _).bind fun _ => .pure _) _ _

theorem silent_parseFields (t : CLayout) (fields : List (String × Json.Getter)) (v : Json) :
    Silent (parseFields t fields v) :=
  (Silent.ofExcept _).bind fun _ => (silent_allocateN _ _).bind fun _ => (Silent.ofExcept _).bind fun _ =>
    (Silent.forEach (fun _ _ => (Silent.ofExcept _).bind fun _ => Silent.writeElement _ _) _ _).bind
      fun _ => .pure _

theorem silent_parseDescriptorSetBindings (v : Json) : Silent (parseDescriptorSetBindings v) :=
  (Silent.ofExcept _).bind fun _ => (silent_allocateN _ _).bind fun _ => (Silent.ofExcept _).bind fun _ =>
    (Silent.forEach (fun _ _ => (Silent.ofExcept _).bind fun _ => (Silent.writeElement _ _).bind fun _ =>
      (silent_withMember _ _ fun _ => silent_parseIndices _ _ _ _).bind fun _ => .pure _) _ _).bind
      fun _ => .pure _

theorem silent_parseAttachment (v : Json) : Silent (parseAttachment v) :=
  (silent_allocateN _ _).bind fun _ => (Silent.ofExcept _).bind fun _ => Silent.writeElement _ _

theorem silent_parseAttachments (v : Json) : Silent (parseAttachments v) :=
  (silent_allocateN _ _).bind fun _ => (Silent.ofExcept _).bind fun _ =>
    (Silent.forEach (fun _ _ => (Silent.ofExcept _).bind fun _ => (Silent.writeElement _ _).bind fun _ =>
      Silent.ofExcept _) _ _).bind fun _ => .pure _

theorem silent_parseRenderPassSubpasses (v : Json) : Silent (parseRenderPassSubpasses v) :=
  (Silent.ofExcept _).bind fun _ => (silent_allocateN _ _).bind fun _ => (Silent.ofExcept _).bind fun _ =>
    (Silent.forEach (fun _ _ => (Silent.ofExcept _).bind fun _ => (Silent.writeElement _ _).bind fun _ =>
      (silent_withMember _ _ silent_parseAttachment).bind fun _ =>
        (silent_withMember _ _ silent_parseAttachments).bind fun _ =>
          (silent_withMember _ _ silent_parseAttachments).bind fun _ => .pure _) _ _).bind fun _ => .pure _

theorem silent_decodeBase64 (buffer : List UInt8) (size : UInt64) : Silent (decodeBase64 buffer size) :=
  (Silent.onAllocator _).bind fun _ => .ite (.pure _) (.throw _)

/-- The loop bodies of the five sections make no call. -/
theorem silent_elements (obj : Json) :
    Silent (parseShaderModule obj) ∧ Silent (parseSampler obj) ∧ Silent (parseDescriptorSetLayout obj) ∧
      Silent (parsePipelineLayout obj) ∧ Silent (parseRenderPass obj) :=
  ⟨(Silent.ofExcept _).bind fun _ => (Silent.ofExcept _).bind fun _ => (Silent.ofExcept _).bind fun _ =>
      (silent_decodeBase64 _ _).bind fun _ => .pure _,
    (Silent.ofExcept _).bind fun _ => .pure _,
    (Silent.ofExcept _).bind fun _ =>
      (silent_withList _ _ silent_parseDescriptorSetBindings).bind fun _ => .pure _,
    (Silent.ofExcept _).bind fun _ => (silent_withList _ _ fun _ => silent_parseFields _ _ _).bind fun _ =>
      (silent_withList _ _ fun _ => silent_parseIndices _ _ _ _).bind fun _ => .pure _,
    (Silent.ofExcept _).bind fun _ => (silent_withList _ _ fun _ => silent_parseFields _ _ _).bind fun _ =>
      (silent_withList _ _ fun _ => silent_parseFields _ _ _).bind fun _ =>
        (silent_withList _ _ silent_parseRenderPassSubpasses).bind fun _ => .pure _⟩

/-! ## Steps that make calls -/

/-- From every replayer, `x` appends calls that, erased, are a prefix of `o.1`, and are all of
it, with `parse` going on past it, when `x` returns. -/
def Emits {α : Type} (x : ReplayM α) (o : Owed) : Prop :=
  ∀ r, ∃ cs, (exec x r).2.calls = r.calls ++ cs ∧ cs.map Call.erase <+: o.1 ∧
    ∀ a, (exec x r).1 = .ok a → cs.map Call.erase = o.1 ∧ o.2 = true

namespace Emits

variable {α β : Type} {o o' : Owed}

theorem congr {x : ReplayM α} (h : Emits x o) (he : o = o') : Emits x o' := he ▸ h

theorem of_silent {x : ReplayM α} (h : Silent x) : Emits x ([], true) :=
  fun r => ⟨[], by rw [h r, List.append_nil], List.prefix_refl _, fun _ _ => ⟨rfl, rfl⟩⟩

/-- A step that ends at a fault, leaving the replayer as it was. -/
theorem of_error (e : Fault) {x : ReplayM α} (h : ∀ r, exec x r = (.error e, r)) : Emits x ([], false) :=
  fun r => ⟨[], by rw [h r, List.append_nil], List.prefix_refl _, fun _ ha => by rw [h r] at ha; cases ha⟩

theorem call (c : Call) : Emits (Replay.call c) ([c.erase], true) :=
  fun _ => ⟨[c], rfl, List.prefix_refl _, fun _ _ => ⟨rfl, rfl⟩⟩

theorem enqueue (k : Kind) (hash : Hash) (index : Nat) (refs : List Handle) :
    Emits (Replay.call (.enqueue k hash index refs)) ([.enqueue k hash index []], true) :=
  call _

theorem bind {x : ReplayM α} {f : α → ReplayM β} (hx : Emits x o) (hf : ∀ a, Emits (f a) o') :
    Emits (x >>= f) (o.seq o') := fun r => by
  obtain ⟨c₁, h₁, hp₁, hok₁⟩ := hx r
  rw [exec_bind]
  rcases hxr : exec x r with ⟨_ | a, r₁⟩
  · rw [hxr] at h₁
    refine ⟨c₁, h₁, ?_, fun _ h => nomatch h⟩
    unfold Owed.seq
    split
    · exact hp₁.trans (List.prefix_append _ _)
    · exact hp₁
  · rw [hxr] at h₁ hok₁
    obtain ⟨he₁, hgo⟩ := hok₁ a rfl
    obtain ⟨c₂, h₂, hp₂, hok₂⟩ := hf a r₁
    refine ⟨c₁ ++ c₂, by rw [h₂, h₁, List.append_assoc], ?_, fun b hb => ?_⟩
    · rw [Owed.seq, if_pos hgo, List.map_append, he₁]
      exact (List.prefix_append_right_inj _).mpr hp₂
    · rw [Owed.seq, if_pos hgo, List.map_append, he₁, (hok₂ b hb).1]
      exact ⟨rfl, (hok₂ b hb).2⟩

theorem map {x : ReplayM α} (f : α → β) (hx : Emits x o) : Emits (f <$> x) o := fun r => by
  obtain ⟨cs, hc, hp, hok⟩ := hx r
  rw [exec_map]
  rcases hxr : exec x r with ⟨_ | a, r₁⟩ <;> rw [hxr] at hc hok
  · exact ⟨cs, hc, hp, fun _ h => nomatch h⟩
  · exact ⟨cs, hc, hp, fun _ _ => hok a rfl⟩

/-- A read that returns `a` is the rest of the step run on `a`. -/
theorem ofExcept_ok_bind {a : α} {f : α → ReplayM β} (h : Emits (f a) o) :
    Emits (MonadExcept.ofExcept (.ok a) >>= f) o := fun r => by
  simpa only [exec_bind, exec_ofExcept] using h r

theorem forEach {f : Nat → Json → ReplayM α} {g : Nat → Json → Owed} (hf : ∀ i x, Emits (f i x) (g i x)) :
    ∀ (i : Nat) (xs : List Json), Emits (Replay.forEach f i xs) (Owed.forEach g i xs)
  | _, [] => of_silent (Silent.pure _)
  | i, x :: xs =>
    ((hf i x).bind fun _ => (Emits.forEach hf (i + 1) xs).bind fun _ => of_silent (Silent.pure _)).congr
      (by simp [Owed.forEach])

end Emits

section Sections

variable (engine : Kind → Hash → Nat → Handle)

/-- One turn of a section's loop: the enqueue of its object, when the hash reads. -/
theorem iteration_emits (k : Kind) (n index : Nat) {element : Json → ReplayM (List Handle)} {obj : Json}
    (he : Silent (element obj)) :
    Emits (do
      writeElement n index
      let refs ← element obj
      let hash ← MonadExcept.ofExcept (obj.get "hash" >>= Json.getUint64)
      call (.enqueue k hash index refs)
      pure hash) (enqueueProtocol k index obj) := by
  unfold enqueueProtocol
  rcases obj.get "hash" >>= Json.getUint64 with e | hash
  · exact ((Emits.of_silent (Silent.writeElement n index)).bind fun _ => (Emits.of_silent he).bind
      fun _ => Emits.of_error e fun _ => rfl).congr rfl
  · exact ((Emits.of_silent (Silent.writeElement n index)).bind fun _ => (Emits.of_silent he).bind
      fun _ => Emits.ofExcept_ok_bind ((Emits.enqueue _ _ _ _).bind fun _ =>
        Emits.of_silent (Silent.pure _))).congr (by simp)

/-- A section makes its calls in the order of `sectionProtocol`, whatever its loop body does
to the allocator, as long as the body makes no call. -/
theorem parseSection_emits (k : Kind) (t : CLayout) {element : Json → ReplayM (List Handle)}
    (he : ∀ obj, Silent (element obj)) (objs : Json) :
    Emits (parseSection engine k t element objs) (sectionProtocol k objs) := by
  unfold parseSection sectionProtocol
  simp only [Json.size_eq]
  rcases objs.elements with e | xs
  · exact Emits.of_error e fun r => rfl
  · exact (Emits.ofExcept_ok_bind <| (Emits.call _).bind fun _ =>
      (Emits.of_silent (Silent.modifyReplayed _)).bind fun _ =>
      (Emits.of_silent (silent_allocateN _ _)).bind fun _ => Emits.ofExcept_ok_bind <|
      (Emits.forEach (fun index obj => iteration_emits k _ index (he obj)) 0 xs).bind fun _ =>
      (Emits.call _).bind fun _ => Emits.of_silent (Silent.modifyReplayed _)).congr (by simp [Call.erase])

theorem parseMember_emits (doc : Json) (key : String) (k : Kind) {parseKind : Json → ReplayM Unit}
    (h : ∀ v, Emits (parseKind v) (sectionProtocol k v)) :
    Emits (parseMember doc key k parseKind) (memberProtocol doc key k) := by
  unfold parseMember memberProtocol
  rcases doc.hasMember key with e | _ | _
  · exact Emits.of_error e fun r => rfl
  · exact Emits.ofExcept_ok_bind (Emits.call _)
  · rcases doc.get key with e | v
    · exact Emits.ofExcept_ok_bind (Emits.of_error e fun r => rfl)
    · exact Emits.ofExcept_ok_bind (Emits.ofExcept_ok_bind (h v))
theorem parseMembers_emits (doc : Json) : Emits (parseMembers engine doc) (protocol doc) :=
  (parseMember_emits doc _ _ (parseSection_emits engine _ _ (fun o => (silent_elements o).1))).bind fun _ =>
    (parseMember_emits doc _ _ (parseSection_emits engine _ _ (fun o => (silent_elements o).2.1))).bind fun _ =>
      (parseMember_emits doc _ _ (parseSection_emits engine _ _ (fun o => (silent_elements o).2.2.1))).bind
        fun _ => (parseMember_emits doc _ _
          (parseSection_emits engine _ _ (fun o => (silent_elements o).2.2.2.1))).bind fun _ =>
            parseMember_emits doc _ _ (parseSection_emits engine _ _ (fun o => (silent_elements o).2.2.2.2))

/-- The `catch` of `parse` makes no call and never returns `true`. -/
theorem catchException_silent (e : Fault) :
    Silent (catchException e) ∧ ∀ r, (exec (catchException e) r).1 ≠ .ok true := by
  cases e <;> exact ⟨fun _ => rfl, fun _ h => by cases h⟩

/-- `parse` keeps to the order of the interface on every document, from every replayer: the
calls it makes are, with the handles of each enqueue left out, a prefix of `protocol doc`,
which stops where the document makes `parse` assert; and when `parse` returns `true` they
are all of it, the document having let `parse` through. A section left early, at an
exception or a fault, has made its `set_num_<kind>s` and the enqueues before that point. -/
theorem parse_calls_follow_protocol (doc : Json) (r : Replayer) :
    ∃ cs, (exec (parse engine doc) r).2.calls = r.calls ++ cs ∧ cs.map Call.erase <+: (protocol doc).1 ∧
      ((exec (parse engine doc) r).1 = .ok true →
        cs.map Call.erase = (protocol doc).1 ∧ (protocol doc).2 = true) := by
  have hm : Emits (parseMembers engine doc >>= fun _ => pure true) (protocol doc) :=
    ((parseMembers_emits engine doc).bind fun _ => Emits.of_silent (Silent.pure true)).congr
      (Owed.seq_nil _)
  obtain ⟨cs, hc, hp, hok⟩ := hm r
  unfold parse
  rw [exec_tryCatch]
  split
  · next b r₁ hx =>
    rw [hx] at hc hok
    exact ⟨cs, hc, hp, fun _ => hok b rfl⟩
  · next e r₁ hx =>
    rw [hx] at hc
    obtain ⟨hs, hne⟩ := catchException_silent e
    exact ⟨cs, (hs r₁).trans hc, hp, fun h => absurd h (hne r₁)⟩

/-- A document with an empty `samplers` member: five sections announced, one of them closed. -/
example : (exec (parse (fun _ _ _ => 0) (.obj [("samplers", .arr [])])) Replayer.fresh).2.calls =
    [.setNum .shaderModule 0, .setNum .sampler 0, .waitEnqueue, .setNum .descriptorSetLayout 0,
      .setNum .pipelineLayout 0, .setNum .renderPass 0] := by
  decide

end Sections

end Fossilize.Replay
