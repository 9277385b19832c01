import Fossilize.Session

/-! # `StateRecorder::serialize` and `StateReplayer::parse`

`parse` of what `serialize` prints enqueues nothing: a section with values fails at its first
allocation, and set layouts and render passes are filed where `parse` never looks.
-/

namespace Fossilize

/-- A value of a rapidjson document. A number written without fraction or exponent is `num`;
any other is a double, kept here as the bits `serialize` wrote. A string keeps the bytes
`b64_decode` makes of it: `b64_encode` and `b64_decode` are not under src. -/
inductive Json
  | null
  | bool (b : Bool)
  | num (n : Int)
  | float (bits : F32)
  | base64 (bytes : List UInt8)
  | arr (items : List Json)
  | obj (members : List (String × Json))

namespace Json

/-- The value of the first member named `key`, where `FindMember` finds it. -/
def member? : Json → String → Option Json
  | .obj ms, key => (ms.find? (·.1 == key)).map Prod.snd
  | _, _ => none

/-- `HasMember(name)`: `FindMember` asserts `IsObject()`. -/
def hasMember : Json → String → Except Fault Bool
  | .obj ms, key => .ok (ms.find? (·.1 == key)).isSome
  | _, _ => .error .assertion

/-- `operator[](name)`, which asserts that the object has the member. -/
def get (v : Json) (key : String) : Except Fault Json :=
  (v.member? key).elim (.error .assertion) .ok

/-- The values from `Begin()` to `End()`, which assert `IsArray()`. -/
def elements : Json → Except Fault (List Json)
  | .arr xs => .ok xs
  | _ => .error .assertion

/-- `GetUint64()`, which asserts an integer in `[0, 2^64)`. -/
def getUint64 : Json → Except Fault UInt64
  | .num n => if 0 ≤ n ∧ n < 2 ^ 64 then .ok (UInt64.ofNat n.toNat) else .error .assertion
  | _ => .error .assertion

theorem hasMember_obj (ms : List (String × Json)) (key : String) :
    (obj ms).hasMember key = .ok ((obj ms).member? key).isSome := by
  simp [hasMember, member?]

end Json

namespace StateRecorder

/-- A sampler's object. It has no `hash` member, and `addressModeV` and `addressModeW` both
carry `addressModeU`. -/
def serializeSampler (e : Entry VkSamplerCreateInfo) : Json :=
  .obj [("flags", .num e.info.flags.toNat), ("minFilter", .num e.info.minFilter.toNat),
    ("magFilter", .num e.info.magFilter.toNat), ("maxAnisotropy", .float e.info.maxAnisotropy),
    ("compareOp", .num e.info.compareOp.toNat), ("anisotropyEnable", .num e.info.anisotropyEnable.toNat),
    ("mipmapMode", .num e.info.mipmapMode.toNat), ("addressModeU", .num e.info.addressModeU.toNat),
    ("addressModeV", .num e.info.addressModeU.toNat), ("addressModeW", .num e.info.addressModeU.toNat),
    ("borderColor", .num e.info.borderColor.toNat),
    ("unnormalizedCoordinates", .num e.info.unnormalizedCoordinates.toNat),
    ("compareEnable", .num e.info.compareEnable.toNat), ("mipLodBias", .float e.info.mipLodBias),
    ("minLod", .float e.info.minLod), ("maxLod", .float e.info.maxLod)]

def serializePipelineLayout (e : Entry VkPipelineLayoutCreateInfo) : Json :=
  .obj [("hash", .num e.hash.toNat), ("flags", .num e.info.flags.toNat),
    ("pushConstantRanges", .arr (e.info.pPushConstantRanges.items.map fun r =>
      .obj [("stageFlags", .num r.stageFlags.toNat), ("size", .num r.size.toNat),
        ("offset", .num r.offset.toNat)])),
    ("setLayouts", .arr (e.info.pSetLayouts.items.map fun h => .num h.toNat))]

def serializeShaderModule (e : Entry VkShaderModuleCreateInfo) : Json :=
  .obj [("hash", .num e.hash.toNat), ("flags", .num e.info.flags.toNat),
    ("code", .base64 e.info.pCode)]

/-- `StateRecorder::serialize`, as the document it prints. `AddMember` moves `setLayouts`
and `renderPasses` in while they are empty, and the loops fill the moved-from values. -/
def serialize (R : StateRecorder) : Json :=
  .obj [("samplers", .arr ((R.entries .sampler).map serializeSampler)),
    ("setLayouts", .arr []),
    ("pipelineLayouts", .arr ((R.entries .pipelineLayout).map serializePipelineLayout)),
    ("shaderModules", .arr ((R.entries .shaderModule).map serializeShaderModule)),
    ("renderPasses", .arr [])]

end StateRecorder

namespace StateReplayer

/-- A call `enqueue_create_<kind>(hash, index, &info, …)`; the create-info is not kept. -/
structure Enqueue where
  kind : Kind
  hash : Hash
  index : Nat
  deriving DecidableEq, Repr

/-- `parse_<kind>s` with the replayer's allocator `a`: `allocate_n_cleared` of `Size()`
create-infos of layout `t`, then `enqueue_create_<kind>` of each object's `hash`. -/
def parseSection (k : Kind) (t : CLayout) (a : ScratchAllocator) (objs : List Json) :
    Except Fault (ScratchAllocator × List Enqueue) := do
  let (a, infos) ← a.allocateN t (UInt32.ofNat objs.length).toUInt64
  match infos, objs with
  | none, _ :: _ => throw .invalidRead
  | _, _ => do
    let hashes ← objs.mapM fun o => o.get "hash" >>= Json.getUint64
    pure (a, hashes.enum.map fun (i, h) => ⟨k, h, i⟩)

/-- One member of the document: `parse_<kind>s` on it if the document has it, and else
`set_num_<kind>s(0)`, which enqueues nothing. -/
def parseMember (doc : Json) (key : String) (k : Kind) (t : CLayout) (a : ScratchAllocator) :
    Except Fault (ScratchAllocator × List Enqueue) := do
  if ← doc.hasMember key then parseSection k t a (← doc.get key >>= Json.elements) else pure (a, [])

/-- `StateReplayer::parse` of a document, by a replayer whose allocator is `a`: `true` and
the calls it enqueued, in order, or the fault it ends with; `parse` catches `bad_alloc`
and returns `false`. -/
def parse (a : ScratchAllocator) (doc : Json) : Except Fault (Bool × List Enqueue) := do
  let (a, modules) ← parseMember doc "shaderModules" .shaderModule CLayout.shaderModuleCreateInfo a
  let (a, samplers) ← parseMember doc "samplers" .sampler CLayout.samplerCreateInfo a
  let (a, setLayouts) ← parseMember doc "descriptorSetLayouts" .descriptorSetLayout
    CLayout.descriptorSetLayoutCreateInfo a
  let (a, pipelineLayouts) ← parseMember doc "pipelineLayouts" .pipelineLayout
    CLayout.pipelineLayoutCreateInfo a
  let (_, renderPasses) ← parseMember doc "renderPasses" .renderPass CLayout.renderPassCreateInfo a
  pure (true, modules ++ samplers ++ setLayouts ++ pipelineLayouts ++ renderPasses)

theorem parseMember_obj (ms : List (String × Json)) (key : String) (k : Kind) (t : CLayout)
    (a : ScratchAllocator) : parseMember (.obj ms) key k t a =
      match (Json.obj ms).member? key with
      | none => .ok (a, [])
      | some v => v.elements >>= parseSection k t a := by
  simp only [parseMember, Json.hasMember_obj, Json.get]
  cases (Json.obj ms).member? key <;> rfl

/-! ## What `parse` makes of what `serialize` prints -/

/-- From the empty allocator, a section's `allocate_n_cleared` returns only for an empty
section; for any other it throws `bad_alloc`. -/
theorem parseSection_empty (k : Kind) {t : CLayout} (ht : StateRecorder.Aligned t) :
    ∀ (objs : List Json), objs.length < 2 ^ 32 →
      parseSection k t .empty objs = if objs.isEmpty then .ok (.empty, []) else .error .badAlloc
  | [], _ => rfl
  | o :: os, hlen => by
    have hn : ((UInt32.ofNat (o :: os).length).toUInt64).toNat = (o :: os).length :=
      UInt32.toNat_ofNat_of_lt hlen
    have hc : (UInt32.ofNat (o :: os).length).toUInt64 ≠ 0 := fun h => by
      rw [h] at hn; simp at hn
    simp only [parseSection, ScratchAllocator.allocateN_empty hc ht.1
      (StateRecorder.aligned_bound ht (by rw [hn]; exact hlen))]
    rfl

/-- For every recorder, `parse` of the document `serialize` prints, by a new replayer,
enqueues nothing: it ends in `bad_alloc` when a sampler, a shader module or a pipeline layout
was registered, and otherwise returns `true`. -/
theorem parse_of_serialize_enqueues_nothing (R : StateRecorder)
    (hm : (R.entries .shaderModule).length < 2 ^ 32) (hs : (R.entries .sampler).length < 2 ^ 32)
    (hp : (R.entries .pipelineLayout).length < 2 ^ 32) :
    parse .empty R.serialize =
      if (R.entries .shaderModule).isEmpty ∧ (R.entries .sampler).isEmpty ∧
          (R.entries .pipelineLayout).isEmpty
      then .ok (true, []) else .error .badAlloc := by
  have aligned : ∀ t : CLayout, t.align = 8 → t.size.toNat ≤ 2 ^ 31 → StateRecorder.Aligned t :=
    fun t ha hs => ⟨.inr (.inr ha), hs⟩
  have hM := parseSection_empty .shaderModule (aligned CLayout.shaderModuleCreateInfo rfl (by decide))
  have hS := parseSection_empty .sampler (aligned CLayout.samplerCreateInfo rfl (by decide))
  have hP := parseSection_empty .pipelineLayout (aligned CLayout.pipelineLayoutCreateInfo rfl (by decide))
  have hR := parseSection_empty .renderPass (aligned CLayout.renderPassCreateInfo rfl (by decide)) []
    (by decide)
  simp only [parse, StateRecorder.serialize, parseMember_obj, Json.member?, List.find?_cons,
    String.reduceBEq, List.find?_nil, Option.map_some', Option.map_none', Json.elements, bind,
    Except.bind]
  simp
  rw [hM _ (by simpa using hm)]
  rcases R.entries .shaderModule with _ | ⟨m, ms⟩
  case cons => rfl
  simp only [List.map_nil, List.isEmpty_nil, if_true, bind, Except.bind]
  rw [hS _ (by simpa using hs)]
  rcases R.entries .sampler with _ | ⟨s, ss⟩
  case cons => rfl
  simp only [List.map_nil, List.isEmpty_nil, if_true, bind, Except.bind]
  rw [hP _ (by simpa using hp)]
  rcases R.entries .pipelineLayout with _ | ⟨p, ps⟩
  case cons => rfl
  simp only [List.map_nil, List.isEmpty_nil, if_true, bind, Except.bind]
  rw [hR]
  rfl

/-- One sampler registered, every field `0`: `parse` of what `serialize` prints ends in
`bad_alloc`. -/
theorem parse_of_serialize_one_sampler_bad_alloc :
    ∃ R, StateRecorder.empty.run [.register .sampler 7 ⟨0, 0, 0, 0, 0, 0, 0, 0, 0, 0, 0, 0, 0, 0, 0, 0⟩] =
        .ok R ∧
      (R.entries .shaderModule).length < 2 ^ 32 ∧ (R.entries .sampler).length < 2 ^ 32 ∧
      (R.entries .pipelineLayout).length < 2 ^ 32 ∧ parse .empty R.serialize = .error .badAlloc :=
  ⟨{ StateRecorder.empty with
      entries := Function.update StateRecorder.empty.entries .sampler
        [⟨7, ⟨0, 0, 0, 0, 0, 0, 0, 0, 0, 0, 0, 0, 0, 0, 0, 0⟩⟩] },
    rfl, by decide, by decide, by decide,
    (parse_of_serialize_enqueues_nothing _ (by decide) (by decide) (by decide)).trans rfl⟩

end StateReplayer

end Fossilize
