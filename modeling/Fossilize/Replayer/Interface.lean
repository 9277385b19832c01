import Fossilize.Replayer

/-! # `StateReplayer::parse` and the calls it makes on the interface

A step of `parse` runs in `ReplayM` over the allocator, the `replayed_<kind>s` and the calls
made so far; `engine` gives the handles `wait_enqueue` writes.
-/

namespace Fossilize

@[simp] theorem except_ok_bind {ε α β : Type} (a : α) (f : α → Except ε β) : Except.ok a >>= f = f a :=
  rfl

@[simp] theorem except_error_bind {ε α β : Type} (e : ε) (f : α → Except ε β) :
    (Except.error e >>= f) = .error e :=
  rfl

@[simp] theorem except_map_ok {ε α β : Type} (a : α) (f : α → β) : (f <$> Except.ok a : Except ε β) = .ok (f a) :=
  rfl

@[simp] theorem except_map_error {ε α β : Type} (e : ε) (f : α → β) :
    (f <$> Except.error e : Except ε β) = .error e :=
  rfl

namespace Json

/-- `Size()`, which asserts `IsArray()`, in rapidjson's 32-bit `SizeType`. -/
def size (v : Json) : Except Fault Nat := (·.length % 2 ^ 32) <$> v.elements

/-- `GetUint()`, which asserts an integer in `[0, 2^32)`. -/
def getUint : Json → Except Fault UInt32
  | .num n => if 0 ≤ n ∧ n < 2 ^ 32 then .ok (UInt32.ofNat n.toNat) else .error .assertion
  | _ => .error .assertion

/-- `GetFloat()`, that is `GetDouble()`, which asserts a number. Its value is not kept. -/
def getFloat : Json → Except Fault Unit
  | .num _ => .ok ()
  | .float _ => .ok ()
  | _ => .error .assertion

/-- `b64_decode(GetString(), strlen(GetString()))`: `GetString()` asserts a string. -/
def getString : Json → Except Fault (List UInt8)
  | .base64 bytes => .ok bytes
  | _ => .error .assertion

/-- The getter a plain field is read with; the value goes into the create-info and `parse`
never looks at it again. -/
inductive Getter
  | uint
  | float
  deriving DecidableEq, Repr

def Getter.read : Getter → Json → Except Fault Unit
  | .uint, v => discard v.getUint
  | .float, v => v.getFloat

/-- `obj[name].Get<T>()` for each plain field, in order. -/
def getFields (obj : Json) (fields : List (String × Getter)) : Except Fault Unit :=
  fields.forM fun f => obj.get f.1 >>= f.2.read

mutual

/-- Whether every array in a value has fewer than `2^32` values. -/
def sized : Json → Bool
  | .arr items => decide (items.length < 2 ^ 32) && sizedList items
  | .obj members => sizedMembers members
  | _ => true

def sizedList : List Json → Bool
  | [] => true
  | x :: xs => sized x && sizedList xs

def sizedMembers : List (String × Json) → Bool
  | [] => true
  | m :: ms => sized m.2 && sizedMembers ms

end

/-- A value rapidjson can hold: every array in it has fewer than `2^32` values. -/
def Sized (v : Json) : Prop := v.sized = true

instance (v : Json) : Decidable v.Sized := inferInstanceAs (Decidable (v.sized = true))

theorem sizedList_iff : ∀ {xs : List Json}, sizedList xs = true ↔ ∀ x ∈ xs, x.Sized
  | [] => by simp [sizedList]
  | x :: xs => by simp [sizedList, sizedList_iff, Sized]

theorem sizedMembers_iff : ∀ {ms : List (String × Json)}, sizedMembers ms = true ↔ ∀ m ∈ ms, m.2.Sized
  | [] => by simp [sizedMembers]
  | m :: ms => by simp [sizedMembers, sizedMembers_iff, Sized]

theorem size_eq (v : Json) : v.size = (·.length % 2 ^ 32) <$> v.elements := rfl

theorem getFields_cons (obj : Json) (f : String × Getter) (fields : List (String × Getter)) :
    obj.getFields (f :: fields) = (obj.get f.1 >>= f.2.read) >>= fun _ => obj.getFields fields := rfl

/-- The values `GetUint64()` accepts: integers in `[0, 2^64)`. -/
theorem getUint64_eq_ok {v : Json} {n : UInt64} : v.getUint64 = .ok n ↔ v = .num n.toNat := by
  constructor
  · intro h
    cases v with
    | num m =>
      by_cases hm : 0 ≤ m ∧ m < 2 ^ 64
      · simp only [getUint64, if_pos hm, Except.ok.injEq] at h
        subst h
        rw [UInt64.toNat_ofNat_of_lt (show m.toNat < 2 ^ 64 by omega), Int.toNat_of_nonneg hm.1]
      · rw [getUint64, if_neg hm] at h
        cases h
    | _ => cases h
  · rintro rfl
    have hn : n.toNat < 2 ^ 64 := n.toNat_lt_size
    simp only [getUint64, Int.toNat_natCast]
    rw [if_pos ⟨by omega, by omega⟩]
    exact congrArg Except.ok (UInt64.toNat.inj (UInt64.toNat_ofNat_of_lt hn))

/-- The values `GetUint()` accepts: integers in `[0, 2^32)`. -/
theorem getUint_eq_ok {v : Json} {n : UInt32} : v.getUint = .ok n ↔ v = .num n.toNat := by
  constructor
  · intro h
    cases v with
    | num m =>
      by_cases hm : 0 ≤ m ∧ m < 2 ^ 32
      · simp only [getUint, if_pos hm, Except.ok.injEq] at h
        subst h
        rw [UInt32.toNat_ofNat_of_lt (show m.toNat < 2 ^ 32 by omega), Int.toNat_of_nonneg hm.1]
      · rw [getUint, if_neg hm] at h
        cases h
    | _ => cases h
  · rintro rfl
    have hn : n.toNat < 2 ^ 32 := n.toNat_lt_size
    simp only [getUint, Int.toNat_natCast]
    rw [if_pos ⟨by omega, by omega⟩]
    exact congrArg Except.ok (UInt32.toNat.inj (UInt32.toNat_ofNat_of_lt hn))

/-- Every accessor fails only at an assertion. -/
theorem elements_error {v : Json} {e : Fault} (h : v.elements = .error e) : e = .assertion := by
  cases v <;> cases h <;> rfl

theorem hasMember_error {v : Json} {key : String} {e : Fault} (h : v.hasMember key = .error e) :
    e = .assertion := by
  cases v <;> cases h <;> rfl

theorem get_error {v : Json} {key : String} {e : Fault} (h : v.get key = .error e) : e = .assertion := by
  unfold get at h
  cases hm : v.member? key <;> rw [hm] at h <;> cases h
  rfl

theorem getUint64_error {v : Json} {e : Fault} (h : v.getUint64 = .error e) : e = .assertion := by
  cases v <;> simp only [getUint64] at h <;> (try split at h) <;> cases h <;> rfl

theorem getUint_error {v : Json} {e : Fault} (h : v.getUint = .error e) : e = .assertion := by
  cases v <;> simp only [getUint] at h <;> (try split at h) <;> cases h <;> rfl

theorem Getter.read_error {g : Getter} {v : Json} {e : Fault} (h : g.read v = .error e) : e = .assertion := by
  cases g with
  | uint =>
    rcases hu : v.getUint with e' | n <;> simp only [Getter.read, hu] at h <;> cases h
    exact getUint_error hu
  | float => cases v <;> cases h <;> rfl

theorem getFields_error {obj : Json} {e : Fault} :
    ∀ {fields : List (String × Getter)}, obj.getFields fields = .error e → e = .assertion
  | [], h => by cases h
  | f :: fs, h => by
    rw [getFields_cons] at h
    rcases hg : obj.get f.1 with e' | v
    · rw [hg] at h; cases h; exact get_error hg
    · rcases hr : f.2.read v with e' | ⟨⟩ <;> rw [hg] at h <;> simp only [bind, Except.bind, hr] at h
      · cases h; exact Getter.read_error hr
      · exact getFields_error h

/-- The plain fields read when the object has each of them with the getter's type. -/
theorem getFields_eq_ok {obj : Json} : ∀ {fields : List (String × Getter)},
    obj.getFields fields = .ok () ↔ ∀ f ∈ fields, ∃ v, obj.get f.1 = .ok v ∧ f.2.read v = .ok ()
  | [] => by simp [getFields]; rfl
  | f :: fs => by
    rw [getFields_cons, except_bind_eq_ok, List.forall_mem_cons, ← getFields_eq_ok]
    constructor
    · rintro ⟨⟨⟩, hx, hrest⟩
      exact ⟨except_bind_eq_ok.mp hx, hrest⟩
    · rintro ⟨hx, hrest⟩
      exact ⟨(), except_bind_eq_ok.mpr hx, hrest⟩

theorem Sized.length_lt {v : Json} {xs : List Json} (h : v.Sized) (hx : v.elements = .ok xs) :
    xs.length < 2 ^ 32 := by
  cases v with
  | arr items =>
    cases hx
    simp only [Sized, sized, Bool.and_eq_true, decide_eq_true_eq] at h
    exact h.1
  | _ => cases hx

theorem Sized.size_eq {v : Json} {xs : List Json} (h : v.Sized) (hx : v.elements = .ok xs) :
    v.size = .ok xs.length := by
  rw [Json.size_eq, hx]
  exact congrArg Except.ok (Nat.mod_eq_of_lt (h.length_lt hx))

theorem Sized.of_mem_elements {v x : Json} {xs : List Json} (h : v.Sized) (hx : v.elements = .ok xs)
    (hm : x ∈ xs) : x.Sized := by
  cases v with
  | arr items =>
    cases hx
    simp only [Sized, sized, Bool.and_eq_true] at h
    exact sizedList_iff.mp h.2 x hm
  | _ => cases hx

theorem Sized.of_get {v x : Json} {key : String} (h : v.Sized) (hx : v.get key = .ok x) : x.Sized := by
  cases v with
  | obj ms =>
    simp only [Json.get, member?] at hx
    cases hf : ms.find? (·.1 == key) with
    | none => simp [hf] at hx
    | some m =>
      simp only [hf, Option.map_some', Option.elim_some, Except.ok.injEq] at hx
      exact hx ▸ sizedMembers_iff.mp h m (List.mem_of_find?_eq_some hf)
  | _ => cases hx

end Json

namespace Replay

/-- A call `parse` makes on the `StateCreatorInterface`. An enqueue keeps the handles its
create-info refers to: a descriptor set layout's immutable samplers, binding after binding,
or a pipeline layout's set layouts. -/
inductive Call
  | setNum (k : Kind) (n : Nat)
  | enqueue (k : Kind) (hash : Hash) (index : Nat) (refs : List Handle)
  | waitEnqueue
  deriving DecidableEq, Repr

/-- The replayer as `parse` uses it: its allocator, `replayed_<kind>s`, and the calls made
on the interface so far, oldest first. -/
structure Replayer where
  allocator : ScratchAllocator
  replayed : Kind → List Handle
  calls : List Call

/-- A replayer as constructed: nothing allocated, nothing replayed, no call made. -/
def Replayer.fresh : Replayer := ⟨.empty, fun _ => [], []⟩

/-- A step of `parse`: a value or the fault it ends with, and the replayer it leaves. -/
abbrev ReplayM := ExceptT Fault (StateM Replayer)

/-- A step run from a replayer. -/
def exec {α : Type} (x : ReplayM α) (r : Replayer) : Except Fault α × Replayer := x.run.run r

/-! ## Running steps -/

section Exec

variable {α β : Type} (r : Replayer)

@[simp] theorem exec_pure (a : α) : exec (pure a) r = (.ok a, r) := rfl

@[simp] theorem exec_throw (e : Fault) : exec (throw e : ReplayM α) r = (.error e, r) := rfl

@[simp] theorem exec_get : exec (get : ReplayM Replayer) r = (.ok r, r) := rfl

@[simp] theorem exec_modify (f : Replayer → Replayer) : exec (modify f : ReplayM Unit) r = (.ok (), f r) :=
  rfl

@[simp] theorem exec_ofExcept (x : Except Fault α) : exec (MonadExcept.ofExcept x) r = (x, r) := by
  cases x <;> rfl

@[simp] theorem exec_bind (x : ReplayM α) (f : α → ReplayM β) :
    exec (x >>= f) r = match exec x r with
      | (.ok a, r') => exec (f a) r'
      | (.error e, r') => (.error e, r') := by
  simp only [exec, ExceptT.run_bind, StateT.run_bind]
  rcases x.run.run r with ⟨_ | a, r'⟩ <;> rfl

@[simp] theorem exec_map (f : α → β) (x : ReplayM α) :
    exec (f <$> x) r = match exec x r with
      | (.ok a, r') => (.ok (f a), r')
      | (.error e, r') => (.error e, r') := by
  simp only [exec, ExceptT.run_map, StateT.run_map]
  rcases x.run.run r with ⟨_ | a, r'⟩ <;> rfl

theorem exec_bind_ok {x : ReplayM α} {f : α → ReplayM β} {r' : Replayer} {a : α}
    (h : exec x r = (.ok a, r')) : exec (x >>= f) r = exec (f a) r' := by
  rw [exec_bind, h]

theorem exec_bind_error {x : ReplayM α} {f : α → ReplayM β} {r' : Replayer} {e : Fault}
    (h : exec x r = (.error e, r')) : exec (x >>= f) r = (.error e, r') := by
  rw [exec_bind, h]

/-- A step that returns went through each of its parts returning. -/
theorem exec_bind_eq_ok {x : ReplayM α} {f : α → ReplayM β} {b : β} {r'' : Replayer} :
    exec (x >>= f) r = (.ok b, r'') ↔ ∃ a r', exec x r = (.ok a, r') ∧ exec (f a) r' = (.ok b, r'') := by
  rw [exec_bind]
  rcases exec x r with ⟨_ | a, r'⟩ <;> simp [and_assoc]

@[simp] theorem exec_tryCatch (x : ReplayM α) (h : Fault → ReplayM α) :
    exec (tryCatch x h) r = match exec x r with
      | (.ok a, r') => (.ok a, r')
      | (.error e, r') => exec (h e) r' := by
  simp only [exec, tryCatch, tryCatchThe, MonadExceptOf.tryCatch, ExceptT.tryCatch, ExceptT.run,
    ExceptT.mk, StateT.run_bind]
  rcases StateT.run x r with ⟨_ | a, r'⟩ <;> rfl

end Exec

/-! ## What a step can do -/

open MonadExcept (ofExcept)

/-- A call on the interface. -/
def call (c : Call) : ReplayM Unit := modify fun r => { r with calls := r.calls ++ [c] }

@[simp] theorem exec_call (c : Call) (r : Replayer) :
    exec (call c) r = (.ok (), { r with calls := r.calls ++ [c] }) := rfl

/-- A call on the replayer's allocator, with the allocator it leaves and its value, or the
fault it ends with. The blocks `allocate_raw` adds before `new` throws are not kept. -/
def onAllocator {α : Type} (f : ScratchAllocator → Except Fault (ScratchAllocator × α)) : ReplayM α :=
  ExceptT.mk fun r => match f r.allocator with
    | .ok (a, x) => (.ok x, { r with allocator := a })
    | .error e => (.error e, r)

theorem exec_onAllocator {α : Type} (f : ScratchAllocator → Except Fault (ScratchAllocator × α))
    (r : Replayer) : exec (onAllocator f) r = match f r.allocator with
      | .ok (a, x) => (.ok x, { r with allocator := a })
      | .error e => (.error e, r) := rfl

/-- `allocator.allocate_n<T>(count)` and `allocate_n_cleared<T>(count)`; with `count = 1`,
`allocate_cleared<T>()`. -/
def allocateN (t : CLayout) (count : Nat) : ReplayM (Option Ptr) :=
  onAllocator fun a => a.allocateN t (UInt64.ofNat count)

@[simp] theorem exec_allocateN_zero (t : CLayout) (r : Replayer) :
    exec (allocateN t 0) r = (.ok none, r) := rfl

/-- From the empty allocator, `allocate_n` of an aligned type throws `bad_alloc` for every
count `Size()` can give, other than `0`. -/
theorem exec_allocateN_of_empty {t : CLayout} {count : Nat} {r : Replayer}
    (hr : r.allocator = .empty) (ht : StateRecorder.Aligned t) (h0 : 0 < count) (hc : count < 2 ^ 32) :
    exec (allocateN t count) r = (.error .badAlloc, r) := by
  have hn : (UInt64.ofNat count).toNat = count := UInt64.toNat_ofNat_of_lt (Nat.lt_trans hc (by decide))
  have hz : UInt64.ofNat count ≠ 0 := fun h => by rw [h] at hn; simp at hn; omega
  simp only [allocateN, exec_onAllocator, hr, ScratchAllocator.allocateN_empty hz ht.1
    (StateRecorder.aligned_bound ht (by rw [hn]; exact hc))]

/-- `allocator.allocate_raw(size, alignment)`. -/
def allocateRaw (size alignment : UInt64) : ReplayM Ptr :=
  onAllocator fun a => (ScratchAllocator.allocateRawResult a size alignment).elim (.error .badAlloc) .ok

/-- A store to element `index` of an array of `count` elements the allocator returned. -/
def writeElement (count index : Nat) : ReplayM Unit :=
  if index < count then pure () else throw .invalidWrite

@[simp] theorem exec_writeElement (count index : Nat) (r : Replayer) :
    exec (writeElement count index) r = (if index < count then .ok () else .error .invalidWrite, r) := by
  unfold writeElement; split <;> rfl

/-- A loop over the values of an array from position `i` on, collecting what each iteration
returns. -/
def forEach {α : Type} (f : Nat → Json → ReplayM α) : Nat → List Json → ReplayM (List α)
  | _, [] => pure []
  | i, x :: xs => do
    let a ← f i x
    let rest ← forEach f (i + 1) xs
    pure (a :: rest)

@[simp] theorem exec_forEach_nil {α : Type} (f : Nat → Json → ReplayM α) (i : Nat) (r : Replayer) :
    exec (forEach f i []) r = (.ok [], r) := rfl

theorem exec_forEach_cons {α : Type} (f : Nat → Json → ReplayM α) (i : Nat) (x : Json) (xs : List Json)
    (r : Replayer) : exec (forEach f i (x :: xs)) r = match exec (f i x) r with
      | (.ok a, r') => match exec (forEach f (i + 1) xs) r' with
        | (.ok rest, r'') => (.ok (a :: rest), r'')
        | (.error e, r'') => (.error e, r'')
      | (.error e, r') => (.error e, r') := by
  simp only [forEach, exec_bind]
  rcases exec (f i x) r with ⟨_ | a, r'⟩ <;> simp only
  rcases exec (forEach f (i + 1) xs) r' with ⟨_ | rest, r''⟩ <;> rfl

/-- `if (obj.HasMember(key)) … = f(obj[key])`: `none` when the object lacks the member. -/
def withMember {α : Type} (obj : Json) (key : String) (f : Json → ReplayM α) : ReplayM (Option α) := do
  if ← ofExcept (obj.hasMember key) then some <$> f (← ofExcept (obj.get key)) else pure none

/-- `if (obj.HasMember(key)) { info.count = obj[key].Size(); info.p = f(obj[key]); }`. -/
def withList {α : Type} (obj : Json) (key : String) (f : Json → ReplayM α) : ReplayM (Option α) :=
  withMember obj key fun v => do
    let _ ← ofExcept v.size
    f v

/-! ## Indices into what was replayed -/

/-- The handle a 1-based `index` into `replayed` names, as `parse_immutable_samplers` and
`parse_set_layouts` read it: past the end they throw `what`; `0` is `VK_NULL_HANDLE`; any
other index reads `replayed[index - 1]`, unchecked. -/
def resolveIndex (what : String) (replayed : List Handle) (index : Nat) : Except Fault Handle :=
  if index > replayed.length then .error (.logicError what)
  else if index > 0 then (replayed[index - 1]?).elim (.error .invalidRead) .ok
  else .ok VK_NULL_HANDLE

/-- The loop `parse_immutable_samplers` and `parse_set_layouts` share: per value, the index
`getIndex` reads, resolved against `replayed_<k>s`, and the store of its handle. -/
def parseIndices (k : Kind) (what : String) (getIndex : Json → Except Fault Nat) (v : Json) :
    ReplayM (List Handle) := do
  let n ← ofExcept v.size
  let _ ← allocateN CLayout.handle n
  forEach (fun i e => do
    let index ← ofExcept (getIndex e)
    let r ← get
    let h ← ofExcept (resolveIndex what (r.replayed k) index)
    writeElement n i
    pure h) 0 (← ofExcept v.elements)

/-- `parse_immutable_samplers`: `GetUint64()` indices into `replayed_samplers`. -/
def parseImmutableSamplers (samplers : Json) : ReplayM (List Handle) :=
  parseIndices .sampler "Sampler index out of range." (fun e => UInt64.toNat <$> e.getUint64) samplers

/-- `parse_set_layouts`: `GetUint()` indices into `replayed_descriptor_set_layouts`. -/
def parseSetLayouts (layouts : Json) : ReplayM (List Handle) :=
  parseIndices .descriptorSetLayout "Descriptor set index out of range."
    (fun e => UInt32.toNat <$> e.getUint) layouts

/-! ## The list parsers -/

def flagsFields : List (String × Json.Getter) := [("flags", .uint)]

/-- The fields `parse_samplers` reads, in its order. -/
def samplerFields : List (String × Json.Getter) :=
  [("addressModeU", .uint), ("addressModeV", .uint), ("addressModeW", .uint),
    ("anisotropyEnable", .uint), ("borderColor", .uint), ("compareEnable", .uint),
    ("compareOp", .uint), ("flags", .uint), ("magFilter", .uint), ("minFilter", .uint),
    ("maxAnisotropy", .float), ("mipmapMode", .uint), ("maxLod", .float), ("minLod", .float),
    ("mipLodBias", .float)]

def bindingFields : List (String × Json.Getter) :=
  [("binding", .uint), ("descriptorCount", .uint), ("descriptorType", .uint), ("stageFlags", .uint)]

def pushConstantRangeFields : List (String × Json.Getter) :=
  [("stageFlags", .uint), ("offset", .uint), ("size", .uint)]

def attachmentDescriptionFields : List (String × Json.Getter) :=
  [("flags", .uint), ("finalLayout", .uint), ("initialLayout", .uint), ("format", .uint),
    ("loadOp", .uint), ("storeOp", .uint), ("stencilLoadOp", .uint), ("stencilStoreOp", .uint),
    ("samples", .uint)]

def subpassDependencyFields : List (String × Json.Getter) :=
  [("dependencyFlags", .uint), ("dstAccessMask", .uint), ("srcAccessMask", .uint),
    ("dstStageMask", .uint), ("srcStageMask", .uint), ("srcSubpass", .uint), ("dstSubpass", .uint)]

/-- A list parser of plain fields: `allocate_n_cleared` of one `t` per value, then each
value's fields read and stored. -/
def parseFields (t : CLayout) (fields : List (String × Json.Getter)) (v : Json) : ReplayM Unit := do
  let n ← ofExcept v.size
  let _ ← allocateN t n
  let _ ← forEach (fun i obj => do
    ofExcept (obj.getFields fields)
    writeElement n i) 0 (← ofExcept v.elements)

def parsePushConstantRanges (ranges : Json) : ReplayM Unit :=
  parseFields CLayout.pushConstantRange pushConstantRangeFields ranges

def parseRenderPassAttachments (attachments : Json) : ReplayM Unit :=
  parseFields CLayout.attachmentDescription attachmentDescriptionFields attachments

def parseRenderPassDependencies (dependencies : Json) : ReplayM Unit :=
  parseFields CLayout.subpassDependency subpassDependencyFields dependencies

/-- `parse_descriptor_set_bindings`: the handles of the immutable samplers, binding after
binding. -/
def parseDescriptorSetBindings (bindings : Json) : ReplayM (List Handle) := do
  let n ← ofExcept bindings.size
  let _ ← allocateN CLayout.descriptorSetLayoutBinding n
  let samplers ← forEach (fun i b => do
    ofExcept (b.getFields bindingFields)
    writeElement n i
    let samplers ← withMember b "immutableSamplers" parseImmutableSamplers
    pure (samplers.getD [])) 0 (← ofExcept bindings.elements)
  pure samplers.flatten

/-- `parse_attachment`: `allocate_cleared<VkAttachmentReference>()` and its two fields. -/
def parseAttachment (value : Json) : ReplayM Unit := do
  let _ ← allocateN CLayout.attachmentReference 1
  ofExcept (value.getFields [("attachment", .uint), ("layout", .uint)])
  writeElement 1 0

/-- `parse_attachments`: `allocate_cleared<VkAttachmentReference>()` makes room for one
reference, and the loop stores one per value, advancing `refs` each time. -/
def parseAttachments (attachments : Json) : ReplayM Unit := do
  let _ ← allocateN CLayout.attachmentReference 1
  let _ ← forEach (fun i value => do
    ofExcept (value.getFields [("attachment", .uint)])
    writeElement 1 i
    ofExcept (value.getFields [("layout", .uint)])) 0 (← ofExcept attachments.elements)

def parseRenderPassSubpasses (subpasses : Json) : ReplayM Unit := do
  let n ← ofExcept subpasses.size
  let _ ← allocateN CLayout.subpassDescription n
  let _ ← forEach (fun i obj => do
    ofExcept (obj.getFields flagsFields)
    writeElement n i
    let _ ← withMember obj "depthStencilAttachment" parseAttachment
    let _ ← withMember obj "resolveAttachments" parseAttachments
    let _ ← withMember obj "inputAttachments" parseAttachments) 0 (← ofExcept subpasses.elements)

/-- `decode_base64` of the decoded `buffer`: `allocate_raw(size, 4)`, then a `memcpy` of
`size` bytes, which reads past the buffer when `size` is larger. -/
def decodeBase64 (buffer : List UInt8) (size : UInt64) : ReplayM Unit := do
  let _ ← allocateRaw size 4
  if size.toNat ≤ buffer.length then pure () else throw .invalidRead

/-! ## The sections -/

/-- The loop body of `parse_shader_modules` for one object, past the store of its
create-info. -/
def parseShaderModule (obj : Json) : ReplayM (List Handle) := do
  ofExcept (obj.getFields flagsFields)
  let codeSize ← ofExcept (obj.get "codeSize" >>= Json.getUint64)
  let code ← ofExcept (obj.get "code" >>= Json.getString)
  decodeBase64 code codeSize
  pure []

def parseSampler (obj : Json) : ReplayM (List Handle) := do
  ofExcept (obj.getFields samplerFields)
  pure []

def parseDescriptorSetLayout (obj : Json) : ReplayM (List Handle) := do
  ofExcept (obj.getFields flagsFields)
  let samplers ← withList obj "bindings" parseDescriptorSetBindings
  pure (samplers.getD [])

def parsePipelineLayout (obj : Json) : ReplayM (List Handle) := do
  ofExcept (obj.getFields flagsFields)
  let _ ← withList obj "pushConstantRanges" parsePushConstantRanges
  let layouts ← withList obj "setLayouts" parseSetLayouts
  pure (layouts.getD [])

def parseRenderPass (obj : Json) : ReplayM (List Handle) := do
  ofExcept (obj.getFields flagsFields)
  let _ ← withList obj "attachments" parseRenderPassAttachments
  let _ ← withList obj "dependencies" parseRenderPassDependencies
  let _ ← withList obj "subpasses" parseRenderPassSubpasses
  pure []

/-- `std::vector::resize(n)` of a vector of handles. -/
def resize (l : List Handle) (n : Nat) : List Handle :=
  l.take n ++ List.replicate (n - l.length) VK_NULL_HANDLE

section Sections

variable (engine : Kind → Hash → Nat → Handle)

/-- What `replayed_<kind>s` holds once `wait_enqueue` returns: at each index the handle the
engine made from the object enqueued there. -/
def written (k : Kind) (hashes : List Hash) : List Handle :=
  hashes.enum.map fun ih => engine k ih.2 ih.1

/-- The frame every `parse_<kind>s` shares: `set_num_<kind>s(Size())`, the resize of
`replayed_<kind>s`, `allocate_n_cleared` of one create-info per object, then per object the
body `element`, which gives the handles the create-info refers to, and
`enqueue_create_<kind>(obj["hash"].GetUint64(), index, …)`; last `wait_enqueue()`. -/
def parseSection (k : Kind) (t : CLayout) (element : Json → ReplayM (List Handle)) (objs : Json) :
    ReplayM Unit := do
  let n ← ofExcept objs.size
  call (.setNum k n)
  modify fun r => { r with replayed := Function.update r.replayed k (resize (r.replayed k) n) }
  let _ ← allocateN t n
  let hashes ← forEach (fun index obj => do
    writeElement n index
    let refs ← element obj
    let hash ← ofExcept (obj.get "hash" >>= Json.getUint64)
    call (.enqueue k hash index refs)
    pure hash) 0 (← ofExcept objs.elements)
  call .waitEnqueue
  modify fun r => { r with replayed := Function.update r.replayed k (written engine k hashes) }

def parseShaderModules (modules : Json) : ReplayM Unit :=
  parseSection engine .shaderModule CLayout.shaderModuleCreateInfo parseShaderModule modules

def parseSamplers (samplers : Json) : ReplayM Unit :=
  parseSection engine .sampler CLayout.samplerCreateInfo parseSampler samplers

def parseDescriptorSetLayouts (layouts : Json) : ReplayM Unit :=
  parseSection engine .descriptorSetLayout CLayout.descriptorSetLayoutCreateInfo
    parseDescriptorSetLayout layouts

def parsePipelineLayouts (layouts : Json) : ReplayM Unit :=
  parseSection engine .pipelineLayout CLayout.pipelineLayoutCreateInfo parsePipelineLayout layouts

def parseRenderPasses (passes : Json) : ReplayM Unit :=
  parseSection engine .renderPass CLayout.renderPassCreateInfo parseRenderPass passes

/-- One member of the document: its `parse_<kind>s` when the document has it, and else
`set_num_<kind>s(0)`. -/
def parseMember (doc : Json) (key : String) (k : Kind) (parseKind : Json → ReplayM Unit) :
    ReplayM Unit := do
  if ← ofExcept (doc.hasMember key) then parseKind (← ofExcept (doc.get key)) else call (.setNum k 0)

/-- The `catch (const exception &e)` of `parse`: a `logic_error`, a `runtime_error` or a
`bad_alloc` makes it return `false`. An assertion or an invalid access is no exception. -/
def catchException : Fault → ReplayM Bool
  | .logicError _ => pure false
  | .runtimeError _ => pure false
  | .badAlloc => pure false
  | e => throw e

/-- The `try` block of `StateReplayer::parse`: the five members in order. -/
def parseMembers (doc : Json) : ReplayM Unit := do
  parseMember doc "shaderModules" .shaderModule (parseShaderModules engine)
  parseMember doc "samplers" .sampler (parseSamplers engine)
  parseMember doc "descriptorSetLayouts" .descriptorSetLayout (parseDescriptorSetLayouts engine)
  parseMember doc "pipelineLayouts" .pipelineLayout (parsePipelineLayouts engine)
  parseMember doc "renderPasses" .renderPass (parseRenderPasses engine)

/-- `StateReplayer::parse` once `doc.Parse` has succeeded. -/
def parse (doc : Json) : ReplayM Bool :=
  tryCatch (do parseMembers engine doc; pure true) catchException

/-- `StateReplayer::parse(iface, str, length)`, with `docOf` as rapidjson's `Parse`: `none`
for a text that `HasParseError()`. -/
def parseText (docOf : List UInt8 → Option Json) (text : List UInt8) : ReplayM Bool :=
  match docOf text with
  | none => pure false
  | some doc => parse engine doc

end Sections

end Replay

end Fossilize
