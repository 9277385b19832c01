import Fossilize.Replayer.Outcomes

/-! # The element parsers of `StateReplayer`

Indices resolve 1-based against `replayed_<kind>s`, plain fields assert their type, and
`parse_attachments` stores one reference per value into room for one.
-/

namespace Fossilize

namespace Replay

open MonadExcept (ofExcept)

/-! ## What a step leaves alone -/

theorem exec_allocateN_cases (t : CLayout) (count : Nat) (r : Replayer) :
    exec (allocateN t count) r = (.error .badAlloc, r) ∨
      ∃ p a, exec (allocateN t count) r = (.ok p, { r with allocator := a }) := by
  rw [allocateN, exec_onAllocator]
  unfold ScratchAllocator.allocateN
  split_ifs
  · exact .inr ⟨none, r.allocator, rfl⟩
  · cases ScratchAllocator.allocateRawResult r.allocator _ t.align with
    | none => exact .inl rfl
    | some ap => exact .inr ⟨some ap.2, ap.1, rfl⟩

theorem exec_allocateN_error {t : CLayout} {count : Nat} {r r' : Replayer} {e : Fault}
    (h : exec (allocateN t count) r = (.error e, r')) : e = .badAlloc ∧ r' = r := by
  rcases exec_allocateN_cases t count r with h' | ⟨p', a, h'⟩ <;> rw [h'] at h <;> cases h
  exact ⟨rfl, rfl⟩

theorem exec_allocateN_replayed {t : CLayout} {count : Nat} {r r' : Replayer} {p : Option Ptr}
    (h : exec (allocateN t count) r = (.ok p, r')) : r'.replayed = r.replayed := by
  rcases exec_allocateN_cases t count r with h' | ⟨p', a, h'⟩ <;> rw [h'] at h <;> cases h
  rfl

theorem exec_allocateN_of_allocator {t : CLayout} {count : Nat} {r : Replayer} {a : ScratchAllocator}
    {p : Option Ptr} (h : r.allocator.allocateN t (UInt64.ofNat count) = .ok (a, p)) :
    exec (allocateN t count) r = (.ok p, { r with allocator := a }) := by
  rw [allocateN, exec_onAllocator, h]

/-- A loop whose iterations leave the replayer alone computes `xs.mapM g`. -/
theorem exec_forEach_pure {α : Type} {f : Nat → Json → ReplayM α} {g : Json → Except Fault α}
    {count : Nat} {r : Replayer} (hf : ∀ i x, i < count → exec (f i x) r = (g x, r)) :
    ∀ (i : Nat) (xs : List Json), i + xs.length ≤ count → exec (forEach f i xs) r = (xs.mapM g, r)
  | _, [], _ => rfl
  | i, x :: xs, h => by
    have hl : i + 1 + xs.length ≤ count := by simp at h; omega
    rw [exec_forEach_cons, hf i x (by omega), List.mapM_cons]
    cases g x with
    | error e => rfl
    | ok a =>
      simp only [exec_forEach_pure hf (i + 1) xs hl]
      cases xs.mapM g <;> rfl

/-- A loop that returned went through every value, and each iteration gave what `g` reads
from its value. -/
theorem mapM_of_exec_forEach {α : Type} {f : Nat → Json → ReplayM α} {g : Json → Except Fault α}
    (hf : ∀ i x r a r', exec (f i x) r = (.ok a, r') → g x = .ok a) :
    ∀ {i : Nat} {xs : List Json} {r r' : Replayer} {as : List α},
      exec (forEach f i xs) r = (.ok as, r') → xs.mapM g = .ok as
  | _, [], _, _, _, h => by cases h; rfl
  | i, x :: xs, r, r', as, h => by
    rw [exec_forEach_cons] at h
    split at h
    · next a r₁ hx =>
      split at h
      · next rest r₂ hrest =>
        cases h
        rw [List.mapM_cons, hf i x r a r₁ hx, mapM_of_exec_forEach hf hrest]
        rfl
      · cases h
    · cases h

/-- A loop whose iterations on its values, from any replayer, never end with the fault `e`
does not either. -/
theorem exec_forEach_ne {α : Type} {f : Nat → Json → ReplayM α} {count : Nat} {e : Fault} :
    ∀ {xs : List Json} (i : Nat) (r : Replayer),
      (∀ j x r, j < count → x ∈ xs → (exec (f j x) r).1 ≠ .error e) → i + xs.length ≤ count →
      ∀ {e' : Fault} {r' : Replayer}, exec (forEach f i xs) r = (.error e', r') → e' ≠ e
  | [], _, _, _, _, _, _, h => by cases h
  | x :: xs, i, r, hf, h, e', r', hl => by
    have hx := hf i x r (by simp at h; omega) (List.mem_cons_self _ _)
    rw [exec_forEach_cons] at hl
    split at hl
    · next _ _ r₁ _ =>
      split at hl
      · cases hl
      · next hl' =>
        cases hl
        exact exec_forEach_ne (i + 1) r₁ (fun j y r hj hy => hf j y r hj (List.mem_cons_of_mem _ hy))
          (by simp at h; omega) hl'
    · next hr => cases hl; exact fun he => hx (by rw [hr, he])

theorem mapM_error {α β : Type} {f : α → Except Fault β} {e : Fault} :
    ∀ {xs : List α}, xs.mapM f = .error e → ∃ x ∈ xs, f x = .error e
  | [], h => by cases h
  | x :: xs, h => by
    rw [List.mapM_cons] at h
    rcases hx : f x with e' | b
    · rw [hx] at h; cases h; exact ⟨x, List.mem_cons_self _ _, hx⟩
    · rcases hxs : xs.mapM f with e' | bs <;> rw [hx, hxs] at h <;> cases h
      obtain ⟨y, hy, hfy⟩ := mapM_error hxs
      exact ⟨y, List.mem_cons_of_mem _ hy, hfy⟩

/-! ## Indices -/

/-- The handle a 1-based `index` names in `replayed`: `VK_NULL_HANDLE` for `0`, element
`index - 1` otherwise. -/
def resolve (replayed : List Handle) (index : Nat) : Handle :=
  if index = 0 then VK_NULL_HANDLE else replayed.getD (index - 1) VK_NULL_HANDLE

/-- An index in `[1, n]` names an element inside the vector. -/
theorem getElem?_resolve {replayed : List Handle} {index : Nat} (h0 : 0 < index)
    (h : index ≤ replayed.length) : replayed[index - 1]? = some (resolve replayed index) := by
  rw [resolve, if_neg (by omega), List.getD_eq_getElem?_getD, List.getElem?_eq_getElem (by omega),
    Option.getD_some]

/-- `resolveIndex` throws past the end and otherwise resolves, never reading outside the
vector. -/
theorem resolveIndex_eq (what : String) (replayed : List Handle) (index : Nat) :
    resolveIndex what replayed index =
      if index ≤ replayed.length then .ok (resolve replayed index) else .error (.logicError what) := by
  unfold resolveIndex
  by_cases h : index ≤ replayed.length
  · rw [if_neg (by omega), if_pos h]
    by_cases h0 : 0 < index
    · rw [if_pos h0, getElem?_resolve h0 h]; rfl
    · rw [if_neg h0, resolve, if_pos (by omega)]
  · rw [if_pos (by omega), if_neg h]

/-- Once its array is allocated, the loop of `parse_immutable_samplers` and
`parse_set_layouts` reads each index and resolves it against `replayed_<k>s` as it was,
stopping at the first that does not read or resolve. -/
theorem exec_parseIndices (k : Kind) (what : String) (getIndex : Json → Except Fault Nat) {v : Json}
    {xs : List Json} {r r' : Replayer} {p : Option Ptr} (hv : v.Sized) (hx : v.elements = .ok xs)
    (ha : exec (allocateN CLayout.handle xs.length) r = (.ok p, r')) :
    exec (parseIndices k what getIndex v) r =
      (xs.mapM fun e => getIndex e >>= resolveIndex what (r.replayed k), r') := by
  rw [← exec_allocateN_replayed ha]
  simp only [parseIndices, exec_bind, exec_ofExcept, hv.size_eq hx, ha, hx]
  refine exec_forEach_pure (fun i e (hi : i < xs.length) => ?_) 0 xs (by omega)
  rcases getIndex e with _ | index
  · rfl
  · simp only [exec_bind, exec_ofExcept, exec_get, exec_writeElement, hi, if_true, except_ok_bind]
    rcases resolveIndex what (r'.replayed k) index with _ | h <;> rfl

/-- The loop of `parse_immutable_samplers` and `parse_set_layouts` stores inside its array. -/
theorem parseIndices_ne_invalidWrite (k : Kind) (what : String) {getIndex : Json → Except Fault Nat}
    (hget : ∀ x e, getIndex x = .error e → e = .assertion) {v : Json} (hv : v.Sized) (r : Replayer) :
    (exec (parseIndices k what getIndex v) r).1 ≠ .error .invalidWrite := by
  rcases hx : v.elements with e | xs
  · simp [parseIndices, Json.size_eq, hx, Json.elements_error hx]
  rcases exec_allocateN_cases CLayout.handle xs.length r with ha | ⟨p, a, ha⟩
  · simp [parseIndices, hv.size_eq hx, ha]
  rw [exec_parseIndices k what getIndex hv hx ha]
  intro h
  obtain ⟨x, -, hfx⟩ := mapM_error h
  rcases hg : getIndex x with e | i <;> rw [hg] at hfx
  · cases hfx; cases hget x _ hg
  · simp only [except_ok_bind, resolveIndex_eq] at hfx
    split at hfx <;> cases hfx

theorem getIndex_uint64_error {x : Json} {e : Fault} (h : UInt64.toNat <$> x.getUint64 = .error e) :
    e = .assertion := by
  rcases hx : x.getUint64 with e' | n <;> rw [hx] at h <;> cases h
  exact Json.getUint64_error hx

theorem withMember_ne {α : Type} {obj : Json} {key : String} {f : Json → ReplayM α} {e : Fault}
    (he : e ≠ .assertion) (hf : ∀ v r, obj.get key = .ok v → (exec (f v) r).1 ≠ .error e) (r : Replayer) :
    (exec (withMember obj key f) r).1 ≠ .error e := by
  rcases hm : obj.hasMember key with e' | _ | _
  · simp [withMember, hm, Ne.symm he, Json.hasMember_error hm]
  · simp [withMember, hm]
  · rcases hg : obj.get key with e' | v
    · simp [withMember, hm, hg, Json.get_error hg, Ne.symm he]
    · have := hf v r hg
      simp only [withMember, exec_bind, exec_ofExcept, hm, hg, if_true, exec_map]
      split <;> simp_all

/-- `parse_descriptor_set_bindings` stores inside its array, and so do the immutable samplers
of each binding. -/
theorem parseDescriptorSetBindings_ne_invalidWrite {v : Json} (hv : v.Sized) (r : Replayer) :
    (exec (parseDescriptorSetBindings v) r).1 ≠ .error .invalidWrite := by
  rcases hx : v.elements with e | xs
  · simp [parseDescriptorSetBindings, Json.size_eq, hx, Json.elements_error hx]
  rcases exec_allocateN_cases CLayout.descriptorSetLayoutBinding xs.length r with ha | ⟨p, a, ha⟩
  · simp [parseDescriptorSetBindings, hv.size_eq hx, ha]
  simp only [parseDescriptorSetBindings, exec_bind, exec_ofExcept, hv.size_eq hx, ha, hx]
  split
  · simp
  · next hl =>
    refine fun he => exec_forEach_ne 0 _ (fun i b r (hi : i < xs.length) hb => ?_) (by omega) hl
      (by cases he; rfl)
    rcases hf : b.getFields bindingFields with e | ⟨⟩
    · simp [hf, Json.getFields_error hf]
    · simp only [exec_bind, exec_ofExcept, hf, exec_writeElement, hi, if_true]
      have hw : ∀ r, (exec (withMember b "immutableSamplers" parseImmutableSamplers) r).1 ≠
          .error .invalidWrite := withMember_ne (by decide)
        fun w r hw => parseIndices_ne_invalidWrite _ _ (fun _ _ => getIndex_uint64_error)
          ((hv.of_mem_elements hx hb).of_get hw) r
      split
      · simp
      · next _ e' r' hwm => exact fun h => hw _ (by rw [hwm]; cases h; rfl)

/-! ## Sections -/

/-- The hashes of a section's objects, read as `parse_<kind>s` reads them. -/
def hashesOf (xs : List Json) : Except Fault (List Hash) :=
  xs.mapM fun o => o.get "hash" >>= Json.getUint64

section Sections

variable (engine : Kind → Hash → Nat → Handle) {k : Kind} {t : CLayout}
  {element : Json → ReplayM (List Handle)}

/-- A section that is not an array ends at the assertion of `Size()`, before its
`set_num_<kind>s`. -/
theorem exec_parseSection_of_not_array {objs : Json} {e : Fault} (h : objs.elements = .error e)
    (r : Replayer) : exec (parseSection engine k t element objs) r = (.error e, r) := by
  simp [parseSection, Json.size_eq, h]

/-- Once a section has returned, so has its `wait_enqueue`, and `replayed_<kind>s` holds the
engine's handle for each of its objects, made from the object's hash. -/
theorem parseSection_replayed {objs : Json} {r r' : Replayer}
    (h : exec (parseSection engine k t element objs) r = (.ok (), r')) :
    ∃ xs hashes, objs.elements = .ok xs ∧ hashesOf xs = .ok hashes ∧
      r'.replayed k = written engine k hashes := by
  rcases hx : objs.elements with e | xs
  · rw [exec_parseSection_of_not_array engine hx] at h; cases h
  simp only [parseSection, exec_bind, exec_ofExcept, Json.size_eq, hx, except_map_ok, exec_call,
    exec_modify] at h
  split at h
  · split at h
    · next hashes r₃ hl =>
      cases h
      refine ⟨xs, hashes, rfl, mapM_of_exec_forEach (fun i x r a r' hi => ?_) hl, by simp⟩
      simp only [exec_bind_eq_ok, exec_ofExcept, exec_map, exec_call, exec_pure, Prod.mk.injEq,
        Except.ok.injEq] at hi
      obtain ⟨-, -, -, -, -, -, hash, -, ⟨hh, -⟩, -, -, -, rfl, -⟩ := hi
      exact hh
    · cases h
  · cases h

/-- Once its create-infos are allocated, a section whose first object makes the element
parser fault, with the replayer left as it was, ends with that fault. -/
theorem parseSection_of_element_fault {objs x : Json} {xs : List Json} {r : Replayer}
    {a : ScratchAllocator} {p : Option Ptr} {e : Fault} (hv : objs.Sized)
    (hx : objs.elements = .ok (x :: xs))
    (ha : r.allocator.allocateN t (UInt64.ofNat (x :: xs).length) = .ok (a, p))
    (he : ∀ r, exec (element x) r = (.error e, r)) :
    (exec (parseSection engine k t element objs) r).1 = .error e := by
  have ha' : ∀ r' : Replayer, r'.allocator = r.allocator →
      exec (allocateN t (xs.length + 1)) r' = (.ok p, { r' with allocator := a }) :=
    fun r' hr => exec_allocateN_of_allocator (hr ▸ ha)
  simp [parseSection, hv.size_eq hx, ha', hx, exec_forEach_cons, he]

end Sections

/-! ## Lists -/

/-- A list parser of plain fields stores inside its array. -/
theorem parseFields_ne_invalidWrite (t : CLayout) (fields : List (String × Json.Getter)) {v : Json}
    (hv : v.Sized) (r : Replayer) : (exec (parseFields t fields v) r).1 ≠ .error .invalidWrite := by
  rcases hx : v.elements with e | xs
  · simp [parseFields, Json.size_eq, hx, Json.elements_error hx]
  rcases exec_allocateN_cases t xs.length r with ha | ⟨p, a, ha⟩
  · simp [parseFields, hv.size_eq hx, ha]
  simp only [parseFields, exec_bind, exec_ofExcept, hv.size_eq hx, ha, hx]
  split
  · simp
  · next hl =>
    refine fun he => exec_forEach_ne 0 _ (fun i b r (hi : i < xs.length) _ => ?_) (by omega) hl
      (by cases he; rfl)
    rcases hf : b.getFields fields with e | ⟨⟩
    · simp [hf, Json.getFields_error hf]
    · simp [hf, hi]

/-- `parse_attachments` of two references stores the second past the one it allocated. -/
theorem exec_parseAttachments_of_two {v x y : Json} {rest : List Json} {r r' : Replayer}
    {p : Option Ptr} (hv : v.elements = .ok (x :: y :: rest))
    (hx : x.getFields [("attachment", .uint)] = .ok ()) (hl : x.getFields [("layout", .uint)] = .ok ())
    (hy : y.getFields [("attachment", .uint)] = .ok ())
    (ha : exec (allocateN CLayout.attachmentReference 1) r = (.ok p, r')) :
    exec (parseAttachments v) r = (.error .invalidWrite, r') := by
  simp [parseAttachments, exec_bind_ok r ha, hv, exec_forEach_cons, hx, hl, hy]

/-! ## Shader module code -/

/-- A `codeSize` past the decoded code: once `allocate_raw` returns, `memcpy` reads past the
decoded buffer. -/
theorem exec_decodeBase64_overread {buffer : List UInt8} {size : UInt64} {r r' : Replayer} {p : Ptr}
    (hs : buffer.length < size.toNat) (ha : exec (allocateRaw size 4) r = (.ok p, r')) :
    exec (decodeBase64 buffer size) r = (.error .invalidRead, r') := by
  simp only [decodeBase64, exec_bind_ok r ha, if_neg (Nat.not_le.mpr hs), exec_throw]

/-! ## Documents that are not what `parse` expects -/

theorem Json.elements_of_not_arr {v : Json} (h : ∀ items, v ≠ .arr items) : v.elements = .error .assertion := by
  cases v with
  | arr items => exact absurd rfl (h items)
  | _ => rfl

/-- Plain fields one of which the object lacks, or holds with another type, end at an
assertion. -/
theorem Json.getFields_of_unreadable {obj : Json} {fields : List (String × Json.Getter)}
    (h : ∃ f ∈ fields, ∀ v, obj.get f.1 = .ok v → f.2.read v ≠ .ok ()) :
    obj.getFields fields = .error .assertion := by
  rcases hf : obj.getFields fields with e | ⟨⟩
  · rw [Json.getFields_error hf]
  · obtain ⟨f, hmem, hbad⟩ := h
    obtain ⟨v, hv, hr⟩ := Json.getFields_eq_ok.mp hf f hmem
    exact absurd hr (hbad v hv)

theorem Json.hasMember_of_not_obj {doc : Json} (h : ∀ members, doc ≠ .obj members) (key : String) :
    doc.hasMember key = .error .assertion := by
  cases doc with
  | obj ms => exact absurd rfl (h ms)
  | _ => rfl

/-- A document that is not an object ends `parse` at the assertion of `HasMember`, with no
call made. -/
theorem exec_parse_of_not_obj (engine : Kind → Hash → Nat → Handle) {doc : Json}
    (h : ∀ members, doc ≠ .obj members) (r : Replayer) :
    exec (parse engine doc) r = (.error .assertion, r) := by
  simp [parse, parseMembers, parseMember, Json.hasMember_of_not_obj h, exec_catchException, caught]

/-! ## Resolution and rejection -/

/-- How the replayer resolves indices: `resolveIndex` throws past the end of the vector and
otherwise reads inside it; the index loops read with `GetUint64` or `GetUint`, which assert
outside their range, and resolve against `replayed_<kind>s` as it was; a section that has
returned has filled its vector. From the empty allocator no index is ever resolved. -/
theorem indices_resolve_against_replayed (engine : Kind → Hash → Nat → Handle) :
    (∀ what replayed index, resolveIndex what replayed index =
      if index ≤ replayed.length then .ok (resolve replayed index) else .error (.logicError what)) ∧
    (∀ (replayed : List Handle) (index : Nat), 0 < index → index ≤ replayed.length →
      replayed[index - 1]? = some (resolve replayed index)) ∧
    (∀ (v : Json) (n : UInt64), v.getUint64 = .ok n ↔ v = .num n.toNat) ∧
    (∀ (v : Json) (n : UInt32), v.getUint = .ok n ↔ v = .num n.toNat) ∧
    (∀ (samplers : Json) (xs : List Json) (r r' : Replayer) (p : Option Ptr), samplers.Sized →
      samplers.elements = .ok xs → exec (allocateN CLayout.handle xs.length) r = (.ok p, r') →
      exec (parseImmutableSamplers samplers) r =
        (xs.mapM fun e => (UInt64.toNat <$> e.getUint64) >>=
          resolveIndex "Sampler index out of range." (r.replayed .sampler), r')) ∧
    (∀ (layouts : Json) (xs : List Json) (r r' : Replayer) (p : Option Ptr), layouts.Sized →
      layouts.elements = .ok xs → exec (allocateN CLayout.handle xs.length) r = (.ok p, r') →
      exec (parseSetLayouts layouts) r =
        (xs.mapM fun e => (UInt32.toNat <$> e.getUint) >>=
          resolveIndex "Descriptor set index out of range." (r.replayed .descriptorSetLayout), r')) ∧
    (∀ (k : Kind) (t : CLayout) (element : Json → ReplayM (List Handle)) (objs : Json)
      (r r' : Replayer), exec (parseSection engine k t element objs) r = (.ok (), r') →
        ∃ xs hashes, objs.elements = .ok xs ∧ hashesOf xs = .ok hashes ∧
          r'.replayed k = written engine k hashes) ∧
    (∀ (doc : Json) (r : Replayer), r.allocator = .empty → doc.Sized →
      (exec (parse engine doc) r).1 = (starved doc).1) :=
  ⟨resolveIndex_eq, fun _ _ => getElem?_resolve, fun _ _ => Json.getUint64_eq_ok,
    fun _ _ => Json.getUint_eq_ok,
    fun _ _ _ _ _ hv hx ha => exec_parseIndices _ _ _ hv hx ha,
    fun _ _ _ _ _ hv hx ha => exec_parseIndices _ _ _ hv hx ha,
    fun _ _ _ _ _ _ h => parseSection_replayed engine h,
    fun _ r hr hd => (parse_outcome_of_empty engine hd r hr).1⟩

/-- A replayer whose allocator has one 64 KiB block with one byte handed out, so that
`allocate_raw` serves one small aligned request. No session and no `parse` reaches such an
allocator: from the empty one every aligned allocation throws. -/
def servingReplayer : Replayer := ⟨⟨[⟨1, 64 * 1024⟩]⟩, fun _ => [], []⟩

/-- `servingReplayer` after its allocator has handed out `n` bytes from the block's start. -/
def servingReplayer.after (n : UInt64) : Replayer := { servingReplayer with allocator := ⟨[⟨n, 64 * 1024⟩]⟩ }

/-- A pipeline layout that names set layout 1 of a document with no set layouts. -/
def danglingSetLayout : Json :=
  .obj [("pipelineLayouts", .arr [.obj [("flags", .num 0), ("hash", .num 1), ("setLayouts", .arr [.num 1])]])]

/-- A new replayer returns `false` on `danglingSetLayout`, at the `bad_alloc` of the pipeline
layouts' create-infos. From `servingReplayer`, an allocator no replayer reaches, the set
layout index `1` past an empty `replayed_descriptor_set_layouts` throws the `logic_error`,
and the index `2^32 + 1`, past the range of `GetUint`, asserts. -/
theorem dangling_set_layout_returns_false :
    (exec (parse (fun _ _ _ => 0) danglingSetLayout) Replayer.fresh).1 = .ok false ∧
    exec (parseSetLayouts (.arr [.num 1])) servingReplayer =
      (.error (.logicError "Descriptor set index out of range."), servingReplayer.after 8) ∧
    exec (parseSetLayouts (.arr [.num (2 ^ 32 + 1)])) servingReplayer =
      (.error .assertion, servingReplayer.after 8) :=
  ⟨((indices_resolve_against_replayed fun _ _ _ => 0).2.2.2.2.2.2.2 danglingSetLayout Replayer.fresh
      rfl (by decide)).trans rfl,
    ((indices_resolve_against_replayed fun _ _ _ => 0).2.2.2.2.2.1 (.arr [.num 1]) [.num 1]
      servingReplayer (servingReplayer.after 8) (some ⟨0, 0⟩) (by decide) rfl rfl).trans rfl,
    ((indices_resolve_against_replayed fun _ _ _ => 0).2.2.2.2.2.1 (.arr [.num (2 ^ 32 + 1)])
      [.num (2 ^ 32 + 1)] servingReplayer (servingReplayer.after 8) (some ⟨0, 0⟩) (by decide) rfl
      rfl).trans rfl⟩

/-- Where `parse` meets what it does not expect, it does not return `false`: a document that
is not an object, or a member that is not an array, ends at an assertion. Past allocations
that return, which no replayer's allocator makes, a sampler object missing a field asserts, a
`codeSize` past the code makes `memcpy` overread, and `parse_attachments` of two references
overruns its array; the other list parsers store inside their arrays. -/
theorem malformed_documents_not_rejected (engine : Kind → Hash → Nat → Handle) :
    (∀ (doc : Json) (r : Replayer), (∀ members, doc ≠ .obj members) →
      exec (parse engine doc) r = (.error .assertion, r)) ∧
    (∀ (k : Kind) (t : CLayout) (element : Json → ReplayM (List Handle)) (objs : Json) (r : Replayer),
      (∀ items, objs ≠ .arr items) → exec (parseSection engine k t element objs) r = (.error .assertion, r)) ∧
    (∀ (objs x : Json) (xs : List Json) (r : Replayer) (a : ScratchAllocator) (p : Option Ptr),
      objs.Sized → objs.elements = .ok (x :: xs) →
      (∃ f ∈ samplerFields, ∀ v, x.get f.1 = .ok v → f.2.read v ≠ .ok ()) →
      r.allocator.allocateN CLayout.samplerCreateInfo (UInt64.ofNat (x :: xs).length) = .ok (a, p) →
      (exec (parseSamplers engine objs) r).1 = .error .assertion) ∧
    (∀ (buffer : List UInt8) (size : UInt64) (r r' : Replayer) (p : Ptr), buffer.length < size.toNat →
      exec (allocateRaw size 4) r = (.ok p, r') →
      exec (decodeBase64 buffer size) r = (.error .invalidRead, r')) ∧
    (∀ (v x y : Json) (rest : List Json) (r r' : Replayer) (p : Option Ptr),
      v.elements = .ok (x :: y :: rest) → x.getFields [("attachment", .uint)] = .ok () →
      x.getFields [("layout", .uint)] = .ok () → y.getFields [("attachment", .uint)] = .ok () →
      exec (allocateN CLayout.attachmentReference 1) r = (.ok p, r') →
      exec (parseAttachments v) r = (.error .invalidWrite, r')) ∧
    (∀ (t : CLayout) (fields : List (String × Json.Getter)) (v : Json) (r : Replayer), v.Sized →
      (exec (parseFields t fields v) r).1 ≠ .error .invalidWrite) ∧
    (∀ (bindings : Json) (r : Replayer), bindings.Sized →
      (exec (parseDescriptorSetBindings bindings) r).1 ≠ .error .invalidWrite) :=
  ⟨fun _ r h => exec_parse_of_not_obj engine h r,
    fun _ _ _ _ r h => exec_parseSection_of_not_array engine (Json.elements_of_not_arr h) r,
    fun _ _ _ _ _ _ hv hx hf ha => parseSection_of_element_fault engine hv hx ha fun r => by
      simp [parseSampler, Json.getFields_of_unreadable hf],
    fun _ _ _ _ _ hs ha => exec_decodeBase64_overread hs ha,
    fun _ _ _ _ _ _ _ hv hx hl hy ha => exec_parseAttachments_of_two hv hx hl hy ha,
    fun t fields _ r hv => parseFields_ne_invalidWrite t fields hv r,
    fun _ r hv => parseDescriptorSetBindings_ne_invalidWrite hv r⟩

/-- An attachment reference with both its fields. -/
def attachmentReference : Json := .obj [("attachment", .num 0), ("layout", .num 0)]

/-- The text `null` ends `parse` at an assertion with no call made, and the section of
`{"samplers": 5}` ends at one. From `servingReplayer`, an allocator no replayer reaches: a
sampler object with no fields asserts, a `codeSize` of 4 for no bytes of code reads past them,
and two attachment references are stored into room for one; a push constant range and a
binding with an immutable sampler are stored inside their arrays. -/
theorem null_document_asserts :
    exec (parse (fun _ _ _ => 0) .null) Replayer.fresh = (.error .assertion, Replayer.fresh) ∧
    exec (parseSamplers (fun _ _ _ => 0) (.num 5)) Replayer.fresh = (.error .assertion, Replayer.fresh) ∧
    (exec (parseSamplers (fun _ _ _ => 0) (.arr [.obj []])) servingReplayer).1 = .error .assertion ∧
    exec (decodeBase64 [] 4) servingReplayer = (.error .invalidRead, servingReplayer.after 4) ∧
    exec (parseAttachments (.arr [attachmentReference, attachmentReference])) servingReplayer =
      (.error .invalidWrite, servingReplayer.after 8) ∧
    (exec (parseFields CLayout.pushConstantRange pushConstantRangeFields (.arr [.null])) servingReplayer).1 ≠
      .error .invalidWrite ∧
    (exec (parseDescriptorSetBindings (.arr [.obj [("immutableSamplers", .arr [.num 0])]]))
      servingReplayer).1 ≠ .error .invalidWrite :=
  have h := malformed_documents_not_rejected fun _ _ _ => 0
  ⟨h.1 .null Replayer.fresh (fun _ h => Json.noConfusion h),
    h.2.1 _ _ _ (.num 5) Replayer.fresh (fun _ h => Json.noConfusion h),
    h.2.2.1 (.arr [.obj []]) (.obj []) [] servingReplayer ⟨[⟨80, 64 * 1024⟩]⟩ (some ⟨0, 0⟩) (by decide)
      rfl ⟨_, List.mem_cons_self _ _, fun _ h => by cases h⟩ rfl,
    h.2.2.2.1 [] 4 servingReplayer (servingReplayer.after 4) ⟨0, 0⟩ (by decide) rfl,
    h.2.2.2.2.1 _ _ _ [] servingReplayer (servingReplayer.after 8) (some ⟨0, 0⟩) rfl rfl rfl rfl rfl,
    h.2.2.2.2.2.1 _ _ _ servingReplayer (by decide),
    h.2.2.2.2.2.2 _ servingReplayer (by decide)⟩

end Replay

end Fossilize
