import Fossilize.Recorder

/-! # A recording session refines a hash store

Through registrations and handle bindings the recorder's maps stay those of the store, and
`get_hash_for_<kind>` answers as the store does.
-/

namespace Fossilize

namespace StateRecorder

theorem withAllocator_self (R : StateRecorder) : R.withAllocator R.allocator = R := rfl

/-- An aligned layout of at most `2^31` bytes: every struct or handle the copies allocate. -/
def Aligned (t : CLayout) : Prop :=
  (t.align = 2 ∨ t.align = 4 ∨ t.align = 8) ∧ t.size.toNat ≤ 2 ^ 31

theorem uint64_toNat_mul (a b : UInt64) : (a * b).toNat = a.toNat * b.toNat % 2 ^ 64 := by
  simp [UInt64.toNat, UInt64.mul_def, BitVec.toNat_mul]

theorem arrayCount_toNat {α : Type} (a : VkArray α) : (arrayCount a).toNat = a.items.length := by
  simp [arrayCount, UInt32.toUInt64, UInt64.toNat, UInt64.ofNat, BitVec.toNat_ofNat,
    Nat.mod_eq_of_lt (Nat.lt_trans a.bounded (by decide : 2 ^ 32 < 2 ^ 64))]

/-- From an empty allocator a copy of an aligned array returns only when it is empty. -/
theorem copyArray_of_empty {R R' : StateRecorder} {t : CLayout} {count : UInt64}
    (hR : R.allocator = .empty) (ht : t.align = 2 ∨ t.align = 4 ∨ t.align = 8)
    (hs : (t.size * count).toNat + t.align.toNat ≤ 2 ^ 64) (h : R.copyArray t count = .ok R') :
    count = 0 ∧ R' = R := by
  by_cases hc : count = 0
  · subst hc
    simp [copyArray, ScratchAllocator.allocateN, bind, Except.bind] at h
    exact ⟨rfl, (Except.ok.inj h).symm⟩
  · simp only [copyArray, hR, ScratchAllocator.allocateN_empty hc ht hs, bind, Except.bind] at h
    cases h

theorem aligned_bound {t : CLayout} (ht : Aligned t) {n : UInt64} (hn : n.toNat < 2 ^ 32) :
    (t.size * n).toNat + t.align.toNat ≤ 2 ^ 64 := by
  obtain ⟨ha, hs⟩ := ht
  have h8 : t.align.toNat ≤ 8 := by rcases ha with h | h | h <;> rw [h] <;> decide
  rw [uint64_toNat_mul]
  have : t.size.toNat * n.toNat < 2 ^ 63 :=
    calc t.size.toNat * n.toNat ≤ 2 ^ 31 * n.toNat := Nat.mul_le_mul_right _ hs
      _ < 2 ^ 31 * 2 ^ 32 := Nat.mul_lt_mul_of_pos_left hn (by decide)
      _ = 2 ^ 63 := rfl
  rw [Nat.mod_eq_of_lt (by omega)]
  generalize t.size.toNat * n.toNat = x at *
  omega

theorem copyArray_array_of_empty {α : Type} {R R' : StateRecorder} {t : CLayout} {a : VkArray α}
    (hR : R.allocator = .empty) (ht : Aligned t) (h : R.copyArray t (arrayCount a) = .ok R') :
    a.items = [] ∧ R' = R := by
  have hlt : (arrayCount a).toNat < 2 ^ 32 := by rw [arrayCount_toNat]; exact a.bounded
  obtain ⟨h0, rfl⟩ := copyArray_of_empty hR ht.1 (aligned_bound ht hlt) h
  refine ⟨?_, rfl⟩
  have := arrayCount_toNat a
  rw [h0] at this
  exact List.eq_nil_of_length_eq_zero (by simpa using this.symm)

theorem copyOne_of_empty {α : Type} {R R' : StateRecorder} {t : CLayout} {p : Option α} {x : α}
    (hR : R.allocator = .empty) (ht : Aligned t) : R.copyOne t p ≠ .ok (R', x) := by
  intro h
  simp only [copyOne, bind, Except.bind] at h
  rcases h1 : R.copyArray t 1 with _ | R1 <;> rw [h1] at h
  · cases h
  · have := (copyArray_of_empty hR ht.1 (aligned_bound ht (by decide)) h1).1
    exact absurd this (by decide)

theorem loop_nil {α : Type} (f : StateRecorder → Nat → α → Except Fault (StateRecorder × α))
    (R : StateRecorder) (i : Nat) : loop f R i [] = .ok (R, []) := rfl

theorem copySpecializationInfo_of_empty {R R' : StateRecorder} {p : Option VkSpecializationInfo}
    {x : VkSpecializationInfo} (hR : R.allocator = .empty) :
    R.copySpecializationInfo p ≠ .ok (R', x) := by
  intro h
  obtain ⟨⟨R1, y⟩, h1, -⟩ := except_bind_eq_ok.mp h
  exact copyOne_of_empty hR ⟨.inr (.inr rfl), by decide⟩ h1

theorem codeWords_bound (codeSize : UInt64) :
    (CLayout.uint32.size * (codeSize / 4)).toNat + CLayout.uint32.align.toNat ≤ 2 ^ 64 := by
  have h4 : (4 : UInt64).toNat = 4 := rfl
  have hc := codeSize.toNat_lt_size
  simp only [CLayout.uint32, uint64_toNat_mul, UInt64.toNat_div, h4, UInt64.size] at *
  have := Nat.mod_le (4 * (codeSize.toNat / 4)) (2 ^ 64)
  omega

/-- A copy that returns from the recorder's empty allocator leaves the recorder as it was:
each `operator[]` of a copy comes after a copy of a non-empty aligned array, which never
returns from there, so no map entry is added, and the allocator stays empty. -/
theorem copy_of_empty {R R' : StateRecorder} (hR : R.allocator = .empty) :
    ∀ (k : Kind) {c c' : k.Info}, R.copy k c = .ok (R', c') → R' = R
  | .sampler, c, c', h => (Prod.mk.inj (Except.ok.inj h)).1.symm
  | .shaderModule, c, c', h => by
    obtain ⟨R1, h1, h2⟩ := except_bind_eq_ok.mp h
    obtain ⟨-, rfl⟩ := copyArray_of_empty hR (.inr (.inl rfl)) (codeWords_bound _) h1
    exact (Prod.mk.inj (Except.ok.inj h2)).1.symm
  | .descriptorSetLayout, c, c', h => by
    obtain ⟨R1, h1, h2⟩ := except_bind_eq_ok.mp h
    obtain ⟨hnil, rfl⟩ := copyArray_array_of_empty hR ⟨.inr (.inr rfl), by decide⟩ h1
    split at h2
    · rename_i heq; rw [hnil, loop_nil] at heq; cases heq
    · rename_i heq
      rw [hnil, loop_nil] at heq
      cases heq
      exact (Prod.mk.inj (Except.ok.inj h2)).1.symm
  | .pipelineLayout, c, c', h => by
    obtain ⟨R1, h1, h2⟩ := except_bind_eq_ok.mp h
    obtain ⟨R2, h3, h4⟩ := except_bind_eq_ok.mp h2
    obtain ⟨-, rfl⟩ := copyArray_array_of_empty hR ⟨.inr (.inl rfl), by decide⟩ h1
    obtain ⟨hnil, rfl⟩ := copyArray_array_of_empty hR ⟨.inr (.inr rfl), by decide⟩ h3
    have := (Prod.mk.inj (Except.ok.inj h4)).1
    rw [hnil] at this
    exact this.symm
  | .renderPass, c, c', h => by
    obtain ⟨R1, h1, h2⟩ := except_bind_eq_ok.mp h
    obtain ⟨R2, h3, h4⟩ := except_bind_eq_ok.mp h2
    obtain ⟨R3, h5, h6⟩ := except_bind_eq_ok.mp h4
    obtain ⟨-, rfl⟩ := copyArray_array_of_empty hR ⟨.inr (.inl rfl), by decide⟩ h1
    obtain ⟨hnil, rfl⟩ := copyArray_array_of_empty hR ⟨.inr (.inr rfl), by decide⟩ h3
    obtain ⟨-, rfl⟩ := copyArray_array_of_empty hR ⟨.inr (.inl rfl), by decide⟩ h5
    split at h6
    · rename_i heq; rw [hnil, loop_nil] at heq; cases heq
    · rename_i heq
      rw [hnil, loop_nil] at heq
      cases heq
      exact (Prod.mk.inj (Except.ok.inj h6)).1.symm
  | .computePipeline, c, c', h => by
    obtain ⟨⟨R1, x⟩, h1, -⟩ := except_bind_eq_ok.mp h
    exact absurd h1 (copySpecializationInfo_of_empty hR)
  | .graphicsPipeline, c, c', h => by
    obtain ⟨R1, h1, h2⟩ := except_bind_eq_ok.mp h
    obtain ⟨-, rfl⟩ := copyArray_array_of_empty hR ⟨.inr (.inr rfl), by decide⟩ h1
    obtain ⟨⟨R2, x⟩, h3, -⟩ := except_bind_eq_ok.mp h2
    exact absurd h3 (copyOne_of_empty hR ⟨.inr (.inr rfl), by decide⟩)

end StateRecorder

/-! ## Sessions -/

/-- A call of a recording session that changes the recorder. -/
inductive RecorderOp
  | register (k : Kind) (hash : Hash) (info : k.Info)
  | setHandle (k : Kind) (index : UInt32) (h : Handle)

/-- Runs a session; a registration that throws or never returns ends it. -/
def StateRecorder.run (R : StateRecorder) : List RecorderOp → Except Fault StateRecorder
  | [] => .ok R
  | .register k hash info :: ops => do
    let (R, _) ← R.register k hash info
    R.run ops
  | .setHandle k index h :: ops => (R.setHandle k index h).run ops

/-- What the recorder is for: the hashes registered per kind, in order, and the index last
bound to each handle. -/
structure HashStore where
  registered : Kind → List Hash
  bound : Kind → HandleMap

namespace HashStore

def empty : HashStore := ⟨fun _ => [], fun _ _ => none⟩

def step (S : HashStore) : RecorderOp → HashStore
  | .register k hash _ =>
    { S with registered := Function.update S.registered k (S.registered k ++ [hash]) }
  | .setHandle k index h => { S with bound := Function.update S.bound k ((S.bound k).insert h index) }

def session (ops : List RecorderOp) : HashStore := ops.foldl step empty

/-- No binding throws; a binding to `i` answers the hash of the registration that
returned `i`. -/
def getHashFor (S : HashStore) (k : Kind) (h : Handle) : Except Fault Hash :=
  match S.bound k h with
  | none => .error (.runtimeError "Handle is not registered.")
  | some i => .ok ((S.registered k).getD i.toNat 0)

/-- `set_<kind>_handle` binds an index an earlier `register_<kind>` returned: the `j`-th
registration of a kind returns `unsigned(j)`. -/
def Allows (S : HashStore) : RecorderOp → Prop
  | .register .. => True
  | .setHandle k index _ => ∃ j < (S.registered k).length, UInt32.ofNat j = index

def ValidFrom : HashStore → List RecorderOp → Prop
  | _, [] => True
  | S, op :: ops => S.Allows op ∧ ValidFrom (S.step op) ops

theorem step_bound_eq_none_iff (S : HashStore) (op : RecorderOp) (k : Kind) (h : Handle) :
    (S.step op).bound k h = none ↔ S.bound k h = none ∧ ∀ i, .setHandle k i h ≠ op := by
  cases op with
  | register => simp [step]
  | setHandle k' i' h' =>
    by_cases hk : k = k'
    · subst hk
      by_cases hh : h = h'
      · subst hh; simp [step]
      · simp [step, hh]
    · simp [step, Function.update_noteq hk, hk]

/-- A handle has no binding exactly when no `set_<kind>_handle` of the session named it. -/
theorem bound_eq_none_iff (ops : List RecorderOp) (S : HashStore) (k : Kind) (h : Handle) :
    (ops.foldl step S).bound k h = none ↔ S.bound k h = none ∧ ∀ i, .setHandle k i h ∉ ops := by
  induction ops generalizing S with
  | nil => simp
  | cons op ops ih =>
    rw [List.foldl_cons, ih, step_bound_eq_none_iff]
    simp only [List.mem_cons, not_or, forall_and, and_assoc, ne_eq]

end HashStore

namespace StateRecorder

/-- The recorder state `R` stands for the store `S`. -/
structure Refines (R : StateRecorder) (S : HashStore) : Prop where
  allocator : R.allocator = .empty
  toIndex : R.toIndex = S.bound
  hashes : R.hashes = S.registered
  inRange : ∀ k h i, S.bound k h = some i → i.toNat < (S.registered k).length

theorem refines_empty : Refines empty HashStore.empty :=
  ⟨rfl, rfl, rfl, fun _ _ _ h => by cases h⟩

theorem getHashFor_of_refines {R : StateRecorder} {S : HashStore} (hR : Refines R S)
    (k : Kind) (h : Handle) : R.getHashFor k h = S.getHashFor k h := by
  unfold getHashFor HashStore.getHashFor
  rw [hR.toIndex, hR.hashes]
  rcases hb : S.bound k h with _ | i
  · rfl
  · simp [List.getD_eq_getElem?_getD, List.getElem?_eq_getElem (hR.inRange k h i hb)]

/-- `register_<kind>` returns the registry's old size and appends one hash. -/
theorem register_refines {R R' : StateRecorder} {S : HashStore} {k : Kind} {hash : Hash}
    {info : k.Info} {index : UInt32} (hR : Refines R S)
    (h : R.register k hash info = .ok (R', index)) :
    Refines R' (S.step (.register k hash info)) ∧ index = UInt32.ofNat (S.registered k).length := by
  obtain ⟨⟨R1, c⟩, hc, h2⟩ := except_bind_eq_ok.mp h
  obtain rfl := copy_of_empty hR.allocator k hc
  obtain ⟨rfl, rfl⟩ := Prod.mk.inj (Except.ok.inj h2)
  have hlen : (R1.entries k).length = (S.registered k).length := by
    rw [← hR.hashes, hashes, List.length_map]
  refine ⟨⟨hR.allocator, hR.toIndex, ?_, ?_⟩, by rw [hlen]⟩
  · funext k'
    by_cases hk : k' = k
    · subst hk; simp [hashes, HashStore.step, ← hR.hashes]
    · simp [hashes, HashStore.step, Function.update_noteq hk, ← hR.hashes]
  · intro k' h' i hb
    have := hR.inRange k' h' i hb
    by_cases hk : k' = k
    · subst hk; simp [HashStore.step]; omega
    · simpa [HashStore.step, Function.update_noteq hk] using this

theorem setHandle_refines {R : StateRecorder} {S : HashStore} {k : Kind} {index : UInt32}
    {h : Handle} (hR : Refines R S) (ha : S.Allows (.setHandle k index h)) :
    Refines (R.setHandle k index h) (S.step (.setHandle k index h)) := by
  obtain ⟨j, hj, rfl⟩ := ha
  refine ⟨hR.allocator, by simp [setHandle, HashStore.step, hR.toIndex], hR.hashes, ?_⟩
  intro k' h' i hb
  by_cases hk : k' = k
  · subst hk
    by_cases hh : h' = h
    · simp only [HashStore.step, Function.update_same, HandleMap.insert_apply, if_pos hh,
        Option.some.injEq] at hb
      subst hb
      have : (UInt32.ofNat j).toNat ≤ j := by
        simp only [UInt32.toNat, UInt32.ofNat, BitVec.toNat_ofNat, Fin.val_ofNat']
        exact Nat.mod_le _ _
      simp only [HashStore.step]; omega
    · simp only [HashStore.step, Function.update_same, HandleMap.insert_apply, if_neg hh] at hb
      exact hR.inRange _ _ _ hb
  · simp only [HashStore.step, Function.update_noteq hk] at hb ⊢
    exact hR.inRange _ _ _ hb

theorem run_refines {ops : List RecorderOp} {R R' : StateRecorder} {S : HashStore}
    (hR : Refines R S) (hv : S.ValidFrom ops) (h : R.run ops = .ok R') :
    Refines R' (ops.foldl HashStore.step S) := by
  induction ops generalizing R S with
  | nil => cases h; exact hR
  | cons op ops ih =>
    cases op with
    | register k hash info =>
      obtain ⟨⟨R1, index⟩, h1, h2⟩ := except_bind_eq_ok.mp h
      exact ih (register_refines hR h1).1 hv.2 h2
    | setHandle k index hd => exact ih (setHandle_refines hR hv.1) hv.2 h

/-- Over every session of registrations and handle bindings (each binding an index an
earlier registration of its kind returned) that completes, the maps hold exactly the
bindings the session made, and `get_hash_for_<kind>(h)` throws exactly when `h` was never
bound, and otherwise returns, from inside the registry, the hash of the registration that
returned the index last bound to `h`. -/
theorem get_hash_for_follows_bindings {ops : List RecorderOp} {R : StateRecorder}
    (hv : HashStore.empty.ValidFrom ops) (h : empty.run ops = .ok R) :
    R.toIndex = (HashStore.session ops).bound ∧
    ∀ k hd, R.getHashFor k hd = (HashStore.session ops).getHashFor k hd ∧
      ((HashStore.session ops).bound k hd = none ↔ ∀ i, RecorderOp.setHandle k i hd ∉ ops) ∧
      ∀ i, (HashStore.session ops).bound k hd = some i →
        i.toNat < ((HashStore.session ops).registered k).length := by
  have hR := run_refines refines_empty hv h
  refine ⟨hR.toIndex, fun k hd => ⟨getHashFor_of_refines hR k hd, ?_, hR.inRange k hd⟩⟩
  rw [HashStore.session, HashStore.bound_eq_none_iff]
  simp [HashStore.empty]

/-- A sampler registered under hash 7 and bound to handle 42 is found again. -/
theorem get_hash_for_bound_sampler :
    ∃ R, empty.run [.register .sampler 7 ⟨0, 0, 0, 0, 0, 0, 0, 0, 0, 0, 0, 0, 0, 0, 0, 0⟩,
      .setHandle .sampler 0 42] = .ok R ∧ R.getHashFor .sampler 42 = .ok 7 := by
  obtain ⟨R, hR⟩ : ∃ R, empty.run [.register .sampler 7 ⟨0, 0, 0, 0, 0, 0, 0, 0, 0, 0, 0, 0, 0,
      0, 0, 0⟩, .setHandle .sampler 0 42] = .ok R := ⟨_, rfl⟩
  exact ⟨R, hR, ((get_hash_for_follows_bindings (by exact ⟨trivial, ⟨0, by simp [HashStore.step,
    HashStore.empty], rfl⟩, trivial⟩) hR).2 .sampler 42).1.trans rfl⟩

end StateRecorder

end Fossilize
