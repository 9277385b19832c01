import Fossilize.Replayer.Interface
import Mathlib.Logic.Basic

/-! # `StateReplayer::parse` from the empty allocator

`starved` is what `parse` does from there, member by member: a section with values throws
`bad_alloc` at its first allocation, which `parse` catches.
-/

namespace Fossilize

namespace Replay

open StateRecorder (Aligned)
open MonadExcept (ofExcept)

/-! ## Outcomes from a class of allocators -/

/-- From every replayer whose allocator satisfies `A`, `x` ends with `o.1`, appends `o.2` to
the calls, and leaves an allocator that satisfies `A`. -/
def Outcome {α : Type} (A : ScratchAllocator → Prop) (x : ReplayM α) (o : Except Fault α × List Call) :
    Prop :=
  ∀ r : Replayer, A r.allocator →
    (exec x r).1 = o.1 ∧ (exec x r).2.calls = r.calls ++ o.2 ∧ A (exec x r).2.allocator

/-- A step's outcome, then the next one's when the first returns. -/
def followedBy {β : Type} (a : Except Fault Unit × List Call) (b : Except Fault β × List Call) :
    Except Fault β × List Call :=
  match a.1 with
  | .ok () => (b.1, a.2 ++ b.2)
  | .error e => (.error e, a.2)

/-- What the `catch` of `parse` makes of the way its `try` block ended. -/
def caught : Except Fault Bool → Except Fault Bool
  | .error (.logicError _) => .ok false
  | .error (.runtimeError _) => .ok false
  | .error .badAlloc => .ok false
  | x => x

theorem exec_catchException (e : Fault) (r : Replayer) :
    exec (catchException e) r = (caught (.error e), r) := by
  cases e <;> rfl

section Outcome

variable {α β : Type} {A : ScratchAllocator → Prop}

theorem Outcome.pure (a : α) : Outcome A (pure a) (.ok a, []) := fun _ h => ⟨rfl, by simp, h⟩

theorem Outcome.call (c : Call) : Outcome A (call c) (.ok (), [c]) := fun _ h => ⟨rfl, rfl, h⟩

theorem Outcome.bind_ok {x : ReplayM α} {f : α → ReplayM β} {a : α} {cs : List Call}
    {o : Except Fault β × List Call} (hx : Outcome A x (.ok a, cs)) (hf : Outcome A (f a) o) :
    Outcome A (x >>= f) (o.1, cs ++ o.2) := fun r hr => by
  obtain ⟨h1, h2, h3⟩ := hx r hr
  obtain ⟨g1, g2, g3⟩ := hf _ h3
  rw [exec_bind_ok r (Prod.ext h1 rfl)]
  exact ⟨g1, by rw [g2, h2, List.append_assoc], g3⟩

theorem Outcome.bind_error {x : ReplayM α} {f : α → ReplayM β} {e : Fault} {cs : List Call}
    (hx : Outcome A x (.error e, cs)) : Outcome A (x >>= f) (.error e, cs) := fun r hr => by
  obtain ⟨h1, h2, h3⟩ := hx r hr
  rw [exec_bind_error r (Prod.ext h1 rfl)]
  exact ⟨rfl, h2, h3⟩

theorem Outcome.seq {x : ReplayM Unit} {f : Unit → ReplayM β} {a : Except Fault Unit × List Call}
    {b : Except Fault β × List Call} (hx : Outcome A x a) (hf : Outcome A (f ()) b) :
    Outcome A (x >>= f) (followedBy a b) := by
  rcases a with ⟨_ | ⟨⟩, cs⟩
  · exact hx.bind_error
  · exact hx.bind_ok hf

theorem Outcome.tryCatch {x : ReplayM Bool} {o : Except Fault Bool × List Call} (hx : Outcome A x o) :
    Outcome A (tryCatch x catchException) (caught o.1, o.2) := fun r hr => by
  obtain ⟨h1, h2, h3⟩ := hx r hr
  rw [exec_tryCatch, show exec x r = ((exec x r).1, (exec x r).2) from rfl, h1]
  rcases o with ⟨_ | b, cs⟩
  · dsimp only
    rw [exec_catchException]
    exact ⟨rfl, h2, h3⟩
  · exact ⟨rfl, h2, h3⟩

end Outcome

/-! ## Sections and members -/

/-- A section from an allocator that serves no aligned request: `set_num_<kind>s(0)` and
`wait_enqueue()` when it has no values; `set_num_<kind>s(Size())` and `bad_alloc` when it
has some. -/
def starvedSection (k : Kind) (objs : Json) : Except Fault Unit × List Call :=
  match objs.elements with
  | .error e => (.error e, [])
  | .ok [] => (.ok (), [.setNum k 0, .waitEnqueue])
  | .ok (x :: xs) => (.error .badAlloc, [.setNum k (x :: xs).length])

/-- The member `key` from such an allocator: `set_num_<kind>s(0)` when the document lacks
it, its section when it has it. -/
def starvedMember (doc : Json) (key : String) (k : Kind) : Except Fault Unit × List Call :=
  match doc.hasMember key, doc.get key with
  | .error e, _ => (.error e, [])
  | .ok false, _ => (.ok (), [.setNum k 0])
  | .ok true, .ok v => starvedSection k v
  | .ok true, .error e => (.error e, [])

/-- The five members in the order `parse` reads them. -/
def starvedMembers (doc : Json) : Except Fault Unit × List Call :=
  followedBy (starvedMember doc "shaderModules" .shaderModule) <|
  followedBy (starvedMember doc "samplers" .sampler) <|
  followedBy (starvedMember doc "descriptorSetLayouts" .descriptorSetLayout) <|
  followedBy (starvedMember doc "pipelineLayouts" .pipelineLayout) <|
  starvedMember doc "renderPasses" .renderPass

/-- `parse` from the empty allocator: its result and the calls it makes. -/
def starved (doc : Json) : Except Fault Bool × List Call :=
  let o := followedBy (starvedMembers doc) (.ok true, [])
  (caught o.1, o.2)

section Sections

variable (engine : Kind → Hash → Nat → Handle) {k : Kind} {t : CLayout}
  {element : Json → ReplayM (List Handle)}

theorem parseSection_outcome_of_empty {objs : Json} (ht : Aligned t) (hv : objs.Sized) :
    Outcome (· = .empty) (parseSection engine k t element objs) (starvedSection k objs) := by
  intro r hr
  unfold starvedSection
  rcases he : objs.elements with e | _ | ⟨x, xs⟩
  · simp [parseSection, Json.size_eq, he, hr]
  · simp [parseSection, hv.size_eq he, he, hr]
  · have hd : ∀ r' : Replayer, r'.allocator = .empty →
        exec (allocateN t (xs.length + 1)) r' = (.error .badAlloc, r') :=
      fun _ h => exec_allocateN_of_empty h ht (Nat.succ_pos _) (hv.length_lt he)
    simp [parseSection, hv.size_eq he, hd, hr]

theorem aligned_of_align_eight {t : CLayout} (ha : t.align = 8) (hs : t.size.toNat ≤ 2 ^ 31) : Aligned t :=
  ⟨.inr (.inr ha), hs⟩

theorem parseMember_outcome_of_empty {doc : Json} {key : String} (ht : Aligned t) (hd : doc.Sized) :
    Outcome (· = .empty) (parseMember doc key k (parseSection engine k t element))
      (starvedMember doc key k) := by
  intro r hr
  unfold starvedMember
  rcases hm : doc.hasMember key with e | _ | _
  · simp [parseMember, hm, hr]
  · simp [parseMember, hm, hr]
  · rcases hg : doc.get key with e | v
    · simp [parseMember, hm, hg, hr]
    · have h : Outcome (· = .empty) (parseSection engine k t element v) (starvedSection k v) :=
        parseSection_outcome_of_empty engine ht (hd.of_get hg)
      simpa [parseMember, hm, hg] using h r hr

/-- From the empty allocator, `parse` ends as `starved` says, with the calls it lists; the
allocator stays empty. -/
theorem parse_outcome_of_empty {doc : Json} (hd : doc.Sized) :
    Outcome (· = .empty) (parse engine doc) (starved doc) :=
  ((parseMember_outcome_of_empty engine (aligned_of_align_eight rfl (by decide)) hd).seq <|
    (parseMember_outcome_of_empty engine (aligned_of_align_eight rfl (by decide)) hd).seq <|
    (parseMember_outcome_of_empty engine (aligned_of_align_eight rfl (by decide)) hd).seq <|
    (parseMember_outcome_of_empty engine (aligned_of_align_eight rfl (by decide)) hd).seq <|
    (parseMember_outcome_of_empty engine (aligned_of_align_eight rfl (by decide)) hd)).seq
    (Outcome.pure true) |>.tryCatch

end Sections

/-! ## When `parse` returns `false` -/

/-- How an outcome from the empty allocator ends short: at an assertion, or at the
`bad_alloc` of a section with values, right after its `set_num_<kind>s(n)`, `n > 0`. -/
def EndsShort {α : Type} (o : Except Fault α × List Call) : Prop :=
  ∀ e, o.1 = .error e →
    e = .assertion ∨ e = .badAlloc ∧ ∃ k n, 0 < n ∧ o.2.getLast? = some (.setNum k n)

theorem starvedSection_endsShort (k : Kind) (objs : Json) : EndsShort (starvedSection k objs) := by
  unfold starvedSection
  rcases he : objs.elements with e | _ | ⟨x, xs⟩
  · rintro _ ⟨⟩; exact .inl (Json.elements_error he)
  · rintro _ ⟨⟩
  · rintro _ ⟨⟩; exact .inr ⟨rfl, k, _, Nat.succ_pos _, rfl⟩

theorem starvedMember_endsShort (doc : Json) (key : String) (k : Kind) :
    EndsShort (starvedMember doc key k) := by
  unfold starvedMember
  rcases hm : doc.hasMember key with e | _ | _
  · rintro _ ⟨⟩; exact .inl (Json.hasMember_error hm)
  · rintro _ ⟨⟩
  · rcases hg : doc.get key with e | v
    · rintro _ ⟨⟩; exact .inl (Json.get_error hg)
    · exact starvedSection_endsShort k v

theorem EndsShort.followedBy {β : Type} {a : Except Fault Unit × List Call}
    {b : Except Fault β × List Call} (ha : EndsShort a) (hb : EndsShort b) :
    EndsShort (followedBy a b) := by
  rcases a with ⟨_ | ⟨⟩, cs⟩
  · rintro _ ⟨⟩
    exact ha _ rfl
  · intro e h
    rcases hb e h with he | ⟨he, k, n, hn, hl⟩
    · exact .inl he
    · have hne : b.2 ≠ [] := fun h0 => by simp [h0] at hl
      exact .inr ⟨he, k, n, hn, (List.getLast?_append_of_ne_nil cs hne).trans hl⟩

/-- From the empty allocator `parse` returns `false` only right after a `set_num_<kind>s(n)`
with `n > 0`. -/
theorem starved_false {doc : Json} (h : (starved doc).1 = .ok false) :
    ∃ k n, 0 < n ∧ (starved doc).2.getLast? = some (.setNum k n) := by
  have hs : EndsShort (starvedMembers doc) :=
    (starvedMember_endsShort _ _ _).followedBy <| (starvedMember_endsShort _ _ _).followedBy <|
      (starvedMember_endsShort _ _ _).followedBy <| (starvedMember_endsShort _ _ _).followedBy <|
      starvedMember_endsShort _ _ _
  unfold starved at h ⊢
  generalize starvedMembers doc = o at h hs ⊢
  rcases o with ⟨e | ⟨⟩, cs⟩
  · rcases hs e rfl with rfl | ⟨-, hl⟩
    · cases h
    · exact hl
  · cases h

/-- From the empty allocator a replayer has, `parse` of a document rapidjson can hold does
what `starved` lists, and when it returns `false` its last call on the interface was a
`set_num_<kind>s(n)` with `n > 0`: the first member with values throws `bad_alloc` at its
first allocation, past that call. -/
theorem parse_false_after_set_num (engine : Kind → Hash → Nat → Handle) {doc : Json} (hd : doc.Sized)
    {r : Replayer} (hr : r.allocator = .empty) :
    (exec (parse engine doc) r).1 = (starved doc).1 ∧
      (exec (parse engine doc) r).2.calls = r.calls ++ (starved doc).2 ∧
      ((exec (parse engine doc) r).1 = .ok false →
        ∃ k n, 0 < n ∧ (exec (parse engine doc) r).2.calls.getLast? = some (.setNum k n)) := by
  obtain ⟨h1, h2, -⟩ := parse_outcome_of_empty engine hd r hr
  refine ⟨h1, h2, fun hf => ?_⟩
  obtain ⟨k, n, hn, hl⟩ := starved_false (h1 ▸ hf)
  have hne : (starved doc).2 ≠ [] := fun h0 => by simp [h0] at hl
  exact ⟨k, n, hn, by rw [h2, List.getLast?_append_of_ne_nil _ hne, hl]⟩

/-- The document `{"samplers": [{}]}`. -/
def oneSamplerDocument : Json := .obj [("samplers", .arr [.obj []])]

/-- A new replayer returns `false` on `{"samplers": [{}]}` after `set_num_shader_modules(0)`
and `set_num_samplers(1)`. -/
theorem one_sampler_false_after_calls :
    (exec (parse (fun _ _ _ => 0) oneSamplerDocument) Replayer.fresh).1 = .ok false ∧
      (exec (parse (fun _ _ _ => 0) oneSamplerDocument) Replayer.fresh).2.calls =
        [.setNum .shaderModule 0, .setNum .sampler 1] :=
  have h := parse_false_after_set_num (fun _ _ _ => 0) (show oneSamplerDocument.Sized by decide)
    (show Replayer.fresh.allocator = .empty from rfl)
  ⟨h.1.trans rfl, h.2.1.trans rfl⟩

/-! ## The coarse model -/

theorem coarse_parseMember_empty {doc : Json} {key : String} {k : Kind} {t : CLayout} (hd : doc.Sized)
    (ht : Aligned t) :
    StateReplayer.parseMember doc key k t .empty = (fun _ => (.empty, [])) <$> (starvedMember doc key k).1 := by
  unfold starvedMember
  rcases hm : doc.hasMember key with e | _ | _
  · simp [StateReplayer.parseMember, hm, bind, Except.bind]
  · simp [StateReplayer.parseMember, hm, bind, Except.bind]; rfl
  · rcases hg : doc.get key with e | v
    · simp [StateReplayer.parseMember, hm, hg, bind, Except.bind]
    · unfold starvedSection
      rcases he : v.elements with e | _ | ⟨x, xs⟩
      · simp [StateReplayer.parseMember, hm, hg, he, bind, Except.bind]
      · simp [StateReplayer.parseMember, hm, hg, he, bind, Except.bind,
          StateReplayer.parseSection_empty k ht [] (by decide)]
      · simp [StateReplayer.parseMember, hm, hg, he, bind, Except.bind,
          StateReplayer.parseSection_empty k ht _ ((hd.of_get hg).length_lt he)]

theorem coarse_bind_parseMember {β : Type} {doc : Json} {key : String} {k : Kind} {t : CLayout}
    (hd : doc.Sized) (ht : Aligned t) (f : ScratchAllocator × List StateReplayer.Enqueue → Except Fault β) :
    StateReplayer.parseMember doc key k t .empty >>= f =
      match (starvedMember doc key k).1 with
      | .ok () => f (.empty, [])
      | .error e => .error e := by
  rw [coarse_parseMember_empty hd ht]
  rcases (starvedMember doc key k).1 with _ | ⟨⟩ <;> rfl

theorem coarse_parse_empty {doc : Json} (hd : doc.Sized) :
    StateReplayer.parse .empty doc = (fun _ => (true, [])) <$> (starvedMembers doc).1 := by
  simp (disch := exact aligned_of_align_eight (by decide) (by decide)) only [StateReplayer.parse,
    coarse_bind_parseMember hd, starvedMembers, followedBy]
  rcases (starvedMember doc "shaderModules" .shaderModule).1 with _ | ⟨⟩ <;> try rfl
  rcases (starvedMember doc "samplers" .sampler).1 with _ | ⟨⟩ <;> try rfl
  rcases (starvedMember doc "descriptorSetLayouts" .descriptorSetLayout).1 with _ | ⟨⟩ <;> try rfl
  rcases (starvedMember doc "pipelineLayouts" .pipelineLayout).1 with _ | ⟨⟩ <;> try rfl
  rcases (starvedMember doc "renderPasses" .renderPass).1 with _ | ⟨⟩ <;> rfl

/-- From the empty allocator, `parse` with its calls ends as the coarse `StateReplayer.parse`
does once its `catch` has turned a `bad_alloc` into `false`. -/
theorem parse_refines_coarse (engine : Kind → Hash → Nat → Handle) {doc : Json} {r : Replayer}
    (hr : r.allocator = .empty) (hd : doc.Sized) :
    (exec (parse engine doc) r).1 = caught (Prod.fst <$> StateReplayer.parse .empty doc) := by
  rw [(parse_outcome_of_empty engine hd r hr).1, coarse_parse_empty hd]
  unfold starved followedBy
  rcases (starvedMembers doc).1 with _ | ⟨⟩ <;> rfl

/-! ## A replayer's allocator stays empty -/

section Runs

variable (engine : Kind → Hash → Nat → Handle) (docOf : List UInt8 → Option Json)

/-- The replayers `parse` leaves behind, call after call, from a new one. -/
inductive Reached : Replayer → Prop
  | fresh : Reached Replayer.fresh
  | parse {r : Replayer} (text : List UInt8) : Reached r → Reached (exec (parseText engine docOf text) r).2

variable {engine docOf}

theorem parseText_keeps_allocator_empty (hdoc : ∀ text doc, docOf text = some doc → doc.Sized)
    (text : List UInt8) {r : Replayer} (hr : r.allocator = .empty) :
    (exec (parseText engine docOf text) r).2.allocator = .empty := by
  unfold parseText
  cases hdt : docOf text with
  | none => exact hr
  | some doc => exact ((parse_outcome_of_empty engine (hdoc text doc hdt)) r hr).2.2

/-- Every replayer the program has holds the empty allocator. -/
theorem Reached.allocator_empty (hdoc : ∀ text doc, docOf text = some doc → doc.Sized) {r : Replayer}
    (h : Reached engine docOf r) : r.allocator = .empty := by
  induction h with
  | fresh => rfl
  | parse text _ ih => exact parseText_keeps_allocator_empty hdoc text ih

end Runs

end Replay

end Fossilize
