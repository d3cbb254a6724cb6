import ProjectNeon.Handles

/-!
# The global references of the handles

Each `neon_client_new`/`neon_host_new` that succeeds pins its managed object with a
`NewGlobalRef`, and each `free` deletes that reference with the block.  `RefsOk` says what the
runtime's global references are, as the library keeps them: the cached classes and one reference
for each live handle, none shared, none left over.

* `RefsOk.create`, `RefsOk.release`, `RefsOk.setClientCallback`, `RefsOk.setHostCallback`: the heap
  operations of `Handles` keep it, a constructor as long as `NewGlobalRef` answered.
* `Call.exec_refsOk`, `runCalls_refsOk`: so does every call, and every run whose frees are given
  live handles, under a runtime whose `NewGlobalRef` never fails.
-/

namespace ProjectNeon

open NeonClientJNI NeonHostJNI

/-- The runtime's global references are the cached classes and one distinct reference for each live
handle, each held once. -/
structure RefsOk (h : Heap) : Prop where
  nodup : h.globals.Nodup
  fresh : ∀ g ∈ h.globals, g.slot < h.nextGlobal
  clientClass : ∀ c ∈ h.neonClientClass, c ∈ h.globals
  hostClass : ∀ c ∈ h.neonHostClass, c ∈ h.globals
  classes : ∀ c ∈ h.neonClientClass, c ∉ h.neonHostClass
  held : ∀ k p, h.Live k p → ∃ g, h.javaObject k p = some g ∧ g ∈ h.globals
  owned : ∀ g ∈ h.globals,
    g ∈ h.neonClientClass ∨ g ∈ h.neonHostClass ∨ ∃ k p, h.javaObject k p = some g
  distinct : ∀ k p k' p' g, h.javaObject k p = some g → h.javaObject k' p' = some g → k = k' ∧ p = p'
  apart : ∀ k p g, h.javaObject k p = some g → g ∉ h.neonClientClass ∧ g ∉ h.neonHostClass
  oneBlock : ∀ p, h.clients p = none ∨ h.hosts p = none

namespace RefsOk

variable {h : Heap}

theorem mem_globals (hr : RefsOk h) {k : Kind} {p : Nat} {g : Ref} (hg : h.javaObject k p = some g) :
    g ∈ h.globals := by
  obtain ⟨g', hg', hm⟩ := hr.held k p (h.live_of_javaObject k p hg)
  obtain rfl : g = g' := Option.some_inj.mp (hg.symm.trans hg')
  exact hm

/-- A reference in the next free slot is held by no block. -/
theorem javaObject_ne_fresh (hr : RefsOk h) (k : Kind) (p : Nat) {x : Ref}
    (hx : x.slot = h.nextGlobal) : h.javaObject k p ≠ some x := fun hg => by
  have := hr.fresh x (hr.mem_globals hg)
  omega

/-- A constructor keeps the discipline once `NewGlobalRef` has answered with a reference in the next
free slot. -/
theorem create (hr : RefsOk h) (k₀ : Kind) {q : Nat} {x : Ref} (hv : h.Vacant q)
    (hx : x.slot = h.nextGlobal) : RefsOk (h.create k₀ q (some x)) := by
  have hnew : x ∉ h.globals := fun hm => by
    have := hr.fresh x hm
    omega
  have hq : ∀ k, h.javaObject k q = none := by
    intro k
    cases k <;> simp [Heap.javaObject, hv.2.1, hv.2.2]
  refine ⟨?nodup, ?fresh, ?clientClass, ?hostClass, ?classes, ?held, ?owned, ?distinct, ?apart,
    ?oneBlock⟩
  case nodup => simpa using ⟨hnew, hr.nodup⟩
  case fresh =>
    simp only [Heap.create_globals, Heap.create_nextGlobal, List.mem_cons, forall_eq_or_imp]
    exact ⟨by omega, fun g hg => by have := hr.fresh g hg; omega⟩
  case clientClass => simpa using fun c hc => List.mem_cons_of_mem x (hr.clientClass c hc)
  case hostClass => simpa using fun c hc => List.mem_cons_of_mem x (hr.hostClass c hc)
  case classes => simpa using hr.classes
  case held =>
    intro k p hl
    rw [Heap.live_create] at hl
    rw [Heap.javaObject_create]
    split_ifs with hkp
    · exact ⟨x, rfl, by simp⟩
    · obtain ⟨g, hg, hm⟩ := hr.held k p (hl.resolve_left hkp)
      exact ⟨g, hg, by simp [hm]⟩
  case owned =>
    intro g hg
    simp only [Heap.create_globals, List.mem_cons] at hg
    rcases hg with rfl | hg
    · exact .inr (.inr ⟨k₀, q, by simp [Heap.javaObject_create]⟩)
    · rcases hr.owned g hg with hc | hc | ⟨k, p, hkp⟩
      · exact .inl (by simpa using hc)
      · exact .inr (.inl (by simpa using hc))
      · refine .inr (.inr ⟨k, p, ?_⟩)
        rw [Heap.javaObject_create, if_neg]
        · exact hkp
        · rintro ⟨rfl, rfl⟩
          simp [hq] at hkp
  case distinct =>
    intro k p k' p' g h₁ h₂
    rw [Heap.javaObject_create] at h₁ h₂
    split_ifs at h₁ h₂ with c₁ c₂ c₂
    · exact ⟨c₁.1.trans c₂.1.symm, c₁.2.trans c₂.2.symm⟩
    · cases h₁
      exact absurd h₂ (hr.javaObject_ne_fresh k' p' hx)
    · cases h₂
      exact absurd h₁ (hr.javaObject_ne_fresh k p hx)
    · exact hr.distinct k p k' p' g h₁ h₂
  case apart =>
    intro k p g hg
    rw [Heap.javaObject_create] at hg
    simp only [Heap.create_neonClientClass, Heap.create_neonHostClass]
    split_ifs at hg
    · cases hg
      exact ⟨fun hc => hnew (hr.clientClass x hc), fun hc => hnew (hr.hostClass x hc)⟩
    · exact hr.apart k p g hg
  case oneBlock =>
    intro p
    by_cases hp : p = q
    · subst hp
      cases k₀ <;> simp [Heap.create, Heap.createClient, Heap.createHost, Heap.setClient,
        Heap.setHost, hv.2.1, hv.2.2]
    · cases k₀ <;> simpa [Heap.create, Heap.createClient, Heap.createHost, Heap.setClient,
        Heap.setHost, hp] using hr.oneBlock p

/-- Two live blocks at one address are of one kind. -/
theorem kind_unique (hr : RefsOk h) {k k' : Kind} {p : Nat} (hk : h.Live k p) (hk' : h.Live k' p) :
    k = k' := by
  cases k <;> cases k' <;> simp only [Heap.Live] at hk hk' <;>
    first | rfl | (rcases hr.oneBlock p with h₁ | h₁ <;> contradiction)

/-- A `free` of a live handle keeps the discipline. -/
theorem release (hr : RefsOk h) {k₀ : Kind} {p : Nat} (hl : h.Live k₀ p) :
    RefsOk (h.release k₀ p) := by
  obtain ⟨g, hg, hm⟩ := hr.held k₀ p hl
  have hmem : ∀ x, x ∈ (h.release k₀ p).globals ↔ x ≠ g ∧ x ∈ h.globals := fun x => by
    rw [Heap.release_globals, hg, hr.nodup.mem_erase_iff]
  have hj : ∀ k q x, h.javaObject k q = some x → q ≠ p → (h.release k₀ p).javaObject k q = some x :=
    fun k q x hx hq => by rw [Heap.javaObject_release, if_neg hq, hx]
  refine ⟨?nodup, ?fresh, ?clientClass, ?hostClass, ?classes, ?held, ?owned, ?distinct, ?apart,
    ?oneBlock⟩
  case nodup =>
    rw [Heap.release_globals, hg]
    exact hr.nodup.erase g
  case fresh => exact fun x hx => by simpa using hr.fresh x ((hmem x).1 hx).2
  case clientClass =>
    intro c hc
    rw [Heap.release_neonClientClass] at hc
    exact (hmem c).2 ⟨fun hcg => (hr.apart k₀ p g hg).1 (hcg ▸ hc), hr.clientClass c hc⟩
  case hostClass =>
    intro c hc
    rw [Heap.release_neonHostClass] at hc
    exact (hmem c).2 ⟨fun hcg => (hr.apart k₀ p g hg).2 (hcg ▸ hc), hr.hostClass c hc⟩
  case classes => simpa using hr.classes
  case held =>
    intro k q hlq
    obtain ⟨hq, hlq⟩ := (Heap.live_release h k k₀ p q).1 hlq
    obtain ⟨g', hg', hm'⟩ := hr.held k q hlq
    refine ⟨g', hj k q g' hg' hq, (hmem g').2 ⟨?_, hm'⟩⟩
    rintro rfl
    exact hq (hr.distinct k q k₀ p g' hg' hg).2
  case owned =>
    intro x hx
    obtain ⟨hxg, hx⟩ := (hmem x).1 hx
    rcases hr.owned x hx with hc | hc | ⟨k, q, hkq⟩
    · exact .inl (by simpa using hc)
    · exact .inr (.inl (by simpa using hc))
    · refine .inr (.inr ⟨k, q, hj k q x hkq ?_⟩)
      rintro rfl
      obtain rfl := hr.kind_unique (h.live_of_javaObject k q hkq) hl
      exact hxg (Option.some_inj.mp (hkq.symm.trans hg))
  case distinct =>
    intro k q k' q' x h₁ h₂
    rw [Heap.javaObject_release] at h₁ h₂
    split_ifs at h₁ h₂
    exact hr.distinct k q k' q' x h₁ h₂
  case apart =>
    intro k q x hx
    rw [Heap.javaObject_release] at hx
    split_ifs at hx
    simpa using hr.apart k q x hx
  case oneBlock =>
    intro q
    by_cases hq : q = p <;> simp [hq, hr.oneBlock q]

/-- The discipline reads the blocks only through their references and their liveness. -/
theorem congr (hr : RefsOk h) {h' : Heap} (hg : h'.globals = h.globals)
    (hn : h'.nextGlobal = h.nextGlobal) (hc : h'.neonClientClass = h.neonClientClass)
    (hh : h'.neonHostClass = h.neonHostClass) (hj : ∀ k p, h'.javaObject k p = h.javaObject k p)
    (hl : ∀ k p, h'.Live k p ↔ h.Live k p) : RefsOk h' := by
  refine ⟨?nodup, ?fresh, ?clientClass, ?hostClass, ?classes, ?held, ?owned, ?distinct, ?apart,
    ?oneBlock⟩
  case nodup => exact hg ▸ hr.nodup
  case fresh => exact hg ▸ hn ▸ hr.fresh
  case clientClass => exact hg ▸ hc ▸ hr.clientClass
  case hostClass => exact hg ▸ hh ▸ hr.hostClass
  case classes => exact hc ▸ hh ▸ hr.classes
  case held => exact fun k p hk => by simpa only [hj, hg] using hr.held k p ((hl k p).1 hk)
  case owned => exact fun g hm => by simpa only [hj, hc, hh] using hr.owned g (hg ▸ hm)
  case distinct => exact fun k p k' p' g => by simpa only [hj] using hr.distinct k p k' p' g
  case apart => exact fun k p g => by simpa only [hj, hc, hh] using hr.apart k p g
  case oneBlock =>
    intro p
    have hcl := not_congr (hl .client p)
    have hho := not_congr (hl .host p)
    simp only [Heap.Live, not_not] at hcl hho
    rw [hcl, hho]
    exact hr.oneBlock p

theorem setClientCallback (hr : RefsOk h) (p : Nat) (e : ClientEvent) (f : Nat) :
    RefsOk (h.setClientCallback p e f) :=
  hr.congr rfl rfl rfl rfl (by simp) (by simp)

theorem setHostCallback (hr : RefsOk h) (p : Nat) (e : HostEvent) (f : Nat) :
    RefsOk (h.setHostCallback p e f) :=
  hr.congr rfl rfl rfl rfl (by simp) (by simp)

/-- What a constructor leaves keeps the discipline, under a runtime whose `NewGlobalRef` never
fails. -/
theorem of_newOutcome {rt : Runtime} (hg : ∀ tr, rt.newGlobalRef tr = true) {s : St}
    {r : Nat × St} (hr : RefsOk s.heap) (k : Kind) (h : NewOutcome rt (Heap.create k) s r) :
    RefsOk r.2.heap := by
  rcases h with ⟨-, he⟩ | ⟨g, hv, ⟨hs, hnull⟩, he⟩
  · exact he ▸ hr
  · cases g with
    | none => simp [hg] at hnull
    | some x => exact he ▸ hr.create k hv (hs x rfl).1

end RefsOk

/-- A `free` is given `NULL` or a live handle of its kind. -/
def Call.freesLive (h : Heap) : Call → Bool
  | .clientFree p => p == 0 || (h.clients p).isSome
  | .hostFree p => p == 0 || (h.hosts p).isSome
  | _ => true

/-- Every `free` of a run is given `NULL` or a live handle of its kind. -/
def freesLive (rt : Runtime) : List (Tid × Call) → St → Bool
  | [], _ => true
  | (t, c) :: cs, s => c.freesLive s.heap && freesLive rt cs (c.exec rt t s).2

section Run

variable {rt : Runtime} (hg : ∀ tr, rt.newGlobalRef tr = true)

include hg

/-- Every call keeps the discipline, given that a `free` is given `NULL` or a live handle. -/
theorem Call.exec_refsOk (t : Tid) (c : Call) (s : St) (hr : RefsOk s.heap)
    (hc : c.freesLive s.heap) : RefsOk (c.exec rt t s).2.heap := by
  by_cases hrd : c.readsHeap
  · exact (Call.exec_heap rt t c hrd s) ▸ hr
  cases c with
  | clientNew name =>
    show RefsOk (neonClientNew rt t name s).2.heap
    exact hr.of_newOutcome hg .client (neonClientNew_outcome rt t name s)
  | hostNew sid addr =>
    show RefsOk (neonHostNew rt t sid addr s).2.heap
    exact hr.of_newOutcome hg .host (neonHostNew_outcome rt t sid addr s)
  | clientFree p =>
    show RefsOk (neonClientFree rt t p s).2.heap
    rw [neonClientFree_heap]
    split_ifs with hb
    · refine hr.release ?_
      simpa [Call.freesLive, hb.1, Heap.Live, Option.isSome_iff_ne_none] using hc
    · exact hr
  | hostFree p =>
    show RefsOk (neonHostFree rt t p s).2.heap
    rw [neonHostFree_heap]
    split_ifs with hb
    · refine hr.release ?_
      simpa [Call.freesLive, hb.1, Heap.Live, Option.isSome_iff_ne_none] using hc
    · exact hr
  | clientSetCallback e p cb =>
    show RefsOk (neonClientSetCallback rt t e p cb s).2.heap
    rw [neonClientSetCallback_heap]
    split_ifs
    exacts [hr.setClientCallback p e cb, hr]
  | hostSetCallback e p cb =>
    show RefsOk (neonHostSetCallback rt t e p cb s).2.heap
    rw [neonHostSetCallback_heap]
    split_ifs
    exacts [hr.setHostCallback p e cb, hr]
  | _ => simp [Call.readsHeap] at hrd

/-- Every run whose frees are given live handles keeps the discipline. -/
theorem runCalls_refsOk (run : List (Tid × Call)) (s : St) (hr : RefsOk s.heap)
    (hf : freesLive rt run s) : RefsOk (runCalls rt run s).heap := by
  induction run generalizing s with
  | nil => exact hr
  | cons tc run ih =>
    obtain ⟨t, c⟩ := tc
    simp only [freesLive, Bool.and_eq_true] at hf
    exact ih _ (Call.exec_refsOk hg t c s hr hf.1) hf.2

end Run

/-- A state with no global reference, no cached class and no block keeps the discipline, whether
or not a virtual machine is loaded. -/
theorem RefsOk.unloaded (vm : Option Nat) : RefsOk ({ jvm := vm } : St).heap := by
  have hj : ∀ k p, ({ jvm := vm } : St).heap.javaObject k p = none := fun k p => by cases k <;> rfl
  have hl : ∀ k p, ¬({ jvm := vm } : St).heap.Live k p := fun k p => by cases k <;> simp [Heap.Live]
  constructor <;> simp [hj, hl]

/-- What a constructor of kind `k` leaves, from `s`: `NULL` and the heap as it was, or a handle that
holds a live global reference to an instance the call made. -/
def NewHolds (k : Kind) (s : St) (r : Nat × St) : Prop :=
  (r.1 = 0 ∧ r.2.heap = s.heap) ∨
    r.1 ≠ 0 ∧ ∃ g n, r.2.javaObject k r.1 = some g ∧ g ∈ r.2.globals ∧ s.next ≤ n ∧ g.obj = .inst n

theorem NewOutcome.holds {rt : Runtime} (hg : ∀ tr, rt.newGlobalRef tr = true) (k : Kind)
    {s : St} {r : Nat × St} (h : NewOutcome rt (Heap.create k) s r) : NewHolds k s r := by
  rcases h with h0 | ⟨g, hv, ⟨hs, hnull⟩, he⟩
  · exact .inl h0
  · cases g with
    | none => simp [hg] at hnull
    | some x =>
      obtain ⟨-, n, hn, hobj⟩ := hs x rfl
      have hglobals : r.2.globals = x :: s.globals := by simpa using congrArg Heap.globals he
      refine .inr ⟨hv.1, x, n, ?_, by simp [hglobals], hn, hobj⟩
      rw [← St.heap_javaObject, he, Heap.javaObject_create]
      simp

/-- The handles' global references, under a runtime whose `NewGlobalRef` never fails: every run
whose frees are given live handles keeps `RefsOk`; a constructor returns `NULL` with the heap as it
was, or a handle holding a live global reference to the object it constructed; and a `free`
deletes exactly the handle's reference and frees exactly its block when `get_jni_env` binds the
thread, and leaves both in place when it does not. -/
theorem handle_refs_discipline (rt : Runtime) (hg : ∀ tr, rt.newGlobalRef tr = true) :
    (∀ run s, RefsOk s.heap → freesLive rt run s → RefsOk (runCalls rt run s).heap) ∧
    (∀ t name s, NewHolds .client s (neonClientNew rt t name s)) ∧
    (∀ t sessionId relayAddr s, NewHolds .host s (neonHostNew rt t sessionId relayAddr s)) ∧
    ∀ t p s,
      (neonClientFree rt t p s).2.heap =
          (if p ≠ 0 ∧ (getJniEnv rt t s).1.isSome then s.heap.release .client p else s.heap) ∧
        (neonHostFree rt t p s).2.heap =
          if p ≠ 0 ∧ (getJniEnv rt t s).1.isSome then s.heap.release .host p else s.heap :=
  ⟨runCalls_refsOk hg,
    fun t name s => NewOutcome.holds hg .client (neonClientNew_outcome rt t name s),
    fun t sid addr s => NewOutcome.holds hg .host (neonHostNew_outcome rt t sid addr s),
    fun t p s => ⟨neonClientFree_heap rt t p s, neonHostFree_heap rt t p s⟩⟩

theorem handle_refs_discipline_cooperative :
    (∀ tr, Runtime.cooperative.newGlobalRef tr = true) ∧
      RefsOk (runCalls .cooperative
        [(0, .clientNew ⟨[110], by decide⟩), (1, .hostNew 7 ⟨[97, 58, 49], by decide⟩),
          (0, .clientFree 6)] { jvm := some 1 }).heap :=
  ⟨fun _ => rfl,
    (handle_refs_discipline .cooperative fun _ => rfl).1 _ _ (RefsOk.unloaded _) (by decide)⟩

/-- A runtime whose `NewGlobalRef` always returns `NULL`, as it does when out of memory. -/
def Runtime.noGlobalRefs : Runtime := { Runtime.cooperative with newGlobalRef := fun _ => false }

theorem handle_refs_counterexample :
    (neonClientNew .noGlobalRefs 0 ⟨[110], by decide⟩ { jvm := some 1 }).1 = 6 ∧
      (neonClientNew .noGlobalRefs 0 ⟨[110], by decide⟩ { jvm := some 1 }).2.javaObject .client 6 =
        none ∧
    (neonClientFree .cooperative 0 1 .unloadedClient).2.clients 1 = St.unloadedClient.clients 1 ∧
      (neonClientFree .cooperative 0 1 .unloadedClient).2.globals = [⟨0, .inst 0⟩] := by
  decide

end ProjectNeon
