import ProjectNeon.Callbacks
import ProjectNeon.GlobalRefs
import ProjectNeon.Loading

/-!
# The life cycle of the library

`JNI_OnLoad` caches the two classes behind global references, the C API creates and frees handles,
and `JNI_OnUnload` deletes the cached references and clears `g_jvm`.  `LifeOk` is the discipline of
`RefsOk` together with "no class is cached while no virtual machine is loaded".  It holds of a fresh
process, and every action that the virtual machine and a well-behaved program take keeps it:

* `RefsOk.cacheClient`, `RefsOk.cacheHost`, `RefsOk.dropClasses`: caching a class in a fresh global
  reference, and deleting both cached references, keep `RefsOk`;
* `jniOnLoad_lifeOk`, `jniOnUnload_lifeOk`, `Call.exec_lifeOk`: each action keeps `LifeOk` when it is
  `Action.allowed`: `JNI_OnLoad` on a library that is not loaded, `JNI_OnUnload` on a thread that
  `GetEnv` finds attached, a `free` given `NULL` or a live handle of its kind;
* `lifecycle_refs`: hence along any run of such actions.
-/

namespace ProjectNeon

/-! ## Caching and deleting the classes -/

namespace Heap

/-- `g_jvm = vm`. -/
@[simps] def setJvm (h : Heap) (vm : Option Nat) : Heap := { h with jvm := vm }

/-- `g_neonClientClass = c`. -/
@[simps] def setClientClass (h : Heap) (c : Option Ref) : Heap := { h with neonClientClass := c }

/-- `g_neonHostClass = c`. -/
@[simps] def setHostClass (h : Heap) (c : Option Ref) : Heap := { h with neonHostClass := c }

/-- What `JNI_OnUnload` does to the heap once it has an environment: each cached reference deleted
and its cache cleared. -/
def dropClasses (h : Heap) : Heap :=
  { h with globals := ((h.eraseGlobal h.neonClientClass).eraseGlobal h.neonHostClass).globals,
           neonClientClass := none, neonHostClass := none }

@[simp] theorem setJvm_javaObject (h : Heap) (vm : Option Nat) (k : Kind) (p : Nat) :
    (h.setJvm vm).javaObject k p = h.javaObject k p := by cases k <;> rfl
@[simp] theorem setClientClass_javaObject (h : Heap) (c : Option Ref) (k : Kind) (p : Nat) :
    (h.setClientClass c).javaObject k p = h.javaObject k p := by cases k <;> rfl
@[simp] theorem setHostClass_javaObject (h : Heap) (c : Option Ref) (k : Kind) (p : Nat) :
    (h.setHostClass c).javaObject k p = h.javaObject k p := by cases k <;> rfl
@[simp] theorem addGlobal_javaObject (h : Heap) (g : Option Ref) (k : Kind) (p : Nat) :
    (h.addGlobal g).javaObject k p = h.javaObject k p := by cases g <;> cases k <;> rfl
@[simp] theorem eraseGlobal_nextGlobal (h : Heap) (g : Option Ref) :
    (h.eraseGlobal g).nextGlobal = h.nextGlobal := by cases g <;> rfl
@[simp] theorem eraseGlobal_javaObject (h : Heap) (g : Option Ref) (k : Kind) (p : Nat) :
    (h.eraseGlobal g).javaObject k p = h.javaObject k p := by cases g <;> cases k <;> rfl

end Heap

section Updates

variable (s : St)

@[simp] theorem St.heap_setJvm (vm : Option Nat) : (s.setJvm vm).heap = s.heap.setJvm vm := rfl
@[simp] theorem St.heap_setNeonClientClass (c : Option Ref) :
    (s.setNeonClientClass c).heap = s.heap.setClientClass c := rfl
@[simp] theorem St.heap_setNeonHostClass (c : Option Ref) :
    (s.setNeonHostClass c).heap = s.heap.setHostClass c := rfl

end Updates

namespace RefsOk

variable {h : Heap}

theorem cacheClient (hr : RefsOk h) (hc : h.neonClientClass = none) {x : Ref}
    (hx : x.slot = h.nextGlobal) : RefsOk ((h.addGlobal (some x)).setClientClass (some x)) := by
  have hnew : x ∉ h.globals := fun hm => by
    have := hr.fresh x hm
    omega
  have hj : ∀ k p, ((h.addGlobal (some x)).setClientClass (some x)).javaObject k p =
      h.javaObject k p := by simp
  refine ⟨?nodup, ?fresh, ?clientClass, ?hostClass, ?classes, ?held, ?owned, ?distinct, ?apart,
    ?oneBlock⟩
  case nodup => exact List.nodup_cons.2 ⟨hnew, hr.nodup⟩
  case fresh =>
    show ∀ g ∈ x :: h.globals, g.slot < h.nextGlobal + 1
    simp only [List.mem_cons, forall_eq_or_imp]
    exact ⟨by omega, fun g hg => by have := hr.fresh g hg; omega⟩
  case clientClass =>
    show ∀ c ∈ some x, c ∈ x :: h.globals
    rintro c ⟨⟩
    exact List.mem_cons_self _ _
  case hostClass => exact fun c hc' => List.mem_cons_of_mem x (hr.hostClass c hc')
  case classes =>
    show ∀ c ∈ some x, c ∉ h.neonHostClass
    rintro c ⟨⟩ hc'
    exact hnew (hr.hostClass _ hc')
  case held =>
    intro k p hl
    obtain ⟨g, hg, hm⟩ := hr.held k p (by cases k <;> exact hl)
    exact ⟨g, (hj k p).trans hg, List.mem_cons_of_mem x hm⟩
  case owned =>
    show ∀ g ∈ x :: h.globals, g ∈ some x ∨ g ∈ h.neonHostClass ∨ ∃ k p,
      ((h.addGlobal (some x)).setClientClass (some x)).javaObject k p = some g
    intro g hg
    rcases List.mem_cons.1 hg with rfl | hg
    · exact .inl rfl
    · rcases hr.owned g hg with hc' | hc' | ⟨k, p, hkp⟩
      · simp [hc] at hc'
      · exact .inr (.inl hc')
      · exact .inr (.inr ⟨k, p, (hj k p).trans hkp⟩)
  case distinct =>
    intro k p k' p' g h₁ h₂
    exact hr.distinct k p k' p' g ((hj k p).symm.trans h₁) ((hj k' p').symm.trans h₂)
  case apart =>
    intro k p g hg
    rw [hj] at hg
    refine ⟨?_, (hr.apart k p g hg).2⟩
    rintro ⟨⟩
    exact hr.javaObject_ne_fresh k p hx hg
  case oneBlock => exact hr.oneBlock

theorem cacheHost (hr : RefsOk h) (hc : h.neonHostClass = none) {x : Ref}
    (hx : x.slot = h.nextGlobal) : RefsOk ((h.addGlobal (some x)).setHostClass (some x)) := by
  have hnew : x ∉ h.globals := fun hm => by
    have := hr.fresh x hm
    omega
  have hj : ∀ k p, ((h.addGlobal (some x)).setHostClass (some x)).javaObject k p =
      h.javaObject k p := by simp
  refine ⟨?nodup, ?fresh, ?clientClass, ?hostClass, ?classes, ?held, ?owned, ?distinct, ?apart,
    ?oneBlock⟩
  case nodup => exact List.nodup_cons.2 ⟨hnew, hr.nodup⟩
  case fresh =>
    show ∀ g ∈ x :: h.globals, g.slot < h.nextGlobal + 1
    simp only [List.mem_cons, forall_eq_or_imp]
    exact ⟨by omega, fun g hg => by have := hr.fresh g hg; omega⟩
  case clientClass => exact fun c hc' => List.mem_cons_of_mem x (hr.clientClass c hc')
  case hostClass =>
    show ∀ c ∈ some x, c ∈ x :: h.globals
    rintro c ⟨⟩
    exact List.mem_cons_self _ _
  case classes =>
    show ∀ c ∈ h.neonClientClass, c ∉ some x
    rintro c hc' ⟨⟩
    exact hnew (hr.clientClass _ hc')
  case held =>
    intro k p hl
    obtain ⟨g, hg, hm⟩ := hr.held k p (by cases k <;> exact hl)
    exact ⟨g, (hj k p).trans hg, List.mem_cons_of_mem x hm⟩
  case owned =>
    show ∀ g ∈ x :: h.globals, g ∈ h.neonClientClass ∨ g ∈ some x ∨ ∃ k p,
      ((h.addGlobal (some x)).setHostClass (some x)).javaObject k p = some g
    intro g hg
    rcases List.mem_cons.1 hg with rfl | hg
    · exact .inr (.inl rfl)
    · rcases hr.owned g hg with hc' | hc' | ⟨k, p, hkp⟩
      · exact .inl hc'
      · simp [hc] at hc'
      · exact .inr (.inr ⟨k, p, (hj k p).trans hkp⟩)
  case distinct =>
    intro k p k' p' g h₁ h₂
    exact hr.distinct k p k' p' g ((hj k p).symm.trans h₁) ((hj k' p').symm.trans h₂)
  case apart =>
    intro k p g hg
    rw [hj] at hg
    refine ⟨(hr.apart k p g hg).1, ?_⟩
    rintro ⟨⟩
    exact hr.javaObject_ne_fresh k p hx hg
  case oneBlock => exact hr.oneBlock

theorem setJvm (hr : RefsOk h) (vm : Option Nat) : RefsOk (h.setJvm vm) :=
  ⟨hr.nodup, hr.fresh, hr.clientClass, hr.hostClass, hr.classes, hr.held, hr.owned, hr.distinct,
    hr.apart, hr.oneBlock⟩

/-- A `NewGlobalRef` that failed caches `NULL` where there was `NULL`. -/
theorem setClientClass_none (hr : RefsOk h) (hc : h.neonClientClass = none) :
    RefsOk (h.setClientClass none) := by
  have : h.setClientClass none = h := by cases h; simp_all [Heap.setClientClass]
  rwa [this]

theorem setHostClass_none (hr : RefsOk h) (hc : h.neonHostClass = none) :
    RefsOk (h.setHostClass none) := by
  have : h.setHostClass none = h := by cases h; simp_all [Heap.setHostClass]
  rwa [this]

/-- The references left once both cached ones are deleted. -/
theorem mem_dropClasses (hr : RefsOk h) (x : Ref) :
    x ∈ h.dropClasses.globals ↔ x ∈ h.globals ∧ x ∉ h.neonClientClass ∧ x ∉ h.neonHostClass := by
  show x ∈ ((h.eraseGlobal h.neonClientClass).eraseGlobal h.neonHostClass).globals ↔ _
  rcases h.neonClientClass with _ | c <;> rcases h.neonHostClass with _ | c' <;>
    simp only [Heap.eraseGlobal, Option.mem_def, reduceCtorEq, not_false_eq_true, and_true,
      true_and, Option.some.injEq]
  · rw [hr.nodup.mem_erase_iff, ne_comm, and_comm]
  · rw [hr.nodup.mem_erase_iff, ne_comm, and_comm]
  · rw [(hr.nodup.erase c).mem_erase_iff, hr.nodup.mem_erase_iff]
    tauto

/-- `JNI_OnUnload` with an environment keeps the discipline: both cached references deleted, both
caches cleared. -/
theorem dropClasses (hr : RefsOk h) (vm : Option Nat) : RefsOk (h.dropClasses.setJvm vm) := by
  have hm := hr.mem_dropClasses
  refine ⟨?nodup, ?fresh, ?clientClass, ?hostClass, ?classes, ?held, ?owned, ?distinct, ?apart,
    ?oneBlock⟩
  case nodup =>
    show ((h.eraseGlobal h.neonClientClass).eraseGlobal h.neonHostClass).globals.Nodup
    rcases h.neonClientClass with _ | c <;> rcases h.neonHostClass with _ | c' <;>
      simp only [Heap.eraseGlobal]
    exacts [hr.nodup, hr.nodup.erase _, hr.nodup.erase _, (hr.nodup.erase _).erase _]
  case fresh => exact fun x hx => by simpa using hr.fresh x ((hm x).1 hx).1
  case clientClass => exact fun c hc => nomatch hc
  case hostClass => exact fun c hc => nomatch hc
  case classes => exact fun c hc => nomatch hc
  case held =>
    intro k p hl
    obtain ⟨g, hg, hmem⟩ := hr.held k p (by cases k <;> simpa [Heap.Live] using hl)
    exact ⟨g, by simpa using hg, (hm g).2 ⟨hmem, hr.apart k p g hg⟩⟩
  case owned =>
    intro g hg
    obtain ⟨hg, hc, hh⟩ := (hm g).1 hg
    rcases hr.owned g hg with hc' | hh' | ⟨k, p, hkp⟩
    · exact absurd hc' hc
    · exact absurd hh' hh
    · exact .inr (.inr ⟨k, p, by simpa using hkp⟩)
  case distinct =>
    intro k p k' p' g h₁ h₂
    exact hr.distinct k p k' p' g (by simpa using h₁) (by simpa using h₂)
  case apart => exact fun _ _ _ _ => ⟨(fun hc => nomatch hc), fun hc => nomatch hc⟩
  case oneBlock => exact fun p => by simpa using hr.oneBlock p

end RefsOk

/-! ## The two hooks -/

section Hooks

variable (rt : Runtime) (t : Tid) (s : St)

/-- `JNI_OnUnload` on a thread `GetEnv` finds attached deletes both cached references, clears both
caches and `g_jvm`, and touches nothing else of the heap. -/
theorem jniOnUnload_heap (he : rt.getEnv (s.log t .getEnv).trace = JNI_OK) :
    (jniOnUnload rt t s).2.heap = s.heap.dropClasses.setJvm none := by
  simp only [jniOnUnload, getEnv_bind, he, ↓reduceIte, Jni.bind_assoc, readSt_bind,
    St.log_neonClientClass]
  rcases hc : s.neonClientClass with _ | c <;> rcases hh : s.neonHostClass with _ | c' <;>
    simp [Heap.dropClasses, hc, hh, Heap.eraseGlobal, Heap.setJvm, Heap.setClientClass,
      Heap.setHostClass, St.heap, funext_iff]

theorem jniOnLoad_refsOk (vm : Nat) (hr : RefsOk s.heap) (hc : s.neonClientClass = none)
    (hh : s.neonHostClass = none) : RefsOk (jniOnLoad rt vm t s).2.heap := by
  simp only [jniOnLoad, modifySt_bind, Jni.bind_assoc, getEnv_bind, Jni.ite_apply, findClass_bind,
    newGlobalRef_bind, deleteLocalRef_bind, Jni.pure_apply, Jni.pure_bind]
  have h0 := hr.setJvm (some vm)
  have hc0 : (s.heap.setJvm (some vm)).neonClientClass = none := hc
  have hh0 : (s.heap.setJvm (some vm)).neonHostClass = none := hh
  split_ifs <;> clear * - h0 hc0 hh0 <;>
    simp only [St.heap_log, St.heap_setJvm, St.heap_pushLocal, St.heap_bump,
      St.heap_setPending, St.heap_addGlobal, St.heap_setNeonClientClass, St.heap_eraseLocal,
      St.heap_setNeonHostClass, St.log_nextGlobal, St.pushLocal_nextGlobal, St.bump_nextGlobal,
      St.setJvm_nextGlobal, St.eraseLocal_nextGlobal, St.addGlobal_nextGlobal,
      St.setNeonClientClass_nextGlobal, St.setPending_nextGlobal]
  · exact h0 -- `GetEnv` failed
  · exact (h0.cacheClient hc0 rfl).cacheHost hh0 rfl
  · exact (h0.cacheClient hc0 rfl).setHostClass_none hh0
  · exact h0.cacheClient hc0 rfl -- no `NeonHost` class
  · exact (h0.setClientClass_none hc0).cacheHost hh0 rfl
  · exact (h0.setClientClass_none hc0).setHostClass_none hh0
  · exact h0.setClientClass_none hc0 -- no `NeonHost` class
  · exact h0 -- no `NeonClient` class

/-- `JNI_OnLoad` leaves `g_jvm` pointing at the virtual machine on every path. -/
theorem jniOnLoad_jvm (vm : Nat) : (jniOnLoad rt vm t s).2.jvm = some vm := by
  simp only [jniOnLoad, modifySt_bind, Jni.bind_assoc, getEnv_bind, Jni.ite_apply, findClass_bind,
    newGlobalRef_bind, deleteLocalRef_bind, Jni.pure_apply, Jni.pure_bind, apply_ite Prod.snd,
    apply_ite St.jvm, St.log_jvm, St.setJvm_jvm, St.pushLocal_jvm, St.bump_jvm, St.addGlobal_jvm,
    St.setNeonClientClass_jvm, St.setNeonHostClass_jvm, St.eraseLocal_jvm, St.setPending_jvm,
    ite_self]

end Hooks

/-! ## Runs of actions -/

/-- The discipline of the global references, and no class cached while no virtual machine is
loaded. -/
structure LifeOk (s : St) : Prop where
  refs : RefsOk s.heap
  uncached : s.jvm = none → s.neonClientClass = none ∧ s.neonHostClass = none

/-- What the virtual machine and a well-behaved program guarantee of an action on thread `t`:
`JNI_OnLoad` only on a library that is not loaded, `JNI_OnUnload` only on a thread `GetEnv` finds
attached, a `free` only of `NULL` or a live handle of its kind. -/
def Action.allowed (rt : Runtime) (t : Tid) (s : St) : Action → Bool
  | .call c => c.freesLive s.heap
  | .load _ => s.jvm.isNone
  | .unload => rt.getEnv (s.log t .getEnv).trace == JNI_OK

/-- Every action of a run is allowed in the state it is taken from. -/
def allowedRun (rt : Runtime) : List (Tid × Action) → St → Bool
  | [], _ => true
  | (t, a) :: as, s => a.allowed rt t s && allowedRun rt as (a.exec rt t s).2

theorem lifeOk_initial : LifeOk ({} : St) := ⟨RefsOk.unloaded none, fun _ => ⟨rfl, rfl⟩⟩

section Steps

variable {rt : Runtime} (t : Tid) {s : St} (hs : LifeOk s)
include hs

theorem Call.exec_lifeOk (hg : ∀ tr, rt.newGlobalRef tr = true) (c : Call)
    (hc : c.freesLive s.heap) : LifeOk (c.exec rt t s).2 := by
  refine ⟨Call.exec_refsOk hg t c s hs.refs hc, fun hj => ?_⟩
  have hj0 : s.jvm = none := (Call.exec_jvm rt t c s).symm.trans hj
  have hf := (Call.exec_inert rt t c s hj0).frame
  exact ⟨(congrArg St.neonClientClass hf).trans (hs.uncached hj0).1,
    (congrArg St.neonHostClass hf).trans (hs.uncached hj0).2⟩

theorem jniOnLoad_lifeOk (vm : Nat) (hj : s.jvm = none) : LifeOk (jniOnLoad rt vm t s).2 :=
  ⟨jniOnLoad_refsOk rt t s vm hs.refs (hs.uncached hj).1 (hs.uncached hj).2,
    fun h => absurd ((jniOnLoad_jvm rt t s vm).symm.trans h) (Option.some_ne_none vm)⟩

theorem jniOnUnload_lifeOk (he : rt.getEnv (s.log t .getEnv).trace = JNI_OK) :
    LifeOk (jniOnUnload rt t s).2 := by
  have h := jniOnUnload_heap rt t s he
  exact ⟨h ▸ hs.refs.dropClasses none,
    fun _ => ⟨congrArg Heap.neonClientClass h, congrArg Heap.neonHostClass h⟩⟩

theorem Action.exec_lifeOk (hg : ∀ tr, rt.newGlobalRef tr = true) (a : Action)
    (ha : a.allowed rt t s) : LifeOk (a.exec rt t s).2 := by
  cases a with
  | call c => exact Call.exec_lifeOk t hs hg c ha
  | load vm => exact jniOnLoad_lifeOk t hs vm (by simpa [Action.allowed] using ha)
  | unload => exact jniOnUnload_lifeOk t hs (by simpa [Action.allowed] using ha)

end Steps

theorem runActions_lifeOk {rt : Runtime} (hg : ∀ tr, rt.newGlobalRef tr = true) :
    ∀ (run : List (Tid × Action)) (s : St), LifeOk s → allowedRun rt run s = true →
      LifeOk (runActions rt run s)
  | [], _, hs, _ => hs
  | (t, a) :: run, s, hs, ha => by
    simp only [allowedRun, Bool.and_eq_true] at ha
    exact runActions_lifeOk hg run _ (Action.exec_lifeOk t hs hg a ha.1) ha.2

/-- **The global references over the library's life cycle.**  Under a runtime whose
`NewGlobalRef` never fails, a fresh process keeps the discipline of `RefsOk` (the runtime's global
references are the cached classes and one distinct reference per live handle, none shared, none left
over) together with "no class cached while no virtual machine is loaded", and so does every run of
`JNI_OnLoad`, `JNI_OnUnload` and C API calls in which the virtual machine loads the library only
when it is not loaded, unloads it on a thread `GetEnv` attaches, and every `free` is given `NULL` or
a live handle of its kind. -/
theorem lifecycle_refs (rt : Runtime) (hg : ∀ tr, rt.newGlobalRef tr = true) :
    LifeOk ({} : St) ∧
      ∀ (run : List (Tid × Action)) (s : St), LifeOk s → allowedRun rt run s = true →
        LifeOk (runActions rt run s) :=
  ⟨lifeOk_initial, runActions_lifeOk hg⟩

theorem lifecycle_refs_load_new_unload :
    (∀ tr, Runtime.cooperative.newGlobalRef tr = true) ∧
    allowedRun .cooperative
      [(0, .load 1), (1, .call (.clientNew ⟨[110], by decide⟩)), (0, .unload)] {} = true ∧
    LifeOk (runActions .cooperative
      [(0, .load 1), (1, .call (.clientNew ⟨[110], by decide⟩)), (0, .unload)] {}) :=
  have h := lifecycle_refs .cooperative fun _ => rfl
  ⟨fun _ => rfl, by decide, h.2 _ _ h.1 (by decide)⟩

end ProjectNeon
