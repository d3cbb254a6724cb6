import ProjectNeon.Heap

/-!
# What the handle operations do to the heap

The two constructors, the two `free`s and the callback setters are the only calls that write the
heap (`Call.exec_heap` covers the others).  Here each of them is described once, on the heap alone:

* a constructor returns `NULL` with the heap as it was, or a new block of its kind, all callbacks
  `NULL`, at an address `malloc` may return, holding what `NewGlobalRef` answered for the object
  the call constructed (`NewOutcome`; `neonClientNew_outcome`, `neonHostNew_outcome`);
* `free` deletes the block's global reference and frees the block once `get_jni_env` binds the
  thread, and does nothing otherwise (`neonClientFree_heap`, `neonHostFree_heap`);
* a setter stores its pointer into one field of one block under the same condition
  (`neonClientSetCallback_heap`, `neonHostSetCallback_heap`).

The proofs follow the code path by path and never look inside the runtime's answers.
-/

namespace ProjectNeon

open NeonClientJNI NeonHostJNI

namespace Heap

/-- `malloc` may return `q`: it is not `NULL` and no live block is there. -/
def Vacant (h : Heap) (q : Nat) : Prop := q ≠ 0 ∧ h.clients q = none ∧ h.hosts q = none

/-- A new client block at `q`, every callback `NULL`, holding `NewGlobalRef`'s answer `g`. -/
def createClient (h : Heap) (q : Nat) (g : Option Ref) : Heap :=
  (h.addGlobal g).setClient q (some ⟨g, 0, 0, 0, 0, 0⟩)

/-- A new host block at `q`, every callback `NULL`, holding `NewGlobalRef`'s answer `g`. -/
def createHost (h : Heap) (q : Nat) (g : Option Ref) : Heap :=
  (h.addGlobal g).setHost q (some ⟨g, 0, 0, 0, 0⟩)

/-- `DeleteGlobalRef(handle->javaObject); free(handle)` for the block of kind `k` at `p`. -/
def release (h : Heap) (k : Kind) (p : Nat) : Heap :=
  ((h.eraseGlobal (h.javaObject k p)).setClient p none).setHost p none

/-- `handle-><e>Callback = f` on the client block at `p`, if there is one. -/
def setClientCallback (h : Heap) (p : Nat) (e : ClientEvent) (f : Nat) : Heap :=
  h.setClient p ((h.clients p).map (·.setCallback e f))

/-- `handle-><e>Callback = f` on the host block at `p`, if there is one. -/
def setHostCallback (h : Heap) (p : Nat) (e : HostEvent) (f : Nat) : Heap :=
  h.setHost p ((h.hosts p).map (·.setCallback e f))

/-- What `NewGlobalRef` may answer for the object a constructor made: a reference in the next free
slot to an instance no earlier than `n0`, or `NULL`, which only a refusing runtime gives. -/
def FreshRef (rt : Runtime) (h : Heap) (n0 : Nat) (g : Option Ref) : Prop :=
  (∀ x ∈ g, x.slot = h.nextGlobal ∧ ∃ n, n0 ≤ n ∧ x.obj = .inst n) ∧
    (g = none → ∃ tr, rt.newGlobalRef tr = false)

/-- The constructor of kind `k`. -/
def create : Kind → Heap → Nat → Option Ref → Heap
  | .client => createClient
  | .host => createHost

/-- A block of kind `k` is live at `p`. -/
def Live (h : Heap) : Kind → Nat → Prop
  | .client, p => h.clients p ≠ none
  | .host, p => h.hosts p ≠ none

/-! What each operation does to the blocks and references. -/

section Effects

variable (h : Heap) (k k₀ : Kind) (p q : Nat)

theorem live_of_javaObject {g : Ref} (hg : h.javaObject k p = some g) : h.Live k p := by
  cases k <;> intro h0 <;> simp [javaObject, h0] at hg

@[simp] theorem addGlobal_clients (g : Option Ref) : (h.addGlobal g).clients = h.clients := by
  cases g <;> rfl

@[simp] theorem addGlobal_hosts (g : Option Ref) : (h.addGlobal g).hosts = h.hosts := by
  cases g <;> rfl

@[simp] theorem eraseGlobal_clients (g : Option Ref) : (h.eraseGlobal g).clients = h.clients := by
  cases g <;> rfl

@[simp] theorem eraseGlobal_hosts (g : Option Ref) : (h.eraseGlobal g).hosts = h.hosts := by
  cases g <;> rfl

theorem javaObject_create (g : Option Ref) :
    (h.create k₀ q g).javaObject k p = if k = k₀ ∧ p = q then g else h.javaObject k p := by
  cases k₀ <;> cases k <;> by_cases hp : p = q <;>
    simp [create, createClient, createHost, javaObject, setClient, setHost, hp]

theorem live_create (g : Option Ref) :
    (h.create k₀ q g).Live k p ↔ (k = k₀ ∧ p = q) ∨ h.Live k p := by
  cases k₀ <;> cases k <;> by_cases hp : p = q <;>
    simp [create, createClient, createHost, Live, setClient, setHost, hp]

@[simp] theorem create_globals (x : Ref) : (h.create k₀ q (some x)).globals = x :: h.globals := by
  cases k₀ <;> rfl

@[simp] theorem create_nextGlobal (x : Ref) :
    (h.create k₀ q (some x)).nextGlobal = h.nextGlobal + 1 := by
  cases k₀ <;> rfl

@[simp] theorem create_neonClientClass (g : Option Ref) :
    (h.create k₀ q g).neonClientClass = h.neonClientClass := by
  cases k₀ <;> cases g <;> rfl

@[simp] theorem create_neonHostClass (g : Option Ref) :
    (h.create k₀ q g).neonHostClass = h.neonHostClass := by
  cases k₀ <;> cases g <;> rfl

theorem create_clients (g : Option Ref) :
    (h.create k₀ q g).clients p =
      if k₀ = .client ∧ p = q then some ⟨g, 0, 0, 0, 0, 0⟩ else h.clients p := by
  cases k₀ <;> simp [create, createClient, createHost, setClient, setHost]

theorem create_hosts (g : Option Ref) :
    (h.create k₀ q g).hosts p = if k₀ = .host ∧ p = q then some ⟨g, 0, 0, 0, 0⟩ else h.hosts p := by
  cases k₀ <;> simp [create, createClient, createHost, setClient, setHost]

@[simp] theorem create_jvm (g : Option Ref) : (h.create k₀ q g).jvm = h.jvm := by
  cases k₀ <;> cases g <;> rfl

@[simp] theorem release_jvm : (h.release k₀ p).jvm = h.jvm := by
  simp only [release, setHost, setClient]
  cases h.javaObject k₀ p <;> rfl

theorem javaObject_release :
    (h.release k₀ p).javaObject k q = if q = p then none else h.javaObject k q := by
  cases k <;> by_cases hq : q = p <;> simp [release, javaObject, setClient, setHost, hq]

theorem live_release : (h.release k₀ p).Live k q ↔ q ≠ p ∧ h.Live k q := by
  cases k <;> by_cases hq : q = p <;> simp [release, Live, setClient, setHost, hq]

@[simp] theorem release_clients : (h.release k₀ p).clients q = if q = p then none else h.clients q := by
  simp [release, setClient, setHost]

@[simp] theorem release_hosts : (h.release k₀ p).hosts q = if q = p then none else h.hosts q := by
  simp [release, setClient, setHost]

theorem release_globals :
    (h.release k₀ p).globals =
      match h.javaObject k₀ p with
      | some g => h.globals.erase g
      | none => h.globals := by
  simp only [release, setHost, setClient]
  cases h.javaObject k₀ p <;> rfl

@[simp] theorem release_nextGlobal : (h.release k₀ p).nextGlobal = h.nextGlobal := by
  simp only [release, setHost, setClient]
  cases h.javaObject k₀ p <;> rfl

@[simp] theorem release_neonClientClass : (h.release k₀ p).neonClientClass = h.neonClientClass := by
  simp only [release, setHost, setClient]
  cases h.javaObject k₀ p <;> rfl

@[simp] theorem release_neonHostClass : (h.release k₀ p).neonHostClass = h.neonHostClass := by
  simp only [release, setHost, setClient]
  cases h.javaObject k₀ p <;> rfl

variable (e : ClientEvent) (e' : HostEvent) (f : Nat)

@[simp] theorem setClientCallback_clients :
    (h.setClientCallback p e f).clients q =
      if q = p then (h.clients p).map (·.setCallback e f) else h.clients q := rfl

@[simp] theorem setHostCallback_hosts :
    (h.setHostCallback p e' f).hosts q =
      if q = p then (h.hosts p).map (·.setCallback e' f) else h.hosts q := rfl

@[simp] theorem setClientCallback_hosts : (h.setClientCallback p e f).hosts = h.hosts := rfl
@[simp] theorem setHostCallback_clients : (h.setHostCallback p e' f).clients = h.clients := rfl
@[simp] theorem setClientCallback_jvm : (h.setClientCallback p e f).jvm = h.jvm := rfl
@[simp] theorem setHostCallback_jvm : (h.setHostCallback p e' f).jvm = h.jvm := rfl

@[simp] theorem setClientCallback_javaObject :
    (h.setClientCallback p e f).javaObject k q = h.javaObject k q := by
  cases k <;> by_cases hq : q = p <;> simp [setClientCallback, javaObject, setClient, hq]
  cases h.clients p <;> simp

@[simp] theorem setHostCallback_javaObject :
    (h.setHostCallback p e' f).javaObject k q = h.javaObject k q := by
  cases k <;> by_cases hq : q = p <;> simp [setHostCallback, javaObject, setHost, hq]
  cases h.hosts p <;> simp

@[simp] theorem setClientCallback_live : (h.setClientCallback p e f).Live k q ↔ h.Live k q := by
  cases k <;> by_cases hq : q = p <;> simp [setClientCallback, Live, setClient, hq]

@[simp] theorem setHostCallback_live : (h.setHostCallback p e' f).Live k q ↔ h.Live k q := by
  cases k <;> by_cases hq : q = p <;> simp [setHostCallback, Live, setHost, hq]

end Effects

end Heap

theorem St.vacant_heap {s s' : St} {q : Nat} (h : q ≠ 0 ∧ s'.vacant q) (hs : s'.heap = s.heap) :
    s.heap.Vacant q := by
  rw [← hs]
  exact ⟨h.1, h.2⟩

/-- What a constructor can leave, from `s`: `NULL` and the heap as it was, or a block made by
`create` at a vacant address, holding a fresh reference to an object made by the call. -/
def NewOutcome (rt : Runtime) (create : Heap → Nat → Option Ref → Heap) (s : St) (r : Nat × St) :
    Prop :=
  (r.1 = 0 ∧ r.2.heap = s.heap) ∨
    ∃ g, s.heap.Vacant r.1 ∧ s.heap.FreshRef rt s.next g ∧ r.2.heap = create s.heap r.1 g

/-- An outcome seen from an earlier state with the same heap, and through later steps that keep the
result and the heap. -/
theorem NewOutcome.transport {rt : Runtime} {create : Heap → Nat → Option Ref → Heap}
    {s s₁ s' : St} {r : Nat × St} (hh : s₁.heap = s.heap) (hn : s.next ≤ s₁.next)
    (h₂ : s'.heap = r.2.heap) (h : NewOutcome rt create s₁ r) :
    NewOutcome rt create s (r.1, s') := by
  rcases h with ⟨h0, he⟩ | ⟨g, hv, ⟨hs, hg⟩, he⟩
  · exact .inl ⟨h0, h₂.trans (he.trans hh)⟩
  · rw [hh] at hv hs he
    refine .inr ⟨g, hv, ⟨fun x hx => ?_, hg⟩, h₂.trans he⟩
    obtain ⟨hslot, n, hle, hobj⟩ := hs x hx
    exact ⟨hslot, n, hn.trans hle, hobj⟩

section Constructors

variable (rt : Runtime) (t : Tid)

theorem NeonClientJNI.neonClientNew_outcome (name : Option Ref) (s : St) :
    NewOutcome rt Heap.createClient s (NeonClientJNI.neonClientNew rt ⟨t⟩ name s) := by
  cases name with
  | none => exact .inl ⟨rfl, rfl⟩
  | some name =>
  simp only [NeonClientJNI.neonClientNew, Jni.bind_assoc, getStringUTFChars_bind]
  split
  case isFalse => exact .inl ⟨rfl, by simp⟩
  simp only [Jni.pure_bind, readSt_bind, getMethodID_bind]
  split
  case isFalse => exact .inl ⟨rfl, by simp⟩
  simp only [Jni.pure_bind, newObject_bind]
  split
  case isFalse => exact .inl ⟨rfl, by simp⟩
  simp only [Jni.pure_bind, malloc_bind]
  split
  case isFalse => exact .inl ⟨rfl, by simp⟩
  case isTrue hm =>
  have hv : s.heap.Vacant _ := St.vacant_heap hm (by simp)
  simp only [if_neg hm.1, newGlobalRef_bind]
  split
  case isTrue =>
    refine .inr ⟨some ⟨s.nextGlobal, .inst s.next⟩, hv, ⟨by simp, by simp⟩, ?_⟩
    simp
    rfl
  case isFalse hg =>
    refine .inr ⟨none, hv, ⟨by simp, fun _ => ⟨_, Bool.eq_false_iff.mpr hg⟩⟩, ?_⟩
    simp
    rfl

theorem NeonHostJNI.neonHostNew_outcome (sessionId : JInt) (relayAddr : Option Ref) (s : St) :
    NewOutcome rt Heap.createHost s (NeonHostJNI.neonHostNew rt ⟨t⟩ sessionId relayAddr s) := by
  cases relayAddr with
  | none => exact .inl ⟨rfl, rfl⟩
  | some relayAddr =>
  simp only [NeonHostJNI.neonHostNew, Jni.bind_assoc, getStringUTFChars_bind]
  split
  case isFalse => exact .inl ⟨rfl, by simp⟩
  simp only [Jni.ite_apply]
  split
  case isTrue => exact .inl ⟨rfl, by simp⟩
  simp only [readSt_bind, getMethodID_bind]
  split
  case isFalse => exact .inl ⟨rfl, by simp⟩
  simp only [Jni.pure_bind, newStringUTF_bind]
  split
  case isFalse => exact .inl ⟨rfl, by simp⟩
  simp only [Jni.pure_bind, newObject_bind]
  split
  case isFalse => exact .inl ⟨rfl, by simp⟩
  simp only [deleteLocalRef_bind, releaseStringUTFChars_bind, malloc_bind]
  split
  case isFalse => exact .inl ⟨rfl, by simp⟩
  case isTrue hm =>
  have hv : s.heap.Vacant _ := St.vacant_heap hm (by simp)
  simp only [if_neg hm.1, newGlobalRef_bind]
  split
  case isTrue =>
    refine .inr ⟨some ⟨s.nextGlobal, .inst (s.next + 1)⟩, hv, ⟨by simp, by simp⟩, ?_⟩
    simp
    rfl
  case isFalse hg =>
    refine .inr ⟨none, hv, ⟨by simp, fun _ => ⟨_, Bool.eq_false_iff.mpr hg⟩⟩, ?_⟩
    simp
    rfl

theorem neonClientNew_outcome (name : CString) (s : St) :
    NewOutcome rt Heap.createClient s (neonClientNew rt t name s) := by
  obtain ⟨evs, -, h | ⟨msg, -, h⟩⟩ := getJniEnv_spec rt t s
  · simp only [neonClientNew, getJniEnv_bind, h, newStringUTF_bind]
    split
    case isFalse => exact .inl ⟨rfl, by simp⟩
    simp only [Jni.bind_apply (NeonClientJNI.neonClientNew _ _ _), deleteLocalRef_bind,
      Jni.pure_apply]
    exact (NeonClientJNI.neonClientNew_outcome rt t _ _).transport (by simp) (by simp)
      (by simp only [St.heap_log, St.heap_eraseLocal])
  · exact .inl ⟨by simp [neonClientNew, h], by simp [neonClientNew, h]⟩

theorem neonHostNew_outcome (sessionId : UInt32) (relayAddr : CString) (s : St) :
    NewOutcome rt Heap.createHost s (neonHostNew rt t sessionId relayAddr s) := by
  obtain ⟨evs, -, h | ⟨msg, -, h⟩⟩ := getJniEnv_spec rt t s
  · simp only [neonHostNew, getJniEnv_bind, h, newStringUTF_bind]
    split
    case isFalse => exact .inl ⟨rfl, by simp⟩
    simp only [Jni.bind_apply (NeonHostJNI.neonHostNew _ _ _ _), deleteLocalRef_bind, Jni.pure_apply]
    exact (NeonHostJNI.neonHostNew_outcome rt t _ _ _).transport (by simp) (by simp)
      (by simp only [St.heap_log, St.heap_eraseLocal])
  · exact .inl ⟨by simp [neonHostNew, h], by simp [neonHostNew, h]⟩

end Constructors

section Writers

variable (rt : Runtime) (t : Tid)

/-- A forwarding call whose JNI function, past its `NULL` check, has heap effect `E`: the effect
happens exactly when the handle is not `NULL` and `get_jni_env` binds the thread. -/
theorem forward_heap {α : Type} (nullError : Option String) (failure : α) (ptr : Nat)
    (f : JNIEnv → Jni α) (E : Heap → Heap) (hf : ptr ≠ 0 → ∀ s, (f ⟨t⟩ s).2.heap = E s.heap)
    (s : St) :
    (forward rt t nullError failure ptr f s).2.heap =
      if ptr ≠ 0 ∧ (getJniEnv rt t s).1.isSome then E s.heap else s.heap := by
  unfold forward
  by_cases hp : ptr = 0
  · cases nullError <;> simp [hp]
  · obtain ⟨evs, -, h | ⟨msg, -, h⟩⟩ := getJniEnv_spec rt t s <;> simp [hp, h, hf hp]

theorem freeHandle_heap (k : Kind) (ptr : Nat) (hp : ptr ≠ 0) (s : St) :
    (freeHandle rt ⟨t⟩ k ptr s).2.heap = s.heap.release k ptr := by
  simp only [freeHandle, hp, if_false, Jni.bind_assoc, readSt_bind, getMethodID_bind,
    callVoidMethod_bind, exceptionCheck_bind, Jni.ite_bind, Jni.ite_apply, exceptionClear_bind,
    Jni.pure_bind, deleteGlobalRef_bind, free_apply]
  split_ifs <;> simp [Heap.release]

theorem neonClientFree_heap (client : Nat) (s : St) :
    (neonClientFree rt t client s).2.heap =
      if client ≠ 0 ∧ (getJniEnv rt t s).1.isSome then s.heap.release .client client else s.heap :=
  forward_heap rt t _ _ client _ (·.release .client client) (freeHandle_heap rt t .client client) s

theorem neonHostFree_heap (host : Nat) (s : St) :
    (neonHostFree rt t host s).2.heap =
      if host ≠ 0 ∧ (getJniEnv rt t s).1.isSome then s.heap.release .host host else s.heap :=
  forward_heap rt t _ _ host _ (·.release .host host) (freeHandle_heap rt t .host host) s

theorem neonClientSetCallback_heap (e : ClientEvent) (client callback : Nat) (s : St) :
    (neonClientSetCallback rt t e client callback s).2.heap =
      if client ≠ 0 ∧ (getJniEnv rt t s).1.isSome then
        s.heap.setClientCallback client e callback
      else s.heap :=
  forward_heap rt t _ _ client _ (·.setClientCallback client e callback) (fun hp s => by
    simp [NeonClientJNI.neonClientSetCallback, hp, Heap.setClientCallback]) s

theorem neonHostSetCallback_heap (e : HostEvent) (host callback : Nat) (s : St) :
    (neonHostSetCallback rt t e host callback s).2.heap =
      if host ≠ 0 ∧ (getJniEnv rt t s).1.isSome then s.heap.setHostCallback host e callback
      else s.heap :=
  forward_heap rt t _ _ host _ (·.setHostCallback host e callback) (fun hp s => by
    simp [NeonHostJNI.neonHostSetCallback, hp, Heap.setHostCallback]) s

end Writers

/-- A client block at address `1` holding global reference `0`, in a process whose virtual machine
is not loaded. -/
def St.unloadedClient : St :=
  { clients := fun p => if p = 1 then some ⟨some ⟨0, .inst 0⟩, 0, 0, 0, 0, 0⟩ else none
    globals := [⟨0, .inst 0⟩]
    nextGlobal := 1 }

end ProjectNeon
