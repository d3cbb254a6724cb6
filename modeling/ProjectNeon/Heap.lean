import ProjectNeon.Run

/-!
# What the calls leave alone

Most of the C API only reads the library's heap: `g_jvm`, the class caches, the runtime's global
references and the client and host blocks.  Only the two constructors, the two `free`s and the nine
callback setters write it.

* `Call.exec_heap`: every other call returns with the heap exactly as it found it, from every
  state and under every behaviour of the runtime.
-/

namespace ProjectNeon

open NeonClientJNI NeonHostJNI

/-- The library's heap: what a call leaves behind for later calls on every thread.  The per-thread
parts of `St` (pending exceptions, local references, pins, error buffers), the supply of local slots
and the trace are not in it. -/
structure Heap where
  jvm : Option Nat
  neonClientClass : Option Ref
  neonHostClass : Option Ref
  globals : List Ref
  nextGlobal : Nat
  clients : Nat → Option ClientHandle
  hosts : Nat → Option HostHandle

/-- The heap of a state. -/
@[simps] def St.heap (s : St) : Heap :=
  ⟨s.jvm, s.neonClientClass, s.neonHostClass, s.globals, s.nextGlobal, s.clients, s.hosts⟩

/-! The updates of `St` that write the heap, on the heap alone. -/

namespace Heap

/-- `NewGlobalRef` answered `g`: a new reference is added, `NULL` adds nothing. -/
def addGlobal (h : Heap) : Option Ref → Heap
  | some g => { h with globals := g :: h.globals, nextGlobal := h.nextGlobal + 1 }
  | none => h

/-- `DeleteGlobalRef(g)`; `NULL` deletes nothing. -/
def eraseGlobal (h : Heap) : Option Ref → Heap
  | some g => { h with globals := h.globals.erase g }
  | none => h

/-- The client block at `p` becomes `o`. -/
def setClient (h : Heap) (p : Nat) (o : Option ClientHandle) : Heap :=
  { h with clients := fun q => if q = p then o else h.clients q }

/-- The host block at `p` becomes `o`. -/
def setHost (h : Heap) (p : Nat) (o : Option HostHandle) : Heap :=
  { h with hosts := fun q => if q = p then o else h.hosts q }

/-- `handle->javaObject` for the block of kind `k` at `p`, `NULL` when there is none. -/
def javaObject (h : Heap) : Kind → Nat → Option Ref
  | .client, p => (h.clients p).bind (·.javaObject)
  | .host, p => (h.hosts p).bind (·.javaObject)

end Heap

section Updates

variable (s : St) (t : Tid)

@[simp] theorem St.heap_log (q : Request) : (s.log t q).heap = s.heap := rfl
@[simp] theorem St.heap_setPending (b : Bool) : (s.setPending t b).heap = s.heap := rfl
@[simp] theorem St.heap_recordError (msg : String) (buf : Fin 512 → UInt8) :
    (s.recordError t msg buf).heap = s.heap := rfl
@[simp] theorem St.heap_pushLocal (r : Ref) : (s.pushLocal t r).heap = s.heap := rfl
@[simp] theorem St.heap_eraseLocal (r : Ref) : (s.eraseLocal t r).heap = s.heap := rfl
@[simp] theorem St.heap_pin (r : Ref) : (s.pin t r).heap = s.heap := rfl
@[simp] theorem St.heap_unpin (r : Ref) : (s.unpin t r).heap = s.heap := rfl
@[simp] theorem St.heap_bump : s.bump.heap = s.heap := rfl
@[simp] theorem St.heap_withTrace (tr : List Event) : ({ s with trace := tr } : St).heap = s.heap :=
  rfl
@[simp] theorem St.heap_addGlobal (o : Obj) :
    (s.addGlobal o).heap = s.heap.addGlobal (some ⟨s.nextGlobal, o⟩) := rfl
@[simp] theorem St.heap_eraseGlobal (g : Option Ref) :
    (s.eraseGlobal g).heap = s.heap.eraseGlobal g := by
  cases g <;> rfl
@[simp] theorem St.heap_setClient (p : Nat) (o : Option ClientHandle) :
    (s.setClient p o).heap = s.heap.setClient p o := rfl
@[simp] theorem St.heap_setHost (p : Nat) (o : Option HostHandle) :
    (s.setHost p o).heap = s.heap.setHost p o := rfl
@[simp] theorem St.heap_javaObject (k : Kind) (p : Nat) : s.heap.javaObject k p = s.javaObject k p := by
  cases k <;> rfl

end Updates

/-- `s'` has the heap of `s`. -/
def St.SameHeap (s s' : St) : Prop := s'.heap = s.heap

namespace St.SameHeap

variable {s s' s'' : St}

@[simp] theorem refl (s : St) : s.SameHeap s := rfl

theorem trans (h : s.SameHeap s') (h' : s'.SameHeap s'') : s.SameHeap s'' := Eq.trans h' h

/-! The requests of a call write no part of the heap. -/

variable (t : Tid)

@[simp] theorem log (q : Request) : s.SameHeap (s'.log t q) ↔ s.SameHeap s' := Iff.rfl
@[simp] theorem setPending (b : Bool) : s.SameHeap (s'.setPending t b) ↔ s.SameHeap s' := Iff.rfl
@[simp] theorem recordError (msg : String) (buf : Fin 512 → UInt8) :
    s.SameHeap (s'.recordError t msg buf) ↔ s.SameHeap s' := Iff.rfl
@[simp] theorem pushLocal (r : Ref) : s.SameHeap (s'.pushLocal t r) ↔ s.SameHeap s' := Iff.rfl
@[simp] theorem eraseLocal (r : Ref) : s.SameHeap (s'.eraseLocal t r) ↔ s.SameHeap s' := Iff.rfl
@[simp] theorem pin (r : Ref) : s.SameHeap (s'.pin t r) ↔ s.SameHeap s' := Iff.rfl
@[simp] theorem unpin (r : Ref) : s.SameHeap (s'.unpin t r) ↔ s.SameHeap s' := Iff.rfl
@[simp] theorem bump : s.SameHeap s'.bump ↔ s.SameHeap s' := Iff.rfl
@[simp] theorem withTrace (tr : List Event) : s.SameHeap { s' with trace := tr } ↔ s.SameHeap s' :=
  Iff.rfl

end St.SameHeap

/-- A computation that leaves the heap as it found it. -/
def KeepsHeap {α : Type} (m : Jni α) : Prop := ∀ s : St, s.SameHeap (m s).2

theorem KeepsHeap.sameHeap {α : Type} {m : Jni α} (hm : KeepsHeap m) {s s' : St}
    (h : s.SameHeap s') : s.SameHeap (m s').2 :=
  h.trans (hm s')

section Families

variable (rt : Runtime) (t : Tid)

theorem keepsHeap_intQuery (k : Kind) (invalid name notFound : String) (failure : JInt)
    (ptr : Nat) : KeepsHeap (intQuery rt ⟨t⟩ k invalid name notFound failure ptr) := by
  intro s
  simp only [intQuery, Jni.ite_apply, setError_bind, Jni.pure_apply, Jni.bind_assoc, readSt_bind,
    getMethodID_bind, callIntMethod_apply, apply_ite Prod.snd, apply_ite s.SameHeap,
    St.SameHeap.recordError, St.SameHeap.log, St.SameHeap.setPending, St.SameHeap.refl, ite_self]

theorem keepsHeap_checkedIntCall (k : Kind) (invalid name notFound exception : String)
    (ptr : Nat) : KeepsHeap (checkedIntCall rt ⟨t⟩ k invalid name notFound exception ptr) := by
  intro s
  simp only [checkedIntCall, Jni.ite_apply, setError_bind, Jni.pure_apply, Jni.bind_assoc,
    readSt_bind, getMethodID_bind, callIntMethod_bind, exceptionCheck_bind, exceptionDescribe_bind,
    exceptionClear_bind, apply_ite Prod.snd, apply_ite s.SameHeap, St.SameHeap.recordError,
    St.SameHeap.log, St.SameHeap.setPending, St.SameHeap.refl, ite_self]

theorem keepsHeap_checkedVoidCall (k : Kind) (invalid name notFound exception : String)
    (ptr : Nat) : KeepsHeap (checkedVoidCall rt ⟨t⟩ k invalid name notFound exception ptr) := by
  intro s
  simp only [checkedVoidCall, Jni.ite_apply, setError_bind, Jni.pure_apply, Jni.bind_assoc,
    readSt_bind, getMethodID_bind, callVoidMethod_bind, exceptionCheck_bind,
    exceptionDescribe_bind, exceptionClear_bind, apply_ite Prod.snd, apply_ite s.SameHeap,
    St.SameHeap.recordError, St.SameHeap.log, St.SameHeap.setPending, St.SameHeap.refl, ite_self]

theorem keepsHeap_neonClientIsConnected (ptr : Nat) :
    KeepsHeap (NeonClientJNI.neonClientIsConnected rt ⟨t⟩ ptr) := by
  intro s
  simp only [NeonClientJNI.neonClientIsConnected, Jni.ite_apply, Jni.pure_apply, Jni.bind_assoc,
    readSt_bind, getMethodID_bind, callBooleanMethod_apply, apply_ite Prod.snd,
    apply_ite s.SameHeap, St.SameHeap.log, St.SameHeap.setPending, St.SameHeap.refl, ite_self]

theorem keepsHeap_neonClientSetAutoPing (ptr : Nat) (enabled : Bool) :
    KeepsHeap (NeonClientJNI.neonClientSetAutoPing rt ⟨t⟩ ptr enabled) := by
  intro s
  simp only [NeonClientJNI.neonClientSetAutoPing, Jni.ite_apply, setError_apply, Jni.bind_assoc,
    readSt_bind, getMethodID_bind, callVoidMethod_apply, apply_ite Prod.snd, apply_ite s.SameHeap,
    St.SameHeap.recordError, St.SameHeap.log, St.SameHeap.setPending, St.SameHeap.refl, ite_self]

theorem keepsHeap_jniNeonClientConnect (ptr : Nat) (sessionId : JInt) (relayAddr : Ref) :
    KeepsHeap (NeonClientJNI.neonClientConnect rt ⟨t⟩ ptr sessionId relayAddr) := by
  intro s
  simp only [NeonClientJNI.neonClientConnect, Jni.bind_assoc, Jni.pure_bind, readSt_bind,
    getStringUTFChars_bind, Jni.ite_apply, getMethodID_bind, newStringUTF_bind,
    callVoidMethod_bind, deleteLocalRef_bind, releaseStringUTFChars_bind, exceptionCheck_bind,
    exceptionDescribe_bind, exceptionClear_bind, setError_bind, setError_apply, Jni.pure_apply,
    apply_ite Prod.snd, apply_ite s.SameHeap, St.SameHeap.recordError, St.SameHeap.log,
    St.SameHeap.pin, St.SameHeap.unpin, St.SameHeap.setPending, St.SameHeap.pushLocal,
    St.SameHeap.bump, St.SameHeap.eraseLocal, St.SameHeap.refl, ite_self]

end Families

section Api

variable (rt : Runtime) (t : Tid)

theorem KeepsHeap.forward {α : Type} (nullError : Option String) (failure : α) (ptr : Nat)
    {f : JNIEnv → Jni α} (hf : KeepsHeap (f ⟨t⟩)) :
    KeepsHeap (forward rt t nullError failure ptr f) := by
  intro s
  unfold ProjectNeon.forward
  split
  · cases nullError <;> simp only [setError_bind, Jni.pure_apply, Jni.pure_bind,
      St.SameHeap.recordError, St.SameHeap.refl]
  · obtain ⟨evs, -, h | ⟨msg, -, h⟩⟩ := getJniEnv_spec rt t s <;>
      simp only [getJniEnv_bind, h, Jni.pure_apply, St.SameHeap.recordError, St.SameHeap.withTrace,
        St.SameHeap.refl]
    exact ((St.SameHeap.withTrace ..).2 (.refl s)).trans (hf _)

theorem keepsHeap_neonClientConnect (client : Nat) (sessionId : UInt32) (relayAddr : CString) :
    KeepsHeap (neonClientConnect rt t client sessionId relayAddr) := by
  refine KeepsHeap.forward rt t _ _ _ fun s => ?_
  simp only [newStringUTF_bind, Jni.ite_apply, setError_bind, Jni.pure_apply]
  simp only [Jni.bind_apply (NeonClientJNI.neonClientConnect _ _ _ _ _), deleteLocalRef_bind,
    Jni.pure_apply, apply_ite Prod.snd, apply_ite s.SameHeap, St.SameHeap.recordError,
    St.SameHeap.log, St.SameHeap.setPending, St.SameHeap.pushLocal, St.SameHeap.bump,
    St.SameHeap.eraseLocal, St.SameHeap.refl, ite_self,
    (keepsHeap_jniNeonClientConnect rt t _ _ _).sameHeap]

theorem keepsHeap_neonGetLastError : KeepsHeap (neonGetLastError t) := by
  intro s
  simp only [neonGetLastError, readSt_bind, Jni.ite_apply, Jni.pure_apply, apply_ite Prod.snd,
    St.SameHeap.refl, ite_self]

/-- The calls that neither create, free nor write a handle. -/
def Call.readsHeap : Call → Bool
  | .clientNew .. | .clientSetCallback .. | .clientFree .. => false
  | .hostNew .. | .hostSetCallback .. | .hostFree .. => false
  | _ => true

/-- The calls that only read the heap leave it as they found it. -/
theorem Call.exec_heap (c : Call) (hc : c.readsHeap) (s : St) :
    s.SameHeap (c.exec rt t s).2 := by
  have map_keeps {α : Type} {m : Jni α} (g : α → Ret) (h : KeepsHeap m) :
      KeepsHeap (do return g (← m)) := fun s => h s
  cases c with
  | clientConnect c sid addr => exact map_keeps _ (keepsHeap_neonClientConnect rt t c sid addr) s
  | clientProcessPackets c =>
    exact map_keeps _ (KeepsHeap.forward rt t _ _ c (keepsHeap_checkedIntCall rt t _ _ _ _ _ c)) s
  | clientGetId c =>
    exact map_keeps _ (KeepsHeap.forward rt t _ _ c fun s => keepsHeap_intQuery rt t _ _ _ _ _ c s) s
  | clientGetSessionId c =>
    exact map_keeps _ (KeepsHeap.forward rt t _ _ c fun s => keepsHeap_intQuery rt t _ _ _ _ _ c s) s
  | clientIsConnected c =>
    exact map_keeps _ (KeepsHeap.forward rt t _ _ c (keepsHeap_neonClientIsConnected rt t c)) s
  | clientSendPing c =>
    exact map_keeps _ (KeepsHeap.forward rt t _ _ c (keepsHeap_checkedVoidCall rt t _ _ _ _ _ c)) s
  | clientSetAutoPing c en =>
    exact map_keeps _ (KeepsHeap.forward rt t _ _ c (keepsHeap_neonClientSetAutoPing rt t c en)) s
  | hostStart h =>
    exact map_keeps _ (KeepsHeap.forward rt t _ _ h (keepsHeap_checkedVoidCall rt t _ _ _ _ _ h)) s
  | hostProcessPackets h =>
    exact map_keeps _ (KeepsHeap.forward rt t _ _ h (keepsHeap_checkedIntCall rt t _ _ _ _ _ h)) s
  | hostGetSessionId h =>
    exact map_keeps _ (KeepsHeap.forward rt t _ _ h fun s => keepsHeap_intQuery rt t _ _ _ _ _ h s) s
  | hostGetClientCount h =>
    exact map_keeps _ (KeepsHeap.forward rt t _ _ h fun s => keepsHeap_intQuery rt t _ _ _ _ _ h s) s
  | getLastError => exact map_keeps _ (keepsHeap_neonGetLastError t) s
  | _ => simp [Call.readsHeap] at hc

end Api

end ProjectNeon
