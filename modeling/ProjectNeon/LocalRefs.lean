import ProjectNeon.Run

/-!
# Local references and pinned strings

A native thread that calls the C API is attached to the virtual machine but is never inside a native
method frame, so nothing reclaims its local references for it: a reference that `NewStringUTF` or
`NewObject` returns stays live until `DeleteLocalRef`, and a `GetStringUTFChars` buffer stays pinned
until `ReleaseStringUTFChars`.

* `Call.exec_keeps_refs`: every call of the C API returns with the calling thread's live local
  references and pinned strings exactly as it found them, on every path, from every state and under
  every behaviour of the runtime.

Only the two constructors and `neon_client_connect` create references; each of them, and the JNI
functions they forward to, is shown balanced on its own.  The other functions create none.
-/

namespace ProjectNeon

open NeonClientJNI NeonHostJNI

/-- A computation leaves thread `t`'s local references and pinned strings as it found them. -/
def KeepsRefs {α : Type} (t : Tid) (m : Jni α) : Prop :=
  ∀ s, (m s).2.locals t = s.locals t ∧ (m s).2.pins t = s.pins t

section Families

variable (rt : Runtime) (t : Tid)

theorem keepsRefs_intQuery (k : Kind) (invalid name notFound : String) (failure : JInt)
    (ptr : Nat) : KeepsRefs t (intQuery rt ⟨t⟩ k invalid name notFound failure ptr) := by
  intro s
  simp only [intQuery, Jni.ite_apply, setError_bind, Jni.pure_apply, Jni.bind_assoc, readSt_bind,
    getMethodID_bind, callIntMethod_apply, apply_ite Prod.snd, apply_ite St.locals,
    apply_ite St.pins, ite_apply, St.recordError_locals, St.recordError_pins, St.log_locals,
    St.log_pins, St.setPending_locals, St.setPending_pins, ite_self, and_self]

theorem keepsRefs_checkedIntCall (k : Kind) (invalid name notFound exception : String)
    (ptr : Nat) : KeepsRefs t (checkedIntCall rt ⟨t⟩ k invalid name notFound exception ptr) := by
  intro s
  simp only [checkedIntCall, Jni.ite_apply, setError_bind, Jni.pure_apply, Jni.bind_assoc,
    readSt_bind, getMethodID_bind, callIntMethod_bind, exceptionCheck_bind, exceptionDescribe_bind,
    exceptionClear_bind, apply_ite Prod.snd, apply_ite St.locals, apply_ite St.pins, ite_apply,
    St.recordError_locals, St.recordError_pins, St.log_locals, St.log_pins, St.setPending_locals,
    St.setPending_pins, ite_self, and_self]

theorem keepsRefs_checkedVoidCall (k : Kind) (invalid name notFound exception : String)
    (ptr : Nat) : KeepsRefs t (checkedVoidCall rt ⟨t⟩ k invalid name notFound exception ptr) := by
  intro s
  simp only [checkedVoidCall, Jni.ite_apply, setError_bind, Jni.pure_apply, Jni.bind_assoc,
    readSt_bind, getMethodID_bind, callVoidMethod_bind, exceptionCheck_bind,
    exceptionDescribe_bind, exceptionClear_bind, apply_ite Prod.snd, apply_ite St.locals,
    apply_ite St.pins, ite_apply, St.recordError_locals, St.recordError_pins, St.log_locals,
    St.log_pins, St.setPending_locals, St.setPending_pins, ite_self, and_self]

theorem keepsRefs_freeHandle (k : Kind) (ptr : Nat) :
    KeepsRefs t (freeHandle rt ⟨t⟩ k ptr) := by
  intro s
  simp only [freeHandle, Jni.ite_apply, Jni.pure_apply, Jni.bind_assoc, readSt_bind,
    getMethodID_bind, callVoidMethod_bind, exceptionCheck_bind, Jni.ite_bind, exceptionClear_bind,
    Jni.pure_bind, deleteGlobalRef_bind, free_apply, apply_ite Prod.snd, apply_ite St.locals,
    apply_ite St.pins, ite_apply, St.log_locals, St.log_pins, St.setPending_locals,
    St.setPending_pins, St.eraseGlobal_locals, St.eraseGlobal_pins, St.setClient_locals,
    St.setClient_pins, St.setHost_locals, St.setHost_pins, ite_self, and_self]

theorem keepsRefs_neonClientIsConnected (ptr : Nat) :
    KeepsRefs t (NeonClientJNI.neonClientIsConnected rt ⟨t⟩ ptr) := by
  intro s
  simp only [NeonClientJNI.neonClientIsConnected, Jni.ite_apply, Jni.pure_apply, Jni.bind_assoc,
    readSt_bind, getMethodID_bind, callBooleanMethod_apply, apply_ite Prod.snd,
    apply_ite St.locals, apply_ite St.pins, ite_apply, St.log_locals, St.log_pins,
    St.setPending_locals, St.setPending_pins, ite_self, and_self]

theorem keepsRefs_neonClientSetAutoPing (ptr : Nat) (enabled : Bool) :
    KeepsRefs t (NeonClientJNI.neonClientSetAutoPing rt ⟨t⟩ ptr enabled) := by
  intro s
  simp only [NeonClientJNI.neonClientSetAutoPing, Jni.ite_apply, setError_apply, Jni.bind_assoc,
    readSt_bind, getMethodID_bind, callVoidMethod_apply, apply_ite Prod.snd, apply_ite St.locals,
    apply_ite St.pins, ite_apply, St.recordError_locals, St.recordError_pins, St.log_locals,
    St.log_pins, St.setPending_locals, St.setPending_pins, ite_self, and_self]

theorem keepsRefs_neonClientSetCallback (e : ClientEvent) (ptr callback : Nat) :
    KeepsRefs t (NeonClientJNI.neonClientSetCallback ⟨t⟩ e ptr callback) := by
  intro s
  simp only [NeonClientJNI.neonClientSetCallback, Jni.ite_apply, setError_apply,
    modifyClient_apply, apply_ite Prod.snd, apply_ite St.locals, apply_ite St.pins, ite_apply,
    St.recordError_locals, St.recordError_pins, St.setClient_locals, St.setClient_pins, ite_self,
    and_self]

theorem keepsRefs_neonHostSetCallback (e : HostEvent) (ptr callback : Nat) :
    KeepsRefs t (NeonHostJNI.neonHostSetCallback ⟨t⟩ e ptr callback) := by
  intro s
  simp only [NeonHostJNI.neonHostSetCallback, Jni.ite_apply, setError_apply, modifyHost_apply,
    apply_ite Prod.snd, apply_ite St.locals, apply_ite St.pins, ite_apply, St.recordError_locals,
    St.recordError_pins, St.setHost_locals, St.setHost_pins, ite_self, and_self]

/-! ### The functions that create references -/

theorem keepsRefs_jniNeonClientNew (name : Option Ref) :
    KeepsRefs t (NeonClientJNI.neonClientNew rt ⟨t⟩ name) := by
  intro s
  cases name with
  | none => exact ⟨rfl, rfl⟩
  | some name =>
    simp only [NeonClientJNI.neonClientNew, Jni.bind_assoc, Jni.pure_bind, readSt_bind,
      getStringUTFChars_bind, Jni.ite_apply, getMethodID_bind, newObject_bind, deleteLocalRef_bind,
      releaseStringUTFChars_bind, malloc_bind, setError_bind, Jni.pure_apply, storeClient_bind,
      newGlobalRef_bind, apply_ite Prod.snd, apply_ite St.locals, apply_ite St.pins, ite_apply,
      St.recordError_locals, St.recordError_pins, St.log_locals, St.log_pins, St.pin_locals,
      St.pin_pins, St.unpin_locals, St.unpin_pins, St.setPending_locals, St.setPending_pins,
      St.pushLocal_locals, St.pushLocal_pins, St.bump_locals, St.bump_pins, St.eraseLocal_locals,
      St.eraseLocal_pins, St.setClient_locals, St.setClient_pins, St.addGlobal_locals,
      St.addGlobal_pins, ite_true, List.erase_cons_head, ite_self, and_self]

theorem keepsRefs_jniNeonClientConnect (ptr : Nat) (sessionId : JInt) (relayAddr : Ref) :
    KeepsRefs t (NeonClientJNI.neonClientConnect rt ⟨t⟩ ptr sessionId relayAddr) := by
  intro s
  simp only [NeonClientJNI.neonClientConnect, Jni.bind_assoc, Jni.pure_bind, readSt_bind,
    getStringUTFChars_bind, Jni.ite_apply, getMethodID_bind, newStringUTF_bind,
    callVoidMethod_bind, deleteLocalRef_bind, releaseStringUTFChars_bind, exceptionCheck_bind,
    exceptionDescribe_bind, exceptionClear_bind, setError_bind, setError_apply, Jni.pure_apply,
    apply_ite Prod.snd, apply_ite St.locals, apply_ite St.pins, ite_apply, St.recordError_locals,
    St.recordError_pins, St.log_locals, St.log_pins, St.pin_locals, St.pin_pins, St.unpin_locals,
    St.unpin_pins, St.setPending_locals, St.setPending_pins, St.pushLocal_locals,
    St.pushLocal_pins, St.bump_locals, St.bump_pins, St.eraseLocal_locals, St.eraseLocal_pins,
    ite_true, List.erase_cons_head, ite_self, and_self]

theorem keepsRefs_jniNeonHostNew (sessionId : JInt) (relayAddr : Option Ref) :
    KeepsRefs t (NeonHostJNI.neonHostNew rt ⟨t⟩ sessionId relayAddr) := by
  intro s
  cases relayAddr with
  | none => exact ⟨rfl, rfl⟩
  | some relayAddr =>
    simp only [NeonHostJNI.neonHostNew, Jni.bind_assoc, Jni.pure_bind, readSt_bind,
      getStringUTFChars_bind, Jni.ite_apply, getMethodID_bind, newStringUTF_bind, newObject_bind,
      deleteLocalRef_bind, releaseStringUTFChars_bind, malloc_bind, setError_bind, Jni.pure_apply,
      setError_apply, storeHost_bind, newGlobalRef_bind, apply_ite Prod.snd, apply_ite St.locals,
      apply_ite St.pins, ite_apply, St.recordError_locals, St.recordError_pins, St.log_locals,
      St.log_pins, St.pin_locals, St.pin_pins, St.unpin_locals, St.unpin_pins,
      St.setPending_locals, St.setPending_pins, St.pushLocal_locals, St.pushLocal_pins,
      St.bump_locals, St.bump_pins, St.eraseLocal_locals, St.eraseLocal_pins, St.setHost_locals,
      St.setHost_pins, St.addGlobal_locals, St.addGlobal_pins, ite_true, List.erase_cons_head,
      ite_self, List.erase_cons_tail, beq_iff_eq, Ref.mk.injEq, reduceCtorEq, and_false,
      not_false_eq_true, and_self]

end Families

/-! ### The C API -/

section Api

variable (rt : Runtime) (t : Tid)

theorem KeepsRefs.forward {α : Type} (nullError : Option String) (failure : α) (ptr : Nat)
    {f : JNIEnv → Jni α} (hf : KeepsRefs t (f ⟨t⟩)) :
    KeepsRefs t (forward rt t nullError failure ptr f) := by
  intro s
  obtain ⟨evs, -, h | ⟨msg, -, h⟩⟩ := getJniEnv_spec rt t s <;> cases nullError <;>
  simp only [ProjectNeon.forward, Jni.ite_apply, getJniEnv_bind, h, setError_bind, Jni.pure_apply,
    Jni.pure_bind, hf _, apply_ite Prod.snd, apply_ite St.locals, apply_ite St.pins, ite_apply,
    St.recordError_locals, St.recordError_pins, ite_self, and_self]

theorem keepsRefs_neonClientNew (name : CString) : KeepsRefs t (neonClientNew rt t name) := by
  intro s
  obtain ⟨evs, -, h | ⟨msg, -, h⟩⟩ := getJniEnv_spec rt t s <;>
  simp only [neonClientNew, getJniEnv_bind, h, Jni.pure_apply, newStringUTF_bind, Jni.ite_apply,
    setError_bind] <;>
  simp only [Jni.bind_apply (NeonClientJNI.neonClientNew _ _ _), deleteLocalRef_bind,
    Jni.pure_apply, setError_bind, apply_ite Prod.snd, apply_ite St.locals, apply_ite St.pins,
    ite_apply, St.recordError_locals, St.recordError_pins, St.log_locals, St.log_pins,
    St.setPending_locals, St.setPending_pins, St.pushLocal_locals, St.pushLocal_pins, St.bump_locals,
    St.bump_pins, St.eraseLocal_locals, St.eraseLocal_pins, ite_true, List.erase_cons_head, ite_self,
    (keepsRefs_jniNeonClientNew rt t _ _).1, (keepsRefs_jniNeonClientNew rt t _ _).2, and_self]

theorem keepsRefs_neonHostNew (sessionId : UInt32) (relayAddr : CString) :
    KeepsRefs t (neonHostNew rt t sessionId relayAddr) := by
  intro s
  obtain ⟨evs, -, h | ⟨msg, -, h⟩⟩ := getJniEnv_spec rt t s <;>
  simp only [neonHostNew, getJniEnv_bind, h, Jni.pure_apply, newStringUTF_bind, Jni.ite_apply,
    setError_bind] <;>
  simp only [Jni.bind_apply (NeonHostJNI.neonHostNew _ _ _ _), deleteLocalRef_bind,
    Jni.pure_apply, setError_bind, apply_ite Prod.snd, apply_ite St.locals, apply_ite St.pins,
    ite_apply, St.recordError_locals, St.recordError_pins, St.log_locals, St.log_pins,
    St.setPending_locals, St.setPending_pins, St.pushLocal_locals, St.pushLocal_pins, St.bump_locals,
    St.bump_pins, St.eraseLocal_locals, St.eraseLocal_pins, ite_true, List.erase_cons_head, ite_self,
    (keepsRefs_jniNeonHostNew rt t _ _ _).1, (keepsRefs_jniNeonHostNew rt t _ _ _).2, and_self]

theorem keepsRefs_neonClientConnect (client : Nat) (sessionId : UInt32) (relayAddr : CString) :
    KeepsRefs t (neonClientConnect rt t client sessionId relayAddr) := by
  refine KeepsRefs.forward rt t _ _ _ fun s => ?_
  simp only [newStringUTF_bind, Jni.ite_apply, setError_bind, Jni.pure_apply]
  simp only [Jni.bind_apply (NeonClientJNI.neonClientConnect _ _ _ _ _), deleteLocalRef_bind,
    Jni.pure_apply, apply_ite Prod.snd, apply_ite St.locals, apply_ite St.pins, ite_apply,
    St.recordError_locals, St.recordError_pins, St.log_locals, St.log_pins, St.setPending_locals,
    St.setPending_pins, St.pushLocal_locals, St.pushLocal_pins, St.bump_locals, St.bump_pins,
    St.eraseLocal_locals, St.eraseLocal_pins, ite_true, List.erase_cons_head, ite_self,
    (keepsRefs_jniNeonClientConnect rt t _ _ _ _).1, (keepsRefs_jniNeonClientConnect rt t _ _ _ _).2,
    and_self]

theorem keepsRefs_neonGetLastError : KeepsRefs t (neonGetLastError t) := by
  intro s
  simp only [neonGetLastError, readSt_bind, Jni.ite_apply, Jni.pure_apply, apply_ite Prod.snd,
    ite_self, and_self]

/-- Every call of the C API returns with the calling thread's live local references and pinned
strings as it found them. -/
theorem Call.exec_keeps_refs (c : Call) (s : St) :
    (c.exec rt t s).2.locals t = s.locals t ∧ (c.exec rt t s).2.pins t = s.pins t := by
  have map_keeps {α : Type} {m : Jni α} (g : α → Ret) (h : KeepsRefs t m) :
      KeepsRefs t (do return g (← m)) := fun s => h s
  cases c with
  | clientNew name => exact map_keeps _ (keepsRefs_neonClientNew rt t name) s
  | clientConnect c sid addr => exact map_keeps _ (keepsRefs_neonClientConnect rt t c sid addr) s
  | clientProcessPackets c =>
    exact map_keeps _ (KeepsRefs.forward rt t _ _ c (keepsRefs_checkedIntCall rt t _ _ _ _ _ c)) s
  | clientGetId c =>
    exact map_keeps _ (KeepsRefs.forward rt t _ _ c fun s => keepsRefs_intQuery rt t _ _ _ _ _ c s) s
  | clientGetSessionId c =>
    exact map_keeps _ (KeepsRefs.forward rt t _ _ c fun s => keepsRefs_intQuery rt t _ _ _ _ _ c s) s
  | clientIsConnected c =>
    exact map_keeps _ (KeepsRefs.forward rt t _ _ c (keepsRefs_neonClientIsConnected rt t c)) s
  | clientSendPing c =>
    exact map_keeps _ (KeepsRefs.forward rt t _ _ c (keepsRefs_checkedVoidCall rt t _ _ _ _ _ c)) s
  | clientSetAutoPing c en =>
    exact map_keeps _ (KeepsRefs.forward rt t _ _ c (keepsRefs_neonClientSetAutoPing rt t c en)) s
  | clientSetCallback e c cb =>
    exact map_keeps _ (KeepsRefs.forward rt t _ _ c (keepsRefs_neonClientSetCallback t e c cb)) s
  | clientFree c =>
    exact map_keeps _ (KeepsRefs.forward rt t _ _ c (keepsRefs_freeHandle rt t _ c)) s
  | hostNew sid addr => exact map_keeps _ (keepsRefs_neonHostNew rt t sid addr) s
  | hostStart h =>
    exact map_keeps _ (KeepsRefs.forward rt t _ _ h (keepsRefs_checkedVoidCall rt t _ _ _ _ _ h)) s
  | hostProcessPackets h =>
    exact map_keeps _ (KeepsRefs.forward rt t _ _ h (keepsRefs_checkedIntCall rt t _ _ _ _ _ h)) s
  | hostGetSessionId h =>
    exact map_keeps _ (KeepsRefs.forward rt t _ _ h fun s => keepsRefs_intQuery rt t _ _ _ _ _ h s) s
  | hostGetClientCount h =>
    exact map_keeps _ (KeepsRefs.forward rt t _ _ h fun s => keepsRefs_intQuery rt t _ _ _ _ _ h s) s
  | hostSetCallback e h cb =>
    exact map_keeps _ (KeepsRefs.forward rt t _ _ h (keepsRefs_neonHostSetCallback t e h cb)) s
  | hostFree h => exact map_keeps _ (KeepsRefs.forward rt t _ _ h (keepsRefs_freeHandle rt t _ h)) s
  | getLastError => exact map_keeps _ (keepsRefs_neonGetLastError t) s

end Api

end ProjectNeon
