import ProjectNeon.Run

/-!
# Exceptions stay on their thread

Every JNI function is given the calling thread's `JNIEnv`, and the runtime keeps a pending exception
per thread: `neon_jni.c` never keeps a `JNIEnv` beyond one call, each C API call obtaining its own
from `get_jni_env`.  An exception a call raises is therefore pending on the calling thread only.

* `St.SamePending u s s'`: `s'` leaves thread `u`'s pending exception as `s` had it.
* `Call.exec_onThread`: every C API call run on thread `t` leaves the pending exception of every
  other thread as it found it, on every path and under every behaviour of the runtime.
  `ProjectNeon.ExceptionSafety` uses it to follow every thread's pending exception along an
  interleaving of calls (`Call.exec_allCalm`).
-/

namespace ProjectNeon

open NeonClientJNI NeonHostJNI

/-- `s'` leaves thread `u`'s pending exception as `s` had it. -/
def St.SamePending (u : Tid) (s s' : St) : Prop := s'.pending u = s.pending u

namespace St.SamePending

variable {u : Tid} {s s' s'' : St}

@[simp] theorem refl (u : Tid) (s : St) : s.SamePending u s := rfl

theorem trans (h : s.SamePending u s') (h' : s'.SamePending u s'') : s.SamePending u s'' :=
  Eq.trans h' h

/-! The updates a call on thread `t` makes: only `setPending` on `t` touches a pending exception, and
that of `t` alone. -/

variable (t : Tid)

@[simp] theorem log (q : Request) : s.SamePending u (s'.log t q) ↔ s.SamePending u s' := Iff.rfl
@[simp] theorem bump : s.SamePending u s'.bump ↔ s.SamePending u s' := Iff.rfl
@[simp] theorem addGlobal (o : Obj) : s.SamePending u (s'.addGlobal o) ↔ s.SamePending u s' := Iff.rfl
@[simp] theorem eraseGlobal (g : Option Ref) :
    s.SamePending u (s'.eraseGlobal g) ↔ s.SamePending u s' := by
  cases g <;> rfl
@[simp] theorem setClient (p : Nat) (o : Option ClientHandle) :
    s.SamePending u (s'.setClient p o) ↔ s.SamePending u s' := Iff.rfl
@[simp] theorem setHost (p : Nat) (o : Option HostHandle) :
    s.SamePending u (s'.setHost p o) ↔ s.SamePending u s' := Iff.rfl
@[simp] theorem withTrace (tr : List Event) :
    s.SamePending u { s' with trace := tr } ↔ s.SamePending u s' := Iff.rfl
@[simp] theorem pushLocal (r : Ref) : s.SamePending u (s'.pushLocal t r) ↔ s.SamePending u s' :=
  Iff.rfl
@[simp] theorem eraseLocal (r : Ref) : s.SamePending u (s'.eraseLocal t r) ↔ s.SamePending u s' :=
  Iff.rfl
@[simp] theorem pin (r : Ref) : s.SamePending u (s'.pin t r) ↔ s.SamePending u s' := Iff.rfl
@[simp] theorem unpin (r : Ref) : s.SamePending u (s'.unpin t r) ↔ s.SamePending u s' := Iff.rfl
@[simp] theorem recordError (msg : String) (buf : Fin 512 → UInt8) :
    s.SamePending u (s'.recordError t msg buf) ↔ s.SamePending u s' := Iff.rfl

theorem setPending {t : Tid} (hu : u ≠ t) (b : Bool) :
    s.SamePending u (s'.setPending t b) ↔ s.SamePending u s' := by
  simp [St.SamePending, St.setPending, hu]

end St.SamePending

/-- A computation run on thread `t`: it leaves every other thread's pending exception alone. -/
def OnThread {α : Type} (t : Tid) (m : Jni α) : Prop :=
  ∀ u, u ≠ t → ∀ s : St, s.SamePending u (m s).2

/-! ## The JNI layer -/

section Families

variable (rt : Runtime) (t : Tid)

theorem onThread_intQuery (k : Kind) (invalid name notFound : String) (failure : JInt)
    (ptr : Nat) : OnThread t (intQuery rt ⟨t⟩ k invalid name notFound failure ptr) := by
  intro u hu s
  simp only [intQuery, Jni.ite_apply, setError_bind, Jni.pure_apply, Jni.bind_assoc, readSt_bind,
    getMethodID_bind, callIntMethod_apply, apply_ite Prod.snd, apply_ite (St.SamePending u s),
    St.SamePending.recordError, St.SamePending.log, St.SamePending.setPending hu,
    St.SamePending.refl, ite_self]

theorem onThread_checkedIntCall (k : Kind) (invalid name notFound exception : String)
    (ptr : Nat) : OnThread t (checkedIntCall rt ⟨t⟩ k invalid name notFound exception ptr) := by
  intro u hu s
  simp only [checkedIntCall, Jni.ite_apply, setError_bind, Jni.pure_apply, Jni.bind_assoc,
    readSt_bind, getMethodID_bind, callIntMethod_bind, exceptionCheck_bind, exceptionDescribe_bind,
    exceptionClear_bind, apply_ite Prod.snd, apply_ite (St.SamePending u s),
    St.SamePending.recordError, St.SamePending.log, St.SamePending.setPending hu,
    St.SamePending.refl, ite_self]

theorem onThread_checkedVoidCall (k : Kind) (invalid name notFound exception : String)
    (ptr : Nat) : OnThread t (checkedVoidCall rt ⟨t⟩ k invalid name notFound exception ptr) := by
  intro u hu s
  simp only [checkedVoidCall, Jni.ite_apply, setError_bind, Jni.pure_apply, Jni.bind_assoc,
    readSt_bind, getMethodID_bind, callVoidMethod_bind, exceptionCheck_bind,
    exceptionDescribe_bind, exceptionClear_bind, apply_ite Prod.snd, apply_ite (St.SamePending u s),
    St.SamePending.recordError, St.SamePending.log, St.SamePending.setPending hu,
    St.SamePending.refl, ite_self]

theorem onThread_freeHandle (k : Kind) (ptr : Nat) : OnThread t (freeHandle rt ⟨t⟩ k ptr) := by
  intro u hu s
  simp only [freeHandle, Jni.ite_apply, Jni.pure_apply, Jni.bind_assoc, readSt_bind,
    getMethodID_bind, callVoidMethod_bind, exceptionCheck_bind, Jni.ite_bind, exceptionClear_bind,
    Jni.pure_bind, deleteGlobalRef_bind, free_apply]
  split_ifs <;> simp only [St.SamePending.log, St.SamePending.setPending hu,
    St.SamePending.eraseGlobal, St.SamePending.setClient, St.SamePending.setHost, St.SamePending.refl]

theorem onThread_neonClientIsConnected (ptr : Nat) :
    OnThread t (NeonClientJNI.neonClientIsConnected rt ⟨t⟩ ptr) := by
  intro u hu s
  simp only [NeonClientJNI.neonClientIsConnected, Jni.ite_apply, Jni.pure_apply, Jni.bind_assoc,
    readSt_bind, getMethodID_bind, callBooleanMethod_apply, apply_ite Prod.snd,
    apply_ite (St.SamePending u s), St.SamePending.log, St.SamePending.setPending hu,
    St.SamePending.refl, ite_self]

theorem onThread_neonClientSetAutoPing (ptr : Nat) (enabled : Bool) :
    OnThread t (NeonClientJNI.neonClientSetAutoPing rt ⟨t⟩ ptr enabled) := by
  intro u hu s
  simp only [NeonClientJNI.neonClientSetAutoPing, Jni.ite_apply, setError_apply, Jni.bind_assoc,
    readSt_bind, getMethodID_bind, callVoidMethod_apply, apply_ite Prod.snd,
    apply_ite (St.SamePending u s), St.SamePending.recordError, St.SamePending.log,
    St.SamePending.setPending hu, St.SamePending.refl, ite_self]

theorem onThread_neonClientSetCallback (e : ClientEvent) (ptr callback : Nat) :
    OnThread t (NeonClientJNI.neonClientSetCallback ⟨t⟩ e ptr callback) := by
  intro u hu s
  simp only [NeonClientJNI.neonClientSetCallback, Jni.ite_apply, setError_apply,
    modifyClient_apply, apply_ite Prod.snd, apply_ite (St.SamePending u s),
    St.SamePending.recordError, St.SamePending.setClient, St.SamePending.refl, ite_self]

theorem onThread_neonHostSetCallback (e : HostEvent) (ptr callback : Nat) :
    OnThread t (NeonHostJNI.neonHostSetCallback ⟨t⟩ e ptr callback) := by
  intro u hu s
  simp only [NeonHostJNI.neonHostSetCallback, Jni.ite_apply, setError_apply, modifyHost_apply,
    apply_ite Prod.snd, apply_ite (St.SamePending u s), St.SamePending.recordError,
    St.SamePending.setHost, St.SamePending.refl, ite_self]

theorem onThread_jniNeonClientNew (name : Option Ref) :
    OnThread t (NeonClientJNI.neonClientNew rt ⟨t⟩ name) := by
  intro u hu s
  cases name with
  | none => exact (St.SamePending.recordError _ _ _).2 (.refl u s)
  | some name =>
    simp only [NeonClientJNI.neonClientNew, Jni.bind_assoc, Jni.pure_bind, readSt_bind,
      getStringUTFChars_bind, Jni.ite_apply, getMethodID_bind, newObject_bind, deleteLocalRef_bind,
      releaseStringUTFChars_bind, malloc_bind, setError_bind, Jni.pure_apply, storeClient_bind,
      newGlobalRef_bind, apply_ite Prod.snd, apply_ite (St.SamePending u s),
      St.SamePending.recordError, St.SamePending.log, St.SamePending.pin,
      St.SamePending.unpin, St.SamePending.setPending hu, St.SamePending.pushLocal,
      St.SamePending.bump, St.SamePending.eraseLocal, St.SamePending.setClient,
      St.SamePending.addGlobal, St.SamePending.refl, ite_self]

theorem onThread_jniNeonClientConnect (ptr : Nat) (sessionId : JInt) (relayAddr : Ref) :
    OnThread t (NeonClientJNI.neonClientConnect rt ⟨t⟩ ptr sessionId relayAddr) := by
  intro u hu s
  simp only [NeonClientJNI.neonClientConnect, Jni.bind_assoc, Jni.pure_bind, readSt_bind,
    getStringUTFChars_bind, Jni.ite_apply, getMethodID_bind, newStringUTF_bind,
    callVoidMethod_bind, deleteLocalRef_bind, releaseStringUTFChars_bind, exceptionCheck_bind,
    exceptionDescribe_bind, exceptionClear_bind, setError_bind, setError_apply, Jni.pure_apply,
    apply_ite Prod.snd, apply_ite (St.SamePending u s), St.SamePending.recordError,
    St.SamePending.log, St.SamePending.pin, St.SamePending.unpin, St.SamePending.setPending hu,
    St.SamePending.pushLocal, St.SamePending.bump, St.SamePending.eraseLocal,
    St.SamePending.refl, ite_self]

theorem onThread_jniNeonHostNew (sessionId : JInt) (relayAddr : Option Ref) :
    OnThread t (NeonHostJNI.neonHostNew rt ⟨t⟩ sessionId relayAddr) := by
  intro u hu s
  cases relayAddr with
  | none => exact (St.SamePending.recordError _ _ _).2 (.refl u s)
  | some relayAddr =>
    simp only [NeonHostJNI.neonHostNew, Jni.bind_assoc, Jni.pure_bind, readSt_bind,
      getStringUTFChars_bind, Jni.ite_apply, getMethodID_bind, newStringUTF_bind, newObject_bind,
      deleteLocalRef_bind, releaseStringUTFChars_bind, malloc_bind, setError_bind, Jni.pure_apply,
      setError_apply, storeHost_bind, newGlobalRef_bind, apply_ite Prod.snd,
      apply_ite (St.SamePending u s), St.SamePending.recordError, St.SamePending.log,
      St.SamePending.pin, St.SamePending.unpin, St.SamePending.setPending hu,
      St.SamePending.pushLocal, St.SamePending.bump, St.SamePending.eraseLocal,
      St.SamePending.setHost, St.SamePending.addGlobal, St.SamePending.refl, ite_self]

end Families

/-! ## The C API -/

section Api

variable (rt : Runtime) (t : Tid)

theorem OnThread.forward {α : Type} (nullError : Option String) (failure : α) (ptr : Nat)
    {f : JNIEnv → Jni α} (hf : OnThread t (f ⟨t⟩)) :
    OnThread t (forward rt t nullError failure ptr f) := by
  intro u hu s
  unfold ProjectNeon.forward
  split
  · cases nullError <;> simp only [setError_bind, Jni.pure_apply, Jni.pure_bind,
      St.SamePending.recordError, St.SamePending.refl]
  · obtain ⟨evs, -, h | ⟨msg, -, h⟩⟩ := getJniEnv_spec rt t s <;>
      simp only [getJniEnv_bind, h, Jni.pure_apply, St.SamePending.recordError,
        St.SamePending.withTrace, St.SamePending.refl]
    exact ((St.SamePending.withTrace ..).2 (.refl u s)).trans (hf u hu _)

theorem onThread_neonClientNew (name : CString) : OnThread t (neonClientNew rt t name) := by
  intro u hu s
  obtain ⟨evs, -, h | ⟨msg, -, h⟩⟩ := getJniEnv_spec rt t s
  · simp only [neonClientNew, getJniEnv_bind, h, newStringUTF_bind]
    split
    case isFalse =>
      simp only [setError_bind, Jni.pure_apply, St.SamePending.recordError,
        St.SamePending.setPending hu, St.SamePending.log, St.SamePending.withTrace, St.SamePending.refl]
    simp only [Jni.bind_apply (NeonClientJNI.neonClientNew _ _ _), deleteLocalRef_bind,
      Jni.pure_apply, St.SamePending.eraseLocal]
    refine (?_ : s.SamePending u _).trans (onThread_jniNeonClientNew rt t _ u hu _)
    simp only [St.SamePending.bump, St.SamePending.pushLocal, St.SamePending.log,
      St.SamePending.withTrace, St.SamePending.refl]
  · simp only [neonClientNew, getJniEnv_bind, h, Jni.pure_apply, St.SamePending.recordError,
      St.SamePending.withTrace, St.SamePending.refl]

theorem onThread_neonHostNew (sessionId : UInt32) (relayAddr : CString) :
    OnThread t (neonHostNew rt t sessionId relayAddr) := by
  intro u hu s
  obtain ⟨evs, -, h | ⟨msg, -, h⟩⟩ := getJniEnv_spec rt t s
  · simp only [neonHostNew, getJniEnv_bind, h, newStringUTF_bind]
    split
    case isFalse =>
      simp only [setError_bind, Jni.pure_apply, St.SamePending.recordError,
        St.SamePending.setPending hu, St.SamePending.log, St.SamePending.withTrace, St.SamePending.refl]
    simp only [Jni.bind_apply (NeonHostJNI.neonHostNew _ _ _ _), deleteLocalRef_bind,
      Jni.pure_apply, St.SamePending.eraseLocal]
    refine (?_ : s.SamePending u _).trans (onThread_jniNeonHostNew rt t _ _ u hu _)
    simp only [St.SamePending.bump, St.SamePending.pushLocal, St.SamePending.log,
      St.SamePending.withTrace, St.SamePending.refl]
  · simp only [neonHostNew, getJniEnv_bind, h, Jni.pure_apply, St.SamePending.recordError,
      St.SamePending.withTrace, St.SamePending.refl]

theorem onThread_neonClientConnect (client : Nat) (sessionId : UInt32) (relayAddr : CString) :
    OnThread t (neonClientConnect rt t client sessionId relayAddr) := by
  refine OnThread.forward rt t _ _ _ fun u hu s => ?_
  simp only [newStringUTF_bind]
  split
  case isFalse =>
    simp only [setError_bind, Jni.pure_apply, St.SamePending.recordError,
      St.SamePending.setPending hu, St.SamePending.log, St.SamePending.refl]
  simp only [Jni.bind_apply (NeonClientJNI.neonClientConnect _ _ _ _ _), deleteLocalRef_bind,
    Jni.pure_apply, St.SamePending.eraseLocal]
  refine (?_ : s.SamePending u _).trans (onThread_jniNeonClientConnect rt t _ _ _ u hu _)
  simp only [St.SamePending.bump, St.SamePending.pushLocal, St.SamePending.log, St.SamePending.refl]

theorem onThread_neonGetLastError : OnThread t (neonGetLastError t) := by
  intro u _ s
  simp only [neonGetLastError, readSt_bind, Jni.ite_apply, Jni.pure_apply, apply_ite Prod.snd,
    St.SamePending.refl, ite_self]

/-- Every call of the C API on thread `t` leaves every other thread's pending exception alone. -/
theorem Call.exec_onThread (c : Call) : OnThread t (c.exec rt t) := by
  have map {α : Type} {m : Jni α} (g : α → Ret) (h : OnThread t m) :
      OnThread t (do return g (← m)) := h
  cases c with
  | clientNew name => exact map _ (onThread_neonClientNew rt t name)
  | clientConnect c sid addr => exact map _ (onThread_neonClientConnect rt t c sid addr)
  | clientProcessPackets c =>
    exact map _ (OnThread.forward rt t _ _ c (onThread_checkedIntCall rt t _ _ _ _ _ c))
  | clientGetId c =>
    exact map _ (OnThread.forward rt t _ _ c fun u hu s => onThread_intQuery rt t _ _ _ _ _ c u hu s)
  | clientGetSessionId c =>
    exact map _ (OnThread.forward rt t _ _ c fun u hu s => onThread_intQuery rt t _ _ _ _ _ c u hu s)
  | clientIsConnected c =>
    exact map _ (OnThread.forward rt t _ _ c (onThread_neonClientIsConnected rt t c))
  | clientSendPing c =>
    exact map _ (OnThread.forward rt t _ _ c (onThread_checkedVoidCall rt t _ _ _ _ _ c))
  | clientSetAutoPing c en =>
    exact map _ (OnThread.forward rt t _ _ c (onThread_neonClientSetAutoPing rt t c en))
  | clientSetCallback e c cb =>
    exact map _ (OnThread.forward rt t _ _ c (onThread_neonClientSetCallback t e c cb))
  | clientFree c => exact map _ (OnThread.forward rt t _ _ c (onThread_freeHandle rt t _ c))
  | hostNew sid addr => exact map _ (onThread_neonHostNew rt t sid addr)
  | hostStart h =>
    exact map _ (OnThread.forward rt t _ _ h (onThread_checkedVoidCall rt t _ _ _ _ _ h))
  | hostProcessPackets h =>
    exact map _ (OnThread.forward rt t _ _ h (onThread_checkedIntCall rt t _ _ _ _ _ h))
  | hostGetSessionId h =>
    exact map _ (OnThread.forward rt t _ _ h fun u hu s => onThread_intQuery rt t _ _ _ _ _ h u hu s)
  | hostGetClientCount h =>
    exact map _ (OnThread.forward rt t _ _ h fun u hu s => onThread_intQuery rt t _ _ _ _ _ h u hu s)
  | hostSetCallback e h cb =>
    exact map _ (OnThread.forward rt t _ _ h (onThread_neonHostSetCallback t e h cb))
  | hostFree h => exact map _ (OnThread.forward rt t _ _ h (onThread_freeHandle rt t _ h))
  | getLastError => exact map _ (onThread_neonGetLastError t)

end Api

end ProjectNeon
