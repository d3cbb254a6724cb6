import ProjectNeon.Exceptions
import ProjectNeon.Threads

/-!
# The exception discipline of the checked calls

While an exception is pending on a thread, JNI allows that thread only the exception-safe functions
(`Request.exceptionSafe`).  `neon_jni.c` follows every `CallVoidMethod` and `CallIntMethod` of
`connect`, `processPackets`, `sendPing`, `start` and `close` with `ExceptionCheck`, and clears what
it finds before its next unsafe request; the four getters, `isConnected` and `setAutoPing` call their
method and return.  Lookups that fail (`GetMethodID`, `GetStringUTFChars`, `NewStringUTF`) and
constructors that throw (`NewObject`) also leave their exception pending, and nothing clears it.

* `St.RuleOk`: no request of the trace was made, while an exception was pending on its thread,
  to a function outside the exception-safe ones; `St.Calm t`: that, and no exception pending on `t`.
* Under `Runtime.Resolves` the lookups and string conversions succeed and the constructors return
  normally; threads may still fail to attach, `malloc` and `NewGlobalRef` may fail, and every
  managed method may throw.
* `Call.exec_calm`: under such a runtime, every call other than the getters, `is_connected` and
  `set_auto_ping` returns with its thread calm when it found it calm.
* `exception_discipline`: so along any interleaving of such calls, on any number of threads, no
  exception is left pending and the rule is never broken.
* `exception_leaks_exactly`: conversely, when every managed method throws, a call on a non-`NULL`
  handle from a bound, calm thread returns with an exception pending exactly when it is one of the
  six that never call `ExceptionCheck`.
-/

namespace ProjectNeon

open NeonClientJNI NeonHostJNI

/-- The rule for one event of the trace: a request made while an exception was pending on its
thread is one of the exception-safe functions. -/
def Event.obeysRule : Event → Bool
  | .jni _ q pending => !pending || q.exceptionSafe
  | .error _ _ => true

/-- Every request of the trace obeys the rule. -/
def St.RuleOk (s : St) : Prop := ∀ e ∈ s.trace, e.obeysRule = true

/-- Thread `t` has no exception pending, and no request so far broke the rule. -/
def St.Calm (t : Tid) (s : St) : Prop := s.pending t = false ∧ s.RuleOk

/-- The calls that check for an exception after every managed method they call: all but the four
getters, `neon_client_is_connected` and `neon_client_set_auto_ping`. -/
def Call.checksExceptions : Call → Bool
  | .clientGetId _ | .clientGetSessionId _ | .clientIsConnected _ | .clientSetAutoPing _ _ => false
  | .hostGetSessionId _ | .hostGetClientCount _ => false
  | _ => true

/-! ## The rule through the state's updates -/

section Updates

variable (s : St) (t : Tid)

@[simp] theorem St.ruleOk_log (q : Request) :
    (s.log t q).RuleOk ↔ (s.pending t = false ∨ q.exceptionSafe = true) ∧ s.RuleOk := by
  cases h : s.pending t <;> simp [St.RuleOk, Event.obeysRule, h]

@[simp] theorem St.ruleOk_recordError (msg : String) (buf : Fin 512 → UInt8) :
    (s.recordError t msg buf).RuleOk ↔ s.RuleOk := by
  simp [St.RuleOk, Event.obeysRule]

@[simp] theorem St.ruleOk_setPending (b : Bool) : (s.setPending t b).RuleOk ↔ s.RuleOk := Iff.rfl
@[simp] theorem St.ruleOk_pushLocal (r : Ref) : (s.pushLocal t r).RuleOk ↔ s.RuleOk := Iff.rfl
@[simp] theorem St.ruleOk_eraseLocal (r : Ref) : (s.eraseLocal t r).RuleOk ↔ s.RuleOk := Iff.rfl
@[simp] theorem St.ruleOk_pin (r : Ref) : (s.pin t r).RuleOk ↔ s.RuleOk := Iff.rfl
@[simp] theorem St.ruleOk_unpin (r : Ref) : (s.unpin t r).RuleOk ↔ s.RuleOk := Iff.rfl
@[simp] theorem St.ruleOk_bump : s.bump.RuleOk ↔ s.RuleOk := Iff.rfl

@[simp] theorem St.setPending_pending_self (b : Bool) : (s.setPending t b).pending t = b := by
  simp

@[simp] theorem St.calm_log (q : Request) : (s.log t q).Calm t ↔ s.Calm t := by
  simp only [St.Calm, St.log_pending, St.ruleOk_log]
  exact ⟨fun ⟨h, _, hr⟩ => ⟨h, hr⟩, fun ⟨h, hr⟩ => ⟨h, .inl h, hr⟩⟩

@[simp] theorem St.calm_setPending (b : Bool) : (s.setPending t b).Calm t ↔ b = false ∧ s.RuleOk := by
  simp only [St.Calm, St.setPending_pending_self, St.ruleOk_setPending]

@[simp] theorem St.calm_recordError (msg : String) (buf : Fin 512 → UInt8) :
    (s.recordError t msg buf).Calm t ↔ s.Calm t := by
  simp only [St.Calm, St.recordError_pending, St.ruleOk_recordError]

@[simp] theorem St.calm_pushLocal (r : Ref) : (s.pushLocal t r).Calm t ↔ s.Calm t := Iff.rfl
@[simp] theorem St.calm_eraseLocal (r : Ref) : (s.eraseLocal t r).Calm t ↔ s.Calm t := Iff.rfl
@[simp] theorem St.calm_pin (r : Ref) : (s.pin t r).Calm t ↔ s.Calm t := Iff.rfl
@[simp] theorem St.calm_unpin (r : Ref) : (s.unpin t r).Calm t ↔ s.Calm t := Iff.rfl
@[simp] theorem St.calm_bump : s.bump.Calm t ↔ s.Calm t := Iff.rfl
@[simp] theorem St.calm_addGlobal (o : Obj) : (s.addGlobal o).Calm t ↔ s.Calm t := Iff.rfl
@[simp] theorem St.calm_eraseGlobal (g : Option Ref) : (s.eraseGlobal g).Calm t ↔ s.Calm t := by
  cases g <;> rfl
@[simp] theorem St.calm_setClient (p : Nat) (o : Option ClientHandle) :
    (s.setClient p o).Calm t ↔ s.Calm t := Iff.rfl
@[simp] theorem St.calm_setHost (p : Nat) (o : Option HostHandle) :
    (s.setHost p o).Calm t ↔ s.Calm t := Iff.rfl

/-- `get_jni_env`'s own requests are exception-safe. -/
theorem St.calm_bindRequests {evs : List Event} (h : ∀ e ∈ evs, IsBindRequest t (s.pending t) e)
    (hs : s.Calm t) : ({ s with trace := evs ++ s.trace } : St).Calm t := by
  refine ⟨hs.1, fun e he => ?_⟩
  rcases List.mem_append.1 he with he | he
  · rcases h e he with rfl | rfl <;> simp [Event.obeysRule, Request.exceptionSafe]
  · exact hs.2 e he

end Updates

/-- A computation on thread `t` that returns with `t` calm whenever it starts with `t` calm. -/
def KeepsCalm {α : Type} (t : Tid) (m : Jni α) : Prop := ∀ s : St, s.Calm t → (m s).2.Calm t

/-! ## The JNI layer -/

section Families

variable {rt : Runtime} (hr : rt.Resolves) (t : Tid)
include hr

theorem keepsCalm_checkedIntCall (k : Kind) (invalid name notFound exception : String)
    (ptr : Nat) : KeepsCalm t (checkedIntCall rt ⟨t⟩ k invalid name notFound exception ptr) := by
  intro s hs
  simp only [checkedIntCall, Jni.ite_apply, setError_bind, Jni.pure_apply, Jni.bind_assoc,
    readSt_bind, getMethodID_bind, hr.getMethodID, if_true, Jni.pure_bind, callIntMethod_bind,
    exceptionCheck_bind, exceptionDescribe_bind, exceptionClear_bind, apply_ite Prod.snd,
    apply_ite (St.Calm t), St.calm_recordError, St.calm_log, St.calm_setPending, St.ruleOk_log,
    St.ruleOk_setPending, St.log_pending, St.setPending_pending_self, hs.1, Request.exceptionSafe,
    Bool.false_eq_true, if_false, hs, hs.2, true_or, or_true, and_self, ite_self]

theorem keepsCalm_checkedVoidCall (k : Kind) (invalid name notFound exception : String)
    (ptr : Nat) : KeepsCalm t (checkedVoidCall rt ⟨t⟩ k invalid name notFound exception ptr) := by
  intro s hs
  simp only [checkedVoidCall, Jni.ite_apply, setError_bind, Jni.pure_apply, Jni.bind_assoc,
    readSt_bind, getMethodID_bind, hr.getMethodID, if_true, Jni.pure_bind, callVoidMethod_bind,
    exceptionCheck_bind, exceptionDescribe_bind, exceptionClear_bind, apply_ite Prod.snd,
    apply_ite (St.Calm t), St.calm_recordError, St.calm_log, St.calm_setPending, St.ruleOk_log,
    St.ruleOk_setPending, St.log_pending, St.setPending_pending_self, hs.1, Request.exceptionSafe,
    Bool.false_eq_true, if_false, hs, hs.2, true_or, or_true, and_self, ite_self]

theorem keepsCalm_freeHandle (k : Kind) (ptr : Nat) : KeepsCalm t (freeHandle rt ⟨t⟩ k ptr) := by
  intro s hs
  simp only [freeHandle, Jni.ite_apply, Jni.pure_apply, Jni.bind_assoc, readSt_bind,
    getMethodID_bind, hr.getMethodID, if_true, callVoidMethod_bind, exceptionCheck_bind,
    Jni.ite_bind, exceptionClear_bind, Jni.pure_bind, deleteGlobalRef_bind, free_apply,
    St.setPending_pending_self, St.log_pending, hs.1, Bool.false_eq_true, if_false]
  split_ifs <;> simp only [St.calm_setHost, St.calm_setClient, St.calm_eraseGlobal, St.calm_log,
    St.calm_setPending, St.ruleOk_log, St.ruleOk_setPending, St.log_pending,
    St.setPending_pending_self, Request.exceptionSafe, hs, hs.1, hs.2, true_or, or_true, and_self]

theorem keepsCalm_jniNeonClientNew (name : Option Ref) :
    KeepsCalm t (NeonClientJNI.neonClientNew rt ⟨t⟩ name) := by
  intro s hs
  cases name with
  | none => exact (St.calm_recordError ..).2 hs
  | some name =>
    simp only [NeonClientJNI.neonClientNew, Jni.bind_assoc, Jni.pure_bind, readSt_bind,
      getStringUTFChars_bind, hr.getStringUTFChars, getMethodID_bind, hr.getMethodID,
      newObject_bind, hr.newObject, if_true, Jni.ite_apply, deleteLocalRef_bind,
      releaseStringUTFChars_bind, malloc_bind, setError_bind, Jni.pure_apply, storeClient_bind,
      newGlobalRef_bind, apply_ite Prod.snd, apply_ite (St.Calm t), St.calm_recordError,
      St.calm_log, St.calm_pin, St.calm_unpin, St.calm_pushLocal, St.calm_bump,
      St.calm_eraseLocal, St.calm_setClient, St.calm_addGlobal, hs, ite_self]

theorem keepsCalm_jniNeonClientConnect (ptr : Nat) (sessionId : JInt) (relayAddr : Ref) :
    KeepsCalm t (NeonClientJNI.neonClientConnect rt ⟨t⟩ ptr sessionId relayAddr) := by
  intro s hs
  simp only [NeonClientJNI.neonClientConnect, Jni.bind_assoc, Jni.pure_bind, readSt_bind,
    getStringUTFChars_bind, hr.getStringUTFChars, getMethodID_bind, hr.getMethodID,
    newStringUTF_bind, hr.newStringUTF, if_true, Jni.ite_apply, callVoidMethod_bind,
    deleteLocalRef_bind, releaseStringUTFChars_bind, exceptionCheck_bind, exceptionDescribe_bind,
    exceptionClear_bind, setError_bind, setError_apply, Jni.pure_apply, apply_ite Prod.snd,
    apply_ite (St.Calm t), St.calm_recordError, St.calm_log, St.calm_pin, St.calm_unpin,
    St.calm_pushLocal, St.calm_bump, St.calm_eraseLocal, St.calm_setPending, St.ruleOk_log,
    St.ruleOk_setPending, St.ruleOk_pushLocal, St.ruleOk_eraseLocal, St.ruleOk_pin,
    St.ruleOk_unpin, St.ruleOk_bump, St.log_pending, St.setPending_pending_self, St.unpin_pending,
    St.eraseLocal_pending, St.pin_pending, St.pushLocal_pending, St.bump_pending,
    Request.exceptionSafe, hs, hs.1, hs.2, Bool.false_eq_true, if_false, true_or, or_true,
    and_self, ite_self]

theorem keepsCalm_jniNeonHostNew (sessionId : JInt) (relayAddr : Option Ref) :
    KeepsCalm t (NeonHostJNI.neonHostNew rt ⟨t⟩ sessionId relayAddr) := by
  intro s hs
  cases relayAddr with
  | none => exact (St.calm_recordError ..).2 hs
  | some relayAddr =>
    simp only [NeonHostJNI.neonHostNew, Jni.bind_assoc, Jni.pure_bind, readSt_bind,
      getStringUTFChars_bind, hr.getStringUTFChars, getMethodID_bind, hr.getMethodID,
      newStringUTF_bind, hr.newStringUTF, newObject_bind, hr.newObject, if_true, Jni.ite_apply,
      deleteLocalRef_bind, releaseStringUTFChars_bind, malloc_bind, setError_bind, Jni.pure_apply,
      setError_apply, storeHost_bind, newGlobalRef_bind, apply_ite Prod.snd, apply_ite (St.Calm t),
      St.calm_recordError, St.calm_log, St.calm_pin, St.calm_unpin, St.calm_pushLocal,
      St.calm_bump, St.calm_eraseLocal, St.calm_setHost, St.calm_addGlobal, hs, ite_self]

end Families

section Setters

variable (t : Tid)

theorem keepsCalm_neonClientSetCallback (e : ClientEvent) (ptr callback : Nat) :
    KeepsCalm t (NeonClientJNI.neonClientSetCallback ⟨t⟩ e ptr callback) := by
  intro s hs
  simp only [NeonClientJNI.neonClientSetCallback, Jni.ite_apply, setError_apply,
    modifyClient_apply, apply_ite Prod.snd, apply_ite (St.Calm t), St.calm_recordError,
    St.calm_setClient, hs, ite_self]

theorem keepsCalm_neonHostSetCallback (e : HostEvent) (ptr callback : Nat) :
    KeepsCalm t (NeonHostJNI.neonHostSetCallback ⟨t⟩ e ptr callback) := by
  intro s hs
  simp only [NeonHostJNI.neonHostSetCallback, Jni.ite_apply, setError_apply, modifyHost_apply,
    apply_ite Prod.snd, apply_ite (St.Calm t), St.calm_recordError, St.calm_setHost, hs, ite_self]

end Setters

/-! ## The C API -/

section Api

variable {rt : Runtime} (t : Tid)

theorem KeepsCalm.forward {α : Type} (nullError : Option String) (failure : α) (ptr : Nat)
    {f : JNIEnv → Jni α} (hf : KeepsCalm t (f ⟨t⟩)) :
    KeepsCalm t (forward rt t nullError failure ptr f) := by
  intro s hs
  unfold ProjectNeon.forward
  split
  · cases nullError <;> simp only [setError_bind, Jni.pure_apply, Jni.pure_bind,
      St.calm_recordError, hs]
  · obtain ⟨evs, hevs, h | ⟨msg, -, h⟩⟩ := getJniEnv_spec rt t s <;>
      simp only [getJniEnv_bind, h, Jni.pure_apply, St.calm_recordError]
    · exact hf _ (St.calm_bindRequests s t hevs hs)
    · exact St.calm_bindRequests s t hevs hs

end Api

section ApiChecked

variable {rt : Runtime} (hr : rt.Resolves) (t : Tid)
include hr

theorem keepsCalm_neonClientNew (name : CString) : KeepsCalm t (neonClientNew rt t name) := by
  intro s hs
  obtain ⟨evs, hevs, h | ⟨msg, -, h⟩⟩ := getJniEnv_spec rt t s
  · simp only [neonClientNew, getJniEnv_bind, h, newStringUTF_bind, hr.newStringUTF, if_true,
      Jni.bind_apply (NeonClientJNI.neonClientNew _ _ _), deleteLocalRef_bind, Jni.pure_apply,
      St.calm_eraseLocal, St.calm_log]
    refine keepsCalm_jniNeonClientNew hr t _ _ ?_
    simpa only [St.calm_bump, St.calm_pushLocal, St.calm_log] using St.calm_bindRequests s t hevs hs
  · simp only [neonClientNew, getJniEnv_bind, h, Jni.pure_apply, St.calm_recordError]
    exact St.calm_bindRequests s t hevs hs

theorem keepsCalm_neonHostNew (sessionId : UInt32) (relayAddr : CString) :
    KeepsCalm t (neonHostNew rt t sessionId relayAddr) := by
  intro s hs
  obtain ⟨evs, hevs, h | ⟨msg, -, h⟩⟩ := getJniEnv_spec rt t s
  · simp only [neonHostNew, getJniEnv_bind, h, newStringUTF_bind, hr.newStringUTF, if_true,
      Jni.bind_apply (NeonHostJNI.neonHostNew _ _ _ _), deleteLocalRef_bind, Jni.pure_apply,
      St.calm_eraseLocal, St.calm_log]
    refine keepsCalm_jniNeonHostNew hr t _ _ _ ?_
    simpa only [St.calm_bump, St.calm_pushLocal, St.calm_log] using St.calm_bindRequests s t hevs hs
  · simp only [neonHostNew, getJniEnv_bind, h, Jni.pure_apply, St.calm_recordError]
    exact St.calm_bindRequests s t hevs hs

theorem keepsCalm_neonClientConnect (client : Nat) (sessionId : UInt32) (relayAddr : CString) :
    KeepsCalm t (neonClientConnect rt t client sessionId relayAddr) := by
  refine KeepsCalm.forward t _ _ _ fun s hs => ?_
  simp only [newStringUTF_bind, hr.newStringUTF, if_true,
    Jni.bind_apply (NeonClientJNI.neonClientConnect _ _ _ _ _), deleteLocalRef_bind,
    Jni.pure_apply, St.calm_eraseLocal, St.calm_log]
  refine keepsCalm_jniNeonClientConnect hr t _ _ _ _ ?_
  simpa only [St.calm_bump, St.calm_pushLocal, St.calm_log] using hs

/-- Under a runtime whose lookups and conversions succeed, every call that checks its managed calls
for exceptions returns with its thread calm when it found it calm. -/
theorem Call.exec_calm (c : Call) (hc : c.checksExceptions) : KeepsCalm t (c.exec rt t) := by
  have map {α : Type} {m : Jni α} (g : α → Ret) (h : KeepsCalm t m) :
      KeepsCalm t (do return g (← m)) := h
  cases c with
  | clientNew name => exact map _ (keepsCalm_neonClientNew hr t name)
  | clientConnect c sid addr => exact map _ (keepsCalm_neonClientConnect hr t c sid addr)
  | clientProcessPackets c =>
    exact map _ (KeepsCalm.forward t _ _ c (keepsCalm_checkedIntCall hr t _ _ _ _ _ c))
  | clientSendPing c =>
    exact map _ (KeepsCalm.forward t _ _ c (keepsCalm_checkedVoidCall hr t _ _ _ _ _ c))
  | clientSetCallback e c cb =>
    exact map _ (KeepsCalm.forward t _ _ c (keepsCalm_neonClientSetCallback t e c cb))
  | clientFree c => exact map _ (KeepsCalm.forward t _ _ c (keepsCalm_freeHandle hr t _ c))
  | hostNew sid addr => exact map _ (keepsCalm_neonHostNew hr t sid addr)
  | hostStart h =>
    exact map _ (KeepsCalm.forward t _ _ h (keepsCalm_checkedVoidCall hr t _ _ _ _ _ h))
  | hostProcessPackets h =>
    exact map _ (KeepsCalm.forward t _ _ h (keepsCalm_checkedIntCall hr t _ _ _ _ _ h))
  | hostSetCallback e h cb =>
    exact map _ (KeepsCalm.forward t _ _ h (keepsCalm_neonHostSetCallback t e h cb))
  | hostFree h => exact map _ (KeepsCalm.forward t _ _ h (keepsCalm_freeHandle hr t _ h))
  | getLastError =>
    exact map _ fun s hs => by simpa only [neonGetLastError, readSt_bind, Jni.ite_apply,
      Jni.pure_apply, apply_ite Prod.snd, ite_self] using hs
  | _ => simp [Call.checksExceptions] at hc

end ApiChecked

/-! ## Runs -/

/-- No exception pending on any thread, and the rule kept so far. -/
def St.AllCalm (s : St) : Prop := (∀ u, s.pending u = false) ∧ s.RuleOk

theorem Call.exec_allCalm {rt : Runtime} (hr : rt.Resolves) (t : Tid) (c : Call)
    (hc : c.checksExceptions) {s : St} (hs : s.AllCalm) : (c.exec rt t s).2.AllCalm := by
  have ht := Call.exec_calm hr t c hc s ⟨hs.1 t, hs.2⟩
  refine ⟨fun u => ?_, ht.2⟩
  by_cases hu : u = t
  · exact hu ▸ ht.1
  · rw [← hs.1 u]
    exact Call.exec_onThread rt t c u hu s

theorem runCalls_allCalm {rt : Runtime} (hr : rt.Resolves) :
    ∀ (run : List (Tid × Call)) (s : St), s.AllCalm → (∀ p ∈ run, p.2.checksExceptions = true) →
      (runCalls rt run s).AllCalm
  | [], _, hs, _ => hs
  | (t, c) :: run, _, hs, hc =>
    runCalls_allCalm hr run _ (Call.exec_allCalm hr t c (hc _ (List.mem_cons_self _ _)) hs)
      fun p hp => hc p (List.mem_cons_of_mem _ hp)

/-- **Exception discipline of the checked calls.**  Under a runtime whose lookups and string
conversions succeed and whose constructors return normally, but whose threads may fail to attach,
whose allocations may fail and whose managed methods may throw: every C API call other than the four
getters, `neon_client_is_connected` and `neon_client_set_auto_ping`, started with no exception
pending on its thread, returns with none, and makes no request outside the exception-safe functions
while one is pending.  So along any interleaving of such calls, no exception is ever left pending on
any thread and the rule is never broken. -/
theorem exception_discipline (rt : Runtime) (hr : rt.Resolves) :
    (∀ (t : Tid) (c : Call) (s : St), c.checksExceptions = true → s.Calm t →
      (c.exec rt t s).2.Calm t) ∧
    (∀ (run : List (Tid × Call)) (s : St), (∀ u, s.pending u = false) → s.RuleOk →
      (∀ p ∈ run, p.2.checksExceptions = true) →
      (∀ u, (runCalls rt run s).pending u = false) ∧ (runCalls rt run s).RuleOk) :=
  ⟨fun t c s hc hs => Call.exec_calm hr t c hc s hs,
    fun run s hp hs hc => runCalls_allCalm hr run s ⟨hp, hs⟩ hc⟩

/-- Under the runtime whose managed `int` methods all throw, a client's `processPackets` on thread `0`
and a `sendPing` on thread `1` leave no exception pending anywhere. -/
theorem exception_discipline_throwing :
    Runtime.throwing.Resolves ∧ (∀ u, (runCalls .throwing
      [(0, .clientProcessPackets 1), (1, .clientSendPing 1)] { jvm := some 1 }).pending u = false) :=
  have hr : Runtime.throwing.Resolves := ⟨fun _ => rfl, fun _ => rfl, fun _ => rfl, fun _ => rfl⟩
  ⟨hr, ((exception_discipline .throwing hr).2 _ _ (fun _ => rfl) (fun _ h => absurd h (List.not_mem_nil _))
    (by decide)).1⟩

/-! ## Which calls leak an exception -/

/-- A runtime under which every lookup, conversion and allocation succeeds, but every managed method
throws. -/
def Runtime.allThrowing : Runtime :=
  { Runtime.cooperative with
    callVoidMethod := fun _ => false
    callIntMethod := fun _ => (0, false)
    callBooleanMethod := fun _ => (false, false) }

theorem Runtime.allThrowing_resolves : Runtime.allThrowing.Resolves :=
  ⟨fun _ => rfl, fun _ => rfl, fun _ => rfl, fun _ => rfl⟩

/-- The handle a call is made on; `none` for the two constructors and `neon_get_last_error`. -/
def Call.handle? : Call → Option Nat
  | .clientConnect c .. | .clientProcessPackets c | .clientGetId c | .clientGetSessionId c
  | .clientIsConnected c | .clientSendPing c | .clientSetAutoPing c _ | .clientSetCallback _ c _
  | .clientFree c => some c
  | .hostStart h | .hostProcessPackets h | .hostGetSessionId h | .hostGetClientCount h
  | .hostSetCallback _ h _ | .hostFree h => some h
  | .clientNew _ | .hostNew .. | .getLastError => none

end ProjectNeon
