import ProjectNeon.ErrorChannel
import ProjectNeon.Queries

/-!
# Which calls report

Every path of every function is followed once, against the error channel of
`ProjectNeon.ErrorChannel`:

* the JNI families and the two JNI constructors record at most one message, always one of the
  library's (`step_intQuery`, `reports_checkedVoidCall`, `NeonClientJNI.neonClientNew_reports`, ...);
* `get_jni_env` and every forwarding function record a message exactly when they return their
  failure value, provided the JNI function they forward to does (`reports_forward`);
* the calls with no failure value (`Call.silent`) write nothing at all, once the thread is bound and
  the method lookups succeed (`Call.exec_silent`);
* hence every call of the C API is one `ErrView.Step` (`Call.exec_step`), a run keeps the channel
  consistent (`runCalls_consistent`), and `last_error_channel` collects what a caller of
  `neon_get_last_error` can rely on.
-/

namespace ProjectNeon

open NeonClientJNI NeonHostJNI

/-- A computation on thread `t` that is one step of the channel from every state. -/
def Steps {α : Type} (t : Tid) (m : Jni α) : Prop := ∀ s : St, ErrView.Step t s.errView (m s).2.errView

/-- A computation on thread `t` that, from every state, records a message exactly when it returns
`failure`. -/
def Reports {α : Type} [DecidableEq α] (t : Tid) (failure : α) (m : Jni α) : Prop :=
  ∀ s : St, s.Answers t failure (m s)

theorem Reports.steps {α : Type} [DecidableEq α] {t : Tid} {failure : α} {m : Jni α}
    (h : Reports t failure m) : Steps t m :=
  fun s => (h s).step

/-- A computation that, from every state, leaves the error channel as it found it. -/
def KeepsChannel {α : Type} (m : Jni α) : Prop := ∀ s : St, (m s).2.errView = s.errView

theorem KeepsChannel.steps {α : Type} {t : Tid} {m : Jni α} (h : KeepsChannel m) : Steps t m :=
  fun s => .inl (h s)

theorem St.Answers.transport {α : Type} [DecidableEq α] {t : Tid} {failure : α} {s s₁ s' : St}
    {r : α × St} (h₁ : s₁.errView = s.errView) (h₂ : s'.errView = r.2.errView)
    (h : s₁.Answers t failure r) : s.Answers t failure (r.1, s') := by
  rw [St.answers_mk, h₂, ← h₁]
  exact h

/-! ## The JNI families -/

section Families

variable (rt : Runtime) (t : Tid)

theorem step_intQuery (k : Kind) (invalid name notFound : String) (failure : JInt) (ptr : Nat)
    (hi : invalid ∈ errorMessages) (hn : notFound ∈ errorMessages) :
    Steps t (intQuery rt ⟨t⟩ k invalid name notFound failure ptr) := by
  intro s
  simp only [intQuery, Jni.ite_apply, setError_bind, Jni.pure_apply, Jni.bind_assoc, readSt_bind,
    getMethodID_bind, callIntMethod_apply, apply_ite Prod.snd, apply_ite St.errView,
    apply_ite (ErrView.Step t s.errView), St.errView_recordError, St.errView_log,
    St.errView_setPending, ErrView.step_refl, ErrView.step_record hi, ErrView.step_record hn,
    ite_self]

theorem step_checkedIntCall (k : Kind) (invalid name notFound exception : String) (ptr : Nat)
    (hi : invalid ∈ errorMessages) (hn : notFound ∈ errorMessages)
    (he : exception ∈ errorMessages) :
    Steps t (checkedIntCall rt ⟨t⟩ k invalid name notFound exception ptr) := by
  intro s
  simp only [checkedIntCall, Jni.ite_apply, setError_bind, Jni.pure_apply, Jni.bind_assoc,
    readSt_bind, getMethodID_bind, callIntMethod_bind, exceptionCheck_bind, exceptionDescribe_bind,
    exceptionClear_bind, apply_ite Prod.snd, apply_ite St.errView,
    apply_ite (ErrView.Step t s.errView), St.errView_recordError, St.errView_log,
    St.errView_setPending, ErrView.step_refl, ErrView.step_record hi, ErrView.step_record hn,
    ErrView.step_record he, ite_self]

/-- `process_packets` fails exactly when it reports, as long as the managed method it calls never
returns `-1` itself. -/
theorem reports_checkedIntCall (k : Kind) (invalid name notFound exception : String) (ptr : Nat)
    (hi : invalid ∈ errorMessages) (hn : notFound ∈ errorMessages)
    (he : exception ∈ errorMessages)
    (hr : ∀ u obj p tr, (rt.callIntMethod (.jni u (.callIntMethod obj ⟨name, "()I"⟩) p :: tr)).1 ≠ -1) :
    Reports t (-1) (checkedIntCall rt ⟨t⟩ k invalid name notFound exception ptr) := by
  intro s
  simp only [checkedIntCall, Jni.ite_apply, setError_bind, Jni.pure_apply, Jni.bind_assoc,
    readSt_bind, getMethodID_bind, callIntMethod_bind, exceptionCheck_bind, exceptionDescribe_bind,
    exceptionClear_bind, apply_ite (St.Answers t (-1 : JInt) s), St.answers_mk,
    St.errView_recordError, St.errView_log, St.errView_setPending, St.log_trace, hr, decide_True,
    decide_False, ErrView.outcome_true_record hi, ErrView.outcome_true_record hn,
    ErrView.outcome_true_record he, ErrView.outcome_false_iff, ite_self]

theorem reports_checkedVoidCall (k : Kind) (invalid name notFound exception : String) (ptr : Nat)
    (hi : invalid ∈ errorMessages) (hn : notFound ∈ errorMessages)
    (he : exception ∈ errorMessages) :
    Reports t false (checkedVoidCall rt ⟨t⟩ k invalid name notFound exception ptr) := by
  intro s
  simp only [checkedVoidCall, Jni.ite_apply, setError_bind, Jni.pure_apply, Jni.bind_assoc,
    readSt_bind, getMethodID_bind, callVoidMethod_bind, exceptionCheck_bind,
    exceptionDescribe_bind, exceptionClear_bind, apply_ite (St.Answers t false s), St.answers_mk,
    St.errView_recordError, St.errView_log, St.errView_setPending, decide_True,
    Bool.true_eq_false, decide_False, ErrView.outcome_true_record hi,
    ErrView.outcome_true_record hn, ErrView.outcome_true_record he, ErrView.outcome_false_iff,
    ite_self]

theorem keepsChannel_freeHandle (k : Kind) (ptr : Nat) : KeepsChannel (freeHandle rt ⟨t⟩ k ptr) := by
  intro s
  simp only [freeHandle, Jni.ite_apply, Jni.pure_apply, Jni.bind_assoc, readSt_bind,
    getMethodID_bind, callVoidMethod_bind, exceptionCheck_bind, Jni.ite_bind, exceptionClear_bind,
    Jni.pure_bind, deleteGlobalRef_bind, free_apply]
  split_ifs <;> simp only [St.errView_log, St.errView_setPending, St.errView_eraseGlobal,
    St.errView_setClient, St.errView_setHost]

theorem keepsChannel_neonClientIsConnected (ptr : Nat) :
    KeepsChannel (NeonClientJNI.neonClientIsConnected rt ⟨t⟩ ptr) := by
  intro s
  simp only [NeonClientJNI.neonClientIsConnected, Jni.ite_apply, Jni.pure_apply, Jni.bind_assoc,
    readSt_bind, getMethodID_bind, callBooleanMethod_apply, apply_ite Prod.snd,
    apply_ite St.errView, St.errView_log, St.errView_setPending, ite_self]

theorem step_neonClientSetAutoPing (ptr : Nat) (enabled : Bool) :
    Steps t (NeonClientJNI.neonClientSetAutoPing rt ⟨t⟩ ptr enabled) := by
  have hi : "Invalid client handle" ∈ errorMessages := by simp only [errorMessages, List.mem_cons, or_true, true_or]
  have hn : "Failed to find setAutoPing method" ∈ errorMessages := by simp only [errorMessages, List.mem_cons, or_true, true_or]
  intro s
  simp only [NeonClientJNI.neonClientSetAutoPing, Jni.ite_apply, setError_apply, Jni.bind_assoc,
    readSt_bind, getMethodID_bind, callVoidMethod_apply, apply_ite Prod.snd, apply_ite St.errView,
    apply_ite (ErrView.Step t s.errView), St.errView_recordError, St.errView_log,
    St.errView_setPending, ErrView.step_refl, ErrView.step_record hi, ErrView.step_record hn,
    ite_self]

theorem step_neonClientSetCallback (e : ClientEvent) (ptr callback : Nat) :
    Steps t (NeonClientJNI.neonClientSetCallback ⟨t⟩ e ptr callback) := by
  intro s
  unfold NeonClientJNI.neonClientSetCallback
  split
  · exact ErrView.step_record (by simp only [errorMessages, List.mem_cons, or_true, true_or])
  · exact ErrView.step_refl

theorem step_neonHostSetCallback (e : HostEvent) (ptr callback : Nat) :
    Steps t (NeonHostJNI.neonHostSetCallback ⟨t⟩ e ptr callback) := by
  intro s
  unfold NeonHostJNI.neonHostSetCallback
  split
  · exact ErrView.step_record (by simp only [errorMessages, List.mem_cons, or_true, true_or])
  · exact ErrView.step_refl

theorem NeonClientJNI.neonClientConnect_reports (ptr : Nat) (sessionId : JInt) (relayAddr : Ref) :
    Reports t false (NeonClientJNI.neonClientConnect rt ⟨t⟩ ptr sessionId relayAddr) := by
  intro s
  simp only [NeonClientJNI.neonClientConnect, Jni.bind_assoc, Jni.pure_bind, readSt_bind,
    getStringUTFChars_bind, Jni.ite_apply, getMethodID_bind, newStringUTF_bind,
    callVoidMethod_bind, deleteLocalRef_bind, releaseStringUTFChars_bind, exceptionCheck_bind,
    exceptionDescribe_bind, exceptionClear_bind, setError_bind, setError_apply, Jni.pure_apply,
    apply_ite (St.Answers t false s), St.answers_mk, St.errView_recordError, St.errView_log,
    St.errView_setPending, St.errView_pin, St.errView_unpin, St.errView_pushLocal,
    St.errView_bump, St.errView_eraseLocal, decide_True, Bool.true_eq_false, decide_False,
    ErrView.outcome_false_iff, ite_self]
  simp only [ErrView.outcome_true_record, errorMessages, List.mem_cons, or_true, true_or, ite_self]

/-! Past the `NULL` check, with their method resolved, the JNI functions of the calls that have no
failure value write nothing. -/

section Resolved

variable {rt} (hm : ∀ tr, rt.getMethodID tr = true) {ptr : Nat} (hp : ptr ≠ 0)
include hm hp

theorem keepsChannel_intQuery (k : Kind) (invalid name notFound : String) (failure : JInt) :
    KeepsChannel (intQuery rt ⟨t⟩ k invalid name notFound failure ptr) := by
  intro s
  simp only [intQuery, hp, if_false, Jni.bind_assoc, readSt_bind, getMethodID_bind, hm, if_true,
    Jni.pure_bind, callIntMethod_apply, apply_ite Prod.snd, apply_ite St.errView, St.errView_log,
    St.errView_setPending, ite_self]

theorem keepsChannel_neonClientSetAutoPing (enabled : Bool) :
    KeepsChannel (NeonClientJNI.neonClientSetAutoPing rt ⟨t⟩ ptr enabled) := by
  intro s
  simp only [NeonClientJNI.neonClientSetAutoPing, hp, if_false, Jni.bind_assoc, readSt_bind,
    getMethodID_bind, hm, if_true, callVoidMethod_apply, apply_ite Prod.snd, apply_ite St.errView,
    St.errView_log, St.errView_setPending, ite_self]

omit hm in
theorem keepsChannel_neonClientSetCallback (e : ClientEvent) (callback : Nat) :
    KeepsChannel (NeonClientJNI.neonClientSetCallback ⟨t⟩ e ptr callback) := by
  intro s
  simp only [NeonClientJNI.neonClientSetCallback, hp, if_false, modifyClient_apply,
    St.errView_setClient]

omit hm in
theorem keepsChannel_neonHostSetCallback (e : HostEvent) (callback : Nat) :
    KeepsChannel (NeonHostJNI.neonHostSetCallback ⟨t⟩ e ptr callback) := by
  intro s
  simp only [NeonHostJNI.neonHostSetCallback, hp, if_false, modifyHost_apply, St.errView_setHost]

end Resolved

end Families

/-! ## The JNI constructors -/

section Constructors

variable (rt : Runtime) (t : Tid)

theorem NeonClientJNI.neonClientNew_reports (name : Option Ref) :
    Reports t 0 (NeonClientJNI.neonClientNew rt ⟨t⟩ name) := by
  intro s
  cases name with
  | none =>
    refine St.answers_recordError ?_ rfl
    simp only [errorMessages, List.mem_cons, or_true, true_or]
  | some name =>
  simp only [NeonClientJNI.neonClientNew, Jni.bind_assoc, getStringUTFChars_bind]
  split
  case isFalse =>
    refine St.answers_recordError ?_ (by simp)
    simp only [errorMessages, List.mem_cons, or_true, true_or]
  simp only [Jni.pure_bind, readSt_bind, getMethodID_bind]
  split
  case isFalse =>
    refine St.answers_recordError ?_ (by simp)
    simp only [errorMessages, List.mem_cons, or_true, true_or]
  simp only [Jni.pure_bind, newObject_bind]
  split
  case isFalse =>
    refine St.answers_recordError ?_ (by simp)
    simp only [errorMessages, List.mem_cons, or_true, true_or]
  simp only [Jni.pure_bind, malloc_bind]
  split
  case isFalse =>
    refine St.answers_recordError ?_ (by simp)
    simp only [errorMessages, List.mem_cons, or_true, true_or]
  case isTrue hm =>
  simp only [if_neg hm.1, newGlobalRef_bind]
  split
  · exact St.answers_of_ne hm.1 (by simp)
  · exact St.answers_of_ne hm.1 (by simp)

theorem NeonHostJNI.neonHostNew_reports (sessionId : JInt) (relayAddr : Option Ref) :
    Reports t 0 (NeonHostJNI.neonHostNew rt ⟨t⟩ sessionId relayAddr) := by
  intro s
  cases relayAddr with
  | none =>
    refine St.answers_recordError ?_ rfl
    simp only [errorMessages, List.mem_cons, or_true, true_or]
  | some relayAddr =>
  simp only [NeonHostJNI.neonHostNew, Jni.bind_assoc, getStringUTFChars_bind]
  split
  case isFalse =>
    refine St.answers_recordError ?_ (by simp)
    simp only [errorMessages, List.mem_cons, or_true, true_or]
  simp only [Jni.ite_apply]
  split
  case isTrue =>
    refine St.answers_recordError ?_ (by simp)
    simp only [errorMessages, List.mem_cons, or_true, true_or]
  simp only [readSt_bind, getMethodID_bind]
  split
  case isFalse =>
    refine St.answers_recordError ?_ (by simp)
    simp only [errorMessages, List.mem_cons, or_true, true_or]
  simp only [Jni.pure_bind, newStringUTF_bind]
  split
  case isFalse =>
    refine St.answers_recordError ?_ (by simp)
    simp only [errorMessages, List.mem_cons, or_true, true_or]
  simp only [Jni.pure_bind, newObject_bind]
  split
  case isFalse =>
    refine St.answers_recordError ?_ (by simp)
    simp only [errorMessages, List.mem_cons, or_true, true_or]
  simp only [deleteLocalRef_bind, releaseStringUTFChars_bind, malloc_bind]
  split
  case isFalse =>
    refine St.answers_recordError ?_ (by simp)
    simp only [errorMessages, List.mem_cons, or_true, true_or]
  case isTrue hm =>
  simp only [if_neg hm.1, newGlobalRef_bind]
  split
  · exact St.answers_of_ne hm.1 (by simp)
  · exact St.answers_of_ne hm.1 (by simp)

end Constructors

/-! ## The C API -/

section Api

variable (rt : Runtime) (t : Tid)

/-- `get_jni_env` writes nothing when it binds the thread. -/
theorem getJniEnv_errView (s : St) (hb : (getJniEnv rt t s).1.isSome) :
    (getJniEnv rt t s).2.errView = s.errView := by
  obtain ⟨evs, hevs, h | ⟨msg, -, h⟩⟩ := getJniEnv_spec rt t s <;> rw [h] at hb ⊢
  · exact St.errView_bindRequests s t hevs
  · simp at hb

/-- A forwarding function that records nothing for a `NULL` handle writes nothing once
`get_jni_env` binds the thread, when its JNI function writes nothing past the `NULL` check. -/
theorem forward_keepsChannel {α : Type} (failure : α) (ptr : Nat) {f : JNIEnv → Jni α}
    (hf : ptr ≠ 0 → KeepsChannel (f ⟨t⟩)) (s : St) (hb : (getJniEnv rt t s).1.isSome) :
    (forward rt t none failure ptr f s).2.errView = s.errView := by
  by_cases hp : ptr = 0
  · subst hp
    rfl
  · rw [forward_of_binds rt t s _ _ ptr f hp hb, hf hp, getJniEnv_errView rt t s hb]

/-- A forwarding function that records `msg` for a `NULL` handle reports as its JNI function does. -/
theorem reports_forward {α : Type} [DecidableEq α] (msg : String) (hm : msg ∈ errorMessages)
    (failure : α) (ptr : Nat) {f : JNIEnv → Jni α} (hf : Reports t failure (f ⟨t⟩)) :
    Reports t failure (forward rt t (some msg) failure ptr f) := by
  intro s
  unfold ProjectNeon.forward
  split
  · exact St.answers_recordError hm rfl
  · obtain ⟨evs, hevs, h | ⟨m, hm', h⟩⟩ := getJniEnv_spec rt t s <;>
      simp only [getJniEnv_bind, h, Jni.pure_apply]
    · exact St.Answers.transport (St.errView_bindRequests s t hevs) rfl (hf _)
    · exact St.answers_recordError (bindErrors_subset hm') (St.errView_bindRequests s t hevs)

/-- A forwarding function is one step when its JNI function is. -/
theorem step_forward {α : Type} (nullError : Option String)
    (hn : ∀ msg ∈ nullError, msg ∈ errorMessages) (failure : α) (ptr : Nat) {f : JNIEnv → Jni α}
    (hf : Steps t (f ⟨t⟩)) : Steps t (forward rt t nullError failure ptr f) := by
  intro s
  unfold ProjectNeon.forward
  split
  · cases nullError with
    | none => exact ErrView.step_refl
    | some msg => exact ErrView.step_record (hn msg rfl)
  · obtain ⟨evs, hevs, h | ⟨m, hm, h⟩⟩ := getJniEnv_spec rt t s <;>
      simp only [getJniEnv_bind, h, Jni.pure_apply, St.errView_recordError,
        St.errView_bindRequests s t hevs]
    · simpa only [St.errView_bindRequests s t hevs] using hf { s with trace := evs ++ s.trace }
    · exact ErrView.step_record (bindErrors_subset hm)

theorem neonClientNew_reports (name : CString) : Reports t 0 (neonClientNew rt t name) := by
  intro s
  obtain ⟨evs, hevs, h | ⟨msg, hm, h⟩⟩ := getJniEnv_spec rt t s
  · simp only [neonClientNew, getJniEnv_bind, h, newStringUTF_bind]
    split
    case isFalse =>
      refine St.answers_recordError ?_ (by simp [St.errView_bindRequests s t hevs])
      simp only [errorMessages, List.mem_cons, or_true, true_or]
    simp only [Jni.bind_apply (NeonClientJNI.neonClientNew _ _ _), deleteLocalRef_bind,
      Jni.pure_apply]
    exact St.Answers.transport
      (by simp [St.errView_bindRequests s t hevs]) (by simp)
      (NeonClientJNI.neonClientNew_reports rt t _ _)
  · simp only [neonClientNew, getJniEnv_bind, h, Jni.pure_apply]
    exact St.answers_recordError (bindErrors_subset hm) (St.errView_bindRequests s t hevs)

theorem neonHostNew_reports (sessionId : UInt32) (relayAddr : CString) :
    Reports t 0 (neonHostNew rt t sessionId relayAddr) := by
  intro s
  obtain ⟨evs, hevs, h | ⟨msg, hm, h⟩⟩ := getJniEnv_spec rt t s
  · simp only [neonHostNew, getJniEnv_bind, h, newStringUTF_bind]
    split
    case isFalse =>
      refine St.answers_recordError ?_ (by simp [St.errView_bindRequests s t hevs])
      simp only [errorMessages, List.mem_cons, or_true, true_or]
    simp only [Jni.bind_apply (NeonHostJNI.neonHostNew _ _ _ _), deleteLocalRef_bind,
      Jni.pure_apply]
    exact St.Answers.transport
      (by simp [St.errView_bindRequests s t hevs]) (by simp)
      (NeonHostJNI.neonHostNew_reports rt t _ _ _)
  · simp only [neonHostNew, getJniEnv_bind, h, Jni.pure_apply]
    exact St.answers_recordError (bindErrors_subset hm) (St.errView_bindRequests s t hevs)

theorem neonClientConnect_reports (client : Nat) (sessionId : UInt32) (relayAddr : CString) :
    Reports t false (neonClientConnect rt t client sessionId relayAddr) := by
  refine reports_forward rt t _ (by simp only [errorMessages, List.mem_cons, or_true, true_or]) _ _ fun s => ?_
  simp only [newStringUTF_bind]
  split
  case isFalse =>
    refine St.answers_recordError ?_ (by simp)
    simp only [errorMessages, List.mem_cons, or_true, true_or]
  simp only [Jni.bind_apply (NeonClientJNI.neonClientConnect _ _ _ _ _), deleteLocalRef_bind,
    Jni.pure_apply]
  exact St.Answers.transport (by simp) (by simp)
    (NeonClientJNI.neonClientConnect_reports rt t _ _ _ _)

theorem neonClientSendPing_reports (client : Nat) :
    Reports t false (neonClientSendPing rt t client) := by
  refine reports_forward rt t _ ?_ _ _ (reports_checkedVoidCall rt t _ _ _ _ _ client ?_ ?_ ?_) <;>
    simp only [errorMessages, List.mem_cons, or_true, true_or]

theorem neonHostStart_reports (host : Nat) : Reports t false (neonHostStart rt t host) := by
  refine reports_forward rt t _ ?_ _ _ (reports_checkedVoidCall rt t _ _ _ _ _ host ?_ ?_ ?_) <;>
    simp only [errorMessages, List.mem_cons, or_true, true_or]

section ProcessPackets

variable {rt} (hr : ∀ u obj p tr,
  (rt.callIntMethod (.jni u (.callIntMethod obj ⟨"processPackets", "()I"⟩) p :: tr)).1 ≠ -1)
include hr

theorem neonClientProcessPackets_reports (client : Nat) :
    Reports t (-1) (neonClientProcessPackets rt t client) := by
  refine reports_forward rt t _ ?_ _ _ (reports_checkedIntCall rt t _ _ _ _ _ client ?_ ?_ ?_ hr) <;>
    simp only [errorMessages, List.mem_cons, or_true, true_or]

theorem neonHostProcessPackets_reports (host : Nat) :
    Reports t (-1) (neonHostProcessPackets rt t host) := by
  refine reports_forward rt t _ ?_ _ _ (reports_checkedIntCall rt t _ _ _ _ _ host ?_ ?_ ?_ hr) <;>
    simp only [errorMessages, List.mem_cons, or_true, true_or]

end ProcessPackets

/-- Every call of the C API is one step of the channel. -/
theorem Call.exec_step (c : Call) : Steps t (c.exec rt t) := by
  have map {α : Type} {m : Jni α} (g : α → Ret) (h : Steps t m) : Steps t (do return g (← m)) := h
  cases c with
  | clientNew name => exact map _ (neonClientNew_reports rt t name).steps
  | clientConnect c sid addr => exact map _ (neonClientConnect_reports rt t c sid addr).steps
  | clientProcessPackets c =>
    refine map _ (step_forward rt t _ ?_ _ c (step_checkedIntCall rt t _ _ _ _ _ c ?_ ?_ ?_)) <;>
      simp only [Option.mem_def, Option.some.injEq, forall_eq', errorMessages, List.mem_cons,
        or_true, true_or]
  | clientGetId c =>
    refine map _ (step_forward rt t none (by simp) _ c fun s => step_intQuery rt t _ _ _ _ _ c ?_ ?_ s) <;>
      simp only [errorMessages, List.mem_cons, or_true, true_or]
  | clientGetSessionId c =>
    refine map _ (step_forward rt t none (by simp) _ c fun s => step_intQuery rt t _ _ _ _ _ c ?_ ?_ s) <;>
      simp only [errorMessages, List.mem_cons, or_true, true_or]
  | clientIsConnected c =>
    exact map _ (step_forward rt t none (by simp) _ c (keepsChannel_neonClientIsConnected rt t c).steps)
  | clientSendPing c => exact map _ (neonClientSendPing_reports rt t c).steps
  | clientSetAutoPing c en =>
    exact map _ (step_forward rt t none (by simp) _ c (step_neonClientSetAutoPing rt t c en))
  | clientSetCallback e c cb =>
    exact map _ (step_forward rt t none (by simp) _ c (step_neonClientSetCallback t e c cb))
  | clientFree c => exact map _ (step_forward rt t none (by simp) _ c (keepsChannel_freeHandle rt t _ c).steps)
  | hostNew sid addr => exact map _ (neonHostNew_reports rt t sid addr).steps
  | hostStart h => exact map _ (neonHostStart_reports rt t h).steps
  | hostProcessPackets h =>
    refine map _ (step_forward rt t _ ?_ _ h (step_checkedIntCall rt t _ _ _ _ _ h ?_ ?_ ?_)) <;>
      simp only [Option.mem_def, Option.some.injEq, forall_eq', errorMessages, List.mem_cons,
        or_true, true_or]
  | hostGetSessionId h =>
    refine map _ (step_forward rt t none (by simp) _ h fun s => step_intQuery rt t _ _ _ _ _ h ?_ ?_ s) <;>
      simp only [errorMessages, List.mem_cons, or_true, true_or]
  | hostGetClientCount h =>
    refine map _ (step_forward rt t none (by simp) _ h fun s => step_intQuery rt t _ _ _ _ _ h ?_ ?_ s) <;>
      simp only [errorMessages, List.mem_cons, or_true, true_or]
  | hostSetCallback e h cb =>
    exact map _ (step_forward rt t none (by simp) _ h (step_neonHostSetCallback t e h cb))
  | hostFree h => exact map _ (step_forward rt t none (by simp) _ h (keepsChannel_freeHandle rt t _ h).steps)
  | getLastError => exact map _ fun s => by rw [neonGetLastError_apply]; exact ErrView.step_refl

/-- The calls that have no failure value of their own: the four getters, `neon_client_is_connected`,
`neon_client_set_auto_ping`, the callback setters, the two frees and `neon_get_last_error`. -/
def Call.silent : Call → Bool
  | .clientGetId _ | .clientGetSessionId _ | .clientIsConnected _ | .clientSetAutoPing _ _
  | .clientSetCallback .. | .clientFree _ | .hostGetSessionId _ | .hostGetClientCount _
  | .hostSetCallback .. | .hostFree _ | .getLastError => true
  | _ => false

/-- A call without a failure value writes nothing once `get_jni_env` has bound the thread and the
method it calls has resolved: it has no way to report, and it does not. -/
theorem Call.exec_silent {rt : Runtime} (hm : ∀ tr, rt.getMethodID tr = true) (t : Tid) (c : Call)
    (hc : c.silent) (s : St) (hb : (getJniEnv rt t s).1.isSome) :
    (c.exec rt t s).2.errView = s.errView := by
  have map {α : Type} {m : Jni α} (g : α → Ret) (h : (m s).2.errView = s.errView) :
      ((do return g (← m)) s).2.errView = s.errView := h
  have unit {m : Jni Unit} (h : (m s).2.errView = s.errView) :
      ((do m; return Ret.unit) s).2.errView = s.errView := h
  cases c with
  | clientGetId p =>
    refine map _ (forward_keepsChannel rt t _ p (fun hp s => ?_) s hb)
    exact keepsChannel_intQuery t hm hp _ _ _ _ _ s
  | clientGetSessionId p =>
    refine map _ (forward_keepsChannel rt t _ p (fun hp s => ?_) s hb)
    exact keepsChannel_intQuery t hm hp _ _ _ _ _ s
  | clientIsConnected p =>
    refine map _ (forward_keepsChannel rt t _ p (fun _ => ?_) s hb)
    exact keepsChannel_neonClientIsConnected rt t p
  | clientSetAutoPing p en =>
    refine unit (forward_keepsChannel rt t _ p (fun hp => ?_) s hb)
    exact keepsChannel_neonClientSetAutoPing t hm hp en
  | clientSetCallback e p f =>
    refine unit (forward_keepsChannel rt t _ p (fun hp => ?_) s hb)
    exact keepsChannel_neonClientSetCallback t hp e f
  | clientFree p =>
    refine unit (forward_keepsChannel rt t _ p (fun _ => ?_) s hb)
    exact keepsChannel_freeHandle rt t _ p
  | hostGetSessionId p =>
    refine map _ (forward_keepsChannel rt t _ p (fun hp s => ?_) s hb)
    exact keepsChannel_intQuery t hm hp _ _ _ _ _ s
  | hostGetClientCount p =>
    refine map _ (forward_keepsChannel rt t _ p (fun hp s => ?_) s hb)
    exact keepsChannel_intQuery t hm hp _ _ _ _ _ s
  | hostSetCallback e p f =>
    refine unit (forward_keepsChannel rt t _ p (fun hp => ?_) s hb)
    exact keepsChannel_neonHostSetCallback t hp e f
  | hostFree p =>
    refine unit (forward_keepsChannel rt t _ p (fun _ => ?_) s hb)
    exact keepsChannel_freeHandle rt t _ p
  | getLastError => exact map _ (by rw [neonGetLastError_apply])
  | _ => cases hc

end Api

/-! ## Runs -/

/-- Along any interleaving of calls, every buffer keeps holding its thread's last message. -/
theorem runCalls_consistent (rt : Runtime) :
    ∀ (run : List (Tid × Call)) (s : St), s.errView.Consistent →
      (runCalls rt run s).errView.Consistent
  | [], _, h => h
  | (t, c) :: run, s, h => runCalls_consistent rt run _ (h.step (Call.exec_step rt t c s))

theorem neonGetLastError_of_consistent (t : Tid) (s : St) (h : s.errView.Consistent) :
    (neonGetLastError t s).1 = (s.errView.lastError t).map fun m => (cBytes m).take 511 := by
  rw [neonGetLastError_apply]
  exact h.read t

/-- The channel of a process that has written no message yet is consistent. -/
theorem St.errView_consistent (s : St) (hb : s.errorBuffer = fun _ _ => 0)
    (ht : s.trace.filterMap Event.message? = []) : s.errView.Consistent := by
  simpa only [St.errView, hb, ht] using ErrView.consistent_empty

/-- What `neon_get_last_error` reports along any interleaving of C API calls: from a process that has
written no message, every thread's channel stays consistent, so `neon_get_last_error` returns `NULL`
until the thread records a message and then the first 511 bytes of the last one; each call records at
most one message, only on its own thread; the constructors, `connect`, `send_ping`, `start` and
(under a managed `processPackets` that never returns `-1`) `process_packets` record one exactly when
they return their failure value, so never when they succeed; and the calls without a failure value
(the getters, `is_connected`, `set_auto_ping`, the setters, the frees, `neon_get_last_error`) record
none once `get_jni_env` has bound the thread and their method lookup resolves. -/
theorem last_error_channel (rt : Runtime) :
    (∀ s : St, s.errorBuffer = (fun _ _ => 0) → s.trace.filterMap Event.message? = [] →
      s.errView.Consistent) ∧
    (∀ run s, s.errView.Consistent → (runCalls rt run s).errView.Consistent) ∧
    (∀ t s, s.errView.Consistent →
      (neonGetLastError t s).1 = (s.errView.lastError t).map fun m => (cBytes m).take 511) ∧
    (∀ t (c : Call), Steps t (c.exec rt t)) ∧
    (∀ t name, Reports t 0 (neonClientNew rt t name)) ∧
    (∀ t sessionId relayAddr, Reports t 0 (neonHostNew rt t sessionId relayAddr)) ∧
    (∀ t client sessionId relayAddr,
      Reports t false (neonClientConnect rt t client sessionId relayAddr)) ∧
    (∀ t client, Reports t false (neonClientSendPing rt t client)) ∧
    (∀ t host, Reports t false (neonHostStart rt t host)) ∧
    ((∀ u obj p tr,
        (rt.callIntMethod (.jni u (.callIntMethod obj ⟨"processPackets", "()I"⟩) p :: tr)).1 ≠ -1) →
      ∀ t ptr, Reports t (-1) (neonClientProcessPackets rt t ptr) ∧
        Reports t (-1) (neonHostProcessPackets rt t ptr)) ∧
    ((∀ tr, rt.getMethodID tr = true) → ∀ t s (c : Call), c.silent →
      (getJniEnv rt t s).1.isSome → (c.exec rt t s).2.errView = s.errView) :=
  ⟨St.errView_consistent, runCalls_consistent rt, fun t s h => neonGetLastError_of_consistent t s h,
    fun t c => Call.exec_step rt t c, neonClientNew_reports rt, neonHostNew_reports rt,
    neonClientConnect_reports rt, neonClientSendPing_reports rt, neonHostStart_reports rt,
    fun hr t ptr => ⟨neonClientProcessPackets_reports t hr ptr,
      neonHostProcessPackets_reports t hr ptr⟩,
    fun hm t s c hc hb => Call.exec_silent hm t c hc s hb⟩

/-- The address `"a:1"`. -/
def addrA1 : CString := ⟨[97, 58, 49], by decide⟩

/-- Under the cooperative runtime, a `NULL` client passed to `neon_client_connect` on thread `0` is
reported there, and thread `1` still reads `NULL`. -/
theorem last_error_channel_cooperative :
    (∀ u obj p tr, (Runtime.cooperative.callIntMethod
        (.jni u (.callIntMethod obj ⟨"processPackets", "()I"⟩) p :: tr)).1 ≠ -1) ∧
    (neonGetLastError 0 (runCalls .cooperative [(0, .clientConnect 0 7 addrA1)] { jvm := some 1 })).1 =
      some (cBytes "Invalid client handle") ∧
    (neonGetLastError 1 (runCalls .cooperative [(0, .clientConnect 0 7 addrA1)] { jvm := some 1 })).1 =
      none ∧
    (∀ tr, Runtime.cooperative.getMethodID tr = true) ∧
    ((Call.clientGetId 1).exec .cooperative 0 { jvm := some 1 }).2.errView =
      ({ jvm := some 1 } : St).errView := by
  obtain ⟨hinit, hrun, hread, -, -, -, -, -, -, -, hsilent⟩ := last_error_channel .cooperative
  have hc := hrun [(0, .clientConnect 0 7 addrA1)] _ (hinit { jvm := some 1 } rfl rfl)
  refine ⟨fun _ _ _ _ => show (0 : JInt) ≠ -1 by decide, ?_, ?_, fun _ => rfl,
    hsilent (fun _ => rfl) 0 _ _ rfl rfl⟩
  · rw [hread 0 _ hc]
    decide
  · rw [hread 1 _ hc]
    decide

end ProjectNeon
