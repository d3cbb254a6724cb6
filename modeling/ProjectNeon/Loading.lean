import ProjectNeon.Run

/-!
# Loading and unloading

`JNI_OnLoad` stores the `JavaVM *` in `g_jvm` before it asks `GetEnv` for an environment, and caches
the two classes only after that.  Every `get_jni_env` tests `g_jvm` alone.

* `jniOnLoad_of_getEnv_failure`: when `GetEnv` fails, `JNI_OnLoad` returns `JNI_ERR` with `g_jvm`
  set and both class caches as they were; from the initial state that is a loaded virtual machine
  with no cached class, on which every later `get_jni_env` succeeds.
* `unloaded_library_inert`: while `g_jvm` is `NULL` every call fails before it reaches JNI, so a run
  of calls changes nothing but the error buffers and the `set_error` events of the trace.
* `unload_strands_handles`: `JNI_OnUnload` clears `g_jvm` whatever `GetEnv` answers, so no handle
  live at that point is ever freed afterwards.
-/

namespace ProjectNeon

/-- A `JNI_OnLoad` whose `GetEnv` fails returns `JNI_ERR`, but leaves `g_jvm` pointing at the
virtual machine and the class caches untouched. -/
theorem jniOnLoad_of_getEnv_failure (rt : Runtime) (vm : Nat) (t : Tid) (s : St)
    (he : rt.getEnv ((s.setJvm (some vm)).log t .getEnv).trace ≠ JNI_OK) :
    (jniOnLoad rt vm t s).1 = JNI_ERR ∧ (jniOnLoad rt vm t s).2.jvm = some vm ∧
      (jniOnLoad rt vm t s).2.neonClientClass = s.neonClientClass ∧
      (jniOnLoad rt vm t s).2.neonHostClass = s.neonHostClass := by
  simp only [jniOnLoad, modifySt_bind, Jni.bind_assoc, getEnv_bind, he, ne_eq, not_false_eq_true,
    if_true, Jni.pure_apply, St.log_jvm, St.setJvm_jvm, St.log_neonClientClass,
    St.setJvm_neonClientClass, St.log_neonHostClass, St.setJvm_neonHostClass, and_self]

/-- A runtime on which `GetEnv` fails with `JNI_EVERSION`, as on a virtual machine older than
`JNI_VERSION_1_8`. -/
def Runtime.oldVersion : Runtime := { Runtime.cooperative with getEnv := fun _ => -3 }

theorem jniOnLoad_of_getEnv_failure_initially :
    Runtime.oldVersion.getEnv ((({} : St).setJvm (some 1)).log 0 .getEnv).trace ≠ JNI_OK ∧
    (jniOnLoad .oldVersion 1 0 {}).1 = JNI_ERR ∧ (jniOnLoad .oldVersion 1 0 {}).2.jvm = some 1 ∧
      (jniOnLoad .oldVersion 1 0 {}).2.neonClientClass = none ∧
      (jniOnLoad .oldVersion 1 0 {}).2.neonHostClass = none :=
  ⟨by decide, jniOnLoad_of_getEnv_failure .oldVersion 1 0 {} (by decide)⟩

/-! ## An unloaded library -/

/-- The messages a call records without reaching JNI: no virtual machine, or a `NULL` handle. -/
def unloadedErrors : List String :=
  ["JVM not initialized", "Invalid client handle", "Invalid host handle"]

/-- `s'` is `s` after some `set_error`s of messages from `msgs`, on any threads, and nothing
else. -/
inductive St.OnlyErrors (msgs : List String) (s : St) : St → Prop
  | refl : St.OnlyErrors msgs s s
  | record {s' : St} (t : Tid) {msg : String} (hm : msg ∈ msgs) :
      St.OnlyErrors msgs s s' →
        St.OnlyErrors msgs s (s'.recordError t msg (errorBufferOf (cBytes msg)))

namespace St.OnlyErrors

variable {msgs : List String} {s s' s'' : St}

theorem trans (h : s.OnlyErrors msgs s') (h' : s'.OnlyErrors msgs s'') : s.OnlyErrors msgs s'' := by
  induction h' with
  | refl => exact h
  | record t hm _ ih => exact .record t hm ih

/-- Only the error buffers and the trace differ. -/
theorem frame (h : s.OnlyErrors msgs s') : { s' with errorBuffer := s.errorBuffer, trace := s.trace } = s := by
  induction h with
  | refl => rfl
  | record t hm _ ih => exact ih

/-- The trace gains only `set_error` events of messages from `msgs`. -/
theorem trace (h : s.OnlyErrors msgs s') :
    ∃ evs, (∀ e ∈ evs, ∃ t, ∃ msg ∈ msgs, e = .error t msg) ∧ s'.trace = evs ++ s.trace := by
  induction h with
  | refl => exact ⟨[], by simp, rfl⟩
  | @record s' t msg hm _ ih =>
    obtain ⟨evs, hevs, he⟩ := ih
    refine ⟨.error t msg :: evs, ?_, by simp [he]⟩
    rintro e (_ | ⟨_, he⟩)
    · exact ⟨t, msg, hm, rfl⟩
    · exact hevs e he

theorem jvm (h : s.OnlyErrors msgs s') : s'.jvm = s.jvm := by
  have := congrArg St.jvm h.frame
  exact this

end St.OnlyErrors

section Unloaded

variable (rt : Runtime) (t : Tid)

/-- A computation that, run with no virtual machine loaded, only records messages from
`unloadedErrors`. -/
def Inert {α : Type} (m : Jni α) : Prop := ∀ s : St, s.jvm = none → s.OnlyErrors unloadedErrors (m s).2

theorem getJniEnv_of_unloaded (s : St) (hj : s.jvm = none) :
    getJniEnv rt t s =
      (none, s.recordError t "JVM not initialized" (errorBufferOf (cBytes "JVM not initialized"))) := by
  simp only [getJniEnv, Jni.bind_assoc, readSt_bind, hj, if_true, setError_bind, Jni.pure_apply]

theorem Inert.forward {α : Type} (nullError : Option String)
    (hn : ∀ msg ∈ nullError, msg ∈ unloadedErrors) (failure : α) (ptr : Nat) (f : JNIEnv → Jni α) :
    Inert (forward rt t nullError failure ptr f) := by
  intro s hj
  unfold ProjectNeon.forward
  split
  · cases nullError with
    | none => exact .refl
    | some msg => exact .record t (hn msg rfl) .refl
  · simp only [getJniEnv_bind, getJniEnv_of_unloaded rt t s hj, Jni.pure_apply]
    exact .record t (by simp [unloadedErrors]) .refl

/-- With no virtual machine loaded, every C API call only records `JVM not initialized` or a
`NULL`-handle message on its own thread. -/
theorem Call.exec_inert (c : Call) : Inert (c.exec rt t) := by
  have map {α : Type} {m : Jni α} (g : α → Ret) (h : Inert m) : Inert (do return g (← m)) := h
  have client : ∀ msg ∈ some "Invalid client handle", msg ∈ unloadedErrors := by
    simp [unloadedErrors]
  have host : ∀ msg ∈ some "Invalid host handle", msg ∈ unloadedErrors := by
    simp [unloadedErrors]
  have none' : ∀ msg ∈ (none : Option String), msg ∈ unloadedErrors := by simp
  have new {α : Type} (failure : α) (f : JNIEnv → Jni α) :
      Inert (getJniEnv rt t >>= fun e => match e with | none => pure failure | some env => f env) :=
    fun s hj => by
      simp only [getJniEnv_bind, getJniEnv_of_unloaded rt t s hj, Jni.pure_apply]
      exact .record t (by simp [unloadedErrors]) .refl
  cases c with
  | clientNew name => exact map _ (new _ _)
  | clientConnect c sid addr => exact map _ (Inert.forward rt t _ client _ c _)
  | clientProcessPackets c => exact map _ (Inert.forward rt t _ client _ c _)
  | clientGetId c => exact map _ (Inert.forward rt t _ none' _ c _)
  | clientGetSessionId c => exact map _ (Inert.forward rt t _ none' _ c _)
  | clientIsConnected c => exact map _ (Inert.forward rt t _ none' _ c _)
  | clientSendPing c => exact map _ (Inert.forward rt t _ client _ c _)
  | clientSetAutoPing c b => exact map _ (Inert.forward rt t _ none' _ c _)
  | clientSetCallback e c cb => exact map _ (Inert.forward rt t _ none' _ c _)
  | clientFree c => exact map _ (Inert.forward rt t _ none' _ c _)
  | hostNew sid addr => exact map _ (new _ _)
  | hostStart h => exact map _ (Inert.forward rt t _ host _ h _)
  | hostProcessPackets h => exact map _ (Inert.forward rt t _ host _ h _)
  | hostGetSessionId h => exact map _ (Inert.forward rt t _ none' _ h _)
  | hostGetClientCount h => exact map _ (Inert.forward rt t _ none' _ h _)
  | hostSetCallback e h cb => exact map _ (Inert.forward rt t _ none' _ h _)
  | hostFree h => exact map _ (Inert.forward rt t _ none' _ h _)
  | getLastError =>
    refine map _ fun s _ => ?_
    rw [show (neonGetLastError t s).2 = s by
      simp only [neonGetLastError, readSt_bind, Jni.ite_apply, Jni.pure_apply, apply_ite Prod.snd,
        ite_self]]
    exact .refl

end Unloaded

theorem runCalls_onlyErrors (rt : Runtime) :
    ∀ (run : List (Tid × Call)) (s : St), s.jvm = none →
      s.OnlyErrors unloadedErrors (runCalls rt run s)
  | [], _, _ => .refl
  | (t, c) :: run, s, hj =>
    have h := Call.exec_inert rt t c s hj
    h.trans (runCalls_onlyErrors rt run _ (h.jvm.trans hj))

/-- **An unloaded library is inert.**  While `g_jvm` is `NULL` (before `JNI_OnLoad`, or after
`JNI_OnUnload`), every interleaving of C API calls fails before it reaches JNI: it makes no JNI
request, allocates and frees no handle, stores no callback, and changes no exception, reference or
class cache; all it does is record `JVM not initialized`, `Invalid client handle` or
`Invalid host handle` in the calling threads' buffers. -/
theorem unloaded_library_inert (rt : Runtime) (run : List (Tid × Call)) (s : St)
    (hj : s.jvm = none) :
    { runCalls rt run s with errorBuffer := s.errorBuffer, trace := s.trace } = s ∧
    ∃ evs, (∀ e ∈ evs, ∃ t, ∃ msg ∈ unloadedErrors, e = .error t msg) ∧
      (runCalls rt run s).trace = evs ++ s.trace :=
  have h := runCalls_onlyErrors rt run s hj
  ⟨h.frame, h.trace⟩

theorem unloaded_library_inert_initially :
    ({} : St).jvm = none ∧
    { runCalls .cooperative [(0, .clientNew ⟨[97], by decide⟩), (1, .hostFree 5)] {} with
        errorBuffer := ({} : St).errorBuffer, trace := ({} : St).trace } = {} ∧
    ∃ evs, (∀ e ∈ evs, ∃ t, ∃ msg ∈ unloadedErrors, e = .error t msg) ∧
      (runCalls .cooperative [(0, .clientNew ⟨[97], by decide⟩), (1, .hostFree 5)] {}).trace =
        evs ++ ({} : St).trace :=
  ⟨rfl, unloaded_library_inert .cooperative _ {} rfl⟩

/-- `JNI_OnUnload` clears `g_jvm` whatever `GetEnv` answers, and touches no handle block. -/
theorem jniOnUnload_frame (rt : Runtime) (t : Tid) (s : St) :
    (jniOnUnload rt t s).2.jvm = none ∧ (jniOnUnload rt t s).2.clients = s.clients ∧
      (jniOnUnload rt t s).2.hosts = s.hosts := by
  simp only [jniOnUnload, getEnv_bind, Jni.ite_apply, Jni.bind_assoc, readSt_bind,
    St.log_neonClientClass]
  split_ifs
  · rcases s.neonClientClass with _ | c <;> rcases hh : s.neonHostClass with _ | h <;>
      simp [hh, funext_iff]
  · simp [funext_iff]

/-- **Handles outlive the virtual machine.**  After `JNI_OnUnload`, whatever `GetEnv` answered
there, no interleaving of C API calls frees, allocates or changes a handle block: every handle live
at unload time stays allocated, with its global reference, for good. -/
theorem unload_strands_handles (rt : Runtime) (t : Tid) (s : St) (run : List (Tid × Call)) :
    (runCalls rt run (jniOnUnload rt t s).2).jvm = none ∧
    (runCalls rt run (jniOnUnload rt t s).2).clients = s.clients ∧
    (runCalls rt run (jniOnUnload rt t s).2).hosts = s.hosts := by
  obtain ⟨hj, hc, hh⟩ := jniOnUnload_frame rt t s
  have h := (runCalls_onlyErrors rt run _ hj).frame
  refine ⟨?_, ?_, ?_⟩
  · rw [← hj, ← congrArg St.jvm h]
  · rw [← hc, ← congrArg St.clients h]
  · rw [← hh, ← congrArg St.hosts h]

end ProjectNeon
