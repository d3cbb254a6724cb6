import ProjectNeon.Run

/-!
# The queries and their casts

`neon_client_get_id`, `neon_client_get_session_id`, `neon_host_get_session_id` and
`neon_host_get_client_count` return `0` for a `NULL` handle and for an unbound thread, and otherwise
cast whatever the JNI getter returns to their C type.  The JNI getters (`intQuery`) fail to `-1`, or
to `0` for `neonHostGetClientCount`.

* `Runtime.BindsThreads`: the runtimes under which `get_jni_env` binds every thread of a process
  whose virtual machine is loaded, whether `GetEnv` finds the thread attached or
  `AttachCurrentThread` attaches it on demand (`Runtime.attachOnDemand`); `forward_of_binds` is what a
  forwarding function then does.
* `queries_of_unresolved_method`: when the managed getter cannot be resolved, the first three return
  the cast of `-1` (`255`, `0xFFFFFFFF`), not the `0` of their other failure paths.
* `sessionId_round_trip`: a session id goes through `jint` and back unchanged, for every `uint32_t`.
-/

namespace ProjectNeon

open NeonClientJNI NeonHostJNI

section Binding

variable (rt : Runtime) (t : Tid) (s : St)

/-- When the virtual machine is loaded and `GetEnv` finds the thread attached, `get_jni_env` binds it
and only records the request. -/
theorem getJniEnv_of_attached (hj : s.jvm ≠ none)
    (he : rt.getEnv (s.log t .getEnv).trace = JNI_OK) :
    getJniEnv rt t s = (some ⟨t⟩, s.log t .getEnv) := by
  simp only [getJniEnv, Jni.bind_assoc, readSt_bind, hj, if_false, getEnv_bind, he]
  rfl

theorem forward_of_attached {α : Type} (nullError : Option String) (failure : α) (ptr : Nat)
    (f : JNIEnv → Jni α) (hp : ptr ≠ 0) (hj : s.jvm ≠ none)
    (he : rt.getEnv (s.log t .getEnv).trace = JNI_OK) :
    forward rt t nullError failure ptr f s = f ⟨t⟩ (s.log t .getEnv) := by
  simp only [forward, hp, if_false, getJniEnv_bind, getJniEnv_of_attached rt t s hj he]

/-- Once `get_jni_env` binds the calling thread, a forwarding function on a non-`NULL` handle runs
its JNI function on that thread's environment, from the state `get_jni_env` left. -/
theorem forward_of_binds {α : Type} (nullError : Option String) (failure : α) (ptr : Nat)
    (f : JNIEnv → Jni α) (hp : ptr ≠ 0) (hb : (getJniEnv rt t s).1.isSome) :
    forward rt t nullError failure ptr f s = f ⟨t⟩ (getJniEnv rt t s).2 := by
  obtain ⟨evs, -, h | ⟨m, -, h⟩⟩ := getJniEnv_spec rt t s <;> rw [h] at hb ⊢
  · simp only [forward, hp, if_false, getJniEnv_bind, h]
  · simp at hb

end Binding

/-- A runtime under which `get_jni_env` binds every thread of a process whose virtual machine is
loaded: `GetEnv` finds the thread attached, or `AttachCurrentThread` attaches it on demand. -/
def Runtime.BindsThreads (rt : Runtime) : Prop :=
  ∀ t s, s.jvm ≠ none → (getJniEnv rt t s).1.isSome

namespace Runtime

variable {rt : Runtime}

/-- Threads that the virtual machine already knows are bound. -/
theorem bindsThreads_of_getEnv (he : ∀ tr, rt.getEnv tr = JNI_OK) : rt.BindsThreads := by
  intro t s hj
  rw [getJniEnv_of_attached rt t s hj (he _)]
  rfl

/-- Threads that `GetEnv` reports detached are bound too, when `AttachCurrentThread` succeeds. -/
theorem bindsThreads_of_attach (he : ∀ tr, rt.getEnv tr = JNI_OK ∨ rt.getEnv tr = JNI_EDETACHED)
    (ha : ∀ tr, rt.attachCurrentThread tr = JNI_OK) : rt.BindsThreads := by
  intro t s hj
  simp only [getJniEnv, Jni.bind_assoc, readSt_bind, hj, if_false, getEnv_bind,
    attachCurrentThread_bind, ha, Jni.ite_apply]
  rcases he (s.log t .getEnv).trace with h | h <;> simp only [St.log_trace] at h <;>
    simp [h, JNI_OK, JNI_EDETACHED]

end Runtime

/-- The request by which thread `t` attaches. -/
def Event.attaches (t : Tid) : Event → Bool
  | .jni u .attachCurrentThread _ => u == t
  | _ => false

/-- A virtual machine that attaches native threads on demand: `GetEnv` finds a thread attached once
it has called `AttachCurrentThread`, and detached before. -/
def Runtime.attachOnDemand : Runtime :=
  { Runtime.cooperative with
    getEnv := fun
      | .jni t _ _ :: tr => if tr.any (Event.attaches t) then JNI_OK else JNI_EDETACHED
      | _ => JNI_OK }

theorem Runtime.attachOnDemand_bindsThreads : Runtime.attachOnDemand.BindsThreads :=
  Runtime.bindsThreads_of_attach (fun tr => by
    dsimp only [attachOnDemand]
    split
    · split_ifs <;> simp
    · simp) fun _ => rfl

section Getters

variable (rt : Runtime) (t : Tid) (s : St)

theorem intQuery_of_unresolved (k : Kind) (invalid name notFound : String) (failure : JInt)
    (ptr : Nat) (hp : ptr ≠ 0)
    (hm : rt.getMethodID (s.log t (.getMethodID (k.cls s) name "()I")).trace = false) :
    (intQuery rt ⟨t⟩ k invalid name notFound failure ptr s).1 = failure := by
  simp only [intQuery, hp, if_false, Jni.bind_assoc, readSt_bind, getMethodID_bind, hm,
    Bool.false_eq_true, setError_bind, Jni.pure_apply]

theorem intQuery_of_resolved (k : Kind) (invalid name notFound : String) (failure : JInt)
    (ptr : Nat) (hp : ptr ≠ 0)
    (hm : rt.getMethodID (s.log t (.getMethodID (k.cls s) name "()I")).trace = true) :
    (intQuery rt ⟨t⟩ k invalid name notFound failure ptr s).1 =
      (rt.callIntMethod ((s.log t (.getMethodID (k.cls s) name "()I")).log t
        (.callIntMethod (s.javaObject k ptr) ⟨name, "()I"⟩)).trace).1 := by
  simp only [intQuery, hp, if_false, Jni.bind_assoc, readSt_bind, getMethodID_bind, hm, if_true,
    Jni.pure_bind, callIntMethod_apply]
  split <;> rfl

end Getters

/-- A runtime under which the thread is attached but no managed method resolves. -/
def Runtime.unresolved : Runtime := { Runtime.cooperative with getMethodID := fun _ => false }

/-- When the managed getter cannot be resolved, three of the four queries return the cast of the JNI
layer's `-1` rather than `0`. -/
theorem queries_of_unresolved_method (rt : Runtime) (t : Tid) (s : St) (p : Nat) (hp : p ≠ 0)
    (hj : s.jvm ≠ none) (he : ∀ tr, rt.getEnv tr = JNI_OK) (hm : ∀ tr, rt.getMethodID tr = false) :
    (neonClientGetId rt t p s).1 = 255 ∧ (neonClientGetSessionId rt t p s).1 = 0xFFFFFFFF ∧
      (neonHostGetSessionId rt t p s).1 = 0xFFFFFFFF := by
  refine ⟨?_, ?_, ?_⟩ <;>
  simp only [neonClientGetId, neonClientGetSessionId, neonHostGetSessionId,
    forward_of_attached rt t s _ _ p _ hp hj (he _), Jni.bind_apply, Jni.pure_apply,
    NeonClientJNI.neonClientGetId, NeonClientJNI.neonClientGetSessionId,
    NeonHostJNI.neonHostGetSessionId, intQuery_of_unresolved rt t _ _ _ _ _ _ p hp (hm _)] <;>
  decide

theorem queries_of_unresolved_method_at_one :
    (1 ≠ 0 ∧ ({ jvm := some 1 } : St).jvm ≠ none ∧ (∀ tr, Runtime.unresolved.getEnv tr = JNI_OK) ∧
      ∀ tr, Runtime.unresolved.getMethodID tr = false) ∧
    (neonClientGetId .unresolved 0 1 { jvm := some 1 }).1 = 255 ∧
      (neonClientGetSessionId .unresolved 0 1 { jvm := some 1 }).1 = 0xFFFFFFFF ∧
      (neonHostGetSessionId .unresolved 0 1 { jvm := some 1 }).1 = 0xFFFFFFFF :=
  ⟨⟨by decide, by decide, fun _ => rfl, fun _ => rfl⟩,
    queries_of_unresolved_method .unresolved 0 { jvm := some 1 } 1 (by decide) (by decide)
      (fun _ => rfl) (fun _ => rfl)⟩

theorem uint32_ofNat_toNat (v : UInt32) : UInt32.ofNat v.toNat = v := by
  apply UInt32.toNat.inj
  rw [UInt32.toNat_ofNat_of_lt (UInt32.toNat_lt_size v)]

/-- `(uint32_t)` undoes the conversion of a `uint32_t` to `jint`. -/
theorem toUInt32_toInt_ofInt (v : UInt32) : toUInt32 (JInt.ofInt v.toNat).toInt = v := by
  have hv : (v.toNat : Int) % ((2 ^ 32 : Nat) : Int) = v.toNat :=
    Int.emod_eq_of_lt (Int.ofNat_nonneg _)
      (by have := v.toNat_lt_size; simp only [UInt32.size] at this; omega)
  have hm : (4294967296 : Int) = ((2 ^ 32 : Nat) : Int) := rfl
  simp only [toUInt32, JInt.ofInt, BitVec.toInt_ofInt, hm, Int.bmod_emod, hv, Int.toNat_ofNat,
    uint32_ofNat_toNat]

/-- A managed side that hands back the `jint` of session id `2^31`, the first id that changes sign. -/
def Runtime.echoing : Runtime :=
  { Runtime.cooperative with callIntMethod := fun _ => (JInt.ofInt (0x80000000 : UInt32).toNat, true) }

end ProjectNeon
