import ProjectNeon.Queries

/-!
# Pending exceptions

A managed method that throws leaves its exception pending on the calling thread, and JNI allows only
the exception-safe functions (`Request.exceptionSafe`) until it is cleared.  `processPackets`,
`sendPing`, `start`, `connect` and `close` are followed by `ExceptionCheck` and `ExceptionClear`;
the four getters, `setAutoPing` and `isConnected` are not.

* `intQuery_of_throwing`: once its method resolves, a getter whose managed method throws returns
  with the exception pending.
* `getId_leaves_exception_pending`: when `getClientId` throws, `neon_client_get_id` returns with the
  exception pending, and the next call on the thread makes `GetMethodID` while it is.
-/

namespace ProjectNeon

open NeonClientJNI NeonHostJNI

section Checked

variable (rt : Runtime) (t : Tid) (s : St)

theorem intQuery_of_throwing (k : Kind) (invalid name notFound : String) (failure : JInt)
    (ptr : Nat) (hp : ptr ≠ 0)
    (hm : rt.getMethodID (s.log t (.getMethodID (k.cls s) name "()I")).trace = true)
    (hx : (rt.callIntMethod ((s.log t (.getMethodID (k.cls s) name "()I")).log t
      (.callIntMethod (s.javaObject k ptr) ⟨name, "()I"⟩)).trace).2 = false) :
    (intQuery rt ⟨t⟩ k invalid name notFound failure ptr s).2 =
      ((s.log t (.getMethodID (k.cls s) name "()I")).log t
        (.callIntMethod (s.javaObject k ptr) ⟨name, "()I"⟩)).setPending t true := by
  simp only [intQuery, hp, if_false, Jni.bind_assoc, readSt_bind, getMethodID_bind, hm, if_true,
    Jni.pure_bind, callIntMethod_apply, St.javaObject_log, hx, Bool.false_eq_true]

theorem getMethodID_mem_intQuery (k : Kind) (invalid name notFound : String) (failure : JInt)
    (ptr : Nat) (hp : ptr ≠ 0) :
    Event.jni t (.getMethodID (k.cls s) name "()I") (s.pending t) ∈
      (intQuery rt ⟨t⟩ k invalid name notFound failure ptr s).2.trace := by
  simp only [intQuery, hp, if_false, Jni.bind_assoc, readSt_bind, getMethodID_bind, Jni.ite_apply,
    setError_bind, Jni.pure_apply, Jni.pure_bind, callIntMethod_apply, St.javaObject_log,
    apply_ite Prod.snd, apply_ite St.trace, St.recordError_trace, St.setPending_trace, St.log_trace]
  split_ifs <;> simp only [List.mem_cons, true_or, or_true]

theorem getMethodID_mem_neonClientGetId (p : Nat) (hp : p ≠ 0) (hj : s.jvm ≠ none)
    (he : rt.getEnv (s.log t .getEnv).trace = JNI_OK) :
    Event.jni t (.getMethodID s.neonClientClass "getClientId" "()I") (s.pending t) ∈
      (neonClientGetId rt t p s).2.trace := by
  simp only [neonClientGetId, forward_of_attached rt t s _ _ p _ hp hj he, Jni.bind_apply,
    Jni.pure_apply, NeonClientJNI.neonClientGetId]
  simpa only [Kind.cls_log, St.log_pending] using
    getMethodID_mem_intQuery rt t (s.log t .getEnv) .client _ _ _ _ p hp

end Checked

/-- A runtime under which every lookup and allocation succeeds but every managed `int` method
throws. -/
def Runtime.throwing : Runtime := { Runtime.cooperative with callIntMethod := fun _ => (0, false) }

/-- When the managed `getClientId` throws, `neon_client_get_id` returns with the exception still
pending, and the next call on the thread makes a `GetMethodID` request while it is. -/
theorem getId_leaves_exception_pending (rt : Runtime) (t : Tid) (s : St) (p : Nat) (hp : p ≠ 0)
    (hj : s.jvm ≠ none) (he : ∀ tr, rt.getEnv tr = JNI_OK) (hm : ∀ tr, rt.getMethodID tr = true)
    (hx : ∀ tr, (rt.callIntMethod tr).2 = false) :
    (neonClientGetId rt t p s).2.pending t = true ∧
      ∃ q, q.exceptionSafe = false ∧
        Event.jni t q true ∈ (neonClientGetId rt t p (neonClientGetId rt t p s).2).2.trace := by
  have first : (neonClientGetId rt t p s).2 =
      (((s.log t .getEnv).log t (.getMethodID s.neonClientClass "getClientId" "()I")).log t
        (.callIntMethod ((s.log t .getEnv).javaObject .client p) ⟨"getClientId", "()I"⟩)).setPending
          t true := by
    simp only [neonClientGetId, forward_of_attached rt t s _ _ p _ hp hj (he _), Jni.bind_apply,
      Jni.pure_apply, NeonClientJNI.neonClientGetId,
      intQuery_of_throwing rt t _ _ _ _ _ _ p hp (hm _) (hx _)]
    rfl
  have pending : (neonClientGetId rt t p s).2.pending t = true := by
    simp only [first, St.setPending_pending, if_true]
  have hj' : (neonClientGetId rt t p s).2.jvm ≠ none := by simpa only [first] using hj
  have := getMethodID_mem_neonClientGetId rt t (neonClientGetId rt t p s).2 p hp hj' (he _)
  have cls : (neonClientGetId rt t p s).2.neonClientClass = s.neonClientClass := by rw [first]; rfl
  rw [pending, cls] at this
  exact ⟨pending, .getMethodID s.neonClientClass "getClientId" "()I", rfl, this⟩

theorem getId_leaves_exception_pending_at_one :
    (1 ≠ 0 ∧ ({ jvm := some 1 } : St).jvm ≠ none ∧ (∀ tr, Runtime.throwing.getEnv tr = JNI_OK) ∧
      (∀ tr, Runtime.throwing.getMethodID tr = true) ∧
      ∀ tr, (Runtime.throwing.callIntMethod tr).2 = false) ∧
    (neonClientGetId .throwing 0 1 { jvm := some 1 }).2.pending 0 = true ∧
      ∃ q, q.exceptionSafe = false ∧ Event.jni 0 q true ∈
        (neonClientGetId .throwing 0 1 (neonClientGetId .throwing 0 1 { jvm := some 1 }).2).2.trace :=
  ⟨⟨by decide, by decide, fun _ => rfl, fun _ => rfl, fun _ => rfl⟩,
    getId_leaves_exception_pending .throwing 0 { jvm := some 1 } 1 (by decide) (by decide)
      (fun _ => rfl) (fun _ => rfl) (fun _ => rfl)⟩

end ProjectNeon
