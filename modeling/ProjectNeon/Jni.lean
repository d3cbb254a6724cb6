import ProjectNeon.Runtime
import ProjectNeon.ModifiedUtf8

/-!
# The JNI functions and the allocator

One definition per function of the JNI and invocation interfaces that `neon_jni.c` calls, and for
`malloc`/`free` on the handle blocks.  Each records its request in the trace first, so the runtime
answers knowing everything asked so far, then does what the JNI specification says for that answer:

* a lookup or allocation that fails returns `NULL` and leaves an exception pending;
* `NewStringUTF`, `FindClass` and `NewObject` create local references, `NewGlobalRef` a global one,
  and `GetStringUTFChars` pins its string until `ReleaseStringUTFChars`;
* `ExceptionDescribe` and `ExceptionClear` both clear the pending exception.

Reading or writing a handle that is not live (a dangling pointer) is undefined in C; here it reads
`NULL` and writes nothing.
-/

namespace ProjectNeon

open ModifiedUtf8

section Primitives

variable (rt : Runtime) (env : JNIEnv)

/-- `(*vm)->GetEnv(vm, &env, JNI_VERSION_1_8)` on thread `t`: the status code. -/
def getEnv (t : Tid) : Jni JInt := fun s =>
  (rt.getEnv (s.log t .getEnv).trace, s.log t .getEnv)

/-- `(*vm)->AttachCurrentThread(vm, &env, NULL)` on thread `t`: the status code. -/
def attachCurrentThread (t : Tid) : Jni JInt := fun s =>
  (rt.attachCurrentThread (s.log t .attachCurrentThread).trace, s.log t .attachCurrentThread)

/-- `FindClass`: a local reference to the class, or `NULL` with `NoClassDefFoundError` pending. -/
def findClass (name : String) : Jni (Option Ref) := fun s =>
  let s' := s.log env.thread (.findClass name)
  if rt.findClass s'.trace then (some ⟨s.next, .cls name⟩, (s'.pushLocal env.thread ⟨s.next, .cls name⟩).bump)
  else (none, s'.setPending env.thread true)

/-- `NewGlobalRef`: a new global reference to the same object, or `NULL` when out of memory
(or given `NULL`). -/
def newGlobalRef (obj : Option Ref) : Jni (Option Ref) := fun s =>
  let s' := s.log env.thread (.newGlobalRef obj)
  match obj with
  | some r =>
    if rt.newGlobalRef s'.trace then (some ⟨s.nextGlobal, r.obj⟩, s'.addGlobal r.obj)
    else (none, s')
  | none => (none, s')

/-- `DeleteGlobalRef` (a no-op on `NULL`). -/
def deleteGlobalRef (obj : Option Ref) : Jni Unit := fun s =>
  ((), (s.log env.thread (.deleteGlobalRef obj)).eraseGlobal obj)

/-- `DeleteLocalRef`. -/
def deleteLocalRef (obj : Ref) : Jni Unit := fun s =>
  ((), (s.log env.thread (.deleteLocalRef obj)).eraseLocal env.thread obj)

/-- `GetStringUTFChars(str, NULL)`: the string's modified UTF-8 bytes, pinned until released, or
`NULL` with `OutOfMemoryError` pending. -/
def getStringUTFChars (str : Ref) : Jni (Option CString) := fun s =>
  let s' := s.log env.thread (.getStringUTFChars str)
  if rt.getStringUTFChars s'.trace then
    (some ⟨encode str.obj.chars, zero_not_mem_encode _⟩, s'.pin env.thread str)
  else (none, s'.setPending env.thread true)

/-- `ReleaseStringUTFChars`. -/
def releaseStringUTFChars (str : Ref) : Jni Unit := fun s =>
  ((), (s.log env.thread (.releaseStringUTFChars str)).unpin env.thread str)

/-- `GetMethodID`: the method, or `NULL` with `NoSuchMethodError` pending. -/
def getMethodID (cls : Option Ref) (name sig : String) : Jni (Option MethodId) := fun s =>
  let s' := s.log env.thread (.getMethodID cls name sig)
  if rt.getMethodID s'.trace then (some ⟨name, sig⟩, s') else (none, s'.setPending env.thread true)

/-- `NewStringUTF`: a local reference to the decoded string, or `NULL` with `OutOfMemoryError`
pending. -/
def newStringUTF (bytes : CString) : Jni (Option Ref) := fun s =>
  let s' := s.log env.thread (.newStringUTF bytes.bytes)
  if rt.newStringUTF s'.trace then
    (some ⟨s.next, .str (decode bytes.bytes)⟩,
      (s'.pushLocal env.thread ⟨s.next, .str (decode bytes.bytes)⟩).bump)
  else (none, s'.setPending env.thread true)

/-- `NewObject`: a local reference to the constructed object, or `NULL` with the constructor's
exception pending. -/
def newObject (cls : Option Ref) (ctor : MethodId) (args : List JValue) : Jni (Option Ref) :=
  fun s =>
  let s' := s.log env.thread (.newObject cls ctor args)
  if rt.newObject s'.trace then
    (some ⟨s.next, .inst s.next⟩, (s'.pushLocal env.thread ⟨s.next, .inst s.next⟩).bump)
  else (none, s'.setPending env.thread true)

/-- `CallVoidMethod`: the method runs, and may throw. -/
def callVoidMethod (obj : Option Ref) (m : MethodId) (args : List JValue) : Jni Unit := fun s =>
  let s' := s.log env.thread (.callVoidMethod obj m args)
  if rt.callVoidMethod s'.trace then ((), s') else ((), s'.setPending env.thread true)

/-- `CallIntMethod`: the value returned; the method may throw. -/
def callIntMethod (obj : Option Ref) (m : MethodId) : Jni JInt := fun s =>
  let s' := s.log env.thread (.callIntMethod obj m)
  if (rt.callIntMethod s'.trace).2 then ((rt.callIntMethod s'.trace).1, s')
  else ((rt.callIntMethod s'.trace).1, s'.setPending env.thread true)

/-- `CallBooleanMethod`: the value returned; the method may throw. -/
def callBooleanMethod (obj : Option Ref) (m : MethodId) : Jni Bool := fun s =>
  let s' := s.log env.thread (.callBooleanMethod obj m)
  if (rt.callBooleanMethod s'.trace).2 then ((rt.callBooleanMethod s'.trace).1, s')
  else ((rt.callBooleanMethod s'.trace).1, s'.setPending env.thread true)

end Primitives

section Exceptions

variable (env : JNIEnv)

/-- `ExceptionCheck`. -/
def exceptionCheck : Jni Bool := fun s =>
  (s.pending env.thread, s.log env.thread .exceptionCheck)

/-- `ExceptionDescribe`: prints the exception and, as a side effect, clears it. -/
def exceptionDescribe : Jni Unit := fun s =>
  ((), (s.log env.thread .exceptionDescribe).setPending env.thread false)

/-- `ExceptionClear`. -/
def exceptionClear : Jni Unit := fun s =>
  ((), (s.log env.thread .exceptionClear).setPending env.thread false)

end Exceptions

section Heap

/-- The address `p` holds no live handle block. -/
def St.vacant (s : St) (p : Nat) : Prop := s.clients p = none ∧ s.hosts p = none

instance (s : St) (p : Nat) : Decidable (s.vacant p) := inferInstanceAs (Decidable (_ ∧ _))

/-- `malloc(sizeof(...))`: the runtime's address if it is non-zero and vacant, else `NULL`. -/
def malloc (rt : Runtime) : Jni Nat := fun s =>
  (if rt.malloc s.trace ≠ 0 ∧ s.vacant (rt.malloc s.trace) then rt.malloc s.trace else 0, s)

/-- `free(handle)`. -/
def free (p : Nat) : Jni Unit := fun s => ((), (s.setClient p none).setHost p none)

/-- Fill the client block at `p`. -/
def storeClient (p : Nat) (h : ClientHandle) : Jni Unit := fun s => ((), s.setClient p (some h))

/-- Fill the host block at `p`. -/
def storeHost (p : Nat) (h : HostHandle) : Jni Unit := fun s => ((), s.setHost p (some h))

/-- Update the client block at `p`, if live. -/
def modifyClient (p : Nat) (f : ClientHandle → ClientHandle) : Jni Unit := fun s =>
  ((), s.setClient p ((s.clients p).map f))

/-- Update the host block at `p`, if live. -/
def modifyHost (p : Nat) (f : HostHandle → HostHandle) : Jni Unit := fun s =>
  ((), s.setHost p ((s.hosts p).map f))

/-- Read a field of the state. -/
def readSt {α : Type} (f : St → α) : Jni α := fun s => (f s, s)

/-- Update the library's globals. -/
def modifySt (f : St → St) : Jni Unit := fun s => ((), f s)

end Heap

/-! ## Symbolic execution

One rewrite per function for the step it begins a computation with: the computation becomes a
decision over the runtime's answer, with the continuation applied to the state that answer leaves.
`simp` with these turns any function of the boundary into a tree of such decisions. -/

section Bind

variable {β : Type} (rt : Runtime) (env : JNIEnv) (f : _ → Jni β) (s : St)

@[simp] theorem getEnv_bind (t : Tid) :
    (getEnv rt t >>= f) s = f (rt.getEnv (s.log t .getEnv).trace) (s.log t .getEnv) := rfl

@[simp] theorem attachCurrentThread_bind (t : Tid) :
    (attachCurrentThread rt t >>= f) s =
      f (rt.attachCurrentThread (s.log t .attachCurrentThread).trace)
        (s.log t .attachCurrentThread) := rfl

@[simp] theorem findClass_bind (name : String) :
    (findClass rt env name >>= f) s =
      if rt.findClass (s.log env.thread (.findClass name)).trace then
        f (some ⟨s.next, .cls name⟩)
          ((s.log env.thread (.findClass name)).pushLocal env.thread ⟨s.next, .cls name⟩).bump
      else f none ((s.log env.thread (.findClass name)).setPending env.thread true) := by
  rw [Jni.bind_apply]; simp only [findClass]; split <;> rfl

@[simp] theorem newGlobalRef_bind (obj : Option Ref) :
    (newGlobalRef rt env obj >>= f) s =
      match obj with
      | some r =>
        if rt.newGlobalRef (s.log env.thread (.newGlobalRef obj)).trace then
          f (some ⟨s.nextGlobal, r.obj⟩) ((s.log env.thread (.newGlobalRef obj)).addGlobal r.obj)
        else f none (s.log env.thread (.newGlobalRef obj))
      | none => f none (s.log env.thread (.newGlobalRef obj)) := by
  rw [Jni.bind_apply]; cases obj
  · rfl
  · simp only [newGlobalRef]; split <;> rfl

@[simp] theorem deleteGlobalRef_bind (obj : Option Ref) :
    (deleteGlobalRef env obj >>= f) s =
      f () ((s.log env.thread (.deleteGlobalRef obj)).eraseGlobal obj) := rfl

@[simp] theorem deleteLocalRef_bind (obj : Ref) :
    (deleteLocalRef env obj >>= f) s =
      f () ((s.log env.thread (.deleteLocalRef obj)).eraseLocal env.thread obj) := rfl

@[simp] theorem getStringUTFChars_bind (str : Ref) :
    (getStringUTFChars rt env str >>= f) s =
      if rt.getStringUTFChars (s.log env.thread (.getStringUTFChars str)).trace then
        f (some ⟨encode str.obj.chars, zero_not_mem_encode _⟩)
          ((s.log env.thread (.getStringUTFChars str)).pin env.thread str)
      else f none ((s.log env.thread (.getStringUTFChars str)).setPending env.thread true) := by
  rw [Jni.bind_apply]; simp only [getStringUTFChars]; split <;> rfl

@[simp] theorem releaseStringUTFChars_bind (str : Ref) :
    (releaseStringUTFChars env str >>= f) s =
      f () ((s.log env.thread (.releaseStringUTFChars str)).unpin env.thread str) := rfl

@[simp] theorem getMethodID_bind (cls : Option Ref) (name sig : String) :
    (getMethodID rt env cls name sig >>= f) s =
      if rt.getMethodID (s.log env.thread (.getMethodID cls name sig)).trace then
        f (some ⟨name, sig⟩) (s.log env.thread (.getMethodID cls name sig))
      else f none ((s.log env.thread (.getMethodID cls name sig)).setPending env.thread true) := by
  rw [Jni.bind_apply]; simp only [getMethodID]; split <;> rfl

@[simp] theorem newStringUTF_bind (bytes : CString) :
    (newStringUTF rt env bytes >>= f) s =
      if rt.newStringUTF (s.log env.thread (.newStringUTF bytes.bytes)).trace then
        f (some ⟨s.next, .str (decode bytes.bytes)⟩)
          ((s.log env.thread (.newStringUTF bytes.bytes)).pushLocal env.thread
            ⟨s.next, .str (decode bytes.bytes)⟩).bump
      else f none ((s.log env.thread (.newStringUTF bytes.bytes)).setPending env.thread true) := by
  rw [Jni.bind_apply]; simp only [newStringUTF]; split <;> rfl

@[simp] theorem newObject_bind (cls : Option Ref) (ctor : MethodId) (args : List JValue) :
    (newObject rt env cls ctor args >>= f) s =
      if rt.newObject (s.log env.thread (.newObject cls ctor args)).trace then
        f (some ⟨s.next, .inst s.next⟩)
          ((s.log env.thread (.newObject cls ctor args)).pushLocal env.thread
            ⟨s.next, .inst s.next⟩).bump
      else f none ((s.log env.thread (.newObject cls ctor args)).setPending env.thread true) := by
  rw [Jni.bind_apply]; simp only [newObject]; split <;> rfl

@[simp] theorem callVoidMethod_bind (obj : Option Ref) (m : MethodId) (args : List JValue) :
    (callVoidMethod rt env obj m args >>= f) s =
      if rt.callVoidMethod (s.log env.thread (.callVoidMethod obj m args)).trace then
        f () (s.log env.thread (.callVoidMethod obj m args))
      else f () ((s.log env.thread (.callVoidMethod obj m args)).setPending env.thread true) := by
  rw [Jni.bind_apply]; simp only [callVoidMethod]; split <;> rfl

@[simp] theorem callIntMethod_bind (obj : Option Ref) (m : MethodId) :
    (callIntMethod rt env obj m >>= f) s =
      if (rt.callIntMethod (s.log env.thread (.callIntMethod obj m)).trace).2 then
        f (rt.callIntMethod (s.log env.thread (.callIntMethod obj m)).trace).1
          (s.log env.thread (.callIntMethod obj m))
      else f (rt.callIntMethod (s.log env.thread (.callIntMethod obj m)).trace).1
          ((s.log env.thread (.callIntMethod obj m)).setPending env.thread true) := by
  rw [Jni.bind_apply]; simp only [callIntMethod]; split <;> rfl

@[simp] theorem exceptionCheck_bind :
    (exceptionCheck env >>= f) s = f (s.pending env.thread) (s.log env.thread .exceptionCheck) :=
  rfl

@[simp] theorem exceptionDescribe_bind :
    (exceptionDescribe env >>= f) s =
      f () ((s.log env.thread .exceptionDescribe).setPending env.thread false) := rfl

@[simp] theorem exceptionClear_bind :
    (exceptionClear env >>= f) s =
      f () ((s.log env.thread .exceptionClear).setPending env.thread false) := rfl

@[simp] theorem malloc_bind :
    (malloc rt >>= f) s =
      f (if rt.malloc s.trace ≠ 0 ∧ s.vacant (rt.malloc s.trace) then rt.malloc s.trace else 0) s :=
  rfl

@[simp] theorem free_bind (p : Nat) : (free p >>= f) s = f () ((s.setClient p none).setHost p none) :=
  rfl

@[simp] theorem storeClient_bind (p : Nat) (h : ClientHandle) :
    (storeClient p h >>= f) s = f () (s.setClient p (some h)) := rfl

@[simp] theorem storeHost_bind (p : Nat) (h : HostHandle) :
    (storeHost p h >>= f) s = f () (s.setHost p (some h)) := rfl

@[simp] theorem readSt_bind {α : Type} (g : St → α) (f : α → Jni β) :
    (readSt g >>= f) s = f (g s) s := rfl

@[simp] theorem modifySt_bind (g : St → St) : (modifySt g >>= f) s = f () (g s) := rfl

/-! The functions that can end a computation. -/

@[simp] theorem callVoidMethod_apply (obj : Option Ref) (m : MethodId) (args : List JValue) :
    callVoidMethod rt env obj m args s =
      if rt.callVoidMethod (s.log env.thread (.callVoidMethod obj m args)).trace then
        ((), s.log env.thread (.callVoidMethod obj m args))
      else ((), (s.log env.thread (.callVoidMethod obj m args)).setPending env.thread true) := rfl

@[simp] theorem callIntMethod_apply (obj : Option Ref) (m : MethodId) :
    callIntMethod rt env obj m s =
      if (rt.callIntMethod (s.log env.thread (.callIntMethod obj m)).trace).2 then
        ((rt.callIntMethod (s.log env.thread (.callIntMethod obj m)).trace).1,
          s.log env.thread (.callIntMethod obj m))
      else ((rt.callIntMethod (s.log env.thread (.callIntMethod obj m)).trace).1,
          (s.log env.thread (.callIntMethod obj m)).setPending env.thread true) := rfl

@[simp] theorem callBooleanMethod_apply (obj : Option Ref) (m : MethodId) :
    callBooleanMethod rt env obj m s =
      if (rt.callBooleanMethod (s.log env.thread (.callBooleanMethod obj m)).trace).2 then
        ((rt.callBooleanMethod (s.log env.thread (.callBooleanMethod obj m)).trace).1,
          s.log env.thread (.callBooleanMethod obj m))
      else ((rt.callBooleanMethod (s.log env.thread (.callBooleanMethod obj m)).trace).1,
          (s.log env.thread (.callBooleanMethod obj m)).setPending env.thread true) := rfl

@[simp] theorem exceptionClear_apply :
    exceptionClear env s = ((), (s.log env.thread .exceptionClear).setPending env.thread false) :=
  rfl

@[simp] theorem modifyClient_apply (p : Nat) (g : ClientHandle → ClientHandle) :
    modifyClient p g s = ((), s.setClient p ((s.clients p).map g)) := rfl

@[simp] theorem modifyHost_apply (p : Nat) (g : HostHandle → HostHandle) :
    modifyHost p g s = ((), s.setHost p ((s.hosts p).map g)) := rfl

@[simp] theorem free_apply (p : Nat) : free p s = ((), (s.setClient p none).setHost p none) := rfl

@[simp] theorem modifySt_apply (g : St → St) : modifySt g s = ((), g s) := rfl

end Bind

end ProjectNeon
