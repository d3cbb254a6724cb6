import Mathlib.Data.List.Basic
import Mathlib.Tactic.Simps.Basic

/-!
# The managed runtime as the boundary sees it

`src/main/native/neon_jni.c` talks to a Java virtual machine through the JNI function tables and to
the C library through `malloc`/`free`.  This module is the model of that environment: the process
state the boundary and the runtime share, the requests the boundary makes, and the runtime's answers.

* The state `St` holds the boundary's globals (`g_jvm`, `g_neonClientClass`, `g_neonHostClass`), the
  handles `malloc` has handed out, and the runtime's own bookkeeping: its live global references and,
  per thread, the pending exception, the live local references, the strings whose modified UTF-8
  characters are pinned, and the thread-local `g_error_buffer`.
* Every JNI request is recorded in `St.trace` with the thread that made it and whether an exception
  was pending at that moment, so exception discipline is a property of traces.
* The runtime is a `Runtime`: for every kind of request, the answer as a function of the trace so far,
  whose head is the request being answered.  Since every request lengthens the trace, quantifying over
  all `Runtime`s is quantifying over every behaviour at every step: any lookup, allocation or managed
  call may succeed, return `NULL` or throw, independently of every other.

Calls are atomic: the model interleaves whole calls of different threads, not their instructions.
-/

namespace ProjectNeon

/-- A thread of the process; each has its own JNI environment and its own error buffer. -/
abbrev Tid := Nat

/-- A Java `int` (`jint`), as its 32 bits. -/
abbrev JInt := BitVec 32

/-- `JNI_OK`: what `GetEnv` and `AttachCurrentThread` answer when the thread has an environment;
`get_jni_env` and `JNI_OnLoad` test for it. -/
def JNI_OK : JInt := 0
/-- `JNI_ERR`: what `JNI_OnLoad` returns to the virtual machine when it cannot set the library up, so
that loading it fails. -/
def JNI_ERR : JInt := -1
/-- `JNI_EDETACHED`: the thread is not attached to the virtual machine. -/
def JNI_EDETACHED : JInt := -2
/-- `JNI_VERSION_1_8`: the interface version the library asks `GetEnv` for, and what a successful
`JNI_OnLoad` returns. -/
def JNI_VERSION_1_8 : JInt := 0x00010008

/-- Conversion of an integer value to `jint` (`int32_t`): the value modulo `2^32`, which is gcc's
implementation-defined conversion for values out of range. -/
def JInt.ofInt (v : Int) : JInt := BitVec.ofInt 32 v

/-- `(uint8_t) v`: the value modulo `2^8`. -/
def toUInt8 (v : Int) : UInt8 := UInt8.ofNat (v % 256).toNat

/-- `(uint32_t) v`: the value modulo `2^32`. -/
def toUInt32 (v : Int) : UInt32 := UInt32.ofNat (v % 4294967296).toNat

/-- `(size_t) v` on an LP64 target: the value modulo `2^64`. -/
def toSizeT (v : Int) : UInt64 := UInt64.ofNat (v % 18446744073709551616).toNat

/-- The bytes of a C string literal (every literal of `neon_jni.c` is ASCII). -/
def cBytes (m : String) : List UInt8 := m.toList.map fun c => UInt8.ofNat c.toNat

/-- A C string: the bytes before its terminating `NUL`, so none of them is `NUL`. -/
structure CString where
  bytes : List UInt8
  nul_free : (0 : UInt8) ∉ bytes
deriving DecidableEq

/-- `JNIEnv *`: the environment of one attached thread. -/
structure JNIEnv where
  thread : Tid
deriving DecidableEq, Repr

/-- A managed object a reference can designate. -/
inductive Obj where
  /-- A `java.lang.Class`, by its binary name. -/
  | cls (name : String)
  /-- A `java.lang.String`, as its UTF-16 code units. -/
  | str (chars : List UInt16)
  /-- An instance made by `NewObject`. -/
  | inst (id : Nat)
deriving DecidableEq, Repr

/-- The characters of a string object (none for any other object). -/
def Obj.chars : Obj → List UInt16
  | .str cs => cs
  | _ => []

/-- A JNI reference (`jobject`, `jclass`, `jstring`): the slot it occupies and what it designates. -/
structure Ref where
  slot : Nat
  obj : Obj
deriving DecidableEq, Repr

/-- A `jmethodID`: the method's name and JNI signature. -/
structure MethodId where
  name : String
  sig : String
deriving DecidableEq, Repr

/-- An argument passed to a managed constructor or method. -/
inductive JValue where
  | int (v : JInt)
  | bool (b : Bool)
  | ref (r : Option Ref)
deriving DecidableEq, Repr

/-- The JNI and invocation-interface functions `neon_jni.c` calls, with their arguments. -/
inductive Request where
  | getEnv
  | attachCurrentThread
  | findClass (name : String)
  | newGlobalRef (obj : Option Ref)
  | deleteGlobalRef (obj : Option Ref)
  | deleteLocalRef (obj : Ref)
  | getStringUTFChars (str : Ref)
  | releaseStringUTFChars (str : Ref)
  | getMethodID (cls : Option Ref) (name sig : String)
  | newStringUTF (bytes : List UInt8)
  | newObject (cls : Option Ref) (ctor : MethodId) (args : List JValue)
  | callVoidMethod (obj : Option Ref) (m : MethodId) (args : List JValue)
  | callIntMethod (obj : Option Ref) (m : MethodId)
  | callBooleanMethod (obj : Option Ref) (m : MethodId)
  | exceptionCheck
  | exceptionDescribe
  | exceptionClear
deriving DecidableEq, Repr

/-- The functions the JNI specification allows while an exception is pending.  `GetEnv` and
`AttachCurrentThread` belong to the invocation interface, not to the `JNIEnv` table the rule is
about. -/
def Request.exceptionSafe : Request → Bool
  | .getEnv | .attachCurrentThread => true
  | .exceptionCheck | .exceptionDescribe | .exceptionClear => true
  | .releaseStringUTFChars _ | .deleteLocalRef _ | .deleteGlobalRef _ => true
  | _ => false

/-- What the trace records. -/
inductive Event where
  /-- Thread `t` made request `q`; `pending` says whether an exception was pending on `t` then. -/
  | jni (t : Tid) (q : Request) (pending : Bool)
  /-- Thread `t` wrote `msg` into its error buffer (`set_error`). -/
  | error (t : Tid) (msg : String)
deriving DecidableEq, Repr

/-- The runtime's answer to each kind of request, from the trace whose head is that request.
Boolean answers are "succeeds"; a failing lookup or allocation returns `NULL` and throws, as the JNI
specification has it.  `callIntMethod` and `callBooleanMethod` give the value returned together with
whether the method returned normally; the value is the runtime's even when it threw.
`malloc` answers an address, which the allocator hands out only when it is non-zero and no live
handle occupies it. -/
structure Runtime where
  getEnv : List Event → JInt
  attachCurrentThread : List Event → JInt
  findClass : List Event → Bool
  newGlobalRef : List Event → Bool
  getStringUTFChars : List Event → Bool
  getMethodID : List Event → Bool
  newStringUTF : List Event → Bool
  newObject : List Event → Bool
  callVoidMethod : List Event → Bool
  callIntMethod : List Event → JInt × Bool
  callBooleanMethod : List Event → Bool × Bool
  malloc : List Event → Nat

/-- The events a client handle can be notified of, one per callback field of `NeonClientHandle`. -/
inductive ClientEvent where
  | pong | sessionConfig | packetTypeRegistry | unhandledPacket | wrongDestination
deriving DecidableEq, Repr

/-- The events a host handle can be notified of, one per callback field of `NeonHostHandle`. -/
inductive HostEvent where
  | clientConnect | clientDeny | pingReceived | unhandledPacket
deriving DecidableEq, Repr

/-- `struct NeonClientHandle`; callback pointers are addresses, `0` being `NULL`. -/
structure ClientHandle where
  javaObject : Option Ref
  pongCallback : Nat
  sessionConfigCallback : Nat
  packetTypeRegistryCallback : Nat
  unhandledPacketCallback : Nat
  wrongDestinationCallback : Nat
deriving DecidableEq, Repr

/-- `struct NeonHostHandle`. -/
structure HostHandle where
  javaObject : Option Ref
  clientConnectCallback : Nat
  clientDenyCallback : Nat
  pingReceivedCallback : Nat
  unhandledPacketCallback : Nat
deriving DecidableEq, Repr

/-- The callback field of a client handle for event `e`. -/
def ClientHandle.callback (h : ClientHandle) : ClientEvent → Nat
  | .pong => h.pongCallback
  | .sessionConfig => h.sessionConfigCallback
  | .packetTypeRegistry => h.packetTypeRegistryCallback
  | .unhandledPacket => h.unhandledPacketCallback
  | .wrongDestination => h.wrongDestinationCallback

/-- The store `handle-><e>Callback = f`. -/
def ClientHandle.setCallback (h : ClientHandle) (e : ClientEvent) (f : Nat) : ClientHandle :=
  match e with
  | .pong => { h with pongCallback := f }
  | .sessionConfig => { h with sessionConfigCallback := f }
  | .packetTypeRegistry => { h with packetTypeRegistryCallback := f }
  | .unhandledPacket => { h with unhandledPacketCallback := f }
  | .wrongDestination => { h with wrongDestinationCallback := f }

/-- The callback field of a host handle for event `e`. -/
def HostHandle.callback (h : HostHandle) : HostEvent → Nat
  | .clientConnect => h.clientConnectCallback
  | .clientDeny => h.clientDenyCallback
  | .pingReceived => h.pingReceivedCallback
  | .unhandledPacket => h.unhandledPacketCallback

/-- The store `handle-><e>Callback = f`. -/
def HostHandle.setCallback (h : HostHandle) (e : HostEvent) (f : Nat) : HostHandle :=
  match e with
  | .clientConnect => { h with clientConnectCallback := f }
  | .clientDeny => { h with clientDenyCallback := f }
  | .pingReceived => { h with pingReceivedCallback := f }
  | .unhandledPacket => { h with unhandledPacketCallback := f }

@[simp] theorem ClientHandle.callback_setCallback (h : ClientHandle) (e e' : ClientEvent) (f : Nat) :
    (h.setCallback e f).callback e' = if e' = e then f else h.callback e' := by
  cases e <;> cases e' <;> rfl

@[simp] theorem ClientHandle.javaObject_setCallback (h : ClientHandle) (e : ClientEvent) (f : Nat) :
    (h.setCallback e f).javaObject = h.javaObject := by
  cases e <;> rfl

@[simp] theorem HostHandle.callback_setCallback (h : HostHandle) (e e' : HostEvent) (f : Nat) :
    (h.setCallback e f).callback e' = if e' = e then f else h.callback e' := by
  cases e <;> cases e' <;> rfl

@[simp] theorem HostHandle.javaObject_setCallback (h : HostHandle) (e : HostEvent) (f : Nat) :
    (h.setCallback e f).javaObject = h.javaObject := by
  cases e <;> rfl

/-- The process: the boundary's globals and heap, the runtime's references, and the trace. -/
structure St where
  /-- `g_jvm`, the `JavaVM *` (an address; `none` is `NULL`). -/
  jvm : Option Nat := none
  /-- `g_neonClientClass`: the `NeonClient` class `JNI_OnLoad` caches behind a global reference, for
  the JNI functions to look up its constructor and methods on any thread. -/
  neonClientClass : Option Ref := none
  /-- `g_neonHostClass`: the `NeonHost` class, cached the same way. -/
  neonHostClass : Option Ref := none
  /-- The runtime's live global references. -/
  globals : List Ref := []
  /-- Whether a managed exception is pending, per thread. -/
  pending : Tid → Bool := fun _ => false
  /-- The live local references of each thread, newest first. -/
  locals : Tid → List Ref := fun _ => []
  /-- The strings whose `GetStringUTFChars` buffer each thread has not released. -/
  pins : Tid → List Ref := fun _ => []
  /-- `static THREAD_LOCAL char g_error_buffer[512] = {0}`, per thread. -/
  errorBuffer : Tid → Fin 512 → UInt8 := fun _ _ => 0
  /-- The live `NeonClientHandle` blocks, by address. -/
  clients : Nat → Option ClientHandle := fun _ => none
  /-- The live `NeonHostHandle` blocks, by address. -/
  hosts : Nat → Option HostHandle := fun _ => none
  /-- A supply of fresh local reference slots and object identities. -/
  next : Nat := 0
  /-- A supply of fresh global reference slots. -/
  nextGlobal : Nat := 0
  /-- Every JNI request and every `set_error`, newest first. -/
  trace : List Event := []

/-! ### Updates of the state

Each update is a definition of its own, so that a long computation stays a short term; `simps`
gives each the lemmas that read every field after it. -/

/-- Record that thread `t` makes request `q`. -/
@[simps] def St.log (s : St) (t : Tid) (q : Request) : St :=
  { s with trace := .jni t q (s.pending t) :: s.trace }

/-- Set or clear thread `t`'s pending exception. -/
@[simps] def St.setPending (s : St) (t : Tid) (b : Bool) : St :=
  { s with pending := fun u => if u = t then b else s.pending u }

/-- A new local reference on thread `t`. -/
@[simps] def St.pushLocal (s : St) (t : Tid) (r : Ref) : St :=
  { s with locals := fun u => if u = t then r :: s.locals u else s.locals u }

/-- `DeleteLocalRef` of `r` on thread `t`. -/
@[simps] def St.eraseLocal (s : St) (t : Tid) (r : Ref) : St :=
  { s with locals := fun u => if u = t then (s.locals u).erase r else s.locals u }

/-- Thread `t` pins string `r`. -/
@[simps] def St.pin (s : St) (t : Tid) (r : Ref) : St :=
  { s with pins := fun u => if u = t then r :: s.pins u else s.pins u }

/-- Thread `t` releases string `r`. -/
@[simps] def St.unpin (s : St) (t : Tid) (r : Ref) : St :=
  { s with pins := fun u => if u = t then (s.pins u).erase r else s.pins u }

/-- Thread `t`'s error buffer becomes `buf`, and the trace records the message. -/
@[simps] def St.recordError (s : St) (t : Tid) (msg : String) (buf : Fin 512 → UInt8) : St :=
  { s with errorBuffer := fun u => if u = t then buf else s.errorBuffer u,
           trace := .error t msg :: s.trace }

/-- Use up the current fresh slot `next`, so that the next local reference or object made gets a name
no live one has. -/
@[simps] def St.bump (s : St) : St := { s with next := s.next + 1 }

/-- A new global reference to `obj`, in a fresh slot. -/
@[simps] def St.addGlobal (s : St) (obj : Obj) : St :=
  { s with globals := ⟨s.nextGlobal, obj⟩ :: s.globals, nextGlobal := s.nextGlobal + 1 }

/-- `DeleteGlobalRef` of `g`; `NULL` deletes nothing. -/
@[simps] def St.eraseGlobal (s : St) (g : Option Ref) : St :=
  { s with globals := match g with | some r => s.globals.erase r | none => s.globals }

/-- The client block at `p` becomes `o`. -/
@[simps] def St.setClient (s : St) (p : Nat) (o : Option ClientHandle) : St :=
  { s with clients := fun q => if q = p then o else s.clients q }

/-- The host block at `p` becomes `o`. -/
@[simps] def St.setHost (s : St) (p : Nat) (o : Option HostHandle) : St :=
  { s with hosts := fun q => if q = p then o else s.hosts q }

/-- `g_jvm = vm`. -/
@[simps] def St.setJvm (s : St) (vm : Option Nat) : St := { s with jvm := vm }

/-- `g_neonClientClass = c`. -/
@[simps] def St.setNeonClientClass (s : St) (c : Option Ref) : St := { s with neonClientClass := c }

/-- `g_neonHostClass = c`. -/
@[simps] def St.setNeonHostClass (s : St) (c : Option Ref) : St := { s with neonHostClass := c }

/-- The boundary's computations: functions of the process state. -/
def Jni (α : Type) : Type := St → α × St

instance : Monad Jni where
  pure a := fun s => (a, s)
  bind m f := fun s => match m s with | (a, s') => f a s'

@[simp] theorem Jni.pure_apply {α : Type} (a : α) (s : St) : (pure a : Jni α) s = (a, s) := rfl

@[simp] theorem Jni.bind_assoc {α β γ : Type} (m : Jni α) (f : α → Jni β) (g : β → Jni γ) :
    m >>= f >>= g = m >>= fun a => f a >>= g := rfl

@[simp] theorem Jni.pure_bind {α β : Type} (a : α) (f : α → Jni β) : pure a >>= f = f a := rfl

@[simp] theorem Jni.ite_bind {α β : Type} (c : Prop) [Decidable c] (m₁ m₂ : Jni α)
    (f : α → Jni β) : (if c then m₁ else m₂) >>= f = if c then m₁ >>= f else m₂ >>= f := by
  split <;> rfl

@[simp] theorem Jni.ite_apply {α : Type} (c : Prop) [Decidable c] (m₁ m₂ : Jni α) (s : St) :
    (if c then m₁ else m₂) s = if c then m₁ s else m₂ s := by
  split <;> rfl

theorem Jni.bind_apply {α β : Type} (m : Jni α) (f : α → Jni β) (s : St) :
    (m >>= f) s = f (m s).1 (m s).2 := rfl

end ProjectNeon
