import ProjectNeon.NeonApi

/-!
# Runs of the library

A run is what happens to the library over its life: the virtual machine loads and unloads it, and
native threads call the C API, one whole call at a time, in any interleaving.  `Call` lists the C API
with its arguments and `Call.exec` runs one; `Action` adds `JNI_OnLoad` and `JNI_OnUnload`.  One
`Runtime` answers every request of a run: since its answers may depend on the whole trace, that
loses no behaviour.
-/

namespace ProjectNeon

/-- A call of the C API, with its arguments. -/
inductive Call where
  | clientNew (name : CString)
  | clientConnect (client : Nat) (sessionId : UInt32) (relayAddr : CString)
  | clientProcessPackets (client : Nat)
  | clientGetId (client : Nat)
  | clientGetSessionId (client : Nat)
  | clientIsConnected (client : Nat)
  | clientSendPing (client : Nat)
  | clientSetAutoPing (client : Nat) (enabled : Bool)
  | clientSetCallback (e : ClientEvent) (client callback : Nat)
  | clientFree (client : Nat)
  | hostNew (sessionId : UInt32) (relayAddr : CString)
  | hostStart (host : Nat)
  | hostProcessPackets (host : Nat)
  | hostGetSessionId (host : Nat)
  | hostGetClientCount (host : Nat)
  | hostSetCallback (e : HostEvent) (host callback : Nat)
  | hostFree (host : Nat)
  | getLastError

/-- What a call returns. -/
inductive Ret where
  | handle (p : Nat)
  | bool (b : Bool)
  | int (v : JInt)
  | u8 (v : UInt8)
  | u32 (v : UInt32)
  | size (v : UInt64)
  | str (v : Option (List UInt8))
  | unit
deriving DecidableEq

/-- Run one call of the C API on thread `t`. -/
def Call.exec (rt : Runtime) (t : Tid) : Call → Jni Ret
  | .clientNew name => do return .handle (← neonClientNew rt t name)
  | .clientConnect c sid addr => do return .bool (← neonClientConnect rt t c sid addr)
  | .clientProcessPackets c => do return .int (← neonClientProcessPackets rt t c)
  | .clientGetId c => do return .u8 (← neonClientGetId rt t c)
  | .clientGetSessionId c => do return .u32 (← neonClientGetSessionId rt t c)
  | .clientIsConnected c => do return .bool (← neonClientIsConnected rt t c)
  | .clientSendPing c => do return .bool (← neonClientSendPing rt t c)
  | .clientSetAutoPing c en => do neonClientSetAutoPing rt t c en; return .unit
  | .clientSetCallback e c cb => do neonClientSetCallback rt t e c cb; return .unit
  | .clientFree c => do neonClientFree rt t c; return .unit
  | .hostNew sid addr => do return .handle (← neonHostNew rt t sid addr)
  | .hostStart h => do return .bool (← neonHostStart rt t h)
  | .hostProcessPackets h => do return .int (← neonHostProcessPackets rt t h)
  | .hostGetSessionId h => do return .u32 (← neonHostGetSessionId rt t h)
  | .hostGetClientCount h => do return .size (← neonHostGetClientCount rt t h)
  | .hostSetCallback e h cb => do neonHostSetCallback rt t e h cb; return .unit
  | .hostFree h => do neonHostFree rt t h; return .unit
  | .getLastError => do return .str (← neonGetLastError t)

/-- What can happen to the library: a C API call, or the virtual machine loading or unloading it. -/
inductive Action where
  | call (c : Call)
  | load (vm : Nat)
  | unload

/-- Run one action on thread `t`. -/
def Action.exec (rt : Runtime) (t : Tid) : Action → Jni Unit
  | .call c => do let _ ← c.exec rt t
  | .load vm => do let _ ← jniOnLoad rt vm t
  | .unload => jniOnUnload rt t

/-- The state after a run of actions, each on its thread. -/
def runActions (rt : Runtime) : List (Tid × Action) → St → St
  | [], s => s
  | (t, a) :: as, s => runActions rt as (a.exec rt t s).2

/-- The state after a run of C API calls, each on its thread. -/
def runCalls (rt : Runtime) : List (Tid × Call) → St → St
  | [], s => s
  | (t, c) :: cs, s => runCalls rt cs (c.exec rt t s).2

/-- A runtime under which every request succeeds: threads are attached, every lookup and allocation
succeeds, managed calls return `0` or `true` normally, and `malloc` returns an address it never
returned before. -/
def Runtime.cooperative : Runtime where
  getEnv _ := JNI_OK
  attachCurrentThread _ := JNI_OK
  findClass _ := true
  newGlobalRef _ := true
  getStringUTFChars _ := true
  getMethodID _ := true
  newStringUTF _ := true
  newObject _ := true
  callVoidMethod _ := true
  callIntMethod _ := (0, true)
  callBooleanMethod _ := (true, true)
  malloc tr := tr.length + 1

/-- A runtime whose string conversions and method lookups succeed and whose managed constructors
return normally; threads may still fail to attach, allocations may fail, and every managed method
may throw. -/
structure Runtime.Resolves (rt : Runtime) : Prop where
  getStringUTFChars : ∀ tr, rt.getStringUTFChars tr = true
  getMethodID : ∀ tr, rt.getMethodID tr = true
  newStringUTF : ∀ tr, rt.newStringUTF tr = true
  newObject : ∀ tr, rt.newObject tr = true

end ProjectNeon
