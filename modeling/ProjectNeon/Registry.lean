import ProjectNeon.Callbacks
import ProjectNeon.ExamplePrograms

/-!
# The handle registry

What a program using `project_neon.h` can observe of the library's memory is which addresses are
live handles, of which kind, and the callback pointers each one stores.  `Registry` is that view,
the abstract model of the handle API as the header documents it: a constructor returns `NULL` or a
new handle whose callbacks are all `NULL`, `free` ends the handle at its address, a setter stores
one pointer, `NULL` names no handle, and no other function changes a handle.  `Heap.registry` maps
the modelled heap onto it, forgetting the Java objects and the global references.

* `Call.exec_registry`: each call of the C API is one step of the registry, or, when `get_jni_env`
  fails, no step at all; its constructors return `NULL` or an address that names no handle.
* `handle_registry_refinement`: on a loaded library whose threads `get_jni_env` binds, every run of
  C API calls is a run of the registry, step for step, on the values the calls returned.
* `examples_keep_registry`: run inside a loaded virtual machine whose threads `get_jni_env` binds,
  each example program leaves the registry as it found it, on every path.
-/

namespace ProjectNeon

/-- The live handles by address, each with its callback pointers. -/
@[ext] structure Registry where
  clients : Nat → Option (ClientEvent → Nat)
  hosts : Nat → Option (HostEvent → Nat)

namespace Registry

variable (r : Registry)

/-- `q` is not `NULL` and names no handle. -/
def Vacant (q : Nat) : Prop := q ≠ 0 ∧ r.clients q = none ∧ r.hosts q = none

/-- A constructor of kind `k` returned `q`: `NULL` adds nothing, any other address becomes a handle
whose callbacks are all `NULL`. -/
def add (k : Kind) (q : Nat) : Registry :=
  if q = 0 then r
  else match k with
    | .client => ⟨fun p => if p = q then some fun _ => 0 else r.clients p, r.hosts⟩
    | .host => ⟨r.clients, fun p => if p = q then some fun _ => 0 else r.hosts p⟩

/-- `free(p)`: the handle at `p` ends, whatever its kind; `free(NULL)` does nothing. -/
def remove (p : Nat) : Registry :=
  if p = 0 then r
  else ⟨fun q => if q = p then none else r.clients q, fun q => if q = p then none else r.hosts q⟩

/-- `set_<e>_callback(p, f)` on a client handle. -/
def setClientCallback (p : Nat) (e : ClientEvent) (f : Nat) : Registry :=
  if p = 0 then r
  else ⟨fun q => if q = p then (r.clients p).map fun cb e' => if e' = e then f else cb e'
      else r.clients q, r.hosts⟩

/-- `set_<e>_callback(p, f)` on a host handle. -/
def setHostCallback (p : Nat) (e : HostEvent) (f : Nat) : Registry :=
  if p = 0 then r
  else ⟨r.clients, fun q => if q = p then (r.hosts p).map fun cb e' => if e' = e then f else cb e'
      else r.hosts q⟩

/-- What one call does to the handles, given the value it returned. -/
def step : Call → Ret → Registry
  | .clientNew _, .handle q => r.add .client q
  | .hostNew _ _, .handle q => r.add .host q
  | .clientFree p, _ | .hostFree p, _ => r.remove p
  | .clientSetCallback e p f, _ => r.setClientCallback p e f
  | .hostSetCallback e p f, _ => r.setHostCallback p e f
  | _, _ => r

/-- A constructor returns `NULL` or an address that names no handle. -/
def fresh : Call → Ret → Bool
  | .clientNew _, .handle q | .hostNew _ _, .handle q =>
    q == 0 || ((r.clients q).isNone && (r.hosts q).isNone)
  | _, _ => true

/-- The registry after a run, each call given the value it returned. -/
def run : Registry → List (Call × Ret) → Registry
  | r, [] => r
  | r, (c, v) :: cvs => (r.step c v).run cvs

/-- Every constructor of a run returns `NULL` or an address that names no handle when it returns. -/
def freshRun : Registry → List (Call × Ret) → Bool
  | _, [] => true
  | r, (c, v) :: cvs => r.fresh c v && (r.step c v).freshRun cvs

/-- The test `fresh` makes of a constructor's result. -/
theorem fresh_handle_iff {q : Nat} :
    (q == 0 || ((r.clients q).isNone && (r.hosts q).isNone)) = true ↔ q = 0 ∨ r.Vacant q := by
  by_cases h0 : q = 0 <;> simp [h0, Vacant, Option.isNone_iff_eq_none]

/-- Freeing a handle forgets the callbacks stored in it. -/
theorem remove_setClientCallback (p : Nat) (e : ClientEvent) (f : Nat) :
    (r.setClientCallback p e f).remove p = r.remove p := by
  unfold setClientCallback remove
  split_ifs with h0
  · rfl
  ext1 <;> funext q <;> by_cases hq : q = p <;> simp [hq]

theorem remove_setHostCallback (p : Nat) (e : HostEvent) (f : Nat) :
    (r.setHostCallback p e f).remove p = r.remove p := by
  unfold setHostCallback remove
  split_ifs with h0
  · rfl
  ext1 <;> funext q <;> by_cases hq : q = p <;> simp [hq]

/-- Freeing the handle a constructor returned at a vacant address gives the registry back. -/
theorem remove_add (k : Kind) {q : Nat} (hq : q = 0 ∨ r.Vacant q) : (r.add k q).remove q = r := by
  rcases hq with rfl | ⟨h0, hc, hh⟩
  · simp [add, remove]
  cases k <;> ext1 <;> funext p <;> by_cases hp : p = q <;> simp [add, remove, h0, hp, hc, hh]

end Registry

/-! ## The abstraction of the heap -/

/-- The registry a heap holds: the kind and callback pointers of each block, without its Java
object. -/
def Heap.registry (h : Heap) : Registry :=
  ⟨fun p => (h.clients p).map (·.callback), fun p => (h.hosts p).map (·.callback)⟩

namespace Heap

variable (h : Heap) (k : Kind) (p q : Nat)

theorem callback_mk_client (g : Option Ref) :
    (⟨g, 0, 0, 0, 0, 0⟩ : ClientHandle).callback = fun _ => 0 := by
  funext e
  cases e <;> rfl

theorem callback_mk_host (g : Option Ref) : (⟨g, 0, 0, 0, 0⟩ : HostHandle).callback = fun _ => 0 := by
  funext e
  cases e <;> rfl

theorem callback_setCallback_client (c : ClientHandle) (e : ClientEvent) (f : Nat) :
    (c.setCallback e f).callback = fun e' => if e' = e then f else c.callback e' := by
  funext e'
  exact ClientHandle.callback_setCallback c e e' f

theorem callback_setCallback_host (c : HostHandle) (e : HostEvent) (f : Nat) :
    (c.setCallback e f).callback = fun e' => if e' = e then f else c.callback e' := by
  funext e'
  exact HostHandle.callback_setCallback c e e' f

theorem registry_create (hq : q ≠ 0) (g : Option Ref) :
    (h.create k q g).registry = h.registry.add k q := by
  cases k <;> ext1 <;> funext p <;> by_cases hp : p = q <;>
    simp [registry, Registry.add, hq, create_clients, create_hosts, hp, callback_mk_client,
      callback_mk_host]

theorem registry_release (hp : p ≠ 0) : (h.release k p).registry = h.registry.remove p := by
  ext1 <;> funext q <;> by_cases hq : q = p <;> simp [registry, Registry.remove, hp, hq]

theorem registry_setClientCallback (hp : p ≠ 0) (e : ClientEvent) (f : Nat) :
    (h.setClientCallback p e f).registry = h.registry.setClientCallback p e f := by
  ext1 <;> funext q <;> by_cases hq : q = p <;>
    simp [registry, Registry.setClientCallback, hp, hq, Option.map_map, Function.comp_def,
      callback_setCallback_client]

theorem registry_setHostCallback (hp : p ≠ 0) (e : HostEvent) (f : Nat) :
    (h.setHostCallback p e f).registry = h.registry.setHostCallback p e f := by
  ext1 <;> funext q <;> by_cases hq : q = p <;>
    simp [registry, Registry.setHostCallback, hp, hq, Option.map_map, Function.comp_def,
      callback_setCallback_host]

end Heap

/-! ## One call -/

section Step

variable (rt : Runtime) (t : Tid)

/-- A constructor's outcome is a step of the registry at a fresh address. -/
theorem NewOutcome.registry {k : Kind} {s : St} {r : Nat × St}
    (h : NewOutcome rt (Heap.create k) s r) :
    r.2.heap.registry = s.heap.registry.add k r.1 ∧
      (r.1 = 0 ∨ s.heap.registry.Vacant r.1) := by
  rcases h with ⟨h0, hh⟩ | ⟨g, hv, -, hh⟩
  · simp [hh, h0, Registry.add]
  · rw [hh, Heap.registry_create _ _ _ hv.1]
    exact ⟨rfl, .inr ⟨hv.1, by simpa [Heap.registry] using hv.2.1,
      by simpa [Heap.registry] using hv.2.2⟩⟩

/-- A forwarding writer that leaves heap `h'` when it acts, of registry `r'`: the registry becomes
`r'`, or `get_jni_env` failed and it stays. -/
theorem registry_of_forward {s s' : St} {p : Nat} {h' : Heap} {r' : Registry}
    (h : s'.heap = if p ≠ 0 ∧ (getJniEnv rt t s).1.isSome then h' else s.heap)
    (hE : p ≠ 0 → h'.registry = r') (h0 : p = 0 → r' = s.heap.registry) :
    s'.heap.registry = r' ∨ ((getJniEnv rt t s).1 = none ∧ s'.heap.registry = s.heap.registry) := by
  by_cases hp : p = 0
  · simp only [hp, ne_eq, not_true_eq_false, false_and, if_false] at h
    exact .inl (by rw [h, h0 hp])
  cases hb : (getJniEnv rt t s).1 with
  | none => simp [hp, hb] at h; exact .inr ⟨rfl, by rw [h]⟩
  | some _ => simp [hp, hb] at h; exact .inl (by rw [h, hE hp])

/-- **Each call is one step of the registry**, or no step when `get_jni_env` fails; a constructor
returns `NULL` or an address that names no handle. -/
theorem Call.exec_registry (c : Call) (s : St) :
    ((c.exec rt t s).2.heap.registry = s.heap.registry.step c (c.exec rt t s).1 ∨
      ((getJniEnv rt t s).1 = none ∧ (c.exec rt t s).2.heap.registry = s.heap.registry)) ∧
    s.heap.registry.fresh c (c.exec rt t s).1 := by
  by_cases hrd : c.readsHeap
  · have hh : (c.exec rt t s).2.heap = s.heap := Call.exec_heap rt t c hrd s
    rw [hh]
    cases c <;> simp [Call.readsHeap] at hrd <;> exact ⟨.inl rfl, rfl⟩
  have hfresh {k : Kind} {r : Nat × St} (h : NewOutcome rt (Heap.create k) s r) :=
    (Registry.fresh_handle_iff _).mpr (NewOutcome.registry rt h).2
  cases c with
  | clientNew name =>
    have h : NewOutcome rt (Heap.create .client) s _ := neonClientNew_outcome rt t name s
    exact ⟨.inl (NewOutcome.registry rt h).1, hfresh h⟩
  | hostNew sid addr =>
    have h : NewOutcome rt (Heap.create .host) s _ := neonHostNew_outcome rt t sid addr s
    exact ⟨.inl (NewOutcome.registry rt h).1, hfresh h⟩
  | clientFree p =>
    exact ⟨registry_of_forward rt t (neonClientFree_heap rt t p s)
      (Heap.registry_release _ _ _) (fun hp => by simp [hp, Registry.step, Registry.remove]), rfl⟩
  | hostFree p =>
    exact ⟨registry_of_forward rt t (neonHostFree_heap rt t p s)
      (Heap.registry_release _ _ _) (fun hp => by simp [hp, Registry.step, Registry.remove]), rfl⟩
  | clientSetCallback e p f =>
    exact ⟨registry_of_forward rt t (neonClientSetCallback_heap rt t e p f s)
      (Heap.registry_setClientCallback _ _ · _ _)
      (fun hp => by simp [hp, Registry.step, Registry.setClientCallback]), rfl⟩
  | hostSetCallback e p f =>
    exact ⟨registry_of_forward rt t (neonHostSetCallback_heap rt t e p f s)
      (Heap.registry_setHostCallback _ _ · _ _)
      (fun hp => by simp [hp, Registry.step, Registry.setHostCallback]), rfl⟩
  | _ => simp [Call.readsHeap] at hrd

end Step

/-! ## Runs -/

/-- Each call of a run with the value it returned. -/
def runRets (rt : Runtime) : List (Tid × Call) → St → List (Call × Ret)
  | [], _ => []
  | (t, c) :: cs, s => (c, (c.exec rt t s).1) :: runRets rt cs (c.exec rt t s).2

section Refinement

variable {rt : Runtime} (he : rt.BindsThreads)

include he

/-- On a loaded library whose threads `get_jni_env` binds, each call is exactly its registry
step. -/
theorem Call.exec_refines (t : Tid) (c : Call) (s : St) (hj : s.jvm ≠ none) :
    (c.exec rt t s).2.heap.registry = s.heap.registry.step c (c.exec rt t s).1 := by
  have hb := he t s hj
  rcases (Call.exec_registry rt t c s).1 with h | ⟨hn, -⟩
  · exact h
  · simp [hn] at hb

theorem runCalls_refines (run : List (Tid × Call)) (s : St) (hj : s.jvm ≠ none) :
    s.heap.registry.freshRun (runRets rt run s) ∧
      (runCalls rt run s).heap.registry = s.heap.registry.run (runRets rt run s) := by
  induction run generalizing s with
  | nil => exact ⟨rfl, rfl⟩
  | cons x run ih =>
    obtain ⟨t, c⟩ := x
    have hj' : (c.exec rt t s).2.jvm ≠ none := by rwa [Call.exec_jvm]
    have hstep := Call.exec_refines he t c s hj
    obtain ⟨hf, hr⟩ := ih _ hj'
    rw [hstep] at hf hr
    exact ⟨by simp [runRets, Registry.freshRun, (Call.exec_registry rt t c s).2, hf], hr⟩

end Refinement

/-- **The C API refines the handle registry.**  On a loaded library whose threads `get_jni_env`
binds, whatever else the runtime answers, every run of C API calls from any state takes the
registry through the abstract run of the values its calls returned, and every constructor of the
run returns `NULL` or an address that names no handle. -/
theorem handle_registry_refinement (rt : Runtime) (he : rt.BindsThreads)
    (run : List (Tid × Call)) (s : St) (hj : s.jvm ≠ none) :
    s.heap.registry.freshRun (runRets rt run s) = true ∧
      (runCalls rt run s).heap.registry = s.heap.registry.run (runRets rt run s) :=
  runCalls_refines he run s hj

/-- A client made on a thread the virtual machine attaches on demand and freed on another. -/
theorem handle_registry_refinement_attach_on_demand :
    Runtime.attachOnDemand.BindsThreads ∧ ({ jvm := some 1 } : St).jvm ≠ none ∧
    (({ jvm := some 1 } : St).heap.registry.freshRun
        (runRets .attachOnDemand [(0, .clientNew ⟨[110], by decide⟩), (1, .clientFree 1)]
          { jvm := some 1 }) = true ∧
      (runCalls .attachOnDemand [(0, .clientNew ⟨[110], by decide⟩), (1, .clientFree 1)]
          { jvm := some 1 }).heap.registry =
        ({ jvm := some 1 } : St).heap.registry.run
          (runRets .attachOnDemand [(0, .clientNew ⟨[110], by decide⟩), (1, .clientFree 1)]
            { jvm := some 1 })) :=
  ⟨Runtime.attachOnDemand_bindsThreads, by simp,
    handle_registry_refinement .attachOnDemand Runtime.attachOnDemand_bindsThreads _ _ (by simp)⟩

/-! ## The example programs -/

section Examples

variable {rt : Runtime} (t : Tid)

/-- What the constructors do to the registry, with the freshness of their result. -/
theorem neonClientNew_registry (name : CString) (s : St) :
    (neonClientNew rt t name s).2.heap.registry =
        s.heap.registry.add .client (neonClientNew rt t name s).1 ∧
      ((neonClientNew rt t name s).1 = 0 ∨ s.heap.registry.Vacant (neonClientNew rt t name s).1) :=
  NewOutcome.registry rt (neonClientNew_outcome rt t name s)

theorem neonHostNew_registry (sessionId : UInt32) (relayAddr : CString) (s : St) :
    (neonHostNew rt t sessionId relayAddr s).2.heap.registry =
        s.heap.registry.add .host (neonHostNew rt t sessionId relayAddr s).1 ∧
      ((neonHostNew rt t sessionId relayAddr s).1 = 0 ∨
        s.heap.registry.Vacant (neonHostNew rt t sessionId relayAddr s).1) :=
  NewOutcome.registry rt (neonHostNew_outcome rt t sessionId relayAddr s)

/-! The calls that only read the heap keep the registry (`Call.exec_heap`). -/

section Reads

variable (s : St) (p : Nat)

@[simp] theorem neonClientConnect_registry (sessionId : UInt32) (relayAddr : CString) :
    (neonClientConnect rt t p sessionId relayAddr s).2.heap.registry = s.heap.registry :=
  congrArg Heap.registry (Call.exec_heap rt t (.clientConnect p sessionId relayAddr) rfl s)
@[simp] theorem neonClientProcessPackets_registry :
    (neonClientProcessPackets rt t p s).2.heap.registry = s.heap.registry :=
  congrArg Heap.registry (Call.exec_heap rt t (.clientProcessPackets p) rfl s)
@[simp] theorem neonClientIsConnected_registry :
    (neonClientIsConnected rt t p s).2.heap.registry = s.heap.registry :=
  congrArg Heap.registry (Call.exec_heap rt t (.clientIsConnected p) rfl s)
@[simp] theorem neonClientSendPing_registry :
    (neonClientSendPing rt t p s).2.heap.registry = s.heap.registry :=
  congrArg Heap.registry (Call.exec_heap rt t (.clientSendPing p) rfl s)
@[simp] theorem neonClientGetId_registry :
    (neonClientGetId rt t p s).2.heap.registry = s.heap.registry :=
  congrArg Heap.registry (Call.exec_heap rt t (.clientGetId p) rfl s)
@[simp] theorem neonClientGetSessionId_registry :
    (neonClientGetSessionId rt t p s).2.heap.registry = s.heap.registry :=
  congrArg Heap.registry (Call.exec_heap rt t (.clientGetSessionId p) rfl s)
@[simp] theorem neonHostProcessPackets_registry :
    (neonHostProcessPackets rt t p s).2.heap.registry = s.heap.registry :=
  congrArg Heap.registry (Call.exec_heap rt t (.hostProcessPackets p) rfl s)
@[simp] theorem neonHostGetSessionId_registry :
    (neonHostGetSessionId rt t p s).2.heap.registry = s.heap.registry :=
  congrArg Heap.registry (Call.exec_heap rt t (.hostGetSessionId p) rfl s)
@[simp] theorem neonHostGetClientCount_registry :
    (neonHostGetClientCount rt t p s).2.heap.registry = s.heap.registry :=
  congrArg Heap.registry (Call.exec_heap rt t (.hostGetClientCount p) rfl s)

end Reads

theorem clientLoop_registry (client : Nat) :
    ∀ n i s, (clientLoop rt t client i n s).2.heap.registry = s.heap.registry
  | 0, _, _ => rfl
  | n + 1, i, s => by
    simp only [clientLoop, Jni.bind_apply, Jni.ite_apply, Jni.pure_apply]
    split_ifs <;> simp [clientLoop_registry client n]

theorem hostLoop_registry (host : Nat) :
    ∀ n i s, (hostLoop rt t host i n s).2.heap.registry = s.heap.registry
  | 0, _, _ => rfl
  | n + 1, i, s => by
    simp only [hostLoop, Jni.bind_apply, Jni.ite_apply, Jni.pure_apply]
    split_ifs <;> simp [hostLoop_registry host n]

section Writers

variable (he : rt.BindsThreads) {s : St} (hj : s.jvm ≠ none) (p : Nat)
include he hj

theorem neonClientSetCallback_registry (e : ClientEvent) (f : Nat) :
    (neonClientSetCallback rt t e p f s).2.heap.registry = s.heap.registry.setClientCallback p e f :=
  Call.exec_refines he t (.clientSetCallback e p f) s hj

theorem neonHostSetCallback_registry (e : HostEvent) (f : Nat) :
    (neonHostSetCallback rt t e p f s).2.heap.registry = s.heap.registry.setHostCallback p e f :=
  Call.exec_refines he t (.hostSetCallback e p f) s hj

theorem neonClientFree_registry :
    (neonClientFree rt t p s).2.heap.registry = s.heap.registry.remove p :=
  Call.exec_refines he t (.clientFree p) s hj

theorem neonHostFree_registry :
    (neonHostFree rt t p s).2.heap.registry = s.heap.registry.remove p :=
  Call.exec_refines he t (.hostFree p) s hj

end Writers

end Examples

/-- **The examples leak no handle.**  Inside a loaded virtual machine whose threads `get_jni_env`
binds (found attached, or attached on demand), each example program, whatever else the runtime
answers, leaves the handle registry exactly as it found it: on every path the handle it created is
freed and no other handle is touched. -/
theorem examples_keep_registry (rt : Runtime) (t : Tid) (he : rt.BindsThreads) (s : St)
    (hj : s.jvm ≠ none) :
    (∀ clientName sessionId relayAddr callbacks,
      (clientExample rt t clientName sessionId relayAddr callbacks s).2.heap.registry =
        s.heap.registry) ∧
    ∀ sessionId relayAddr callbacks,
      (hostExample rt t sessionId relayAddr callbacks s).2.heap.registry = s.heap.registry := by
  refine ⟨fun clientName sessionId relayAddr callbacks => ?_, fun sessionId relayAddr callbacks => ?_⟩
  · obtain ⟨hn, hq⟩ := @neonClientNew_registry rt t clientName s
    simp only [clientExample, Jni.bind_apply, Jni.ite_apply, Jni.pure_apply]
    split_ifs with h0
    · simp [neonGetLastError_apply, hn, h0, Registry.add]
    all_goals
      simp [neonClientSetPongCallback, neonClientSetSessionConfigCallback,
        neonClientSetPacketTypeRegistryCallback, neonClientSetUnhandledPacketCallback,
        neonClientSetWrongDestinationCallback, neonGetLastError_apply, clientLoop_registry,
        clientLoop_jvm, neonClientFree_registry t he, neonClientSetCallback_registry t he, hj, hn,
        Registry.remove_setClientCallback, Registry.remove_add _ _ hq]
  · obtain ⟨hn, hq⟩ := @neonHostNew_registry rt t sessionId relayAddr s
    simp only [hostExample, Jni.bind_apply, Jni.ite_apply, Jni.pure_apply]
    split_ifs with h0
    · simp [neonGetLastError_apply, hn, h0, Registry.add]
    simp [neonHostSetClientConnectCallback, neonHostSetClientDenyCallback,
      neonHostSetPingReceivedCallback, neonHostSetUnhandledPacketCallback, hostLoop_registry,
      hostLoop_jvm, neonHostFree_registry t he, neonHostSetCallback_registry t he, hj, hn,
      Registry.remove_setHostCallback, Registry.remove_add _ _ hq]

theorem examples_keep_registry_attach_on_demand :
    Runtime.attachOnDemand.BindsThreads ∧ ({ jvm := some 1 } : St).jvm ≠ none ∧
      (clientExample .attachOnDemand 0 defaultClientName 12345 defaultRelayAddr (fun _ => 1)
        { jvm := some 1 }).2.heap.registry = ({ jvm := some 1 } : St).heap.registry :=
  ⟨Runtime.attachOnDemand_bindsThreads, by decide,
    (examples_keep_registry .attachOnDemand 0 Runtime.attachOnDemand_bindsThreads { jvm := some 1 }
      (by decide)).1 _ _ _ _⟩

end ProjectNeon
