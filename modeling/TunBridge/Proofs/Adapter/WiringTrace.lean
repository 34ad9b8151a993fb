import TunBridge.Host.Step
/-!
The calls building an adapter makes, whatever the device and the stack answer: run in a world
that writes each call down (`Wiring.traced`), they form one of the five traces of `Wiring.Trace`.
Main statement: `adapter_wiring`.
-/
namespace TunBridge

namespace Wiring

inductive Event where
  | built (options : StackOptions)
  | linked (answer : Except TunError Nat)
  | nicCreated (nic link : Nat) (answer : Except StackError Unit)
  | promiscuousSet (nic : Nat) (on : Bool) (answer : Except StackError Unit)
  | spoofingSet (nic : Nat) (on : Bool) (answer : Except StackError Unit)
  | routeAdded (route : Route)
  | forwarderSet (config : ForwarderConfig)
  | udpHandlerSet
  | deviceClosed
  | stackClosed

def Event.installs : Event → Bool
  | .routeAdded _ | .forwarderSet _ | .udpHandlerSet => true
  | _ => false

variable {ω : Type}

/-- The world of `W`, with every call and its answer written down as it is made. -/
def traced (W : Wiring ω) : Wiring (ω × List Event) where
  buildStack w options := (W.buildStack w.1 options, w.2 ++ [.built options])
  linkEndpoint w :=
    let r := W.linkEndpoint w.1
    ((r.1, w.2 ++ [.linked r.2]), r.2)
  createNic w nic link :=
    let r := W.createNic w.1 nic link
    ((r.1, w.2 ++ [.nicCreated nic link r.2]), r.2)
  setPromiscuous w nic on :=
    let r := W.setPromiscuous w.1 nic on
    ((r.1, w.2 ++ [.promiscuousSet nic on r.2]), r.2)
  setSpoofing w nic on :=
    let r := W.setSpoofing w.1 nic on
    ((r.1, w.2 ++ [.spoofingSet nic on r.2]), r.2)
  addRoute w route := (W.addRoute w.1 route, w.2 ++ [.routeAdded route])
  setTcpForwarder w c := (W.setTcpForwarder w.1 c, w.2 ++ [.forwarderSet c])
  setUdpHandler w := (W.setUdpHandler w.1, w.2 ++ [.udpHandlerSet])
  closeDevice w := (W.closeDevice w.1, w.2 ++ [.deviceClosed])
  closeStack w := (W.closeStack w.1, w.2 ++ [.stackClosed])

/-- The traces of building an adapter, with the result: the stack is built with `stackOptions`
and the link endpoint made; the stack calls follow in order up to the first that fails; after a
failure the device is closed, then the stack. -/
inductive Trace (config : TunConfig) : List Event → Except TunError Unit → Prop
  | linkFailed (e : TunError) :
      Trace config [.built stackOptions, .linked (.error e), .deviceClosed, .stackClosed] (.error e)
  | nicFailed (link : Nat) (e : StackError) :
      Trace config [.built stackOptions, .linked (.ok link), .nicCreated nicId link (.error e),
        .deviceClosed, .stackClosed] (.error (.stack "create nic" e))
  | promiscuousFailed (link : Nat) (e : StackError) :
      Trace config [.built stackOptions, .linked (.ok link), .nicCreated nicId link (.ok ()),
        .promiscuousSet nicId true (.error e), .deviceClosed, .stackClosed]
        (.error (.stack "set promiscuous mode" e))
  | spoofingFailed (link : Nat) (e : StackError) :
      Trace config [.built stackOptions, .linked (.ok link), .nicCreated nicId link (.ok ()),
        .promiscuousSet nicId true (.ok ()), .spoofingSet nicId true (.error e), .deviceClosed,
        .stackClosed] (.error (.stack "set spoofing" e))
  | wired (link : Nat) :
      Trace config [.built stackOptions, .linked (.ok link), .nicCreated nicId link (.ok ()),
        .promiscuousSet nicId true (.ok ()), .spoofingSet nicId true (.ok ()),
        .routeAdded ⟨true, nicId⟩, .routeAdded ⟨false, nicId⟩, .forwarderSet config.forwarder,
        .udpHandlerSet] (.ok ())

theorem Trace.installs_iff {config : TunConfig} {evs : List Event} {r : Except TunError Unit}
    (h : Trace config evs r) : (∃ ev ∈ evs, ev.installs) ↔ r = .ok () := by
  cases h <;> simp [Event.installs]

section Run

variable (W : Wiring ω) (w : ω) (t : List Event) (config : TunConfig)

theorem traced_withDevice :
    (W.traced.withDevice (w, t) config).1.1 = (W.withDevice w config).1 ∧
    (W.traced.withDevice (w, t) config).2 = (W.withDevice w config).2 ∧
    ∃ evs, (W.traced.withDevice (w, t) config).1.2 = t ++ evs ∧
      Trace config evs (W.withDevice w config).2 := by
  -- one case for each call that can fail, in the order the wiring makes them
  rcases hl : W.linkEndpoint (W.buildStack w stackOptions) with ⟨w₁, e | link⟩
  · have result : (W.withDevice w config).2 = .error e := by simp [withDevice, wire, hl]
    rw [result]
    refine ⟨?_, ?_, _, ?_, .linkFailed e⟩ <;> simp [withDevice, wire, traced, hl]
  rcases hn : W.createNic w₁ nicId link with ⟨w₂, e | ⟨⟩⟩
  · have result : (W.withDevice w config).2 = .error (.stack "create nic" e) := by
      simp [withDevice, wire, hl, hn]
    rw [result]
    refine ⟨?_, ?_, _, ?_, .nicFailed link e⟩ <;> simp [withDevice, wire, traced, hl, hn]
  rcases hp : W.setPromiscuous w₂ nicId true with ⟨w₃, e | ⟨⟩⟩
  · have result : (W.withDevice w config).2 = .error (.stack "set promiscuous mode" e) := by
      simp [withDevice, wire, hl, hn, hp]
    rw [result]
    refine ⟨?_, ?_, _, ?_, .promiscuousFailed link e⟩ <;>
      simp [withDevice, wire, traced, hl, hn, hp]
  rcases hs : W.setSpoofing w₃ nicId true with ⟨w₄, e | ⟨⟩⟩
  · have result : (W.withDevice w config).2 = .error (.stack "set spoofing" e) := by
      simp [withDevice, wire, hl, hn, hp, hs]
    rw [result]
    refine ⟨?_, ?_, _, ?_, .spoofingFailed link e⟩ <;>
      simp [withDevice, wire, traced, hl, hn, hp, hs]
  · have result : (W.withDevice w config).2 = .ok () := by simp [withDevice, wire, hl, hn, hp, hs]
    rw [result]
    refine ⟨?_, ?_, _, ?_, .wired link⟩ <;>
      simp [withDevice, wire, traced, hl, hn, hp, hs, defaultRoutes]

end Run

end Wiring

/-- On the host, a device that fails to open builds no stack: nothing changes. -/
theorem Host.adapterOpen_of_open_failure (h : Host) {spec : String} {config : TunConfig}
    (fault : Option StackFault) {e : TunError}
    (failed : h.openDevice spec config = .error (.error e)) :
    h.step (.adapterOpen spec config fault) = (h, .adapterFailed e 0 false false, []) := by
  simp [Host.step, failed]

theorem adapter_wiring {ω : Type} (W : Wiring ω) (w : ω) (config : TunConfig) :
    Wiring.Trace config (W.traced.withDevice (w, []) config).1.2 (W.withDevice w config).2 ∧
    (W.traced.withDevice (w, []) config).1.1 = (W.withDevice w config).1 ∧
    (W.traced.withDevice (w, []) config).2 = (W.withDevice w config).2 ∧
    ((∃ ev ∈ (W.traced.withDevice (w, []) config).1.2, ev.installs) ↔
      (W.withDevice w config).2 = .ok ()) ∧
    ∀ (h : Host) spec config' fault e, h.openDevice spec config' = .error (.error e) →
      h.step (.adapterOpen spec config' fault) = (h, .adapterFailed e 0 false false, []) := by
  obtain ⟨world, result, evs, hevs, trace⟩ := Wiring.traced_withDevice W w [] config
  rw [List.nil_append] at hevs
  rw [hevs]
  exact ⟨trace, world, result, trace.installs_iff,
    fun h _ _ fault _ failed => h.adapterOpen_of_open_failure fault failed⟩

end TunBridge
