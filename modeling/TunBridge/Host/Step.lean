import TunBridge.Host.Basic
import TunBridge.Adapter.Wiring
/-!
The steps of a host running the bridge, each with its reply and the error lines it logged: the
kernel's side, the process's devices and link endpoints, and adapters. After every step the read
loops catch up; a step refused as malformed changes nothing.
-/
namespace TunBridge

inductive FdKind where
  | tunFile (kind : IfaceKind)
  | unattached
  | nullDevice
  | socket
  deriving DecidableEq, Repr

inductive HostStep where
  | createFd (fd : Nat) (kind : FdKind) (name : Option String)
  | closeFd (fd : Nat)
  | setUp (name : String) (up : Bool)
  | setMtu (name : String) (mtu : Nat)
  | ifaceExists (name : String)
  | delete (name : String)
  | send (name : String) (frame : List UInt8)
  | sniff (name : String)
  | captured (name : String)
  | settle
  | collectLog
  | openDevice (spec : String) (config : TunConfig)
  | mtu (device : Nat)
  | info (device : Nat)
  | write (device : Nat) (frame : List UInt8)
  | read (device len : Nat)
  | close (device : Nat)
  | wait (device : Nat)
  | drop (device : Nat)
  | linkEndpoint (device : Nat)
  | attach (endpoint : Nat)
  | detach (endpoint : Nat)
  | isAttached (endpoint : Nat)
  | numQueued (endpoint : Nat)
  | endpointWrite (endpoint : Nat) (p : PacketBuffer)
  | delivered (sink : Nat)
  | adapterOpen (spec : String) (config : TunConfig) (fault : Option StackFault)
  | adapterWrap (device : Nat) (config : TunConfig) (fault : Option StackFault)
  | adapterInfo (adapter : Nat)
  | adapterDevice (adapter : Nat)
  | adapterFrames (adapter : Nat)
  | adapterLinkWrite (adapter : Nat) (p : PacketBuffer)
  | adapterDns (adapter : Nat)
  | dnsStops
  | adapterClose (adapter : Nat)
  | adapterWait (adapter : Nat)
  | adapterDrop (adapter : Nat)

/-- What the process sees of a device an adapter owns: its name, URL and whether it is closed. -/
structure DeviceView where
  name : String
  url : String
  closed : Bool
  deriving DecidableEq, Repr

structure NicView where
  id : Nat
  mtu : Nat
  attached : Bool
  deriving DecidableEq, Repr

inductive HostReply where
  | done
  | flag (b : Bool)
  | count (n : Nat)
  | named (name : Option String)
  | opened (device : Nat) (name url : String)
  | failed (e : TunError)
  | io (e : IoError)
  | os (e : Errno)
  | stackError (e : StackError)
  | queued (n : Nat)
  | queueFull (queued : Nat)
  | bytes (data : List UInt8)
  | frames (fs : List (List UInt8))
  | lines (ls : List String)
  | info (view : DeviceView)
  | endpoint (index mtu : Nat) (fresh : Bool)
  | sink (index : Nat)
  | deliveries (ds : List Delivery)
  | freed (b : Bool)
  | adapterOpened (adapter : Nat) (name url : String) (optionsOk : Bool)
  | adapterFailed (e : TunError) (nics : Nat) (stackBuilt stackClosed : Bool)
  | adapterInfo (device : Option DeviceView) (stack : StackRecord) (nics : List NicView)
  | device (index : Nat)
  | dns (helper : Nat)
  | counts (ns : List Nat)
  | adapterDropped (freed stackClosed : Bool)
  | refused (reason : String)
  | timeout
  | bad (reason : String)

def fdRange : Nat × Nat := (64, 4096)

/-- A logged line without the error-number tail `": <text> (os error N)"`, which depends on
timing in the kernel. -/
def withoutErrno (line : String) : String :=
  match line.splitOn " (os error " with
  | before :: _ :: _ =>
    let parts := before.splitOn ": "
    if parts.length ≤ 1 then before else ": ".intercalate parts.dropLast
  | _ => line

namespace Host

def view (dev : Device) : DeviceView := ⟨dev.name, dev.url, dev.closed⟩

def nicView (h : Host) (nic : Nat × Nat) : NicView :=
  match h.links[nic.2]? with
  | some e => ⟨nic.1, e.mtu, e.isAttached⟩
  | none => ⟨nic.1, 0, false⟩

def deviceAt (h : Host) (i : Nat) : Except String (Nat × Device) :=
  match h.deviceIndex[i]? with
  | none => .error "no such device"
  | some none => .error "device already dropped"
  | some (some d) =>
    match h.devices[d]? with
    | some dev => .ok (d, dev)
    | none => .error "no such device"

def linkAt (h : Host) (j : Nat) : Except String (Nat × Link) :=
  match h.linkIndex[j]? with
  | none => .error "no such endpoint"
  | some l =>
    match h.links[l]? with
    | some e => .ok (l, e)
    | none => .error "no such endpoint"

def adapterAt (h : Host) (k : Nat) : Except String Adapter :=
  match h.adapters[k]? with
  | some a => .ok a
  | none => .error "no such adapter"

def ownedDevice (h : Host) (k : Nat) : Except String (Adapter × Nat × Device) :=
  match h.adapterAt k with
  | .error r => .error r
  | .ok a =>
    match a.device with
    | none => .error "adapter already dropped"
    | some d =>
      match h.devices[d]? with
      | some dev => .ok (a, d, dev)
      | none => .error "no such device"

/-- Closing a stack also detaches its first NIC's link. -/
def closeStack (h : Host) (s : Nat) : Host :=
  let h := { h with netStacks := h.netStacks.modify s fun r => { r with closed := true } }
  match h.netStacks[s]?.bind StackRecord.firstLink? with
  | some l => { h with links := h.links.modify l fun e => e.attach none }
  | none => h

def stopDns (h : Host) (helper : Nat) : Host := { h with dnsStops := h.dnsStops.modify helper (· + 1) }

/-- Closes an adapter, once: its device, then its DNS helper, then its stack. -/
def closeAdapter (h : Host) (k : Nat) : Host :=
  match h.adapters[k]? with
  | none => h
  | some a =>
    if a.closed then h else
    let h := { h with adapters := h.adapters.modify k fun a => { a with closed := true, dns := none } }
    let h := match a.device with
      | some d => h.closeDevice d
      | none => h
    let h := match a.dns with
      | some p => h.stopDns p
      | none => h
    h.closeStack a.stack

def updateStack (h : Host) (s : Nat) (r : StackRecord) : Host := { h with netStacks := h.netStacks.set s r }

def modifyStack (h : Host) (s : Nat) (f : StackRecord → StackRecord) : Host :=
  { h with netStacks := h.netStacks.modify s f }

/-- The host as the world an adapter is built in: device `d`, and the stack built as number `s`,
whose call named by `fault` fails. Making a NIC on a link attaches the stack to the link. -/
def wiring (d s : Nat) (fault : Option StackFault) : Wiring Host where
  buildStack h options := { h with netStacks := h.netStacks ++ [{ options := some options, fault }] }
  linkEndpoint h :=
    match h.startLink d with
    | .error e => (h, .error e)
    | .ok (h, l) => (h, .ok l)
  createNic h nic link :=
    match (h.netStacks.getD s {}).createNic nic link with
    | .error e => (h, .error e)
    | .ok r => ({ h.updateStack s r with links := h.links.modify link fun e => e.attach (some (.stack s)) },
        .ok ())
  setPromiscuous h nic on :=
    match (h.netStacks.getD s {}).setPromiscuous nic on with
    | .error e => (h, .error e)
    | .ok r => (h.updateStack s r, .ok ())
  setSpoofing h nic on :=
    match (h.netStacks.getD s {}).setSpoofing nic on with
    | .error e => (h, .error e)
    | .ok r => (h.updateStack s r, .ok ())
  addRoute h route := h.modifyStack s fun r => { r with routes := r.routes ++ [route] }
  setTcpForwarder h c := h.modifyStack s fun r => { r with forwarder := some c }
  setUdpHandler h := h.modifyStack s fun r => { r with hasHandlers := true }
  closeDevice h := h.closeDevice d
  closeStack h := h.closeStack s

/-- Builds a stack for a device and wires them; on failure both are closed and the adapter lets
go of the device. -/
def adapt (h : Host) (d : Nat) (config : TunConfig) (fault : Option StackFault) : Host × HostReply :=
  let s := h.netStacks.length
  match (wiring d s fault).withDevice h config with
  | (h, .ok ()) =>
    let k := h.adapters.length
    let a : Adapter := { device := some d, stack := s }
    let h := { h with adapters := h.adapters ++ [a] }
    let optionsOk := (h.netStacks.getD s {}).options == some stackOptions
    match h.devices[d]? with
    | some dev => (h, .adapterOpened k dev.name dev.url optionsOk)
    | none => (h, .bad "no such device")
  | (h, .error e) =>
    let nics := (h.netStacks.getD s {}).nics.length
    (h.releaseDevice d, .adapterFailed e nics true true)

def registerLink (h : Host) (l : Nat) : Host × Nat × Bool :=
  match h.linkIndex.idxOf? l with
  | some j => (h, j, false)
  | none => ({ h with linkIndex := h.linkIndex ++ [l] }, h.linkIndex.length, true)

def orBad {α : Type} (h : Host) (r : Except String α) (f : α → Host × HostReply × List String) :
    Host × HostReply × List String :=
  match r with
  | .error reason => (h, .bad reason, [])
  | .ok a => f a

def onKernel (h : Host) (r : Except Errno Kernel) : Host × HostReply × List String :=
  match r with
  | .error e => (h, .os e, [])
  | .ok k => ({ h with kernel := k }, .done, [])

def createFd (h : Host) (fd : Nat) (kind : FdKind) (name : Option String) : Host × HostReply × List String :=
  if fd < fdRange.1 || fdRange.2 < fd || (h.fds.lookup fd).isSome then
    (h, .bad "fd must be a free number in 64..=4096", [])
  else
    let add (h : Host) (desc : Descriptor) : Host :=
      { h with fds := h.fds ++ [(fd, desc)], made := h.made ++ [fd] }
    match kind with
    | .tunFile k =>
      match name with
      | none => (h, .bad "descriptor needs a fixed interface name", [])
      | some n =>
        if n.isEmpty || n.contains '%' then (h, .bad "descriptor needs a fixed interface name", [])
        else
          let (file, kernel) := h.kernel.openFile
          match kernel.setIff file n k with
          | .error e => (h, .os e, [])
          | .ok (kernel, resolved) => (add { h with kernel } (.tunFile file), .named (some resolved), [])
    | .unattached =>
      let (file, kernel) := h.kernel.openFile
      (add { h with kernel } (.tunFile file), .named none, [])
    | .nullDevice => (add h .nullDevice, .named none, [])
    | .socket => (add h .socket, .named none, [])

def step (h : Host) : HostStep → Host × HostReply × List String
  | .createFd fd kind name => h.createFd fd kind name
  | .closeFd fd =>
    match h.fds.lookup fd with
    | none => (h, .bad "not a driver fd", [])
    | some desc =>
      let h := { h with fds := h.fds.filter (·.1 != fd) }
      match desc with
      | .tunFile f => (h.releaseFile f, .done, [])
      | _ => (h, .done, [])
  | .setUp name up => h.onKernel (h.kernel.setUp name up)
  | .setMtu name mtu => h.onKernel (h.kernel.setMtu name mtu)
  | .ifaceExists name => (h, .flag (h.kernel.hasIface name), [])
  | .delete name => h.onKernel (h.kernel.delete name)
  | .send name frame =>
    match h.kernel.send name frame with
    | .error e => (h, .os e, [])
    | .ok (n, k) => ({ h with kernel := k }, .count n, [])
  | .sniff name => h.onKernel (h.kernel.sniff name)
  | .captured name =>
    match h.kernel.captured name with
    | none => (h, .bad "no sniffer", [])
    | some (fs, k) => ({ h with kernel := k }, .frames fs, [])
  | .settle => (h, .done, [])
  | .collectLog =>
    let ls := (h.background.map withoutErrno).mergeSort fun a b => decide (a ≤ b)
    ({ h with background := [] }, .lines ls, [])
  | .openDevice spec config =>
    match h.openDevice spec config with
    | .error (.error e) => (h, .failed e, [])
    | .error (.refused r) => (h, .refused r, [])
    | .ok (h, d) =>
      let i := h.deviceIndex.length
      let h := { h with deviceIndex := h.deviceIndex ++ [some d] }
      match h.devices[d]? with
      | some dev => (h, .opened i dev.name dev.url, [])
      | none => (h, .bad "no such device", [])
  | .mtu i => h.orBad (h.deviceAt i) fun (_, dev) =>
    match dev.mtu? h.kernel with
    | .ok m => (h, .count m, [])
    | .error e => (h, .failed e, [])
  | .info i => h.orBad (h.deviceAt i) fun (_, dev) => (h, .info (view dev), [])
  | .write i frame => h.orBad (h.deviceAt i) fun (_, dev) =>
    match dev.file with
    | none => (h, .io .closed, [])
    | some f =>
      match h.kernel.deviceWrite f frame with
      | .ok (n, k) => ({ h with kernel := k }, .count n, [])
      | .error e => (h, .io (.os e), [])
  | .read i len => h.orBad (h.deviceAt i) fun (_, dev) =>
    match dev.file with
    | none => (h, .io .closed, [])
    | some f =>
      match h.kernel.peek f with
      | .error e => (h, .io (.os e), [])
      | .ok none => (h, .timeout, [])
      | .ok (some frame) =>
        if len = 0 then (h, .io (.custom .unexpectedEof "tun device reached end of file"), [])
        else ({ h with kernel := h.kernel.deviceRead f }, .bytes (frame.take len), [])
  | .close i => h.orBad (h.deviceAt i) fun (d, _) => (h.closeDevice d, .done, [])
  | .wait i => h.orBad (h.deviceAt i) fun (_, dev) =>
    (h, if dev.loopRunning then .timeout else .done, [])
  | .drop i => h.orBad (h.deviceAt i) fun (d, _) =>
    let h := { h with deviceIndex := h.deviceIndex.set i none }.releaseDevice d
    (h, .freed ((h.devices[d]?.map (·.freed)).getD true), [])
  | .linkEndpoint i => h.orBad (h.deviceAt i) fun (d, _) =>
    match h.startLink d with
    | .error e => (h, .failed e, [])
    | .ok (h, l) =>
      let (h, j, fresh) := h.registerLink l
      (h, .endpoint j ((h.links[l]?.map (·.mtu)).getD 0) fresh, [])
  | .attach j => h.orBad (h.linkAt j) fun (l, _) =>
    let k := h.sinks.length
    ({ h with sinks := h.sinks ++ [[]], links := h.links.modify l fun e => e.attach (some (.sink k)) },
      .sink k, [])
  | .detach j => h.orBad (h.linkAt j) fun (l, _) =>
    ({ h with links := h.links.modify l fun e => e.attach none }, .done, [])
  | .isAttached j => h.orBad (h.linkAt j) fun (_, e) => (h, .flag e.isAttached, [])
  | .numQueued j => h.orBad (h.linkAt j) fun (_, e) => (h, .count e.numQueued, [])
  | .endpointWrite j p => h.orBad (h.linkAt j) fun (l, e) =>
    match h.writeLink l p with
    | .error .queueFull => (h, .queueFull e.numQueued, [])
    | .error err => (h, .stackError err, [])
    | .ok (h, log) => (h, .queued ((h.links[l]?.map (·.numQueued)).getD 0), log)
  | .delivered k =>
    match h.sinks[k]? with
    | some ds => (h, .deliveries ds, [])
    | none => (h, .bad "no such sink", [])
  | .adapterOpen spec config fault =>
    match h.openDevice spec config with
    | .error (.error e) => (h, .adapterFailed e 0 false false, [])
    | .error (.refused r) => (h, .refused r, [])
    | .ok (h, d) => let (h, r) := h.adapt d config fault; (h, r, [])
  | .adapterWrap i config fault => h.orBad (h.deviceAt i) fun (d, _) =>
    let (h, r) := h.adapt d config fault
    (h, r, [])
  | .adapterInfo k => h.orBad (h.adapterAt k) fun a =>
    let dev := a.device.bind fun d => h.devices[d]?
    let r := h.netStacks.getD a.stack {}
    (h, .adapterInfo (dev.map view) r (r.nics.map h.nicView), [])
  | .adapterDevice k => h.orBad (h.ownedDevice k) fun (_, d, _) =>
    ({ h with deviceIndex := h.deviceIndex ++ [some d] }, .device h.deviceIndex.length, [])
  | .adapterFrames k => h.orBad (h.adapterAt k) fun a =>
    (h, .deliveries (h.netStacks.getD a.stack {}).frames, [])
  | .adapterLinkWrite k p => h.orBad (h.adapterAt k) fun a =>
    match (h.netStacks.getD a.stack {}).firstLink? with
    | none => (h, .bad "the stack has no nic", [])
    | some l =>
      match h.writeLink l p with
      | .error err => (h, .stackError err, [])
      | .ok (h, log) => (h, .done, log)
  | .adapterDns k => h.orBad (h.ownedDevice k) fun (a, _) =>
    let n := h.dnsStops.length
    let h := { h with dnsStops := h.dnsStops ++ [0],
                      adapters := h.adapters.modify k fun a => { a with dns := some n } }
    let h := match a.dns with
      | some p => h.stopDns p
      | none => h
    (h, .dns n, [])
  | .dnsStops => (h, .counts h.dnsStops, [])
  | .adapterClose k => h.orBad (h.ownedDevice k) fun _ => (h.closeAdapter k, .done, [])
  | .adapterWait k => h.orBad (h.ownedDevice k) fun (_, _, dev) =>
    (h, if dev.loopRunning then .timeout else .done, [])
  | .adapterDrop k => h.orBad (h.ownedDevice k) fun (a, d, _) =>
    let h := h.closeAdapter k
    let h := { h with adapters := h.adapters.modify k fun a => { a with device := none } }
    let h := h.releaseDevice d
    (h, .adapterDropped ((h.devices[d]?.map (·.freed)).getD true)
      (h.netStacks.getD a.stack {}).closed, [])

/-- A step, then the read loops catching up. -/
def advance (h : Host) (s : HostStep) : Host × HostReply × List String :=
  let (h, r, log) := h.step s
  (h.pump, r, log)

end Host

end TunBridge
