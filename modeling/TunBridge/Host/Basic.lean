import TunBridge.Device.Basic
import TunBridge.Device.Open
import TunBridge.Stack.Record
import TunBridge.Link.ReadLoop
import TunBridge.Config.Basic
/-!
A host running the bridge: the kernel's TUN driver, the descriptors handed to the process, its
devices, their link endpoints and sinks, and the adapters with their stacks. Read loops run
eagerly: after every step each running loop reads all that waits for its device.
-/
namespace TunBridge

inductive Descriptor where
  | tunFile (file : Nat)
  | nullDevice
  | socket
  deriving DecidableEq, Repr

inductive Receiver where
  | sink (index : Nat)
  | stack (index : Nat)
  deriving DecidableEq, Repr

abbrev Link := Endpoint Receiver Nat

structure Adapter where
  /-- The device it owns; `none` once the adapter is dropped. -/
  device : Option Nat
  stack : Nat
  dns : Option Nat := none
  closed : Bool := false
  deriving DecidableEq, Repr

structure Host where
  kernel : Kernel := {}
  fds : List (Nat × Descriptor) := []
  made : List Nat := []
  devices : List Device := []
  deviceIndex : List (Option Nat) := []
  links : List Link := []
  linkIndex : List Nat := []
  sinks : List (List Delivery) := []
  netStacks : List StackRecord := []
  adapters : List Adapter := []
  dnsStops : List Nat := []
  background : List String := []

def descriptorLimit : Nat := Nat.pow 2 30

def readWriteFlags : Nat := 2

/-- The flags `TUNGETIFF` reports for an interface: its kind (`IFF_TAP` is `0x0002`), and
packet information off whatever was asked. -/
def IfaceKind.flags : IfaceKind → UInt16
  | .tun => iffTun ||| iffNoPi
  | .tap => 0x0002 ||| iffNoPi

def Descriptor.file? : Descriptor → Option Nat
  | .tunFile f => some f
  | _ => none

namespace Host

def modifyDevice (h : Host) (d : Nat) (f : Device → Device) : Host :=
  { h with devices := h.devices.modify d f }

def holdsFile (h : Host) (file : Nat) : Bool :=
  h.fds.any (·.2 == .tunFile file) || h.devices.any (·.file == some file)

/-- A descriptor of a file was closed; the file closes with its last one. -/
def releaseFile (h : Host) (file : Nat) : Host :=
  if h.holdsFile file then h else { h with kernel := h.kernel.closeFile file }

/-- Closes a device, once: its writer leaves the endpoint, queued frames are dropped, and its
file is let go. -/
def closeDevice (h : Host) (d : Nat) : Host :=
  match h.devices[d]? with
  | none => h
  | some dev =>
    if dev.closed then h else
    let h := match dev.bridge with
      | some (l, handle) => { h with links := h.links.modify l fun e => (e.removeParty handle).drain.2 }
      | none => h
    let h := h.modifyDevice d fun dev => { dev with closed := true, file := none }
    match dev.file with
    | some f => h.releaseFile f
    | none => h

def deviceHeld (h : Host) (d : Nat) : Bool :=
  h.deviceIndex.any (· == some d) || h.adapters.any (·.device == some d)

/-- An owner let go of a device; with no owner left, it is closed and freed. -/
def releaseDevice (h : Host) (d : Nat) : Host :=
  if h.deviceHeld d then h else (h.closeDevice d).modifyDevice d fun dev => { dev with freed := true }

def deliver (h : Host) (link : Nat) (d : Delivery) : Host :=
  match h.links[link]?.bind (·.inject) with
  | some (.sink k) => { h with sinks := h.sinks.modify k (· ++ [d]) }
  | some (.stack s) => { h with netStacks := h.netStacks.modify s fun r => { r with frames := r.frames ++ [d] } }
  | none => h

def finishLoop (h : Host) (d : Nat) : Host := h.modifyDevice d fun dev => { dev with loop := .finished }

/-- What a device's read loop reads now: every frame waiting for it, cut to its buffer, and
then a failure if the device is closed or its interface is gone. A live interface with nothing
waiting keeps the loop polling. -/
def loopReads (h : Host) (dev : Device) (bufLen : Nat) : List ReadOutcome × Kernel :=
  match dev.file with
  | none => ([.failed .closed], h.kernel)
  | some f =>
    match h.kernel.takePending f with
    | .error e => ([.failed (.os e)], h.kernel)
    | .ok (frames, k) => (frames.map fun fr => .frame (fr.take bufLen), k)

def pumpDevice (h : Host) (d : Nat) : Host :=
  match h.devices[d]? with
  | none => h
  | some dev =>
    match dev.loop with
    | .running link bufLen =>
      let attached := (h.links[link]?.bind (·.sink)).isSome
      let (reads, k) := h.loopReads dev bufLen
      let (ds, stop) := ReadLoop.run dev.closed (reads.map (·, attached))
      let h := ds.foldl (fun h dl => h.deliver link dl) { h with kernel := k }
      match stop with
      | none => h
      | some report =>
        let h := match report with
          | some e => { h with background := h.background ++ ["ERROR: " ++ e.message] }
          | none => h
        (h.closeDevice d).finishLoop d
    | _ => h

def pump (h : Host) : Host := (List.range h.devices.length).foldl pumpDevice h

/-- The writers notified of a queued frame each take one frame off the link and write it to
their device; a failed write is logged while the device is open. -/
def runWriters (h : Host) (link : Nat) : List Nat → Host × List String
  | [] => (h, [])
  | d :: ds =>
    let (h, log) := match h.devices[d]?, h.links[link]? with
      | some dev, some e =>
        if dev.freed then (h, []) else
        match e.read with
        | (none, _) => (h, [])
        | (some p, e) =>
          let h := { h with links := h.links.set link e }
          match dev.file with
          | none => (h, [])
          | some f =>
            match h.kernel.deviceWrite f p.toBytes with
            | .ok (_, k) => ({ h with kernel := k }, [])
            | .error err =>
              (h, if dev.closed then [] else ["ERROR: " ++ (TunError.writeFailure (.os err)).message])
      | _, _ => (h, [])
    let (h, rest) := h.runWriters link ds
    (h, log ++ rest)

def writeLink (h : Host) (link : Nat) (p : PacketBuffer) : Except StackError (Host × List String) :=
  match h.links[link]? with
  | none => .error .closed
  | some e =>
    match e.write p with
    | .error err => .error err
    | .ok (e, parties) => .ok (({ h with links := h.links.set link e }).runWriters link parties)

/-- The device's link endpoint, started on first use: an endpoint with the device's queue
length and MTU, the device's writer on it, and a read loop with an MTU-sized buffer. -/
def startLink (h : Host) (d : Nat) : Except TunError (Host × Nat) :=
  match h.devices[d]? with
  | none => .error .closed
  | some dev =>
    if dev.closed then .error .closed else
    match dev.bridge with
    | some (l, _) => .ok (h, l)
    | none =>
      match dev.mtu? h.kernel with
      | .error e => .error e
      | .ok mtu =>
        let l := h.links.length
        let (handle, e) := (Endpoint.create dev.queueLen mtu : Link).addParty d
        let h := { h with links := h.links ++ [e] }
        .ok (h.modifyDevice d fun dev => { dev with bridge := some (l, handle), loop := .running l mtu }, l)

inductive OpenFailure where
  | error (e : TunError)
  | refused (reason : String)
  deriving Repr

/-- The host as the system devices are opened on, a descriptor standing for what it refers to.
An interface is made or joined through a new file of the TUN device; the flags of a new
descriptor can be read and set; a descriptor number that is out of range or not handed to the
process cannot be duplicated, and a duplicate refers to what the original refers to; only a
file of the TUN device has an interface; closing a descriptor lets go of its file. -/
def opening : Opening Host Descriptor where
  createIface h name :=
    let (file, k) := h.kernel.openFile
    match k.setIff file name .tun with
    | .error e => (h, .error (.os e))
    | .ok (k, resolved) => ({ h with kernel := k }, .ok (.tunFile file, resolved))
  getFlags h _ := (h, .ok readWriteFlags)
  setFlags h _ _ := (h, .ok ())
  dup h n :=
    if n < 0 ∨ descriptorLimit ≤ n then (h, .error (.os .badDescriptor))
    else
      match h.fds.lookup n.toNat with
      | some d => (h, .ok d)
      | none => (h, .error (.os .badDescriptor))
  tunInfo h d :=
    match d with
    | .tunFile f =>
      match h.kernel.getIff f with
      | .ok (name, kind) => (h, .ok (name, kind.flags))
      | .error e => (h, .error (.os e))
    | _ => (h, .error (.os .notTty))
  close h d :=
    match d with
    | .tunFile f => h.releaseFile f
    | _ => h

/-- The openings the host refuses: a name left for the kernel to pick, and a descriptor in range
that was not handed to the process. -/
def refusal? (h : Host) (spec : String) : Option String :=
  match DeviceSpec.parse spec with
  | .error _ => none
  | .ok s =>
    match s.kind with
    | .name n => if n.isEmpty then some "the kernel would pick the interface name" else none
    | .fd n =>
      if 0 ≤ n ∧ n < descriptorLimit ∧ !h.made.contains n.toNat then
        some "descriptor not created by this line"
      else none

def openDevice (h : Host) (spec : String) (config : TunConfig) : Except OpenFailure (Host × Nat) :=
  match h.refusal? spec with
  | some reason => .error (.refused reason)
  | none =>
    match opening.openSpec h spec with
    | (_, .error e) => .error (.error e)
    | (h, .ok o) =>
      let dev : Device := { spec := o.spec, name := o.name, queueLen := config.outboundQueueLen,
                            file := o.handle.fd.file? }
      .ok ({ h with devices := h.devices ++ [dev] }, h.devices.length)

end Host

end TunBridge
