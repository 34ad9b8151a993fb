import TunBridge.Error
/-!
A TUN driver kept in memory. Interfaces are made through files of the TUN device and live while
a descriptor of their file is open and nobody deleted them; `lo` always exists and is not a TUN
interface. Names follow the kernel's rules, a name with one `%d` being a template.
-/
namespace TunBridge

inductive IfaceKind where
  | tun
  | tap
  deriving DecidableEq, Repr

structure Iface where
  id : Nat
  name : String
  kind : IfaceKind
  up : Bool := false
  mtu : Nat := 1500
  pending : List (List UInt8) := []
  deriving DecidableEq, Repr

structure Capture where
  name : String
  iface : Nat
  frames : List (List UInt8) := []
  deriving DecidableEq, Repr

structure Kernel where
  ifaces : List Iface := []
  captures : List Capture := []
  /-- For each file of the TUN device, the interface it was attached to, if any. -/
  files : List (Option Nat) := []
  nextId : Nat := 0
  deriving DecidableEq, Repr

namespace Kernel

def loopback : String := "lo"

def loopbackMtu : Nat := 65536

def mtuRange : Nat × Nat := (68, 65535)

def find? (k : Kernel) (name : String) : Option Iface := k.ifaces.find? (·.name == name)

def hasIface (k : Kernel) (name : String) : Bool := name == loopback || (k.find? name).isSome

def modifyIface (k : Kernel) (id : Nat) (f : Iface → Iface) : Kernel :=
  { k with ifaces := k.ifaces.map fun i => if i.id == id then f i else i }

def isBlank (c : Char) : Bool :=
  let n := c.toNat
  (0x09 ≤ n && n ≤ 0x0D) || n = 0x20 || n = 0x85 || n = 0xA0 || n = 0x1680 ||
    (0x2000 ≤ n && n ≤ 0x200A) || n = 0x2028 || n = 0x2029 || n = 0x202F || n = 0x205F ||
    n = 0x3000

def validName (n : String) : Bool :=
  !n.isEmpty && n.utf8ByteSize < 16 && n != "." && n != ".." &&
    n.all fun c => c != '/' && c != ':' && !isBlank c

def templateParts (n : String) : Option (String × String) :=
  match n.splitOn "%" with
  | [pre, post] => if post.startsWith "d" then some (pre, (post.drop 1).toString) else none
  | _ => none

/-- The name a template gives for a number, cut to 15 bytes as the kernel does. -/
def fillTemplate (pre post : String) (i : Nat) : String :=
  String.ofList ((pre ++ toString i ++ post).toList.take 15)

/-- The name for a new interface: a fixed name as it is, a template with its lowest free number. -/
def resolveName (k : Kernel) (n : String) : Except Errno String :=
  if !validName n then .error .invalidArgument
  else if n.contains '%' then
    match templateParts n with
    | some (pre, post) =>
      let free := (List.range (k.ifaces.length + 2)).find? fun i => !k.hasIface (fillTemplate pre post i)
      .ok (fillTemplate pre post (free.getD 0))
    | none => .error .invalidArgument
  else .ok n

def openFile (k : Kernel) : Nat × Kernel := (k.files.length, { k with files := k.files ++ [none] })

def ifaceOf? (k : Kernel) (file : Nat) : Option Iface :=
  match k.files[file]? with
  | some (some id) => k.ifaces.find? (·.id == id)
  | _ => none

/-- Attaches a file to an interface of the kind, making it unless it exists (`TUNSETIFF`). An
existing interface is busy if it is of the kind and refused otherwise, `lo` included. -/
def setIff (k : Kernel) (file : Nat) (name : String) (kind : IfaceKind) : Except Errno (Kernel × String) :=
  if k.files[file]? != some none then .error .invalidArgument
  else if name == loopback then .error .invalidArgument
  else match k.find? name with
    | some i => if i.kind == kind then .error .busy else .error .invalidArgument
    | none =>
      let template := if name.isEmpty then (if kind == .tun then "tun%d" else "tap%d") else name
      match k.resolveName template with
      | .error e => .error e
      | .ok n =>
        let i : Iface := { id := k.nextId, name := n, kind }
        let k := { k with
          ifaces := k.ifaces ++ [i]
          files := k.files.set file (some k.nextId)
          nextId := k.nextId + 1 }
        .ok (k, n)

def getIff (k : Kernel) (file : Nat) : Except Errno (String × IfaceKind) :=
  match k.ifaceOf? file with
  | some i => .ok (i.name, i.kind)
  | none => .error .badState

def ifaceMtu (k : Kernel) (name : String) : Except Errno Nat :=
  if name == loopback then .ok loopbackMtu
  else match k.find? name with
    | some i => .ok i.mtu
    | none => .error .noDevice

/-- The last descriptor of a file closed: its interface goes with it. -/
def closeFile (k : Kernel) (file : Nat) : Kernel :=
  match k.ifaceOf? file with
  | some i => { k with ifaces := k.ifaces.filter (·.id != i.id) }
  | none => k

def isIpFrame (frame : List UInt8) : Bool :=
  match frame with
  | b :: _ => b >>> 4 == 4 || b >>> 4 == 6
  | [] => false

/-- The device writes a frame into the kernel. The file needs a live interface, the frame must
be IP, and the interface must be up; the frame is then taken whole and shown to every capture
of the interface. -/
def deviceWrite (k : Kernel) (file : Nat) (frame : List UInt8) : Except Errno (Nat × Kernel) :=
  match k.ifaceOf? file with
  | none => .error .badState
  | some i =>
    if !isIpFrame frame then .error .invalidArgument
    else if !i.up then .error .io
    else .ok (frame.length, { k with captures := k.captures.map fun c =>
      if c.iface == i.id then { c with frames := c.frames ++ [frame] } else c })

def peek (k : Kernel) (file : Nat) : Except Errno (Option (List UInt8)) :=
  match k.ifaceOf? file with
  | none => .error .badState
  | some i => .ok i.pending.head?

def deviceRead (k : Kernel) (file : Nat) : Kernel :=
  match k.ifaceOf? file with
  | none => k
  | some i => k.modifyIface i.id fun i => { i with pending := i.pending.drop 1 }

def takePending (k : Kernel) (file : Nat) : Except Errno (List (List UInt8) × Kernel) :=
  match k.ifaceOf? file with
  | none => .error .badState
  | some i => .ok (i.pending, k.modifyIface i.id fun i => { i with pending := [] })

def named (k : Kernel) (name : String) : Except Errno Iface :=
  match k.find? name with
  | some i => .ok i
  | none => .error .noDevice

/-- The host transmits a frame on an interface: it must be up, the frame not empty and within
the MTU; the frame then waits for the device. -/
def send (k : Kernel) (name : String) (frame : List UInt8) : Except Errno (Nat × Kernel) :=
  match k.named name with
  | .error e => .error e
  | .ok i =>
    if !i.up then .error .networkDown
    else if frame.isEmpty then .error .invalidArgument
    else if i.mtu < frame.length then .error .messageTooLong
    else .ok (frame.length, k.modifyIface i.id fun i => { i with pending := i.pending ++ [frame] })

def setUp (k : Kernel) (name : String) (up : Bool) : Except Errno Kernel :=
  (k.named name).map fun i => k.modifyIface i.id fun i => { i with up }

def setMtu (k : Kernel) (name : String) (mtu : Nat) : Except Errno Kernel :=
  match k.named name with
  | .error e => .error e
  | .ok i =>
    if mtuRange.1 ≤ mtu && mtu ≤ mtuRange.2 then .ok (k.modifyIface i.id fun i => { i with mtu })
    else .error .invalidArgument

/-- Deletes an interface; its files stay open, in a bad state. -/
def delete (k : Kernel) (name : String) : Except Errno Kernel :=
  (k.named name).map fun i => { k with ifaces := k.ifaces.filter (·.id != i.id) }

/-- Opens a capture under a name, on the interface of that name. A capture already open under
the name stays as it is. -/
def sniff (k : Kernel) (name : String) : Except Errno Kernel :=
  if k.captures.any (·.name == name) then .ok k
  else (k.named name).map fun i => { k with captures := k.captures ++ [{ name, iface := i.id }] }

def captured (k : Kernel) (name : String) : Option (List (List UInt8) × Kernel) :=
  (k.captures.find? (·.name == name)).map fun c =>
    (c.frames, { k with captures := k.captures.map fun d =>
      if d.name == name then { d with frames := [] } else d })

end Kernel

end TunBridge
