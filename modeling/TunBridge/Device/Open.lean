import TunBridge.Device.Spec
/-!
Opening a device from its specification. `dev://NAME` checks the name's length, makes or joins
the interface in TUN mode without packet information through a new descriptor, and makes that
descriptor non-blocking; `fd://N` duplicates `N` and keeps the duplicate only for a TUN interface
without packet information. A failure after a descriptor was opened closes it. An `Opening` is
what this asks of the system, so the same construction runs on any system.
-/
namespace TunBridge

/-- Interface names are shorter than this many bytes. -/
def ifNameSize : Nat := 16

def nonblockFlag : Nat := 0x800

def iffTun : UInt16 := 0x0001

/-- `IFF_NO_PI`: frames come without the packet information prefix. -/
def iffNoPi : UInt16 := 0x1000

def isTunNoPi (flags : UInt16) : Bool := flags &&& iffTun != 0 && flags &&& iffNoPi != 0

/-- The descriptor an open device holds: that of an interface it made or joined by name, or the
duplicate of a descriptor it was handed. -/
inductive DeviceHandle (φ : Type) where
  | named (fd : φ)
  | adopted (fd : φ)
  deriving DecidableEq, Repr

def DeviceHandle.fd {φ : Type} : DeviceHandle φ → φ
  | .named fd | .adopted fd => fd

structure OpenedDevice (φ : Type) where
  spec : DeviceSpec
  name : String
  handle : DeviceHandle φ
  deriving Repr

/-- What opening a device asks of the system, whose descriptors are of type `φ`. -/
structure Opening (ω φ : Type) where
  /-- Makes or joins the interface of a name through a new descriptor of the TUN device: the
  descriptor and the interface's name. -/
  createIface : ω → String → ω × Except IoError (φ × String)
  getFlags : ω → φ → ω × Except IoError Nat
  setFlags : ω → φ → Nat → ω × Except IoError Unit
  /-- A new descriptor of what a descriptor number refers to (`F_DUPFD_CLOEXEC`). -/
  dup : ω → Int → ω × Except IoError φ
  /-- The name and flags of the interface behind a descriptor (`TUNGETIFF`). -/
  tunInfo : ω → φ → ω × Except IoError (String × UInt16)
  close : ω → φ → ω

namespace Opening

variable {ω φ : Type} (O : Opening ω φ)

def setNonblocking (w : ω) (fd : φ) : ω × Except IoError Unit :=
  match O.getFlags w fd with
  | (w, .error e) => (w, .error e)
  | (w, .ok flags) =>
    if flags &&& nonblockFlag = 0 then O.setFlags w fd (flags ||| nonblockFlag) else (w, .ok ())

def byName (w : ω) (name : String) : ω × Except TunError (String × DeviceHandle φ) :=
  if ifNameSize ≤ name.utf8ByteSize then
    (w, .error (.openFailed "check interface name"
      (.custom .invalidInput ("interface name `" ++ name ++ "` too long"))))
  else
    match O.createIface w name with
    | (w, .error e) => (w, .error (.openFailed "create interface" e))
    | (w, .ok (fd, resolved)) =>
      match O.setNonblocking w fd with
      | (w, .error e) => (O.close w fd, .error (.openFailed "set non-blocking" e))
      | (w, .ok ()) => (w, .ok (resolved, .named fd))

def byDescriptor (w : ω) (fd : Int) : ω × Except TunError (String × DeviceHandle φ) :=
  match O.dup w fd with
  | (w, .error e) => (w, .error (.openFailed "duplicate descriptor" e))
  | (w, .ok owned) =>
    match O.tunInfo w owned with
    | (w, .error e) =>
      (O.close w owned, .error (.unsupportedKind
        ("descriptor " ++ toString fd ++ " is not a tun device: " ++ e.message)))
    | (w, .ok (name, flags)) =>
      if isTunNoPi flags then (w, .ok (name, .adopted owned))
      else (O.close w owned, .error (.unsupportedKind "only tun device and no pi mode supported"))

def openSpec (w : ω) (spec : String) : ω × Except TunError (OpenedDevice φ) :=
  match DeviceSpec.parse spec with
  | .error e => (w, .error e)
  | .ok s =>
    let opened := match s.kind with
      | .name n => O.byName w n
      | .fd n => O.byDescriptor w n
    match opened with
    | (w, .error e) => (w, .error e)
    | (w, .ok (name, handle)) => (w, .ok ⟨s, name, handle⟩)

def closeHandle (w : ω) (handle : DeviceHandle φ) : ω := O.close w handle.fd

end Opening

end TunBridge
