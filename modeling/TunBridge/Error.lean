import TunBridge.Net.SocketAddr
namespace TunBridge

inductive Errno where
  | io
  | badDescriptor
  | busy
  | noDevice
  | invalidArgument
  | notTty
  | badState
  | messageTooLong
  | networkDown
  | badAddress
  deriving DecidableEq, Repr

namespace Errno

def code : Errno → Nat
  | .io => 5
  | .badDescriptor => 9
  | .busy => 16
  | .noDevice => 19
  | .invalidArgument => 22
  | .notTty => 25
  | .badState => 77
  | .messageTooLong => 90
  | .networkDown => 100
  | .badAddress => 14

def description : Errno → String
  | .io => "Input/output error"
  | .badDescriptor => "Bad file descriptor"
  | .busy => "Device or resource busy"
  | .noDevice => "No such device"
  | .invalidArgument => "Invalid argument"
  | .notTty => "Inappropriate ioctl for device"
  | .badState => "File descriptor in bad state"
  | .messageTooLong => "Message too long"
  | .networkDown => "Network is down"
  | .badAddress => "Bad address"

end Errno

inductive IoKind where
  | inputOutput
  | invalidInput
  | resourceBusy
  | networkDown
  | notConnected
  | unexpectedEof
  | brokenPipe
  | uncategorized
  | other
  deriving DecidableEq, Repr

def IoKind.name : IoKind → String
  | .inputOutput => "InputOutputError"
  | .invalidInput => "InvalidInput"
  | .resourceBusy => "ResourceBusy"
  | .networkDown => "NetworkDown"
  | .notConnected => "NotConnected"
  | .unexpectedEof => "UnexpectedEof"
  | .brokenPipe => "BrokenPipe"
  | .uncategorized => "Uncategorized"
  | .other => "Other"

def Errno.kind : Errno → IoKind
  | .io => .inputOutput
  | .busy => .resourceBusy
  | .invalidArgument => .invalidInput
  | .networkDown => .networkDown
  | _ => .uncategorized

/-- A failed I/O call: an operating-system error, or one raised with its own kind and text. -/
inductive IoError where
  | os (e : Errno)
  | custom (kind : IoKind) (text : String)
  deriving DecidableEq, Repr

namespace IoError

def message : IoError → String
  | .os e => e.description ++ " (os error " ++ toString e.code ++ ")"
  | .custom _ text => text

def kind : IoError → IoKind
  | .os e => e.kind
  | .custom k _ => k

/-- Reading or writing a device after it was closed. -/
def closed : IoError := .custom .notConnected "tun device closed"

end IoError

inductive StackError where
  | duplicateNic (id : Nat)
  | unknownNic (id : Nat)
  | queueFull
  | noRoute (addr : IpAddr)
  | endpointCreation (reason : String)
  | closed
  deriving DecidableEq, Repr

def StackError.message : StackError → String
  | .duplicateNic id => "duplicate nic id " ++ toString id
  | .unknownNic id => "unknown nic id " ++ toString id
  | .queueFull => "outbound queue full"
  | .noRoute addr => "no route to " ++ addr.render
  | .endpointCreation reason => "endpoint creation failed: " ++ reason
  | .closed => "stack closed"

inductive TunError where
  | invalidUrl (url reason : String)
  | unsupportedKind (text : String)
  | openFailed (step : String) (source : IoError)
  | malformedPacket (declared actual : Nat)
  | handshakeRejected (text : String)
  | readFailure (source : IoError)
  | writeFailure (source : IoError)
  | stack (context : String) (source : StackError)
  | closed
  deriving DecidableEq, Repr

namespace TunError

def message : TunError → String
  | .invalidUrl url reason => "invalid tun device url `" ++ url ++ "`: " ++ reason
  | .unsupportedKind text => "unsupported device kind: " ++ text
  | .openFailed step source => "can't open tun: " ++ step ++ ": " ++ source.message
  | .malformedPacket declared actual =>
    "malformed udp packet: declared length " ++ toString declared ++ ", received " ++
      toString actual
  | .handshakeRejected text => "tcp handshake rejected: " ++ text
  | .readFailure source => "can not read from tun: " ++ source.message
  | .writeFailure source => "can not write to tun: " ++ source.message
  | .stack context source => context ++ ": " ++ source.message
  | .closed => "tun device closed"

def hasSource : TunError → Bool
  | .openFailed .. | .readFailure _ | .writeFailure _ | .stack .. => true
  | _ => false

end TunError

end TunBridge
