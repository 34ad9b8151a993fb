namespace TunBridge

inductive TcpState where
  | listen
  | synSent
  | synRcvd
  | established
  | finWait1
  | finWait2
  | closeWait
  | closing
  | lastAck
  | timeWait
  | closed
  | initial
  | error
  deriving DecidableEq, Repr

namespace TcpState

def all : List TcpState :=
  [.listen, .synSent, .synRcvd, .established, .finWait1, .finWait2, .closeWait, .closing,
    .lastAck, .timeWait, .closed, .initial, .error]

def name : TcpState → String
  | .listen => "Listen"
  | .synSent => "SynSent"
  | .synRcvd => "SynRcvd"
  | .established => "Established"
  | .finWait1 => "FinWait1"
  | .finWait2 => "FinWait2"
  | .closeWait => "CloseWait"
  | .closing => "Closing"
  | .lastAck => "LastAck"
  | .timeWait => "TimeWait"
  | .closed => "Closed"
  | .initial => "Initial"
  | .error => "Error"

/-- The state as a connection table shows it. -/
def text : TcpState → String
  | .listen => "LISTEN"
  | .synSent => "SYN-SENT"
  | .synRcvd => "SYN-RCVD"
  | .established => "ESTABLISHED"
  | .finWait1 => "FIN-WAIT1"
  | .finWait2 => "FIN-WAIT2"
  | .closeWait => "CLOSE-WAIT"
  | .closing => "CLOSING"
  | .lastAck => "LAST-ACK"
  | .timeWait => "TIME-WAIT"
  | .closed => "CLOSED"
  | .initial => "INITIAL"
  | .error => "ERROR"

def isClosed : TcpState → Bool
  | .closed | .error => true
  | _ => false

def ofName? (s : String) : Option TcpState := all.find? (·.name = s)

end TcpState

end TunBridge
