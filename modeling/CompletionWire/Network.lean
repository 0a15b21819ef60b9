import CompletionWire.Text.CodePoint

/-!
# Network errors

What may happen to a request instead of a response. Errors of the transport are worth another
attempt; all others are final.
-/

namespace CompletionWire

inductive TransportError
  | transport
  | timeout
  | connectTimeout
  | readTimeout
  | writeTimeout
  | poolTimeout
  | network
  | connect
  | read
  | write
  | close
  | proxy
  | protocol
  | localProtocol
  | remoteProtocol
  | unsupportedProtocol
deriving DecidableEq

namespace TransportError

def all : List TransportError := [
  transport, timeout, connectTimeout, readTimeout, writeTimeout, poolTimeout, network, connect,
  read, write, close, proxy, protocol, localProtocol, remoteProtocol, unsupportedProtocol]

def name : TransportError → Text
  | transport => text "TransportError"
  | timeout => text "TimeoutException"
  | connectTimeout => text "ConnectTimeout"
  | readTimeout => text "ReadTimeout"
  | writeTimeout => text "WriteTimeout"
  | poolTimeout => text "PoolTimeout"
  | network => text "NetworkError"
  | connect => text "ConnectError"
  | read => text "ReadError"
  | write => text "WriteError"
  | close => text "CloseError"
  | proxy => text "ProxyError"
  | protocol => text "ProtocolError"
  | localProtocol => text "LocalProtocolError"
  | remoteProtocol => text "RemoteProtocolError"
  | unsupportedProtocol => text "UnsupportedProtocol"

end TransportError

/-- An error that takes the place of a response. -/
inductive NetworkError
  | transport (error : TransportError) (message : Text)
  | other (name : Text) (message : Text)
deriving DecidableEq

namespace NetworkError

/-- The error of a name, which decides whether it is one of the transport. -/
def ofName (name message : Text) : NetworkError :=
  match TransportError.all.find? (·.name = name) with
  | some error => transport error message
  | none => other name message

def name : NetworkError → Text
  | transport error _ => error.name
  | other n _ => n

def message : NetworkError → Text
  | transport _ m | other _ m => m

def isTransport : NetworkError → Bool
  | transport _ _ => true
  | other _ _ => false

end NetworkError

end CompletionWire
