/-!
# Failures of the connection

What can go wrong between the program and a server before a complete answer is there. Most failures are failures of the
transport, of which some are timeouts; an answer that cannot be decoded or that redirects too often is not.
-/

namespace RanConsole.Http

/-- What went wrong. -/
inductive LinkFault where
  | readTimeout
  | connectTimeout
  | writeTimeout
  | poolTimeout
  | connect
  | read
  | write
  | close
  | remoteProtocol
  | localProtocol
  | proxy
  | unsupportedProtocol
  | decoding
  | tooManyRedirects
  /-- A timeout that is not told further. -/
  | timeout
  /-- A failure of the transport that is not told further. -/
  | transport
  /-- A failure of a request that is not told further. -/
  | request
  /-- Any failure. -/
  | general
  deriving DecidableEq, Repr

namespace LinkFault

/-- All kinds of failures. -/
def all : List LinkFault :=
  [.readTimeout, .connectTimeout, .writeTimeout, .poolTimeout, .connect, .read, .write, .close, .remoteProtocol,
   .localProtocol, .proxy, .unsupportedProtocol, .decoding, .tooManyRedirects, .timeout, .transport, .request, .general]

/-- Whether the failure is that something took too long. -/
def isTimeout : LinkFault → Bool
  | .readTimeout | .connectTimeout | .writeTimeout | .poolTimeout | .timeout => true
  | _ => false

/-- Whether the transport failed, so that the request may be sent again. -/
def isTransport : LinkFault → Bool
  | .decoding | .tooManyRedirects | .request | .general => false
  | _ => true

/-- The name of the failure. -/
def label : LinkFault → String
  | .readTimeout => "ReadTimeout"
  | .connectTimeout => "ConnectTimeout"
  | .writeTimeout => "WriteTimeout"
  | .poolTimeout => "PoolTimeout"
  | .connect => "ConnectError"
  | .read => "ReadError"
  | .write => "WriteError"
  | .close => "CloseError"
  | .remoteProtocol => "RemoteProtocolError"
  | .localProtocol => "LocalProtocolError"
  | .proxy => "ProxyError"
  | .unsupportedProtocol => "UnsupportedProtocol"
  | .decoding => "DecodingError"
  | .tooManyRedirects => "TooManyRedirects"
  | .timeout => "TimeoutException"
  | .transport => "TransportError"
  | .request => "RequestError"
  | .general => "HTTPError"

end LinkFault

/-- A failure of the connection with its message. -/
structure LinkFailure where
  fault : LinkFault
  message : String
  deriving DecidableEq, Repr

end RanConsole.Http
