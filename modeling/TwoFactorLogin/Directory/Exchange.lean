import TwoFactorLogin.Deadline
import TwoFactorLogin.Identity

/-!
# Requests to the directory, and its replies

Connections are numbered in the order in which they are opened. An `Exchange` is one request on
one connection, the clocks when it was sent, and the reply. A `Directory` is any rule that answers
a request from what was exchanged before it: it may accept, refuse, fail, and take its time.
-/

namespace TwoFactorLogin

/-- How the server's certificate is checked. -/
structure TlsSettings where
  validate : Bool
  caBundle : Option String
  deriving DecidableEq, Repr

/-- What a connection is opened with. -/
structure Endpoint where
  host : String
  port : Nat
  useSsl : Bool
  tls : Option TlsSettings
  connectTimeout : Number
  receiveTimeout : Number
  deriving DecidableEq, Repr

/-- What can be asked of the directory on a connection. -/
inductive Request where
  | connect (endpoint : Endpoint)
  | startTls
  | bind (user : String) (password : List UInt8)
  | search (base filter : String) (attributes : List String)
  | unbind
  deriving DecidableEq, Repr

/-- Whether a request opens a connection. -/
def Request.isConnect : Request → Bool
  | connect _ => true
  | _ => false

/-- The server's result: a code, and a description that may be missing. -/
structure Diagnosis where
  code : Value
  description : Option Value
  deriving DecidableEq, Repr

/-- One item of the response to a search. -/
structure SearchItem where
  kind : Option String
  dn : Option String
  deriving DecidableEq, Repr

/-- What comes back: a fault or a truth value, what the connection shows then, and the clocks. -/
structure Reply where
  outcome : Except Fault Bool
  result : Option Diagnosis
  response : List SearchItem
  clocks : Clocks

/-- One request and its reply. -/
structure Exchange where
  connection : Nat
  request : Request
  sentAt : Clocks
  reply : Reply

/-- A rule that answers requests: from the exchanges so far, the clocks, a connection and a
request. -/
abbrev Directory := List Exchange → Clocks → Nat → Request → Reply

/-- The number of connections that were opened in some exchanges. -/
def connectionCount (exchanges : List Exchange) : Nat :=
  (exchanges.filter fun e => e.request.isConnect).length

end TwoFactorLogin
