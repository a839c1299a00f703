import NodeConsole.Http.Wire
/-!
The other side of an exchange: one server, reachable or not, that answers for every host. It gives
its replies in order, one to a request, and remembers what it has received. It refuses to be a tunnel.
-/

namespace NodeConsole.Http

inductive Answer where
  /-- Write a reply, and announce ten bytes more than there are if it is cut short. -/
  | reply (status : Nat) (reason : String) (headers : Headers) (body : List UInt8) (cutShort : Bool)
  | raw (bytes : List UInt8)
  | silence
deriving DecidableEq, Repr

def Answer.toBytes (method : String) : Answer → List UInt8
  | .reply status reason headers body cutShort =>
    let hasBody := status != 204 && status != 304
    let length := body.length + if cutShort then 10 else 0
    Utf8.bytes s!"HTTP/1.1 {status} {reason}" ++ [0x0D, 0x0A] ++
      headerBytes (headers ++
        (if hasBody then [("content-length", decimalValue length)] else []) ++
        [("connection", Utf8.bytes "close")]) ++
      (if hasBody && method != "HEAD" then body else [])
  | .raw bytes => bytes
  | .silence => []

def Answer.plain : Answer :=
  .reply 200 "OK" [] [] false

structure Network where
  reachable : Bool := false
  answers : List Answer := []
  received : List Request := []

namespace Network

def asRead (request : Request) : Request :=
  { request with headers := request.headers.map fun header => (header.1, trimValue header.2) }

def receive (network : Network) (request : Request) : Network :=
  { network with received := network.received ++ [asRead request] }

def exchange (network : Network) (request : Request) : Outcome × Network :=
  match network.answers with
  | [] => (.ofBytes request.method (Answer.plain.toBytes request.method), network.receive request)
  | answer :: rest =>
    (.ofBytes request.method (answer.toBytes request.method),
      { network with answers := rest }.receive request)

end Network

end NodeConsole.Http
