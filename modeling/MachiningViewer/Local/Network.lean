import MachiningViewer.Http.Wire
import MachiningViewer.Progress.EventStream
import Std.Async.DNS
import Std.Async.TCP
import Std.Async.Timer

/-!
# The network

Requests over TCP, each on a connection of its own. What the bytes of an answer mean is not decided
here: they are handed to a receiver (`Http.Receiver`), and those of a progress stream are handed on
to a reader of events as they come (`EventStream.Receiving`).
-/

namespace MachiningViewer.Local

open Std.Async (Async)
open Std.Async.TCP.Socket (Client)
open Progress (Item TransportError)
open Progress.EventStream (Receiving)

/-- A connection on which something has been received. -/
structure Connection where
  /-- The end of the connection on this side, if it was made at all. -/
  socket : Option Client
  received : Http.Receiver

namespace Connection

/-- There is no connection. -/
def absent : Connection := ⟨none, .initial⟩

/-- An address with a port. -/
def place (port : UInt16) : Std.Net.IPAddr → Std.Net.SocketAddress
  | .v4 ip => .v4 ⟨ip, port⟩
  | .v6 ip => .v6 ⟨ip, port⟩

/-- Connects to the first of several addresses at which that is possible. -/
def toFirst (port : UInt16) : List Std.Net.IPAddr → Async Client
  | [] => throw (IO.userError "no address")
  | ip :: ips => do
    try
      let socket ← Client.mk
      socket.connect (place port ip)
      pure socket
    catch _ => toFirst port ips

/-- A host's name without the brackets around an address. -/
def bareHost (host : String) : String :=
  String.ofList (host.toList.filter fun c => c ≠ '[' ∧ c ≠ ']')

/-- Makes a connection and sends a request. -/
def make (request : Http.Request) : Async Connection := do
  let port := request.url.port.getD 80
  let addresses ← Std.Async.DNS.getAddrInfo (bareHost (request.url.host.getD "")) (toString port)
  let socket ← toFirst port.toUInt16 addresses.toList
  socket.send request.write.toUTF8
  pure ⟨some socket, .initial⟩

/-- How many bytes are received at once. -/
def portion : UInt64 := 65536

/-- Receives some more. -/
def receive (c : Connection) : Async (Option Connection) := do
  match c.socket with
  | none => pure none
  | some socket =>
    try
      match ← socket.recv? portion with
      | some bytes => pure (some { c with received := c.received.receive bytes.toList })
      | none => pure none
    catch _ => pure (some { c with received := c.received.cut })

end Connection

/-- Makes a request, and receives its answer until enough of that has arrived or no more will come.
The connection is told about whenever there is more of it. -/
def request (isEnough : Http.Receiver → Bool) (tell : Connection → BaseIO Unit)
    (r : Http.Request) : Async Unit := do
  try
    let mut c ← Connection.make r
    tell c
    while !isEnough c.received do
      match ← c.receive with
      | some next =>
        c := next
        tell c
      | none => break
  catch _ => pure ()

/-- Makes a request and waits for its answer, but not longer than the given seconds. No one waits
for more than some years. -/
def fetch (timeout : Option Nat) (r : Http.Request) : Async Http.Reply := do
  let received ← IO.mkRef Http.Receiver.initial
  let answer := request (·.isOver) (fun c => received.set c.received) r
  match timeout with
  | none => answer
  | some seconds =>
    let tooLate : Async Unit := do
      Std.Async.sleep (.ofNat (1000 * min seconds 1000000000))
      received.modify (·.cut)
    Async.race answer tooLate
  pure (← received.get).reply

/-- Opens the progress stream of a job, and answers with the connection on which it comes. -/
def openStream (base : String) (job : JobId) :
    Async (Except TransportError Connection × List Log.Record) := do
  let connection ← IO.mkRef Connection.absent
  let send (r : Http.Request) : Async Http.Reply := do
    request (·.head.isSome) connection.set r
    pure (← connection.get).received.reply
  let (opened, log) ← Progress.openStream send base job
  let c ← connection.get
  pure (opened.map fun _ => c, log)

/-- Hands on what a progress stream delivers, to its end. -/
def deliver (c : Connection) (hand : Item → BaseIO Unit) : Async Unit := do
  let mut c := c
  let mut stream := Receiving.initial
  let mut more := true
  while more do
    let (bytes, received) := c.received.takeBody
    let (next, messages) := stream.receive bytes
    stream := next
    c := { c with received }
    messages.forM fun payload => hand (.message payload)
    if received.isOver then more := false
    else
      match ← c.receive with
      | some next => c := next
      | none => more := false
  (stream.finish c.received.isComplete).forM fun item => hand item

end MachiningViewer.Local
