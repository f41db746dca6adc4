import MachiningViewer.Http.Exchange

/-!
# A server that follows a script

The server of a scenario is found at one address and has answers prepared for some targets. They are
given in order, and the last one again and again; for all other targets there is one answer. An
answer may be prepared in such a way that the user interrupts the program while it waits for it.
-/

namespace MachiningViewer.Scenario

/-- A prepared answer. -/
structure Prepared where
  reply : Http.Reply
  /-- The user interrupts the program before the answer is given. -/
  interrupts : Bool
  deriving DecidableEq, Repr

/-- The server of a scenario. -/
structure Server where
  host : Option String
  port : Option Nat
  /-- The answers for each target. -/
  routes : List (String × List Prepared)
  /-- The answer for any other target. -/
  otherwise : Prepared
  /-- The requests that have arrived. -/
  requests : List Http.Request
  /-- The user has interrupted the program. -/
  interrupted : Bool
  deriving DecidableEq, Repr

namespace Server

/-- The server at an address, which has to be a URL to be found at all. -/
def atAddress (address : String) (routes : List (String × List Prepared)) (otherwise : Prepared) :
    Server :=
  let url := Http.Url.parse? address
  ⟨url.bind (·.host), url.bind (·.port), routes, otherwise, [], false⟩

/-- Does a URL lead to the server? -/
def isAt (s : Server) (url : Http.Url) : Bool :=
  url.host == s.host && url.port == s.port

/-- The answer that there is nothing at a target. -/
def unknown : Prepared :=
  ⟨.response ⟨404, none, some 0, [], true⟩, false⟩

/-- The answer for a target, and the answers that are left for it. -/
def next (s : Server) (target : String) : Prepared × List Prepared :=
  match s.routes.lookup target with
  | some (first :: second :: rest) => (first, second :: rest)
  | some [last] => (last, [last])
  | _ => (s.otherwise, [])

/-- Puts the answers that are left for a target in the place of those before. -/
def leave (s : Server) (target : String) (left : List Prepared) : Server :=
  { s with routes := s.routes.map fun (t, ps) => if t = target then (t, left) else (t, ps) }

/-- Answers a request. Nobody answers one that leads elsewhere. -/
def answer (r : Http.Request) : StateM Server Http.Reply := do
  let s ← get
  if s.isAt r.url then
    let (prepared, left) := s.next r.url.target
    let s := s.leave r.url.target left
    set { s with
      requests := s.requests ++ [r]
      interrupted := s.interrupted || prepared.interrupts }
    pure prepared.reply
  else pure .nothing

/-- How much there is to be had from a reply: itself and the bytes of its body. -/
def weight : Http.Reply → Nat
  | .nothing => 1
  | .response r => r.body.length + 1

/-- How much there is to be had from the server before its answers repeat. -/
def supply (s : Server) : Nat :=
  s.routes.foldl (fun n (_, ps) => ps.foldl (fun n p => n + weight p.reply) n) 0

end Server

end MachiningViewer.Scenario
