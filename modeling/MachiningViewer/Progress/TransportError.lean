/-!
# What a transport gives

A transport opens streams of progress messages. A stream has a number for as long as it is open, and
delivers one thing after the other: messages, as texts that nobody has looked into yet, and at last
its end, if it has one. It may fail instead, and so may the request to open it, for causes that are
put into words here.
-/

namespace MachiningViewer.Progress

/-- The transport's number for a stream that it has opened. -/
abbrev StreamId := Nat

/-- Why a progress stream cannot be opened or read on. -/
inductive TransportError where
  | opening (cause : String)
  /-- The server answers with a status that is no success. -/
  | status (code : Nat)
  | stream (cause : String)
  deriving DecidableEq, Repr, Inhabited

/-- The error in words. -/
def TransportError.message : TransportError → String
  | opening cause => "Failed to open progress stream: " ++ cause
  | status code => "Progress stream rejected with HTTP " ++ toString code
  | stream cause => "Progress stream failed: " ++ cause

/-- What a stream delivers. -/
inductive Item where
  | message (payload : String)
  | failure (e : TransportError)
  | ending
  deriving DecidableEq, Repr

end MachiningViewer.Progress
