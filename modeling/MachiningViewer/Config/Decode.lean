import MachiningViewer.Config.Basic
import MachiningViewer.Config.Bounds

/-!
# Configuration files

A configuration file is a TOML document. Every key may be left out, and keys that are not known are
passed over.
-/

namespace MachiningViewer.Config

inductive Field where
  | backend
  | pollInterval
  | requestTimeout
  | bounds
  deriving DecidableEq, Repr

/-- What is known of a configuration while it is read. -/
structure Slots where
  backend : Option String
  pollInterval : Option Nat
  requestTimeout : Option Nat
  bounds : Option MachineBounds
  deriving Repr

def Field.label : Field → String
  | .backend => "api_base_url"
  | .pollInterval => "poll_interval_ms"
  | .requestTimeout => "request_timeout_secs"
  | .bounds => "machine_bounds"

def Field.all : List Field := [.backend, .pollInterval, .requestTimeout, .bounds]

def Slots.has (s : Slots) : Field → Bool
  | .backend => s.backend.isSome
  | .pollInterval => s.pollInterval.isSome
  | .requestTimeout => s.requestTimeout.isSome
  | .bounds => s.bounds.isSome

def Slots.put (s : Slots) (f : Field) (v : Toml.Value) : Except Fault Slots :=
  match f with
  | .backend => do return { s with backend := some (← v.text) }
  | .pollInterval => do return { s with pollInterval := some (← v.natural) }
  | .requestTimeout => do return { s with requestTimeout := some (← v.natural) }
  | .bounds => do return { s with bounds := some (← MachineBounds.ofToml v) }

def schema : Schema Toml.Value Field Slots where
  name := "ViewerConfig"
  fields := Field.all
  field? name := Field.all.find? (·.label == name)
  label := Field.label
  isOptional _ := true
  empty := ⟨none, none, none, none⟩
  has := Slots.has
  put := Slots.put

/-- The configuration in which what is not known is as in the standard one. -/
def ofSlots (s : Slots) : Config where
  backend := s.backend.getD standard.backend
  pollInterval := s.pollInterval.getD standard.pollInterval
  requestTimeout := s.requestTimeout
  bounds := s.bounds.getD standard.bounds

/-- Reads a configuration file. -/
def decode (text : String) : Except Fault Config :=
  Toml.decode (fun v => do return ofSlots (← v.record schema)) text

end MachiningViewer.Config
