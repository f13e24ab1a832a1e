import BrokerClient.Files.Errno
import BrokerClient.Text.Utf8

/-!
# Output Sinks

Where output goes: the bytes that were written, and how many more fit before
the other end closes. A write that does not fit keeps the bytes that do and
fails. What is written is passed on at once, so nothing has to be flushed, and
there is no flush that could fail.

## Main definitions

* `Sink`: The bytes so far and the limit.
* `Sink.write`: Adds bytes.

## Theorems

* `Sink.write_unlimited`: Without a limit everything is kept.
-/

namespace BrokerClient

/-- The bytes written so far, and at most how many there may be. -/
structure Sink where
  written : List UInt8
  limit : Option Nat
  deriving DecidableEq, Inhabited

namespace Sink

/-- A sink that takes everything. -/
def unlimited : Sink := ⟨[], none⟩

/-- A sink that closes after so many bytes. -/
def closingAfter (limit : Nat) : Sink := ⟨[], some limit⟩

/-- What a write to a sink that has closed is told. -/
def closed : IoError := .reported .other "pipe closed" []

/-- Adds bytes, as many as fit, and tells whether all did. -/
def write (s : Sink) (bytes : List UInt8) : Sink × Except IoError Unit :=
  match s.limit with
  | none => ({ s with written := s.written ++ bytes }, .ok ())
  | some limit =>
    let room := limit - s.written.length
    if bytes.length ≤ room then ({ s with written := s.written ++ bytes }, .ok ())
    else ({ s with written := s.written ++ bytes.take room }, .error closed)

/-- Adds a text. -/
def writeText (s : Sink) (text : String) : Sink × Except IoError Unit :=
  s.write (Utf8.encode text.toList)

theorem write_unlimited (s : Sink) (bytes : List UInt8) (h : s.limit = none) :
    s.write bytes = ({ s with written := s.written ++ bytes }, .ok ()) := by
  simp [write, h]

end Sink

end BrokerClient
