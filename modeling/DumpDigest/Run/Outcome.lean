import DumpDigest.Run.Failure
import DumpDigest.Run.Log

/-! # What a command leaves behind

A computation only reads, may fail, and keeps a log in either case. A command also prints, and may
change files.
-/

namespace DumpDigest

/-- A value or a failure, and the log up to it. -/
structure Logged (α : Type) where
  log : List LogEntry
  result : Except Failure α

namespace Logged

variable {α β : Type}

/-- A computation that goes on where another one has succeeded. -/
def andThen (first : Logged α) (next : α → Logged β) : Logged β :=
  match first.result with
  | .ok value => ⟨first.log ++ (next value).log, (next value).result⟩
  | .error failure => ⟨first.log, .error failure⟩

instance : Monad Logged where
  pure value := ⟨[], .ok value⟩
  bind := andThen

/-- A result without a log. -/
def ofExcept (result : Except Failure α) : Logged α := ⟨[], result⟩

/-- One entry of the log. -/
def note (entry : LogEntry) : Logged Unit := ⟨[entry], .ok ()⟩

end Logged

/-- What a run has from the clock: the moment at which its document is made, and the nanoseconds
that it takes. -/
structure Clock where
  now : String
  elapsed : Nat

/-- How a command ended, what it printed and logged, and the files as it left them. -/
structure Outcome where
  result : Except Failure Unit
  printed : String
  log : List LogEntry
  tree : FileTree

end DumpDigest
