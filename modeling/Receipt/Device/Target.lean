import Receipt.Event

/-!
Print targets: what takes the lines of a print. A target queues lines one by one and prints what
is queued as one batch. Either may fail, and a target that fails may still have changed.
-/

namespace Receipt

/-- How a target answers. -/
structure Reply (τ : Type) where
  target : τ
  error : Option DeviceError := none
  events : List Event := []

/-- Something that takes lines and prints them. -/
class PrintTarget (τ : Type) where
  /-- Queues one line. -/
  add (target : τ) (command : Command) : Reply τ
  /-- Prints the queued lines as one batch. -/
  print (target : τ) : Reply τ

namespace PrintTarget

/-- Queues lines in order, up to the first that is refused. -/
def addAll [PrintTarget τ] (target : τ) : List Command → Reply τ
  | [] => { target }
  | command :: commands =>
    let reply := add target command
    match reply.error with
    | some _ => reply
    | none =>
      let rest := addAll reply.target commands
      { rest with events := reply.events ++ rest.events }

/-- Queues lines and, if none was refused, prints them. -/
def printAll [PrintTarget τ] (target : τ) (commands : List Command) : Reply τ :=
  let added := addAll target commands
  match added.error with
  | some _ => added
  | none =>
    let printed := print added.target
    { printed with events := added.events ++ printed.events }

end PrintTarget

/-! ## Targets -/

/-- Keeps what it is given. -/
structure MemoryTarget where
  /-- The lines that are queued. -/
  pending : List Command := []
  /-- The batches that were printed, in order. -/
  batches : List (List Command) := []

namespace MemoryTarget

/-- Queues a line. -/
def push (target : MemoryTarget) (command : Command) : MemoryTarget :=
  { target with pending := target.pending ++ [command] }

/-- Makes a batch of the queued lines. -/
def flush (target : MemoryTarget) : MemoryTarget where
  pending := []
  batches := target.batches ++ [target.pending]

/-- The texts of all printed lines. -/
def printedLines (target : MemoryTarget) : List String :=
  target.batches.flatten.map (·.text)

instance : PrintTarget MemoryTarget where
  add target command := { target := target.push command }
  print target := { target := target.flush }

end MemoryTarget

/-- Reports what it is given. -/
structure LoggingTarget where
  /-- How many lines are queued. -/
  queued : Nat := 0

instance : PrintTarget LoggingTarget where
  add target command :=
    { target := ⟨target.queued + 1⟩
      events := [.lineQueued (target.queued + 1) command] }
  print target :=
    { target := ⟨0⟩
      events := [.linesPrinted target.queued] }

/-- Drops what it is given. -/
structure NullTarget where

instance : PrintTarget NullTarget where
  add target _ := { target }
  print target := { target }

/-- Keeps what it is given, and fails when it is told to. -/
structure FaultyTarget where
  memory : MemoryTarget := {}
  /-- The line is refused that comes when this many are queued. -/
  refuseAt : Option Nat := none
  failToPrint : Bool := false
  unavailable : Bool := false

instance : PrintTarget FaultyTarget where
  add target command :=
    if target.unavailable then { target, error := some (.unavailable "offline") }
    else if target.refuseAt = some target.memory.pending.length then
      { target, error := some (.rejected command.text) }
    else { target := { target with memory := target.memory.push command } }
  print target :=
    if target.failToPrint then { target, error := some (.printFailed "paper out") }
    else { target := { target with memory := target.memory.flush } }

end Receipt
