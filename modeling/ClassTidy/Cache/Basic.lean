/-
  ClassTidy.Cache.Basic — one rank table at a time, built once per fingerprint.

  The cache holds a table and the fingerprint that it was built for, the fingerprint asked
  for last, and the builds in flight. A request for the installed fingerprint is answered
  at once; otherwise it waits for the build of its fingerprint, which is started unless it
  is in flight already. A build that ends is installed if its fingerprint is still the
  last one asked for; if it fails then, whatever was installed is dropped, since it belongs
  to other settings. Clearing forgets the table and the last request, so a build that was
  in flight then is not installed unless its fingerprint is asked for again.
-/
import ClassTidy.Log
import ClassTidy.Settings.Fingerprint

namespace ClassTidy

/-- A build that has started and not ended; builds are numbered as they start. -/
structure Flight where
  fingerprint : Fingerprint
  number : Nat
  deriving DecidableEq, Repr

structure Cache (α : Type) where
  /-- The table that is installed. -/
  content? : Option α := none
  /-- The fingerprint whose table is installed. -/
  fingerprint? : Option Fingerprint := none
  /-- The fingerprint asked for last, since the cache was cleared. -/
  latest : Option Fingerprint := none
  /-- The register of builds in flight, one for a fingerprint, in the order in which they were entered. -/
  flights : List Flight := []
  /-- How many builds have started. -/
  started : Nat := 0
  deriving DecidableEq, Repr

/-- What a request gets: a table, or the build to wait for. -/
inductive Reply (α : Type) where
  | ready (a : α)
  | started (number : Nat)
  | joined (number : Nat)
  deriving DecidableEq, Repr

namespace Cache

variable {α ε : Type}

/-- The build that is registered for a fingerprint. -/
def flight? (c : Cache α) (f : Fingerprint) : Option Flight := c.flights.find? fun x => x.fingerprint = f

/-- The table installed for a fingerprint. -/
def table? (c : Cache α) (f : Fingerprint) : Option α :=
  match c.content? with
  | some a => if c.fingerprint? = some f then some a else none
  | none => none

/-- Asks for the table of a fingerprint. -/
def request (c : Cache α) (f : Fingerprint) : Reply α × Cache α :=
  let c := { c with latest := some f }
  match c.table? f with
  | some a => (.ready a, c)
  | none =>
    match c.flight? f with
    | some x => (.joined x.number, c)
    | none => (.started c.started, { c with flights := c.flights ++ [⟨f, c.started⟩], started := c.started + 1 })

/-- What the end of a build of a fingerprint does to the table. -/
def settle (c : Cache α) (f : Fingerprint) : Except ε α → Cache α
  | .ok a => if c.latest = some f then { c with content? := some a, fingerprint? := some f } else c
  | .error _ => if c.latest = some f then { c with content? := none, fingerprint? := none } else c

/-- Ends a build of a fingerprint: the fingerprint leaves the register, whatever build it stands for there. -/
def finish (c : Cache α) (f : Fingerprint) (outcome : Except ε α) : Cache α :=
  { c with flights := c.flights.filter fun x => x.fingerprint != f }.settle f outcome

/-- Asks for a table when nobody else is about: a build that is waited for ends before anything else. -/
def fetch (c : Cache α) (f : Fingerprint) (build : Unit → Except ε α) : Except ε α × Cache α :=
  match c.request f with
  | (.ready a, c) => (.ok a, c)
  | (.started _, c) =>
    let outcome := build ()
    (outcome, c.finish f outcome)
  | (.joined _, c) =>
    let outcome := build ()
    (outcome, c.finish f outcome)

/-- Forgets the table and the last request; builds stay in flight. -/
def clear (c : Cache α) : Cache α := { c with content? := none, fingerprint? := none, latest := none }

/-! ## What is told -/

/-- What is told when a build of a fingerprint is waited for. -/
def waitLog (c : Cache α) (f : Fingerprint) : Log :=
  match c.flight? f with
  | some _ => [⟨.debug, .cache, .ok ("Joining in-flight oracle build ".toList ++ Settings.shortPrint f)⟩]
  | none => [⟨.info, .cache, .ok ("Initializing class-order oracle ".toList ++ Settings.shortPrint f)⟩]

/-- What is told when a build of a fingerprint ends; the message is why it failed. -/
def endLog (c : Cache α) (f : Fingerprint) : Except Text α → Log
  | .ok _ =>
    if c.latest = some f then [⟨.info, .cache, .ok "Class-order oracle ready".toList⟩]
    else [⟨.info, .cache, .ok ("Discarding oracle for superseded fingerprint ".toList ++ Settings.shortPrint f)⟩]
  | .error m => [⟨.error, .cache, .ok ("Failed to initialize class-order oracle: ".toList ++ m)⟩]

end Cache

end ClassTidy
