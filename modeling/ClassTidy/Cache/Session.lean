/-
  ClassTidy.Cache.Session — many waiters on one cache.

  A waiter asks for a table, but begins only when it gets a turn; then it is answered at
  once or waits for a build. A build ends with a table or a failure. The cache takes note
  of that in the same moment; every waiter on the build hears of it in a later turn of its
  own. Cancelling a waiter ends that waiter alone: the build goes on. A waiter that is
  cancelled before it began has never asked.

  A move is what happens in one piece, with nothing in between, and any list of moves is a
  schedule (`act`, `run`). A move that is not possible changes nothing.

  An event comes from outside and is followed by the moves it gives rise to: every waiter
  that has not begun gets its turn, in order, and only then does a build that the event
  let go come to its end and everyone hear of it (`raw`, `step`).
-/
import ClassTidy.Cache.Basic

namespace ClassTidy

/-- How a build can fail: it says itself why there is no table, or it ends with an error of another kind. That a build
is cancelled is not among these: cancelling ends a waiter and never the build, and what happens to builds when
everything is shut down is no part of a session. -/
inductive Failure where
  | refused (message : Text)
  | broken (kind message : Text)
  deriving DecidableEq, Repr

namespace Failure

/-- What a waiter is told. -/
def message : Failure → Text
  | .refused m => m
  | .broken _ m => "Oracle build failed: ".toList ++ m

/-- The kind of the failure behind the one that a waiter is told of. -/
def cause? : Failure → Option Text
  | .refused _ => none
  | .broken kind _ => some kind

end Failure

/-- What a waiter asks for: the table of some settings for a workspace. -/
structure Request where
  settings : Settings
  root : Path
  /-- The directory that the workspace is seen from. -/
  current : Path
  deriving DecidableEq, Repr

/-- The fingerprint under which the table that is asked for is kept. -/
def Request.fingerprint (q : Request) : Fingerprint := q.settings.fingerprint q.current q.root

/-- How far a waiter is. -/
inductive Stage (α : Type) where
  | fresh
  | waiting (number : Nat)
  | answered (a : α)
  | failed (f : Failure)
  | cancelled
  deriving DecidableEq, Repr

namespace Stage

variable {α : Type}

/-- Where a reply of the cache leaves a waiter. -/
def ofReply : Reply α → Stage α
  | .ready a => .answered a
  | .started n => .waiting n
  | .joined n => .waiting n

/-- Where the outcome of its build leaves a waiter. -/
def ofOutcome : Except Failure α → Stage α
  | .ok a => .answered a
  | .error f => .failed f

end Stage

structure Waiter (α : Type) where
  id : Text
  request : Request
  stage : Stage α
  deriving DecidableEq, Repr

/-- A waiter that is not done is cancelled. -/
def Waiter.cancel {α : Type} (w : Waiter α) : Waiter α :=
  match w.stage with
  | .fresh => { w with stage := .cancelled }
  | .waiting _ => { w with stage := .cancelled }
  | _ => w

/-- A build that has ended, and what it was started for. -/
structure Ended (α : Type) where
  number : Nat
  job : Request
  outcome : Except Failure α
  deriving Repr

structure Session (α : Type) where
  cache : Cache α := {}
  waiters : List (Waiter α) := []
  /-- What each build was started for, by its number. -/
  jobs : List Request := []
  /-- The builds that ended, in the order in which they ended. -/
  ended : List (Ended α) := []
  deriving Repr

/-- What happens in one piece. Waiters go by their places, builds by their numbers. -/
inductive Move (α : Type) where
  | ask (id : Text) (request : Request)
  | begin (i : Nat)
  | finish (number : Nat) (outcome : Except Failure α)
  | hear (i : Nat)
  | cancel (i : Nat)
  | clear

/-- What comes from outside. -/
inductive Event (α : Type) where
  | ask (id : Text) (request : Request)
  | release (number : Nat) (outcome : Except Failure α)
  | cancel (id : Text)
  | clear

namespace Session

variable {α : Type}

/-- How a build that has ended came out. -/
def outcome? (s : Session α) (number : Nat) : Option (Except Failure α) :=
  (s.ended.find? fun e => e.number = number).map (·.outcome)

/-- What a build was started for that has started and not ended. -/
def running? (s : Session α) (number : Nat) : Option Request :=
  match s.outcome? number with
  | some _ => none
  | none => s.jobs[number]?

/-! ## Moves -/

/-- The name and the request of a waiter that has not begun. -/
def fresh? (s : Session α) (i : Nat) : Option (Text × Request) :=
  match s.waiters[i]? with
  | some ⟨id, q, .fresh⟩ => some (id, q)
  | _ => none

/-- A waiter that has not begun asks the cache. -/
def begin (s : Session α) (i : Nat) : Session α :=
  match s.fresh? i with
  | some (id, q) =>
    let (reply, cache) := s.cache.request q.fingerprint
    { s with
      cache := cache
      waiters := s.waiters.set i ⟨id, q, .ofReply reply⟩
      jobs := match reply with
        | .started _ => s.jobs ++ [q]
        | _ => s.jobs }
  | none => s

/-- A build that runs comes to its end. -/
def finish (s : Session α) (number : Nat) (outcome : Except Failure α) : Session α :=
  match s.running? number with
  | some job =>
    { s with cache := s.cache.finish job.fingerprint outcome, ended := s.ended ++ [⟨number, job, outcome⟩] }
  | none => s

/-- What a waiter knows once it has heard how its build came out. -/
def told (s : Session α) (w : Waiter α) : Waiter α :=
  match w.stage with
  | .waiting n =>
    match s.outcome? n with
    | some outcome => { w with stage := .ofOutcome outcome }
    | none => w
  | _ => w

def act (s : Session α) : Move α → Session α
  | .ask id q => { s with waiters := s.waiters ++ [⟨id, q, .fresh⟩] }
  | .begin i => s.begin i
  | .finish number outcome => s.finish number outcome
  | .hear i => { s with waiters := s.waiters.modify i s.told }
  | .cancel i => { s with waiters := s.waiters.modify i Waiter.cancel }
  | .clear => { s with cache := s.cache.clear }

def run (s : Session α) (moves : List (Move α)) : Session α := moves.foldl act s

/-! ## Events -/

/-- The place of the latest waiter of a name. An earlier waiter of that name is out of reach. -/
def place? (s : Session α) (id : Text) : Option Nat :=
  ((List.range s.waiters.length).filter fun i => s.waiters[i]?.any fun w => w.id = id).getLast?

/-- The moves that an event is, before anyone gets a turn. -/
def own (s : Session α) : Event α → List (Move α)
  | .ask id q => [.ask id q]
  | .release _ _ => []
  | .cancel id => (s.place? id).toList.map .cancel
  | .clear => [.clear]

/-- The moves that follow an event. -/
def following (s : Session α) (e : Event α) : List (Move α) :=
  let places := List.range s.waiters.length
  places.map .begin ++ match e with
    | .release number outcome => .finish number outcome :: places.map .hear
    | _ => []

/-- What an event does before anyone gets a turn. -/
def raw (s : Session α) (e : Event α) : Session α := s.run (s.own e)

/-- An event and all that follows from it. -/
def step (s : Session α) (e : Event α) : Session α := (s.raw e).run ((s.raw e).following e)

end Session

end ClassTidy
