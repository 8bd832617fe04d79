import Mathlib

/-!
# The block-storage event listener

`EventListener` of the verifier package watches the block-storage contract for
`NewHash` events.  `Start` makes a channel of capacity `backlog`, starts
`numOfWorkers` worker goroutines that range over it, and a watcher goroutine
that subscribes the channel to the contract's events.  A worker asks the
verifier for the tokens of each event it receives and queues one vote per
token with the voter.  `Close` unsubscribes, then closes the channel.

The goroutines interleave, so the listener is a transition system: `Act` has
one constructor per move of a goroutine that touches shared state, and `step`
says when the move is enabled (`none` when the goroutine is blocked or has no
such move) and what it does.  The components the listener calls enter through
the moves: the subscription forwards events only while it is active and has
stopped when `Unsubscribe` returns, the verifier's answer is part of the
receiving move, and the voter records each `AddToQueue` call.  A Go panic
stops every goroutine, so a panicked listener takes no further step.  `Start`
is called once, by the node.
-/

namespace OperaEmitter.Verifier

def numOfWorkers : Nat := 1

def backlog : Nat := 5

/-- `block_storage.BlockStorageNewHash`, as the workers read it. -/
structure NewHash where
  hashId : Nat
  deriving DecidableEq, Repr

structure Token where
  currencyCode : String
  deriving DecidableEq, Repr

/-- The `AddToQueue(evt.HashId, token.currencyCode)` calls for an event. -/
def votes (evt : NewHash) (tokens : List Token) : List (Nat × String) :=
  tokens.map fun token => (evt.hashId, token.currencyCode)

inductive ChanState where
  | nil
  | opened
  | closed
  deriving DecidableEq, Repr

/-- `e.sub` together with the subscription's producer goroutine. -/
inductive SubState where
  /-- the watcher goroutine has not assigned `e.sub` yet -/
  | nil
  /-- the producer forwards contract events into the channel -/
  | active
  /-- the subscription ended with an error and its producer stopped -/
  | failed
  /-- `Unsubscribe` returned, so its producer stopped -/
  | unsubscribed
  deriving DecidableEq, Repr

inductive Worker where
  /-- at `for evt := range events` -/
  | receiving
  /-- in the loop over the tokens of `evt`, with `tokens` still to queue -/
  | adding (evt : NewHash) (tokens : List Token)
  /-- the range loop ended: the channel was closed and drained -/
  | exited
  deriving DecidableEq, Repr

def Worker.after (evt : NewHash) : List Token → Worker
  | [] => .receiving
  | token :: tokens => .adding evt (token :: tokens)

def Worker.pending : Worker → List (Nat × String)
  | .adding evt tokens => votes evt tokens
  | _ => []

@[simp] theorem Worker.pending_receiving : Worker.receiving.pending = [] := rfl

@[simp] theorem Worker.pending_exited : Worker.exited.pending = [] := rfl

@[simp] theorem Worker.pending_adding (evt : NewHash) (tokens : List Token) :
    (Worker.adding evt tokens).pending = votes evt tokens := rfl

@[simp] theorem Worker.pending_after (evt : NewHash) (tokens : List Token) :
    (Worker.after evt tokens).pending = votes evt tokens := by
  cases tokens <;> rfl

@[simp] theorem Worker.after_ne_exited (evt : NewHash) (tokens : List Token) :
    Worker.after evt tokens ≠ .exited := by
  cases tokens <;> nofun

@[simp] theorem Worker.after_ne_adding_nil (evt evt' : NewHash) (tokens : List Token) :
    Worker.after evt tokens ≠ .adding evt' [] := by
  cases tokens <;> nofun

inductive Panic where
  | initializeEventSystem
  | watchNewHash
  | nilSubscription
  | closeOfClosedChannel
  | closeOfNilChannel
  | sendOnClosedChannel
  deriving DecidableEq, Repr

structure Listener where
  enabled : Bool
  chan : ChanState
  buffer : List NewHash
  sub : SubState
  workers : List Worker
  /-- the goroutine running `Close` is between `Unsubscribe` and `close` -/
  closing : Bool
  queue : List (Nat × String)
  panicked : Option Panic
  deriving DecidableEq, Repr

def newEventListener : Listener :=
  ⟨false, .nil, [], .nil, [], false, [], none⟩

inductive Act where
  /-- `Start`, where `initializeEventSystem` succeeds or fails -/
  | start (initOk : Bool)
  /-- the watcher goroutine's `WatchNewHash`, which succeeds or fails -/
  | subscribe (ok : Bool)
  | deliver (evt : NewHash)
  | subError
  /-- worker `i` receives `evt`, and `validateHashEvent` answers `tokens` -/
  | recv (i : Nat) (evt : NewHash) (tokens : List Token)
  | add (i : Nat)
  | exit (i : Nat)
  /-- the next statement of `Close` on shared state -/
  | close
  deriving DecidableEq, Repr

namespace Listener

/-- `Start` sets `enabled` before `initializeEventSystem`, whose error panics. -/
def start (s : Listener) (initOk : Bool) : Option Listener :=
  if s.enabled then none
  else if initOk then
    some { s with enabled := true, chan := .opened, buffer := [],
                  workers := List.replicate numOfWorkers .receiving }
  else some { s with enabled := true, panicked := some .initializeEventSystem }

/-- The watcher goroutine assigns `e.sub`; an error of `WatchNewHash` panics. -/
def subscribe (s : Listener) (ok : Bool) : Option Listener :=
  if s.chan ≠ .nil ∧ s.sub = .nil then
    some (if ok then { s with sub := .active } else { s with panicked := some .watchNewHash })
  else none

/-- The producer's `sink <- event`: it blocks on a full or nil channel. -/
def deliver (s : Listener) (evt : NewHash) : Option Listener :=
  if s.sub = .active then
    match s.chan with
    | .opened =>
        if s.buffer.length < backlog then some { s with buffer := s.buffer ++ [evt] } else none
    | .closed => some { s with panicked := some .sendOnClosedChannel }
    | .nil => none
  else none

def subError (s : Listener) : Option Listener :=
  if s.sub = .active then some { s with sub := .failed } else none

/-- A receiving worker takes the oldest buffered event, open channel or not. -/
def recv (s : Listener) (i : Nat) (evt : NewHash) (tokens : List Token) : Option Listener :=
  match s.workers[i]?, s.buffer with
  | some .receiving, head :: rest =>
      if head = evt then
        some { s with buffer := rest, workers := s.workers.set i (.after evt tokens) }
      else none
  | _, _ => none

def add (s : Listener) (i : Nat) : Option Listener :=
  match s.workers[i]? with
  | some (.adding evt (token :: tokens)) =>
      some { s with queue := s.queue ++ [(evt.hashId, token.currencyCode)],
                    workers := s.workers.set i (.after evt tokens) }
  | _ => none

def exit (s : Listener) (i : Nat) : Option Listener :=
  match s.workers[i]? with
  | some .receiving =>
      if s.chan = .closed ∧ s.buffer = [] then some { s with workers := s.workers.set i .exited }
      else none
  | _ => none

/-- `Close`: when enabled, `e.sub.Unsubscribe()`, on a nil `e.sub` a panic,
then `close(e.eventChannel)`, which panics on a closed or nil channel. -/
def close (s : Listener) : Option Listener :=
  if s.closing then
    match s.chan with
    | .opened => some { s with chan := .closed, closing := false }
    | .closed => some { s with panicked := some .closeOfClosedChannel }
    | .nil => some { s with panicked := some .closeOfNilChannel }
  else if s.enabled then
    match s.sub with
    | .nil => some { s with panicked := some .nilSubscription }
    | .active => some { s with sub := .unsubscribed, closing := true }
    | _ => some { s with closing := true }
  else some s

def step (s : Listener) (a : Act) : Option Listener :=
  if s.panicked = none then
    match a with
    | .start initOk => s.start initOk
    | .subscribe ok => s.subscribe ok
    | .deliver evt => s.deliver evt
    | .subError => s.subError
    | .recv i evt tokens => s.recv i evt tokens
    | .add i => s.add i
    | .exit i => s.exit i
    | .close => s.close
  else none

def run (s : Listener) : List Act → Option Listener
  | [] => some s
  | a :: acts => (s.step a).bind fun s' => s'.run acts

end Listener

def Act.sent : Act → Option NewHash
  | .deliver evt => some evt
  | _ => none

def Act.received : Act → Option (NewHash × List Token)
  | .recv _ evt tokens => some (evt, tokens)
  | _ => none

def sent (acts : List Act) : List NewHash := acts.filterMap Act.sent

def received (acts : List Act) : List (NewHash × List Token) := acts.filterMap Act.received

end OperaEmitter.Verifier
