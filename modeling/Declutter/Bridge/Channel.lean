import Declutter.Bridge.Message

namespace Declutter

/-- The way between the callers of page functions and the page. `calls` are not finished, `queue`
has not reached the page, and `waiting` are the calls that have no answer. -/
structure Channel where
  lastId : Nat
  calls : List PageRequest
  queue : List PageRequest
  waiting : List Nat
  answers : List PageResponse
  hasClient : Bool
  hasEndpoint : Bool
deriving DecidableEq, Repr

namespace Channel

def fresh : Channel := ⟨0, [], [], [], [], true, true⟩

/-- The state of a call when its caller looks for the answer. -/
inductive CallState
  | missing
  | pending
  | finished (result : Except BridgeError Json)

/-- What the page gets when it looks for a request. -/
inductive Received
  | request (r : PageRequest)
  | pending
  | closed
deriving DecidableEq, Repr

/-- The number of calls without an answer. -/
def pendingCount (c : Channel) : Nat :=
  c.waiting.length

/-- Forgets all about a call but its request. -/
def close (c : Channel) (id : Nat) : Channel :=
  { c with
    calls := c.calls.filter (·.id != id)
    waiting := c.waiting.filter (· != id)
    answers := c.answers.filter (·.id != id) }

/-- Looks for the answer to a call; the call ends with it, or when there cannot be one. -/
def poll (c : Channel) (id : Nat) : Channel × CallState :=
  match c.calls.find? (·.id == id) with
  | none => (c, .missing)
  | some request =>
    match c.answers.find? (·.id == id) with
    | some response => (c.close id, .finished (response.outcome request.function))
    | none =>
      if c.waiting.contains id then (c, .pending)
      else (c.close id, .finished (.error .disconnected))

/-- Gives a request the next number and a place to wait for its answer. -/
def enter (c : Channel) (function : Text) (args : List Text) : Channel × PageRequest :=
  let request : PageRequest := ⟨function, args, c.lastId + 1⟩
  ({ c with
      lastId := request.id
      calls := c.calls ++ [request]
      waiting := c.waiting ++ [request.id] }, request)

/-- Begins a call and looks at it once. Without a page it cannot be sent, and ends at once. -/
def call (c : Channel) (function : Text) (args : List Text) : Channel × CallState :=
  let (entered, request) := c.enter function args
  if c.hasEndpoint then ({ entered with queue := c.queue ++ [request] }).poll request.id
  else (entered.close request.id, .finished (.error .disconnected))

/-- Gives a call up, and tells whether it was unfinished. -/
def abandon (c : Channel) (id : Nat) : Channel × Bool :=
  if c.calls.any (·.id == id) then (c.close id, true) else (c, false)

/-- The next request for the page. The callers are gone when there is neither a client nor an
unfinished call. -/
def receive (c : Channel) : Channel × Received :=
  match c.queue with
  | request :: queue => ({ c with queue }, .request request)
  | [] => (c, if c.hasClient || !c.calls.isEmpty then .pending else .closed)

/-- Answers a call that waits. The answer is lost if nobody would look for it. -/
def respond (c : Channel) (r : PageResponse) : Channel × Except BridgeError Unit :=
  if c.waiting.contains r.id then
    let taken := { c with waiting := c.waiting.filter (· != r.id) }
    if c.calls.any (·.id == r.id) then ({ taken with answers := c.answers ++ [r] }, .ok ())
    else (taken, .error .disconnected)
  else (c, .error (.unknownId r.id))

def dropEndpoint (c : Channel) : Channel :=
  { c with queue := [], waiting := [], hasEndpoint := false }

def dropClient (c : Channel) : Channel :=
  { c with hasClient := false }

/-- What callers and page may do. -/
inductive Step
  | call (function : Text) (args : List Text)
  | poll (id : Nat)
  | abandon (id : Nat)
  | receive
  | respond (r : PageResponse)
  | dropEndpoint
  | dropClient

/-- What a step answers. -/
inductive Reply
  | call (id : Nat) (state : CallState)
  | polled (state : CallState)
  | abandoned (wasOpen : Bool)
  | received (r : Received)
  | responded (r : Except BridgeError Unit)
  | dropped
  | noClient
  | noEndpoint

/-- Takes a step. -/
def step (c : Channel) : Step → Channel × Reply
  | .call function args =>
    if c.hasClient then
      let (next, state) := c.call function args
      (next, .call next.lastId state)
    else (c, .noClient)
  | .poll id =>
    let (next, state) := c.poll id
    (next, .polled state)
  | .abandon id =>
    let (next, wasOpen) := c.abandon id
    (next, .abandoned wasOpen)
  | .receive =>
    if c.hasEndpoint then
      let (next, r) := c.receive
      (next, .received r)
    else (c, .noEndpoint)
  | .respond r =>
    if c.hasEndpoint then
      let (next, result) := c.respond r
      (next, .responded result)
    else (c, .noEndpoint)
  | .dropEndpoint => (c.dropEndpoint, .dropped)
  | .dropClient => (c.dropClient, .dropped)

end Channel

end Declutter
