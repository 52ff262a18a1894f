import CocoonSit.Lib.Mailbox

/-!
# The plugin's side of the control queue

`run_forever` and the callers of `_rpc` are coroutines of one process that read one inbound queue.
What a coroutine gets and does not want it appends to `_buffered_control_messages`, and before it
waits at the queue it looks there.  Between two awaits a coroutine is not interrupted, so one step
is what it does from one await to the next; the thread that waits in `Queue.get` for it makes steps
of its own.

The backend puts a response for every request it is sent, and answers none twice.
-/

namespace CocoonSit

open Mailbox (Phase popFirst)

namespace ImSdk

variable {δ ρ : Type}

/-- `rpc_response`.  `payload` is what is given if it is a dictionary. -/
structure RpcResponse (δ : Type) where
  requestId : String
  ok : Bool
  error : String := ""
  payload : Option δ
  deriving DecidableEq

/-- What the backend puts into the inbound queue. -/
inductive ControlMessage (δ ρ : Type) where
  | rpcResponse (response : RpcResponse δ)
  | deliverReply (deliveryId : String) (reply : ρ)
  | stop
  deriving DecidableEq

/-- The coroutines that read the queue; a call of `_rpc` goes by the id it draws. -/
inductive Task where
  | runForever
  | rpc (requestId : String)
  deriving DecidableEq

/-- `message.get("type") == "rpc_response"`. -/
def ControlMessage.isRpcResponse : ControlMessage δ ρ → Bool
  | .rpcResponse _ => true
  | _ => false

/-! ## The buffer -/

def popBufferedControlMessage (includeRpcResponses : Bool) :
    List (ControlMessage δ ρ) → Option (ControlMessage δ ρ × List (ControlMessage δ ρ)) :=
  popFirst fun message => includeRpcResponses || !message.isRpcResponse

def popBufferedRpcResponse (requestId : String) :
    List (ControlMessage δ ρ) → Option (ControlMessage δ ρ × List (ControlMessage δ ρ)) :=
  popFirst fun message =>
    match message with
    | .rpcResponse response => response.requestId = requestId
    | _ => false

/-- Where a coroutine looks before it waits at the queue. -/
def Task.popBuffered : Task →
    List (ControlMessage δ ρ) → Option (ControlMessage δ ρ × List (ControlMessage δ ρ))
  | .runForever => popBufferedControlMessage false
  | .rpc requestId => popBufferedRpcResponse requestId

/-! ## The loops -/

/-- What `run_forever` does with a message: it returns, or delivers a reply, or puts it back. -/
def runForeverOn : ControlMessage δ ρ → Option (Phase (ControlMessage δ ρ))
  | .stop => some .gone
  | .deliverReply _ _ => some .busy
  | .rpcResponse _ => none

/-- What `_rpc` does with one: with the response to its request it returns or raises. -/
def rpcOn (requestId : String) : ControlMessage δ ρ → Option (Phase (ControlMessage δ ρ))
  | .rpcResponse response => if response.requestId = requestId then some .gone else none
  | _ => none

def Task.on : Task → ControlMessage δ ρ → Option (Phase (ControlMessage δ ρ))
  | .runForever => runForeverOn
  | .rpc requestId => rpcOn requestId

/-- What a call of `_rpc` comes to with the response. -/
def rpcResult (method : String) (response : RpcResponse δ) : Except String δ :=
  if response.ok then
    match response.payload with
    | some payload => .ok payload
    | none => .error ("RPC returned invalid payload for method " ++ method)
  else .error (if response.error ≠ "" then response.error else "RPC failed: " ++ method)

structure Sdk (δ ρ : Type) where
  inboundQueue : List (ControlMessage δ ρ) := []
  bufferedControlMessages : List (ControlMessage δ ρ) := []
  tasks : List (Task × Phase (ControlMessage δ ρ)) := []
  /-- Which coroutine has kept which message. -/
  handled : List (Task × ControlMessage δ ρ) := []
  /-- All that the backend has put into the queue. -/
  given : List (ControlMessage δ ρ) := []
  /-- The ids of all the requests, with their methods. -/
  requests : List (String × String) := []
  /-- The requests that the backend has not answered. -/
  unanswered : List String := []

inductive Event (δ ρ : Type) where
  /-- `run_forever` gets to its loop. -/
  | runForever
  /-- A coroutine calls `_rpc`. -/
  | rpc (requestId method : String)
  | respond (response : RpcResponse δ)
  | deliver (deliveryId : String) (reply : ρ)
  | stop
  /-- The thread of a task gets the queue's first message. -/
  | get (task : Task)
  /-- The thread of a task raises `Empty`, and the task goes on. -/
  | empty (task : Task)
  /-- A task goes on with what its thread has got. -/
  | resume (task : Task) (message : ControlMessage δ ρ)
  /-- `_dispatch_outbound_reply` returns. -/
  | dispatched
  /-- It raises, and `run_forever` with it. -/
  | dispatchFailed

section Steps

variable [DecidableEq δ] [DecidableEq ρ]

def Sdk.without (s : Sdk δ ρ) (task : Task) (phase : Phase (ControlMessage δ ρ)) : Sdk δ ρ :=
  { s with tasks := s.tasks.erase (task, phase) }

def Sdk.enter (s : Sdk δ ρ) (task : Task) (phase : Phase (ControlMessage δ ρ)) : Sdk δ ρ :=
  { s with tasks := (task, phase) :: s.tasks }

def Sdk.keep (s : Sdk δ ρ) (task : Task) (message : ControlMessage δ ρ) : Sdk δ ρ :=
  { s with handled := s.handled ++ [(task, message)] }

def Sdk.putBack (s : Sdk δ ρ) (message : ControlMessage δ ρ) : Sdk δ ρ :=
  { s with bufferedControlMessages := s.bufferedControlMessages ++ [message] }

def Sdk.put (s : Sdk δ ρ) (message : ControlMessage δ ρ) : Sdk δ ρ :=
  { s with inboundQueue := s.inboundQueue ++ [message], given := s.given ++ [message] }

/-- From the top of a loop to its next await. -/
def loopTop (task : Task) (s : Sdk δ ρ) : Sdk δ ρ :=
  match task.popBuffered s.bufferedControlMessages with
  | none => s.enter task .waiting
  | some (message, rest) =>
    let s := { s with bufferedControlMessages := rest }
    match task.on message with
    | some phase => (s.keep task message).enter task phase
    -- not reached: a task finds in the buffer what it does not put back (`on_eq_of_popBuffered`)
    | none => (s.putBack message).enter task .waiting

/-- From a message of the queue to the next await. -/
def onMessage (task : Task) (message : ControlMessage δ ρ) (s : Sdk δ ρ) : Sdk δ ρ :=
  match task.on message with
  | some phase => (s.keep task message).enter task phase
  | none => loopTop task (s.putBack message)

def step (s : Sdk δ ρ) : Event δ ρ → Option (Sdk δ ρ)
  | .runForever =>
    if Task.runForever ∈ s.tasks.map Prod.fst then none else some (loopTop .runForever s)
  | .rpc requestId method =>
    -- `uuid4` draws no id twice
    if requestId ∈ s.requests.map Prod.fst then none
    else
      some (loopTop (.rpc requestId)
        { s with
          requests := s.requests ++ [(requestId, method)]
          unanswered := s.unanswered ++ [requestId] })
  | .respond response =>
    if response.requestId ∈ s.unanswered then
      some ({ s with unanswered := s.unanswered.erase response.requestId }.put
        (.rpcResponse response))
    else none
  | .deliver deliveryId reply => some (s.put (.deliverReply deliveryId reply))
  | .stop => some (s.put .stop)
  | .get task =>
    match s.inboundQueue with
    | [] => none
    | message :: queue =>
      if (task, .waiting) ∈ s.tasks then
        some (({ s with inboundQueue := queue }.without task .waiting).enter task
          (.holding message))
      else none
  | .empty task =>
    if (task, .waiting) ∈ s.tasks then some (loopTop task (s.without task .waiting)) else none
  | .resume task message =>
    if (task, .holding message) ∈ s.tasks then
      some (onMessage task message (s.without task (.holding message)))
    else none
  | .dispatched =>
    if (.runForever, .busy) ∈ s.tasks then
      some (loopTop .runForever (s.without .runForever .busy))
    else none
  | .dispatchFailed =>
    if (.runForever, .busy) ∈ s.tasks then
      some ((s.without .runForever .busy).enter .runForever .gone)
    else none

end Steps

/-! ## Whose a message is -/

/-- The coroutine that a message is meant for. -/
def consumer : ControlMessage δ ρ → Task
  | .rpcResponse response => .rpc response.requestId
  | _ => .runForever

/-- The messages that end the coroutine they are meant for. -/
def endsConsumer : ControlMessage δ ρ → Bool
  | .deliverReply _ _ => false
  | _ => true

lemma popBuffered_eq (task : Task) :
    task.popBuffered (δ := δ) (ρ := ρ) = popFirst fun message => consumer message = task := by
  cases task with
  | runForever =>
    refine congrArg popFirst (funext fun message => ?_)
    cases message <;> simp [consumer, ControlMessage.isRpcResponse]
  | rpc requestId =>
    refine congrArg popFirst (funext fun message => ?_)
    cases message <;> simp [consumer]

lemma on_eq (task : Task) (message : ControlMessage δ ρ) :
    task.on message =
      if consumer message = task then some (if endsConsumer message then .gone else .busy)
      else none := by
  cases task <;> cases message <;> simp [Task.on, runForeverOn, rpcOn, consumer, endsConsumer]

lemma on_eq_of_popBuffered {task : Task} {l rest : List (ControlMessage δ ρ)}
    {message : ControlMessage δ ρ} (h : task.popBuffered l = some (message, rest)) :
    task.on message = some (if endsConsumer message then .gone else .busy) := by
  rw [popBuffered_eq] at h
  rw [on_eq, if_pos (by simpa using (Mailbox.popFirst_eq_some h).1)]

/-! ## The mailbox that the coroutines share -/

def Sdk.toMailbox (s : Sdk δ ρ) : Mailbox.State Task (ControlMessage δ ρ) where
  queue := s.inboundQueue
  buffer := s.bufferedControlMessages
  parties := s.tasks
  consumed := s.handled
  sent := s.given

def Event.toMailbox : Event δ ρ → Mailbox.Event Task (ControlMessage δ ρ)
  | .runForever => .join .runForever
  | .rpc requestId _ => .join (.rpc requestId)
  | .respond response => .put (.rpcResponse response)
  | .deliver deliveryId reply => .put (.deliverReply deliveryId reply)
  | .stop => .put .stop
  | .get task => .take task
  | .empty task => .timeOut task
  | .resume task message => .resume task message
  | .dispatched => .finish .runForever
  | .dispatchFailed => .leave .runForever

section Simulation

variable [DecidableEq δ] [DecidableEq ρ] {s s' : Sdk δ ρ}

omit [DecidableEq δ] [DecidableEq ρ] in
lemma toMailbox_loopTop (task : Task) (s : Sdk δ ρ) :
    (loopTop task s).toMailbox = Mailbox.loopTop consumer endsConsumer task s.toMailbox := by
  have hbuffer : s.toMailbox.buffer = s.bufferedControlMessages := rfl
  unfold loopTop Mailbox.loopTop
  rw [hbuffer, ← popBuffered_eq]
  cases h : task.popBuffered s.bufferedControlMessages with
  | none => rfl
  | some found =>
    obtain ⟨message, rest⟩ := found
    simp only [on_eq_of_popBuffered h]
    rfl

omit [DecidableEq δ] [DecidableEq ρ] in
lemma toMailbox_onMessage (task : Task) (message : ControlMessage δ ρ) (s : Sdk δ ρ) :
    (onMessage task message s).toMailbox =
      Mailbox.receive consumer endsConsumer task message s.toMailbox := by
  unfold onMessage Mailbox.receive
  rw [on_eq]
  by_cases h : consumer message = task
  · rw [if_pos h, if_pos h]
    rfl
  · rw [if_neg h, if_neg h]
    exact toMailbox_loopTop task _

end Simulation

end ImSdk

end CocoonSit
