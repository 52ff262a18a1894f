import CocoonSit.Plugins.Delivery

/-!
# Replies that the bridge sends

Two threads share a reply.  In the one, `_handle_outbound_reply` queues it with a `Future` and waits
for that for twenty seconds; replies come to it one at a time.  In the other, the sender loop takes
replies from the queue, looks whether their futures are done, chooses a bot, sends and sets the
result.  The threads interleave anywhere, so each of these is a step; a send takes as long as it
takes.  A wait that times out cancels the future unless it has a result, and setting the result of a
cancelled future raises, which ends the sender loop.

`World` is the bridge with the outbox that feeds it: the manager hands out replies, and takes in
what the process reports.
-/

namespace CocoonSit

open Table TransitionSystem

namespace Outbound

structure ImDeliveryResult where
  ok : Bool
  error : Option String := none
  retryable : Bool := true
  deriving DecidableEq

inductive Future where
  | pending
  | cancelled
  | finished (result : ImDeliveryResult)
  deriving DecidableEq

/-- A reply in the bridge's hands; `attempt` stands for its future. -/
structure ImOutboundReply where
  attempt : ℕ
  deliveryId : RowId
  externalAccountId : Option String
  deriving DecidableEq

/-- Where `_nonebot_sender_loop` is. -/
inductive Sender where
  | notStarted
  /-- It waits for the queue. -/
  | idle
  | holding (reply : ImOutboundReply)
  /-- The future was not done. -/
  | checked (reply : ImOutboundReply)
  | sending (reply : ImOutboundReply) (bot : String) (connected : List String)
  /-- It is about to set the future's result. -/
  | setting (reply : ImOutboundReply) (result : ImDeliveryResult)
  | dead
  deriving DecidableEq

/-- A message that a bot has sent, and the bots that were connected when it was chosen. -/
structure Sent where
  reply : ImOutboundReply
  bot : String
  connected : List String
  deriving DecidableEq

structure Runtime where
  /-- The reply whose future `_handle_outbound_reply` waits for. -/
  waiting : Option ImOutboundReply := none
  outboundReplies : List ImOutboundReply := []
  futures : ℕ → Future := fun _ => .pending
  /-- How many futures there are. -/
  attempts : ℕ := 0
  sender : Sender := .notStarted
  connectedBots : List String := []
  sent : List Sent := []
  reported : List (ImOutboundReply × ImDeliveryResult) := []

/-- What happens in the bridge, the coming of a reply apart. -/
inductive RuntimeEvent where
  /-- The twenty seconds of the reply that is waited for are over. -/
  | timeout
  /-- Its future has a result. -/
  | receive
  /-- A bot has a message. -/
  | rememberBot (selfId : String)
  | startSender
  | get
  | checkDone
  | selectBot
  /-- The send returns. -/
  | sent
  /-- It raises, and nothing is sent. -/
  | raised (error : String)
  | setResult

def timedOut : ImDeliveryResult :=
  { ok := false, error := some "Timed out waiting for NoneBot delivery", retryable := true }

def noBot : ImDeliveryResult :=
  { ok := false, error := some "No active OneBot bot connection", retryable := true }

def rememberBot (bots : List String) (selfId : String) : List String :=
  if selfId = "" ∨ selfId ∈ bots then bots else bots ++ [selfId]

def selectBot (bots : List String) (accountId : Option String) : Option String :=
  match accountId with
  | some account => if account ≠ "" ∧ account ∈ bots then some account else bots.head?
  | none => bots.head?

/-- `_handle_outbound_reply`, up to its await. -/
def handleOutboundReply (deliveryId : RowId) (externalAccountId : Option String) (s : Runtime) :
    Runtime :=
  let reply := ⟨s.attempts, deliveryId, externalAccountId⟩
  { s with
    waiting := some reply
    outboundReplies := s.outboundReplies ++ [reply]
    futures := Function.update s.futures s.attempts .pending
    attempts := s.attempts + 1 }

/-- What it returns. -/
def report (reply : ImOutboundReply) (result : ImDeliveryResult) (s : Runtime) : Runtime :=
  { s with waiting := none, reported := s.reported ++ [(reply, result)] }

def Future.cancel : Future → Future
  | .pending => .cancelled
  | future => future

def runtimeStep (s : Runtime) : RuntimeEvent → Option Runtime
  | .timeout =>
    match s.waiting with
    | none => none
    | some reply =>
      some (report reply timedOut
        { s with
          futures := Function.update s.futures reply.attempt (s.futures reply.attempt).cancel })
  | .receive =>
    match s.waiting with
    | none => none
    | some reply =>
      match s.futures reply.attempt with
      | .finished result => some (report reply result s)
      | _ => none
  | .rememberBot selfId => some { s with connectedBots := rememberBot s.connectedBots selfId }
  | .startSender => if s.sender = .notStarted then some { s with sender := .idle } else none
  | .get =>
    match s.sender, s.outboundReplies with
    | .idle, reply :: replies =>
      some { s with sender := .holding reply, outboundReplies := replies }
    | _, _ => none
  | .checkDone =>
    match s.sender with
    | .holding reply =>
      some { s with
        sender := if s.futures reply.attempt = .pending then .checked reply else .idle }
    | _ => none
  | .selectBot =>
    match s.sender with
    | .checked reply =>
      match selectBot s.connectedBots reply.externalAccountId with
      | none => some { s with sender := .setting reply noBot }
      | some bot => some { s with sender := .sending reply bot s.connectedBots }
    | _ => none
  | .sent =>
    match s.sender with
    | .sending reply bot connected =>
      some { s with
             sender := .setting reply { ok := true }
             sent := s.sent ++ [⟨reply, bot, connected⟩] }
    | _ => none
  | .raised error =>
    match s.sender with
    | .sending reply _ _ =>
      some { s with sender := .setting reply { ok := false, error := some error } }
    | _ => none
  | .setResult =>
    match s.sender with
    | .setting reply result =>
      if s.futures reply.attempt = .pending then
        some { s with
               sender := .idle
               futures := Function.update s.futures reply.attempt (.finished result) }
      else some { s with sender := .dead }
    | _ => none

/-! ## With the outbox -/

structure World where
  manager : Deliveries := {}
  /-- What the manager has handed to the process, and the process has not taken up. -/
  inboundQueue : List DeliverReply := []
  bridge : Runtime := {}
  /-- What the process has reported, and the manager has not taken in. -/
  outboundQueue : List DeliveryResult := []

inductive Event where
  | enqueue (newId : RowId) (payload : JsonDict) (now : Timestamp)
  | dispatch (put : RowId → PutOutcome) (now : Timestamp)
  /-- The manager takes in the first report. -/
  | takeIn (now : Timestamp)
  /-- `run_forever` takes up one of the replies handed out. -/
  | handle (index : ℕ)
  | bridge (event : RuntimeEvent)

section Steps

variable (pyStr : JsonValue → String) (pluginId : RowId)

/-- `external_account_id` in `_coerce_outbound_reply`. -/
def externalAccountId (reply : JsonDict) : Option String :=
  match reply "external_account_id" with
  | none | some .null => none
  | some (.str account) => some account
  | some value => some (pyStr value)

/-- The end of `_dispatch_outbound_reply`. -/
def deliveryResult (reported : ImOutboundReply × ImDeliveryResult) : DeliveryResult where
  deliveryId := reported.1.deliveryId
  ok := reported.2.ok
  retryable := reported.2.retryable
  error := reported.2.error

/-- All the replies are the plugin's, and their ids are new and without blanks. -/
def step (w : World) : Event → Option World
  | .enqueue newId payload now =>
    if newId ∈ w.manager.outbox.map key ∨ newId = "" ∨ strip newId ≠ newId then none
    else some { w with manager := enqueueSingleReply newId pluginId payload now w.manager }
  | .dispatch put now =>
    let manager := dispatchImDeliveries put now w.manager
    some { w with
           manager := manager
           inboundQueue :=
             w.inboundQueue ++ manager.handed.drop w.manager.handed.length }
  | .takeIn now =>
    match w.outboundQueue with
    | [] => none
    | result :: results =>
      some { w with
             manager := handleImDeliveryResult pluginId result now w.manager
             outboundQueue := results }
  | .handle index =>
    match w.bridge.waiting, w.inboundQueue[index]? with
    | none, some message =>
      some { w with
             inboundQueue := w.inboundQueue.eraseIdx index
             bridge := handleOutboundReply message.deliveryId
               (externalAccountId pyStr message.reply) w.bridge }
    | _, _ => none
  | .bridge event =>
    (runtimeStep w.bridge event).map fun bridge =>
      { w with
        bridge := bridge
        outboundQueue := w.outboundQueue ++
          (bridge.reported.drop w.bridge.reported.length).map deliveryResult }

end Steps

end Outbound

end CocoonSit
