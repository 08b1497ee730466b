import CommsWiFi.EventHandler
import CommsWiFi.Queue

/-!
# The access-point task

`CommsManager::WiFiAccessPointTask` (lines 92–146 of `comms_wifi.cpp`) creates
one UDP socket and returns at once when `socket()` fails.  Otherwise it sets
the socket's receive timeout and loops while `run_wifi_ap_task_` holds: each
turn waits in `xQueueReceive` for a message and fans it out to the client
table while it holds `wifi_clients_list_mutex_` (one pass of
`broadcastMessage`); on exit it shuts the socket down and closes it.

Over every run the task keeps the discipline of the mutex
(`wiFiAccessPointTask_mutex`): it takes the mutex only when free and gives it
only when held, makes every `sendto` to a table address while holding it, and
waits on its queue and releases its socket with the mutex free.  Fed by
`WiFiAccessPointSendMessageToAllStations` (`queueSystem` with `apTurn`), it
fans out the accepted messages in push order, each in one pass, and every
`sendto` of a pass carries the message of that pass to a client active in the
table the pass read (`apSystem_fansOut`); the addresses a pass sends to are
exactly those of the active clients, each reached at least once
(`apSystem_reachesActive`).  The table is the one `WiFiEventHandler` leaves: a
pass after any events reaches exactly the clients active before them whose
station did not leave meanwhile (`broadcastMessage_handleEvents`).
-/

namespace CommsWiFi

/-- The calls of `WiFiAccessPointTask`: the life of its socket, a receive that
returned a message, and the calls of a fan-out pass, whose `sendto` go out on
the task's socket. -/
inductive APOp where
  | socket (sock : Int)
  | setsockopt (sock : Int)
  | xQueueReceive
  | fanOut (op : BroadcastOp)
  | shutdown (sock : Int)
  | close (sock : Int)
  deriving DecidableEq, Repr

/-- What a turn of the loop meets besides its queue: the client table as the
pass reads it, and the answers of `sendto` per slot and attempt. -/
structure FanOut where
  wifiClientsList : List WiFiClient
  answers : Nat → Nat → SendtoResult

/-- One turn of the `while (run_wifi_ap_task_)` loop on what `xQueueReceive`
gave it: no call while the queue stays empty (the wait is `portMAX_DELAY`, and
a receive that returned `pdFALSE` would only loop), and the fan-out pass for a
message. -/
def apTurn (fanOut : FanOut) (got : Option NetworkMessage) (_ : Unit) : Unit × List APOp :=
  match got with
  | none => ((), [])
  | some message =>
      ((), .xQueueReceive :: (broadcastMessage fanOut.answers message fanOut.wifiClientsList).map .fanOut)

/-- `CommsManager::WiFiAccessPointTask`, with `sock` the answer of `socket()`
and `turns` the turns its loop made, each with what `xQueueReceive` gave it. -/
def wiFiAccessPointTask (sock : Int) (turns : List (FanOut × Option NetworkMessage)) : List APOp :=
  if sock < 0 then [.socket sock]
  else
    .socket sock :: .setsockopt sock ::
      ((turns.map fun turn => (apTurn turn.1 turn.2 ()).2).flatten ++ [.shutdown sock, .close sock])

/-! ## The mutex -/

/-- The discipline of `wifi_clients_list_mutex_` on one call, from whether the
task holds the mutex: whether it holds it after the call, or `none` when the
call breaks the discipline.  A take while held would wait on the task itself
forever; a give while free releases what it does not hold; a `sendto` while
free uses a table address read without the mutex; a wait on the queue or the
end of the socket while held keeps the table locked while the task does not
use it. -/
def APOp.mutex (held : Bool) : APOp → Option Bool
  | .fanOut .xSemaphoreTake => if held then none else some true
  | .fanOut .xSemaphoreGive => if held then some false else none
  | .fanOut (.sendto ..) => if held then some true else none
  | .xQueueReceive | .shutdown _ | .close _ => if held then none else some false
  | _ => some held

/-- The discipline over a list of calls. -/
def mutexReplay (held : Bool) : List APOp → Option Bool
  | [] => some held
  | op :: ops => (op.mutex held).bind fun held => mutexReplay held ops

@[simp] theorem mutexReplay_nil (held : Bool) : mutexReplay held [] = some held := rfl

@[simp] theorem mutexReplay_cons (held : Bool) (op : APOp) (ops : List APOp) :
    mutexReplay held (op :: ops) = (op.mutex held).bind fun held => mutexReplay held ops := rfl

theorem mutexReplay_append (held : Bool) (ops ops' : List APOp) :
    mutexReplay held (ops ++ ops') = (mutexReplay held ops).bind fun held => mutexReplay held ops' := by
  induction ops generalizing held with
  | nil => rfl
  | cons op ops ih =>
      simp only [List.cons_append, mutexReplay_cons, ih]
      cases op.mutex held <;> rfl

/-- Calls that are not on the mutex keep it held. -/
theorem mutexReplay_held {ops : List BroadcastOp} (quiet : ∀ op ∈ ops, op.isMutex = false) :
    mutexReplay true (ops.map .fanOut) = some true := by
  induction ops with
  | nil => rfl
  | cons op ops ih =>
      have kept : (APOp.fanOut op).mutex true = some true := by
        have quiet := quiet op (List.mem_cons_self _ _)
        cases op <;> first | rfl | cases quiet
      simp only [List.map_cons, mutexReplay_cons, kept, Option.some_bind]
      exact ih fun op member => quiet op (List.mem_cons_of_mem _ member)

/-- A pass takes the mutex from free and leaves it free. -/
theorem mutexReplay_broadcastMessage (answers : Nat → Nat → SendtoResult) (message : NetworkMessage)
    (clients : List WiFiClient) :
    mutexReplay false ((broadcastMessage answers message clients).map .fanOut) = some false := by
  simp only [broadcastMessage, List.cons_append, List.map_cons, List.map_append, mutexReplay_cons,
    APOp.mutex, if_false, Bool.false_eq_true, Option.some_bind, mutexReplay_append,
    mutexReplay_held fun _ member => not_isMutex_of_mem_forEachClient member]
  rfl

theorem mutexReplay_apTurn (fanOut : FanOut) (got : Option NetworkMessage) :
    mutexReplay false (apTurn fanOut got ()).2 = some false := by
  cases got with
  | none => rfl
  | some message =>
      simpa [apTurn, APOp.mutex] using mutexReplay_broadcastMessage fanOut.answers message _

theorem mutexReplay_loop (turns : List (FanOut × Option NetworkMessage)) :
    mutexReplay false (turns.map fun turn => (apTurn turn.1 turn.2 ()).2).flatten = some false := by
  induction turns with
  | nil => rfl
  | cons turn turns ih =>
      rw [List.map_cons, List.flatten_cons, mutexReplay_append, mutexReplay_apTurn, Option.some_bind, ih]

/-- Over every run of the task, whatever the messages, the tables and the
answers of `socket()` and `sendto`: the task takes `wifi_clients_list_mutex_`
only when it does not hold it and gives it only when it does, makes every
`sendto` while holding it, waits on its queue and shuts down and closes its
socket while not holding it, and never leaves it held. -/
theorem wiFiAccessPointTask_mutex (sock : Int) (turns : List (FanOut × Option NetworkMessage)) :
    mutexReplay false (wiFiAccessPointTask sock turns) = some false := by
  unfold wiFiAccessPointTask
  split
  · rfl
  · simp only [mutexReplay_cons, APOp.mutex, Option.some_bind, mutexReplay_append, mutexReplay_loop]
    rfl

/-! ## Fed by its queue -/

theorem mem_retryLoop {answer : Nat → SendtoResult} {destAddr : SockaddrIn} {message : NetworkMessage}
    {numTries remaining : Nat} {last : SendtoResult} {dest : SockaddrIn} {data : List UInt8} {len : Nat}
    {result : SendtoResult}
    (member : BroadcastOp.sendto dest data len result ∈ (retryLoop answer destAddr message numTries remaining last).ops) :
    dest = destAddr ∧ data = message.data ∧ len = message.len := by
  induction remaining generalizing numTries last with
  | zero => simp [retryLoop] at member
  | succ remaining ih =>
      simp only [retryLoop] at member
      split at member <;> simp only [List.mem_cons, BroadcastOp.sendto.injEq, reduceCtorEq, false_or,
        List.not_mem_nil, or_false] at member
      · rcases member with ⟨rfl, rfl, rfl, -⟩ | member
        · exact ⟨rfl, rfl, rfl⟩
        · exact ih member
      · obtain ⟨rfl, rfl, rfl, -⟩ := member
        exact ⟨rfl, rfl, rfl⟩

/-- A `sendto` of a pass goes to a client active in the table, on the message's
port, with the message's data and length. -/
theorem mem_broadcastMessage {answers : Nat → Nat → SendtoResult} {message : NetworkMessage}
    {clients : List WiFiClient} {dest : SockaddrIn} {data : List UInt8} {len : Nat} {result : SendtoResult}
    (member : BroadcastOp.sendto dest data len result ∈ broadcastMessage answers message clients) :
    ∃ client ∈ clients, client.active = true ∧ dest = ⟨message.port, client.ip⟩ ∧
      data = message.data ∧ len = message.len := by
  simp only [broadcastMessage, List.cons_append, List.mem_cons, reduceCtorEq, false_or, List.mem_append,
    List.not_mem_nil, or_false, forEachClient_eq, List.mem_flatten, List.mem_map] at member
  obtain ⟨_, ⟨⟨k, client⟩, slot, rfl⟩, member⟩ := member
  unfold sendToClient at member
  split at member
  · rcases List.mem_append.1 member with attempt | error
    · exact ⟨client, List.snd_mem_of_mem_enumFrom slot, ‹_›, mem_retryLoop attempt⟩
    · split at error <;> simp at error
  · simp at member

/-- Fed by `WiFiAccessPointSendMessageToAllStations`, over any interleaving of
its pushes with the task's turns: the messages the task fans out, one pass
each, then those still queued, keep the order of the queued and accepted
messages and repeat none of them, and are exactly those when no push
overflowed; and every `sendto` of a pass carries the data and length of the
message that turn dequeued, to its port at the address of a client active in
the table the pass read. -/
theorem apSystem_fansOut (events : List (SystemEvent NetworkMessage FanOut)) (queue : Queue NetworkMessage) :
    let run := queueSystem apTurn events queue ()
    let results := run.2.2.map SystemStep.toQueueResult
    (receivedItems results ++ run.1.items).Sublist (queue.items ++ acceptedItems results) ∧
      (results.all (!·.overflowed) → receivedItems results ++ run.1.items = queue.items ++ acceptedItems results) ∧
      ∀ fanOut got ops, SystemStep.turned fanOut got ops ∈ run.2.2 →
        ∀ dest data len result, APOp.fanOut (.sendto dest data len result) ∈ ops →
          ∃ message, got = some message ∧ ∃ client ∈ fanOut.wifiClientsList, client.active = true ∧
            dest = ⟨message.port, client.ip⟩ ∧ data = message.data ∧ len = message.len := by
  refine ⟨(queueSystem_conserves apTurn events queue ()).1, (queueSystem_conserves apTurn events queue ()).2,
    fun fanOut got ops turned dest data len result sent => ?_⟩
  obtain ⟨_, rfl⟩ := mem_queueSystem turned
  cases got with
  | none => simp [apTurn] at sent
  | some message =>
      simp only [apTurn, List.mem_cons, reduceCtorEq, false_or, List.mem_map, APOp.fanOut.injEq,
        exists_eq_right] at sent
      exact ⟨message, rfl, mem_broadcastMessage sent⟩

theorem mem_of_mem_sendtoCalls {ops : List BroadcastOp} {dest : SockaddrIn} {data : List UInt8} {len : Nat}
    {result : SendtoResult} (member : (dest, data, len, result) ∈ sendtoCalls ops) :
    BroadcastOp.sendto dest data len result ∈ ops := by
  induction ops with
  | nil => simp [sendtoCalls] at member
  | cons op ops ih =>
      cases op <;> simp only [sendtoCalls, List.mem_cons, Prod.mk.injEq] at member
      case sendto =>
        rcases member with ⟨rfl, rfl, rfl, rfl⟩ | member
        · exact List.mem_cons_self _ _
        · exact List.mem_cons_of_mem _ (ih member)
      all_goals exact List.mem_cons_of_mem _ (ih member)

/-- A pass makes at least one `sendto` to every client active in its table. -/
theorem sendto_mem_broadcastMessage (answers : Nat → Nat → SendtoResult) (message : NetworkMessage)
    {clients : List WiFiClient} {client : WiFiClient} (member : client ∈ clients) (active : client.active = true) :
    ∃ result, BroadcastOp.sendto ⟨message.port, client.ip⟩ message.data message.len result ∈
      broadcastMessage answers message clients := by
  have slots : ∀ i clients, client ∈ clients → ∃ result,
      BroadcastOp.sendto ⟨message.port, client.ip⟩ message.data message.len result ∈
        broadcastMessage.forEachClient answers message i clients := by
    intro i clients member
    induction clients generalizing i with
    | nil => exact absurd member (List.not_mem_nil _)
    | cons head clients ih =>
        simp only [broadcastMessage.forEachClient, List.mem_append]
        rcases List.mem_cons.1 member with rfl | member
        · obtain ⟨count, one, -, calls, -⟩ := (sendToClient_attempts (answers i) message client).2 active
          have first : (⟨message.port, client.ip⟩, message.data, message.len, answers i 0) ∈
              sendtoCalls (sendToClient (answers i) message client) := by
            rw [calls]
            exact List.mem_map.2 ⟨0, List.mem_range.2 one, rfl⟩
          exact ⟨_, Or.inl (mem_of_mem_sendtoCalls first)⟩
        · obtain ⟨result, sent⟩ := ih (i + 1) member
          exact ⟨result, Or.inr sent⟩
  obtain ⟨result, sent⟩ := slots 0 clients member
  exact ⟨result, by simp [broadcastMessage, sent]⟩

/-- Fed by `WiFiAccessPointSendMessageToAllStations`, over any interleaving of
its pushes with the task's turns: the addresses the pass of a turn that
dequeued a message sends to are exactly those of the clients active in the
table the pass read, each on the message's port, and every such client gets at
least one `sendto` of the message's data and length. -/
theorem apSystem_reachesActive (events : List (SystemEvent NetworkMessage FanOut)) (queue : Queue NetworkMessage) :
    let run := queueSystem apTurn events queue ()
    ∀ fanOut message ops, SystemStep.turned fanOut (some message) ops ∈ run.2.2 →
      (∀ dest, (∃ data len result, APOp.fanOut (.sendto dest data len result) ∈ ops) ↔
        ∃ client ∈ fanOut.wifiClientsList, client.active = true ∧ dest = ⟨message.port, client.ip⟩) ∧
      ∀ client ∈ fanOut.wifiClientsList, client.active = true →
        ∃ result, APOp.fanOut (.sendto ⟨message.port, client.ip⟩ message.data message.len result) ∈ ops := by
  intro run fanOut message ops turned
  obtain ⟨_, rfl⟩ := mem_queueSystem turned
  have pass : ∀ op, APOp.fanOut op ∈ (apTurn fanOut (some message) ()).2 ↔
      op ∈ broadcastMessage fanOut.answers message fanOut.wifiClientsList := by
    intro op
    simp [apTurn]
  have reaches : ∀ client ∈ fanOut.wifiClientsList, client.active = true →
      ∃ result, APOp.fanOut (.sendto ⟨message.port, client.ip⟩ message.data message.len result) ∈
        (apTurn fanOut (some message) ()).2 := fun client member active => by
    obtain ⟨result, sent⟩ := sendto_mem_broadcastMessage fanOut.answers message member active
    exact ⟨result, (pass _).2 sent⟩
  refine ⟨fun dest => ⟨?_, ?_⟩, reaches⟩
  · rintro ⟨data, len, result, sent⟩
    obtain ⟨client, member, active, rfl, -⟩ := mem_broadcastMessage ((pass _).1 sent)
    exact ⟨client, member, active, rfl⟩
  · rintro ⟨client, member, active, rfl⟩
    obtain ⟨result, sent⟩ := reaches client member active
    exact ⟨_, _, result, sent⟩


/-! ## The table the event handler leaves -/

/-- A fan-out pass over the table `WiFiEventHandler` leaves after any events,
from any state: the addresses it sends to are exactly those of the clients that
were active before the events and whose station no
`WIFI_EVENT_AP_STADISCONNECTED` among them named, each on the message's port.
A station that left receives nothing, and every other active one is reached. -/
theorem broadcastMessage_handleEvents (events : List WiFiEvent) (handler : Handler)
    (answers : Nat → Nat → SendtoResult) (message : NetworkMessage) (dest : SockaddrIn) :
    (∃ data len result, BroadcastOp.sendto dest data len result ∈
        broadcastMessage answers message (handleEvents events handler).1.wifiClientsList) ↔
      ∃ client ∈ handler.wifiClientsList, client.active = true ∧
        events.any (WiFiEvent.leaves client.mac) = false ∧ dest = ⟨message.port, client.ip⟩ := by
  rw [clients_handleEvents]
  constructor
  · rintro ⟨data, len, result, sent⟩
    obtain ⟨_, listed, active, rfl, -⟩ := mem_broadcastMessage sent
    obtain ⟨client, member, rfl⟩ := List.mem_map.1 listed
    by_cases left : events.any (WiFiEvent.leaves client.mac) = true
    · simp [left] at active
    · simp only [left, Bool.false_eq_true, if_false] at active ⊢
      exact ⟨client, member, active, Bool.eq_false_iff.2 left, rfl⟩
  · rintro ⟨client, member, active, stays, rfl⟩
    have kept : client ∈ handler.wifiClientsList.map fun client =>
        if events.any (WiFiEvent.leaves client.mac) then { client with active := false } else client :=
      List.mem_map.2 ⟨client, member, by simp [stays]⟩
    obtain ⟨result, sent⟩ := sendto_mem_broadcastMessage answers message kept active
    exact ⟨_, _, result, sent⟩

end CommsWiFi
