import CommsWiFi.AccessPoint

/-!
# The task queues

Each task of the module is fed through a FreeRTOS queue: decoded transponder
packets for the station task, network messages for the access-point task.
`WiFiStationSendDecodedTransponderPacket` and
`WiFiAccessPointSendMessageToAllStations` (lines 557–593) push onto them with
the same code: nothing while the task is not running, and on a full queue
`xQueueReset`, which drops every queued item along with the new one.

A queue carries its capacity bound.  A producer and the task it feeds are one
system (`queueSystem`): any interleaving of pushes with the turns of the task's
loop, each turn receiving first and then running the loop body on what it got.
Its queue is the queue of `queueRun`, and over any interleaving the items
received followed by those still queued are the accepted items in order, none
duplicated; none is lost unless a push overflowed (`queueSystem_conserves`,
`queueRun_conserves`).
-/

namespace CommsWiFi

variable {α : Type}

/-- A FreeRTOS queue of `capacity` items, oldest first. -/
structure Queue (α : Type) where
  capacity : Nat
  items : List α
  bounded : items.length ≤ capacity

/-- `xQueueSend(queue, &item, 0)`: the item is appended, or, on a full queue,
`errQUEUE_FULL` (`none`). -/
def Queue.send (queue : Queue α) (item : α) : Option (Queue α) :=
  if room : queue.items.length < queue.capacity then
    some ⟨queue.capacity, queue.items ++ [item], by simp only [List.length_append, List.length_singleton]; omega⟩
  else none

/-- `xQueueReset(queue)`. -/
def Queue.reset (queue : Queue α) : Queue α := ⟨queue.capacity, [], Nat.zero_le _⟩

/-- `xQueueReceive`: the oldest item, or nothing when the queue stays empty
until the timeout. -/
def Queue.receive (queue : Queue α) : Option α × Queue α :=
  match queue with
  | ⟨capacity, item :: items, bounded⟩ => (some item, ⟨capacity, items, Nat.le_of_succ_le bounded⟩)
  | queue => (none, queue)

/-- The push shared by both tasks' queues: `false` with the queue unchanged
while the task is not running, `false` with the queue emptied when it is full,
and `true` with the item queued otherwise. -/
def pushToQueue (running : Bool) (queue : Queue α) (item : α) : Bool × Queue α :=
  if running then
    match queue.send item with
    | some queue => (true, queue)
    | none => (false, queue.reset)
  else (false, queue)

/-- `CommsManager::WiFiStationSendDecodedTransponderPacket`. -/
def wiFiStationSendDecodedTransponderPacket {Packet : Type} (runWifiStaTask : Bool)
    (wifiStaDecodedTransponderPacketQueue : Queue Packet) (decodedPacket : Packet) : Bool × Queue Packet :=
  pushToQueue runWifiStaTask wifiStaDecodedTransponderPacketQueue decodedPacket

/-- `CommsManager::WiFiAccessPointSendMessageToAllStations`. -/
def wiFiAccessPointSendMessageToAllStations (runWifiApTask : Bool) (wifiApMessageQueue : Queue NetworkMessage)
    (message : NetworkMessage) : Bool × Queue NetworkMessage :=
  pushToQueue runWifiApTask wifiApMessageQueue message

/-- What happens to a queue: a push by the producer, or a receive by the task. -/
inductive QueueEvent (α : Type) where
  | push (item : α)
  | receive

/-- What each event returned: the push's result, or the received item. -/
inductive QueueResult (α : Type) where
  | pushed (item : α) (accepted : Bool)
  | received (item : Option α)

/-- A queue over a sequence of events, the task running throughout. -/
def queueRun : List (QueueEvent α) → Queue α → Queue α × List (QueueResult α)
  | [], queue => (queue, [])
  | .push item :: events, queue =>
      let pushed := pushToQueue true queue item
      let rest := queueRun events pushed.2
      (rest.1, .pushed item pushed.1 :: rest.2)
  | .receive :: events, queue =>
      let received := queue.receive
      let rest := queueRun events received.2
      (rest.1, .received received.1 :: rest.2)

/-- The items pushes put on the queue. -/
def acceptedItems : List (QueueResult α) → List α
  | [] => []
  | .pushed item true :: results => item :: acceptedItems results
  | _ :: results => acceptedItems results

/-- The items receives took off the queue. -/
def receivedItems : List (QueueResult α) → List α
  | [] => []
  | .received (some item) :: results => item :: receivedItems results
  | _ :: results => receivedItems results

/-- Whether a push was refused: with the task running, only on overflow. -/
def QueueResult.overflowed : QueueResult α → Bool
  | .pushed _ false => true
  | _ => false

/-- What a push can do: queue the item, or, with the task running and the
queue full, empty the queue, or, with the task not running, nothing. -/
theorem pushToQueue_cases (running : Bool) (queue : Queue α) (item : α) :
    (pushToQueue running queue item).1 = true ∧ running = true ∧
        (pushToQueue running queue item).2.items = queue.items ++ [item] ∨
      (pushToQueue running queue item).1 = false ∧ running = true ∧ queue.items.length = queue.capacity ∧
        (pushToQueue running queue item).2.items = [] ∨
      (pushToQueue running queue item).1 = false ∧ running = false ∧
        (pushToQueue running queue item).2.items = queue.items := by
  have bounded := queue.bounded
  unfold pushToQueue Queue.send
  cases running
  · simp
  · by_cases room : queue.items.length < queue.capacity
    · simp [room]
    · simp [room, Queue.reset]
      omega

/-! ## A task fed by its queue

Both tasks are fed the same way: a producer pushes with `pushToQueue` while the
task runs, and each turn of the task's loop starts with `xQueueReceive` and runs
the loop body on what it got.  `queueSystem` is one interleaving of the pushes
with the task's turns, for any loop body; the queue it leaves and the results
of its pushes and receives are those of `queueRun` (`queueSystem_queue`). -/

section System

variable {Input State Op : Type}

/-- What happens around a task's queue: a push by the producer, or one turn of
the task's loop with the inputs of that turn other than the queue. -/
inductive SystemEvent (α Input : Type) where
  | push (item : α)
  | turn (input : Input)

/-- The record of one event: the push's item and result, or the turn's inputs,
what `xQueueReceive` gave it, and the calls of the loop body. -/
inductive SystemStep (α Input Op : Type) where
  | pushed (item : α) (accepted : Bool)
  | turned (input : Input) (got : Option α) (ops : List Op)

/-- The producer and the task over a sequence of events, the task running
throughout and its loop body `body`: the queue, the task's state and the
record of each event. -/
def queueSystem (body : Input → Option α → State → State × List Op) :
    List (SystemEvent α Input) → Queue α → State → Queue α × State × List (SystemStep α Input Op)
  | [], queue, state => (queue, state, [])
  | .push item :: events, queue, state =>
      let pushed := pushToQueue true queue item
      let rest := queueSystem body events pushed.2 state
      (rest.1, rest.2.1, .pushed item pushed.1 :: rest.2.2)
  | .turn input :: events, queue, state =>
      let received := queue.receive
      let step := body input received.1 state
      let rest := queueSystem body events received.2 step.1
      (rest.1, rest.2.1, .turned input received.1 step.2 :: rest.2.2)

/-- What an event does to the queue. -/
def SystemEvent.toQueueEvent : SystemEvent α Input → QueueEvent α
  | .push item => .push item
  | .turn _ => .receive

/-- What an event returned, as the queue sees it. -/
def SystemStep.toQueueResult : SystemStep α Input Op → QueueResult α
  | .pushed item accepted => .pushed item accepted
  | .turned _ got _ => .received got

/-- A queue event as the event of a task whose turns have no inputs. -/
def QueueEvent.toSystemEvent : QueueEvent α → SystemEvent α Unit
  | .push item => .push item
  | .receive => .turn ()

/-- The task's turns only receive: the queue of the system is the queue of
`queueRun`. -/
theorem queueSystem_queue (body : Input → Option α → State → State × List Op)
    (events : List (SystemEvent α Input)) (queue : Queue α) (state : State) :
    ((queueSystem body events queue state).1,
        (queueSystem body events queue state).2.2.map SystemStep.toQueueResult) =
      queueRun (events.map SystemEvent.toQueueEvent) queue := by
  induction events generalizing queue state with
  | nil => rfl
  | cons event events ih =>
      cases event with
      | push item =>
          simp only [queueSystem, queueRun, List.map_cons, SystemEvent.toQueueEvent,
            SystemStep.toQueueResult, ← ih _ state]
      | turn input =>
          simp only [queueSystem, queueRun, List.map_cons, SystemEvent.toQueueEvent,
            SystemStep.toQueueResult, ← ih _ (body input queue.receive.1 state).1]

/-- Every turn ran the loop body on what it got, from a state of the task. -/
theorem mem_queueSystem {body : Input → Option α → State → State × List Op} {events : List (SystemEvent α Input)}
    {queue : Queue α} {state : State} {input : Input} {got : Option α} {ops : List Op}
    (member : SystemStep.turned input got ops ∈ (queueSystem body events queue state).2.2) :
    ∃ state', (body input got state').2 = ops := by
  induction events generalizing queue state with
  | nil => simp [queueSystem] at member
  | cons event events ih =>
      cases event with
      | push item =>
          simp only [queueSystem, List.mem_cons, reduceCtorEq, false_or] at member
          exact ih member
      | turn input' =>
          simp only [queueSystem, List.mem_cons, SystemStep.turned.injEq] at member
          rcases member with ⟨rfl, rfl, rfl⟩ | member
          · exact ⟨state, rfl⟩
          · exact ih member

/-- Over any interleaving of pushes with the task's turns: the items the turns
got, then those still queued, keep the order of the queued and accepted items
and repeat none of them; and when no push overflowed, they are exactly those
items. -/
theorem queueSystem_conserves (body : Input → Option α → State → State × List Op)
    (events : List (SystemEvent α Input)) (queue : Queue α) (state : State) :
    (receivedItems ((queueSystem body events queue state).2.2.map SystemStep.toQueueResult) ++
        (queueSystem body events queue state).1.items).Sublist
      (queue.items ++ acceptedItems ((queueSystem body events queue state).2.2.map SystemStep.toQueueResult)) ∧
    (((queueSystem body events queue state).2.2.map SystemStep.toQueueResult).all (!·.overflowed) →
      receivedItems ((queueSystem body events queue state).2.2.map SystemStep.toQueueResult) ++
          (queueSystem body events queue state).1.items =
        queue.items ++ acceptedItems ((queueSystem body events queue state).2.2.map SystemStep.toQueueResult)) := by
  induction events generalizing queue state with
  | nil => simp [queueSystem, receivedItems, acceptedItems]
  | cons event events ih =>
      cases event with
      | push item =>
          obtain ⟨kept, exact⟩ := ih (pushToQueue true queue item).2 state
          rcases pushToQueue_cases true queue item with
            ⟨accepted, -, queued⟩ | ⟨refused, -, -, emptied⟩ | ⟨-, stopped, -⟩
          · simp only [queueSystem, List.map_cons, SystemStep.toQueueResult, accepted, acceptedItems,
              receivedItems, List.all_cons, QueueResult.overflowed, Bool.not_false, Bool.true_and] at kept exact ⊢
            rw [queued, List.append_assoc] at kept exact
            exact ⟨kept, exact⟩
          · simp only [queueSystem, List.map_cons, SystemStep.toQueueResult, refused, acceptedItems,
              receivedItems, List.all_cons, QueueResult.overflowed] at kept ⊢
            rw [emptied, List.nil_append] at kept
            exact ⟨kept.trans (List.sublist_append_right _ _), fun none => by simp at none⟩
          · cases stopped
      | turn input =>
          obtain ⟨kept, exact⟩ := ih queue.receive.2 (body input queue.receive.1 state).1
          obtain ⟨capacity, _ | ⟨head, items⟩, bounded⟩ := queue
          · simp only [queueSystem, List.map_cons, SystemStep.toQueueResult, Queue.receive, acceptedItems,
              receivedItems, List.all_cons, QueueResult.overflowed, Bool.not_false, Bool.true_and] at kept exact ⊢
            exact ⟨kept, exact⟩
          · simp only [queueSystem, List.map_cons, SystemStep.toQueueResult, Queue.receive, acceptedItems,
              receivedItems, List.all_cons, QueueResult.overflowed, Bool.not_false, Bool.true_and,
              List.cons_append] at kept exact ⊢
            exact ⟨kept.cons₂ _, fun none => congrArg (head :: ·) (exact none)⟩

end System

/-- The queue alone is the system of a task whose turns make no call. -/
theorem queueRun_eq_queueSystem (events : List (QueueEvent α)) (queue : Queue α) :
    queueRun events queue =
      ((queueSystem (fun (_ : Unit) (_ : Option α) (_ : Unit) => ((), ([] : List Unit)))
          (events.map QueueEvent.toSystemEvent) queue ()).1,
        (queueSystem (fun (_ : Unit) (_ : Option α) (_ : Unit) => ((), ([] : List Unit)))
          (events.map QueueEvent.toSystemEvent) queue ()).2.2.map SystemStep.toQueueResult) := by
  have roundTrip : ∀ event : QueueEvent α, event.toSystemEvent.toQueueEvent = event := by
    intro event
    cases event <;> rfl
  simp only [queueSystem_queue, List.map_map, Function.comp_def, roundTrip, List.map_id']

/-- Over any run of a queue whose task is running: the items received, then
those still queued, keep the order of the queued and accepted items and repeat
none of them; and when no push overflowed, they are exactly those items. -/
theorem queueRun_conserves (events : List (QueueEvent α)) (queue : Queue α) :
    (receivedItems (queueRun events queue).2 ++ (queueRun events queue).1.items).Sublist
        (queue.items ++ acceptedItems (queueRun events queue).2) ∧
      ((queueRun events queue).2.all (!·.overflowed) →
        receivedItems (queueRun events queue).2 ++ (queueRun events queue).1.items =
          queue.items ++ acceptedItems (queueRun events queue).2) := by
  rw [queueRun_eq_queueSystem]
  exact queueSystem_conserves _ _ queue ()

end CommsWiFi
