import CommsWiFi.Queue
import CommsWiFi.Station.Dispatch
import CommsWiFi.Station.Metering

/-!
# From the decoder's pushes to the feeds

The station task is fed by `WiFiStationSendDecodedTransponderPacket`: each turn
of its loop takes what `xQueueReceive` answers (`stationTurn`), so that a run
of the decoder and the task together is `queueSystem` with `stationTurn`.

A turn makes calls for a feed only when it dequeued a packet, and each of its
`send()` calls for feed `i` carries that packet's Beast frame with feed `i`'s
receiver id, one at most (`opsFor_stationIteration`).  With the queue's
conservation, the frames sent to each feed over a whole run are those of
accepted packets, in push order, none twice (`stationSystem_forwards`).  A
feed that stays healthy (active, connected, every `send()` accepted) gets
exactly the dequeued packets its protocol serves (`stationSystem_healthy`).
On a network that accepts every call, a feed opens at most one connection over
a whole run, at the first turn that reaches its reconnect check in time
(`stationLoop_connectsOnce`).
-/

namespace CommsWiFi.Station

variable {Packet : Type} (cfg : Collaborators Packet) {w : Nat}

/-- One turn of the `while (run_wifi_sta_task_)` loop on what `xQueueReceive`
answered: a packet, or `none` on the timeout. -/
def stationTurn (it : Iteration Packet) (got : Option Packet) (task : Task w) : Task w × List Op :=
  stationIteration cfg { it with received := got } task

/-- The packets the task sent to feed `i`, one for each `send()` for `i`, as
the packet the turn of that `send()` dequeued, in order. -/
def forwardedTo (i : Nat) : List (SystemStep Packet (Iteration Packet) Op) → List Packet
  | [] => []
  | .turned _ (some packet) ops :: steps =>
      List.replicate ((opsFor i ops).countP Op.isSend) packet ++ forwardedTo i steps
  | _ :: steps => forwardedTo i steps

section Body

variable (i : Nat) (settings : FeedSettings) (calls : FeedCalls)

/-- The loop body's only `send()` carries the packet's Beast frame with the
feed's receiver id. -/
theorem send_of_mem_feedIteration {packet : Packet} {destAddr : SockaddrIn} {feed : Feed w}
    {j : Nat} {sock : Int} {bytes : List UInt8} {result : Int}
    (member : Op.send j sock bytes result ∈ (feedIteration cfg i settings calls packet destAddr feed).ops) :
    bytes = cfg.transponderPacketToBeastFramePrependReceiverID packet settings.feedReceiverId := by
  have quiet : Op.send j sock bytes result ∉ (openFeed i settings calls destAddr feed).ops := fun opened => by
    simpa [Op.isSend] using not_isSend_of_mem_openFeed i settings calls opened
  rcases feedIteration_cases cfg i settings calls packet destAddr feed with
    ⟨-, -, step⟩ | ⟨-, -, step⟩ | ⟨-, step⟩ <;> rw [step] at member
  · rcases List.mem_append.1 member with opened | sent
    · exact absurd opened quiet
    · rcases sendPacket_cases cfg i settings calls packet (openFeed i settings calls destAddr feed).feed with
        step | ⟨-, step⟩ | ⟨-, step⟩ <;> simp only [step, List.mem_cons, Op.send.injEq, reduceCtorEq,
          List.not_mem_nil, or_false] at sent
      · exact sent.2.2.1
      · exact sent.2.2.1
  · exact absurd member quiet
  · unfold closeInactive at member
    split at member <;> simp at member

end Body

/-- In every turn, from any state: the calls for feed `i` are made only when
the turn dequeued a packet; each of its `send()` calls carries that packet's
Beast frame with the receiver id feed `i` has in that turn; and there is at
most one of them. -/
theorem opsFor_stationIteration (it : Iteration Packet) (task : Task w) (i : Nat) :
    (opsFor i (stationIteration cfg it task).2).countP Op.isSend ≤ 1 ∧
      ∀ op ∈ opsFor i (stationIteration cfg it task).2, ∃ packet, it.received = some packet ∧
        ∀ j sock bytes result, op = .send j sock bytes result →
          bytes = cfg.transponderPacketToBeastFramePrependReceiverID packet (it.settings i).feedReceiverId := by
  have slot := stationIteration_slot cfg it task i
  have ops := congrArg Prod.snd slot
  dsimp only at ops
  rw [← ops]
  rcases slotIteration_cases cfg it _ i (task.feeds i) with ⟨packet, received, -, step⟩ | step <;>
    rw [step]
  · refine ⟨(countP_isSend_feedIteration cfg i _ _ packet _ _).trans (by split <;> simp),
      fun op member => ⟨packet, received, fun j sock bytes result send => ?_⟩⟩
    exact send_of_mem_feedIteration cfg i _ _ (send ▸ member)
  · simp

/-- With at most one `send()` for feed `i` per turn, the packets forwarded to
`i` are among the dequeued ones, in order. -/
theorem forwardedTo_sublist (i : Nat) {steps : List (SystemStep Packet (Iteration Packet) Op)}
    (once : ∀ it got ops, SystemStep.turned it got ops ∈ steps → (opsFor i ops).countP Op.isSend ≤ 1) :
    (forwardedTo i steps).Sublist (receivedItems (steps.map SystemStep.toQueueResult)) := by
  induction steps with
  | nil => exact List.Sublist.slnil
  | cons step steps ih =>
      have rest := ih fun it got ops member => once it got ops (List.mem_cons_of_mem _ member)
      rcases step with ⟨item, accepted⟩ | ⟨it, _ | packet, ops⟩
      · simpa [forwardedTo, receivedItems, SystemStep.toQueueResult] using rest
      · simpa [forwardedTo, receivedItems, SystemStep.toQueueResult] using rest
      · simp only [forwardedTo, List.map_cons, SystemStep.toQueueResult, receivedItems]
        rcases Nat.le_one_iff_eq_zero_or_eq_one.1 (once it _ ops (List.mem_cons_self _ _)) with none | one
        · simpa [none] using rest.cons packet
        · simpa [one] using rest.cons₂ packet

/-- Fed by `WiFiStationSendDecodedTransponderPacket`, over any interleaving of
its pushes with the task's turns, from any state: the packets whose frames the
task sends to feed `i`, one for each `send()`, keep the order of the queued and
accepted packets and repeat none of them; every call for feed `i` is made in a
turn that dequeued a packet, and each `send()` for `i` carries that packet's
Beast frame with the receiver id feed `i` has in that turn. -/
theorem stationSystem_forwards (events : List (SystemEvent Packet (Iteration Packet))) (queue : Queue Packet)
    (task : Task w) (i : Nat) :
    let run := queueSystem (stationTurn cfg) events queue task
    (forwardedTo i run.2.2).Sublist (queue.items ++ acceptedItems (run.2.2.map SystemStep.toQueueResult)) ∧
      ∀ it got ops, SystemStep.turned it got ops ∈ run.2.2 → ∀ op ∈ opsFor i ops,
        ∃ packet, got = some packet ∧ ∀ j sock bytes result, op = .send j sock bytes result →
          bytes = cfg.transponderPacketToBeastFramePrependReceiverID packet (it.settings i).feedReceiverId := by
  have turns : ∀ it got ops, SystemStep.turned it got ops ∈ (queueSystem (stationTurn cfg) events queue task).2.2 →
      (opsFor i ops).countP Op.isSend ≤ 1 ∧ ∀ op ∈ opsFor i ops, ∃ packet, got = some packet ∧
        ∀ j sock bytes result, op = .send j sock bytes result →
          bytes = cfg.transponderPacketToBeastFramePrependReceiverID packet (it.settings i).feedReceiverId := by
    intro it got ops member
    obtain ⟨task', rfl⟩ := mem_queueSystem member
    exact opsFor_stationIteration cfg { it with received := got } task' i
  refine ⟨?_, fun it got ops member => (turns it got ops member).2⟩
  exact (forwardedTo_sublist i fun it got ops member => (turns it got ops member).1).trans
    ((List.sublist_append_left _ _).trans (queueSystem_conserves (stationTurn cfg) events queue task).1)

/-! ## A healthy feed -/

section Body

variable (i : Nat) (settings : FeedSettings) (calls : FeedCalls)

/-- On an active connected feed whose `send()` succeeds, the loop body sends
the packet once when the feed's protocol serves it and not otherwise, and the
feed stays connected. -/
theorem feedIteration_healthy (packet : Packet) (destAddr : SockaddrIn) (feed : Feed w)
    (active : settings.feedIsActive = true) (sent : 0 ≤ calls.send) (connected : feed.feedSockIsConnected = true) :
    (feedIteration cfg i settings calls packet destAddr feed).feed.feedSockIsConnected = true ∧
      (feedIteration cfg i settings calls packet destAddr feed).ops.countP Op.isSend =
        if servesPacket cfg settings.feedProtocol packet then 1 else 0 := by
  have opened : openFeed i settings calls destAddr feed = ⟨feed, []⟩ := by simp [openFeed, connected]
  rcases feedIteration_cases cfg i settings calls packet destAddr feed with
    ⟨-, -, step⟩ | ⟨-, disconnected, -⟩ | ⟨inactive, -⟩
  · rw [step, opened, sendPacket_eq]
    split
    · rcases sendBeast_cases cfg i settings calls packet feed with ⟨failed, -⟩ | ⟨-, beast⟩
      · exact absurd sent (Int.not_le.2 failed)
      · simp [beast, connected, Op.isSend]
    · simp [connected]
  · simp [opened, connected] at disconnected
  · simp [active] at inactive

end Body

/-- A turn, from any state, on an active connected slot whose `send()`
succeeds: the slot stays connected, and the task sends it the packet the turn
dequeued when the slot's protocol serves it, and nothing else. -/
theorem stationIteration_healthy (it : Iteration Packet) (task : Task w) {i : Nat} (slot : i < cfg.kMaxNumFeeds)
    (active : (it.settings i).feedIsActive = true) (sent : 0 ≤ (it.calls i).send)
    (connected : (task.feeds i).feedSockIsConnected = true) :
    ((stationIteration cfg it task).1.feeds i).feedSockIsConnected = true ∧
      (opsFor i (stationIteration cfg it task).2).countP Op.isSend =
        (it.received.toList.filter (servesPacket cfg (it.settings i).feedProtocol)).length := by
  rcases received : it.received with _ | packet
  · have turn : stationIteration cfg it task = updateStatistics cfg (getTimeSinceBootMs it.timeMs) task := by
      simp [stationIteration, received]
    rw [turn, updateStatistics_feeds, opsFor_updateStatistics]
    exact ⟨by split <;> exact connected, rfl⟩
  · obtain ⟨feed, -, same, -, after, ops⟩ := stationIteration_received cfg it task received slot
    obtain ⟨stays, sends⟩ :=
      feedIteration_healthy cfg i (it.settings i) (it.calls i) packet (it.destAddr i) feed active sent
        (same.trans connected)
    rw [← after, ← ops]
    refine ⟨stays, sends.trans ?_⟩
    by_cases serves : servesPacket cfg (it.settings i).feedProtocol packet <;> simp [serves]

/-- Fed by `WiFiStationSendDecodedTransponderPacket`, over any interleaving of
its pushes with the task's turns: a slot that starts connected and, in every
turn, is active with the same protocol and a `send()` that succeeds stays
connected, and the packets the task sends it are exactly the packets the task
dequeued that its protocol serves, in order, each once. -/
theorem stationSystem_healthy (events : List (SystemEvent Packet (Iteration Packet))) (queue : Queue Packet)
    (task : Task w) {i : Nat} (slot : i < cfg.kMaxNumFeeds) (protocol : ReportingProtocol)
    (healthy : ∀ it, SystemEvent.turn it ∈ events →
      (it.settings i).feedIsActive = true ∧ (it.settings i).feedProtocol = protocol ∧ 0 ≤ (it.calls i).send)
    (connected : (task.feeds i).feedSockIsConnected = true) :
    let run := queueSystem (stationTurn cfg) events queue task
    (run.2.1.feeds i).feedSockIsConnected = true ∧
      forwardedTo i run.2.2 =
        (receivedItems (run.2.2.map SystemStep.toQueueResult)).filter (servesPacket cfg protocol) := by
  induction events generalizing queue task with
  | nil => exact ⟨connected, rfl⟩
  | cons event events ih =>
      have later := fun it member => healthy it (List.mem_cons_of_mem event member)
      cases event with
      | push item =>
          simpa only [queueSystem, forwardedTo, List.map_cons, SystemStep.toQueueResult, receivedItems]
            using ih (pushToQueue true queue item).2 task later connected
      | turn it =>
          obtain ⟨active, rfl, sent⟩ := healthy it (List.mem_cons_self _ _)
          obtain ⟨stays, sends⟩ := stationIteration_healthy cfg { it with received := queue.receive.1 } task slot
            active sent connected
          obtain ⟨rest, forwarded⟩ := ih queue.receive.2 _ later stays
          refine ⟨rest, ?_⟩
          simp only [queueSystem, List.map_cons, SystemStep.toQueueResult]
          rcases got : queue.receive.1 with _ | packet
          · simpa only [forwardedTo, receivedItems, got] using forwarded
          · rw [got] at sends forwarded
            simp only [forwardedTo, receivedItems, stationTurn, sends, forwarded, List.filter_cons]
            by_cases serves : servesPacket cfg (it.settings i).feedProtocol packet <;> simp [serves]

/-- A turn whose clock reading is too early for the statistics update, on
the feed settings and calls of the examples. -/
def demoTurn : Iteration (List UInt8) :=
  { timeMs := 500, received := none, settings := fun _ => demoSettings, calls := fun _ => demoCalls 3,
    destAddr := fun _ => default }

/-- Two packets pushed, then two turns on a connected raw Beast feed: both
are sent to it, in push order. -/
theorem stationSystem_healthy_demo :
    let events := [SystemEvent.push ([1, 2, 3] : List UInt8), .push [4, 5], .turn demoTurn, .turn demoTurn]
    let queue : Queue (List UInt8) := ⟨4, [], Nat.zero_le _⟩
    let task : Task 16 := { demoTask with feeds := fun _ => ⟨3, true, 0, 0, 0⟩ }
    0 < demoCollaborators.kMaxNumFeeds ∧
      (∀ it, SystemEvent.turn it ∈ events → (it.settings 0).feedIsActive = true ∧
        (it.settings 0).feedProtocol = .kBeastRaw ∧ 0 ≤ (it.calls 0).send) ∧
      (task.feeds 0).feedSockIsConnected = true ∧
      let run := queueSystem (stationTurn demoCollaborators) events queue task
      (run.2.1.feeds 0).feedSockIsConnected = true ∧
        forwardedTo 0 run.2.2 =
          (receivedItems (run.2.2.map SystemStep.toQueueResult)).filter (servesPacket demoCollaborators .kBeastRaw) := by
  have healthy : ∀ it, SystemEvent.turn it ∈
      [SystemEvent.push ([1, 2, 3] : List UInt8), .push [4, 5], .turn demoTurn, .turn demoTurn] →
      (it.settings 0).feedIsActive = true ∧ (it.settings 0).feedProtocol = .kBeastRaw ∧ 0 ≤ (it.calls 0).send := by
    intro it member
    simp only [List.mem_cons, reduceCtorEq, SystemEvent.turn.injEq, false_or, List.not_mem_nil, or_false,
      or_self] at member
    subst member
    decide
  exact ⟨by decide, healthy, rfl, stationSystem_healthy demoCollaborators _ _ _ (by decide) .kBeastRaw healthy rfl⟩


/-! ## A network that accepts every connection -/

section Body

variable (i : Nat) (settings : FeedSettings) (calls : FeedCalls)

/-- A `send()` that succeeds leaves the feed's connection as it was. -/
theorem sendPacket_connected (packet : Packet) (feed : Feed w) (sent : 0 ≤ calls.send) :
    (sendPacket cfg i settings calls packet feed).1.feedSockIsConnected = feed.feedSockIsConnected := by
  rcases sendPacket_cases cfg i settings calls packet feed with step | ⟨failed, -⟩ | ⟨-, step⟩
  · rw [step]
  · exact absurd sent (Int.not_le.2 failed)
  · rw [step]

variable (resolved : isNotIPAddress settings.feedUri = true → (calls.getaddrinfo settings.feedUri).isSome = true)
  (accepted : calls.connect = 0)
include resolved accepted

theorem dial_accepted (destAddr : SockaddrIn) (feed : Feed w) :
    (dial i settings calls destAddr feed).feed.feedSockIsConnected = true := by
  have connect : ∀ sinAddr lookup,
      (connectSocket i settings calls sinAddr lookup feed).feed.feedSockIsConnected = true := by
    intro sinAddr lookup
    rcases connectSocket_cases i settings calls sinAddr lookup feed with ⟨refused, -⟩ | ⟨-, step⟩
    · exact absurd accepted refused
    · simp [step]
  rcases dial_cases i settings calls destAddr feed with ⟨letter, unanswered, -⟩ | ⟨_, ⟨-, -, step⟩ | ⟨-, step⟩⟩
  · simpa [unanswered] using resolved letter
  all_goals rw [step]; exact connect _ _

variable (created : 0 < calls.socket.toInt)
include created

/-- On a network that accepts, the reconnect block of a disconnected feed
connects it exactly when the interval has passed, and then with one attempt. -/
theorem openFeed_accepted (destAddr : SockaddrIn) (feed : Feed w) (disconnected : feed.feedSockIsConnected = false) :
    let due := decide (kWiFiTCPSocketReconnectIntervalMs <
      getTimeSinceBootMs calls.reconnectTimeMs - feed.feedSockLastConnectTimestampMs)
    (openFeed i settings calls destAddr feed).feed.feedSockIsConnected = due ∧
      (openFeed i settings calls destAddr feed).ops.any (Op.isSocketFor i) = due := by
  simp only [openFeed, disconnected, Bool.false_eq_true, if_false]
  rcases reconnect_cases i settings calls destAddr feed with ⟨early, step⟩ | ⟨-, failed, -⟩ | ⟨due, -, step⟩
  · simp [step, disconnected, UInt32.not_lt.2 early]
  · exact absurd created (Int.not_lt.2 failed)
  · simp [step, due, Op.isSocketFor, dial_accepted i settings calls resolved accepted]

/-- On a network that accepts, the loop body of an active feed leaves it
connected once it was or the interval has passed, and attempts exactly when it
was disconnected and the interval has passed. -/
theorem feedIteration_accepted (packet : Packet) (destAddr : SockaddrIn) (feed : Feed w)
    (active : settings.feedIsActive = true) (sent : 0 ≤ calls.send) :
    let due := decide (kWiFiTCPSocketReconnectIntervalMs <
      getTimeSinceBootMs calls.reconnectTimeMs - feed.feedSockLastConnectTimestampMs)
    (feedIteration cfg i settings calls packet destAddr feed).feed.feedSockIsConnected =
        (feed.feedSockIsConnected || due) ∧
      (feedIteration cfg i settings calls packet destAddr feed).ops.any (Op.isSocketFor i) =
        (!feed.feedSockIsConnected && due) := by
  intro due
  have opened : (openFeed i settings calls destAddr feed).feed.feedSockIsConnected = (feed.feedSockIsConnected || due) ∧
      (openFeed i settings calls destAddr feed).ops.any (Op.isSocketFor i) = (!feed.feedSockIsConnected && due) := by
    cases connected : feed.feedSockIsConnected
    · simpa using openFeed_accepted i settings calls resolved accepted created destAddr feed connected
    · simp [openFeed, connected]
  rcases feedIteration_cases cfg i settings calls packet destAddr feed with
    ⟨-, -, step⟩ | ⟨-, -, step⟩ | ⟨inactive, -⟩
  · rw [step]
    simp only [sendPacket_connected cfg i settings calls packet _ sent, List.any_append, opened,
      (sendPacket_untimed cfg i settings calls packet _).2, Bool.or_false, and_self]
  · rw [step]
    exact opened
  · simp [active] at inactive

end Body

/-- Whether a turn reaches the reconnect check of slot `i`, having dequeued a
packet, with the interval past the attempt stamped `stamp`. -/
def reconnectDue (i : Nat) (stamp : UInt32) (it : Iteration Packet) : Bool :=
  it.received.isSome &&
    decide (kWiFiTCPSocketReconnectIntervalMs < getTimeSinceBootMs (it.calls i).reconnectTimeMs - stamp)

/-- A turn on an active slot of a network that accepts: the slot ends
connected once it was or the turn reached its reconnect check in time, and the
turn attempts exactly when the slot was disconnected and so. -/
theorem slotIteration_accepted (it : Iteration Packet) (due : Bool) {i : Nat} (slot : i < cfg.kMaxNumFeeds)
    (feed : Feed w) (active : (it.settings i).feedIsActive = true)
    (created : 0 < (it.calls i).socket.toInt)
    (resolved : isNotIPAddress (it.settings i).feedUri = true →
      ((it.calls i).getaddrinfo (it.settings i).feedUri).isSome = true)
    (accepted : (it.calls i).connect = 0) (sent : 0 ≤ (it.calls i).send) :
    (slotIteration cfg it due i feed).1.feedSockIsConnected =
        (feed.feedSockIsConnected || reconnectDue i feed.feedSockLastConnectTimestampMs it) ∧
      (slotIteration cfg it due i feed).2.any (Op.isSocketFor i) =
        (!feed.feedSockIsConnected && reconnectDue i feed.feedSockLastConnectTimestampMs it) := by
  rcases received : it.received with _ | packet
  · simp only [slotIteration, reconnectDue, received, Option.isSome_none, Bool.false_and, Bool.or_false,
      Bool.and_false, List.any_nil, and_true]
    split <;> rfl
  · simp only [slotIteration, reconnectDue, received, slot, decide_True, Bool.and_true, if_true,
      Option.isSome_some, Bool.true_and]
    have same : (if due = true then feed.publish else feed).feedSockIsConnected = feed.feedSockIsConnected ∧
        (if due = true then feed.publish else feed).feedSockLastConnectTimestampMs =
          feed.feedSockLastConnectTimestampMs := by
      split <;> exact ⟨rfl, rfl⟩
    rw [← same.1, ← same.2]
    exact feedIteration_accepted cfg i _ _ resolved accepted created packet _ _ active sent

/-- A turn, from any state, on an active slot of a network that accepts every
connection and every `send()`: the slot ends connected once it was or the
turn reached its reconnect check in time, and the turn attempts, metered,
exactly when the slot was disconnected and so. -/
theorem stationIteration_accepted (it : Iteration Packet) (task : Task w) {i : Nat} (slot : i < cfg.kMaxNumFeeds)
    (active : (it.settings i).feedIsActive = true) (created : 0 < (it.calls i).socket.toInt)
    (resolved : isNotIPAddress (it.settings i).feedUri = true →
      ((it.calls i).getaddrinfo (it.settings i).feedUri).isSome = true)
    (accepted : (it.calls i).connect = 0) (sent : 0 ≤ (it.calls i).send) :
    let attempted := !(task.feeds i).feedSockIsConnected &&
      reconnectDue i (task.feeds i).feedSockLastConnectTimestampMs it
    ((stationIteration cfg it task).1.feeds i).feedSockIsConnected =
        ((task.feeds i).feedSockIsConnected || reconnectDue i (task.feeds i).feedSockLastConnectTimestampMs it) ∧
      (stationIteration cfg it task).2.any (Op.isSocketFor i) = attempted ∧
      Metered kWiFiTCPSocketReconnectIntervalMs (it.calls i).reconnectTimeMs
        (task.feeds i).feedSockLastConnectTimestampMs
        ((stationIteration cfg it task).1.feeds i).feedSockLastConnectTimestampMs attempted := by
  have slotStep := stationIteration_slot cfg it task i
  have step := slotIteration_accepted cfg it
    (statisticsDue cfg (getTimeSinceBootMs it.timeMs) task.feedMpsLastUpdateTimestampMs) slot
    (task.feeds i) active created resolved accepted sent
  have metered := slotIteration_metered cfg it
    (statisticsDue cfg (getTimeSinceBootMs it.timeMs) task.feedMpsLastUpdateTimestampMs) i (task.feeds i)
  rw [slotStep, any_isSocketFor_opsFor] at step metered
  exact ⟨step.1, step.2, step.2 ▸ metered⟩

/-- Over any run in which feed slot `i` is active and the network accepts its
every call (`socket()` gives a descriptor, a URI with a letter resolves,
`connect()` and `send()` succeed): the slot opens at most one connection.  A
slot that starts connected stays so and makes no attempt; one that starts
disconnected attempts once, at the first turn that reaches its reconnect check
in time, and is connected from that turn on. -/
theorem stationLoop_connectsOnce (run : List (Iteration Packet)) (task : Task w) {i : Nat}
    (slot : i < cfg.kMaxNumFeeds)
    (healthy : ∀ it ∈ run, (it.settings i).feedIsActive = true ∧ 0 < (it.calls i).socket.toInt ∧
      (isNotIPAddress (it.settings i).feedUri = true →
        ((it.calls i).getaddrinfo (it.settings i).feedUri).isSome = true) ∧
      (it.calls i).connect = 0 ∧ 0 ≤ (it.calls i).send) :
    let due := reconnectDue i (task.feeds i).feedSockLastConnectTimestampMs
    ((stationLoop cfg run task).1.feeds i).feedSockIsConnected = ((task.feeds i).feedSockIsConnected || run.any due) ∧
      attemptTimes i run (stationLoop cfg run task).2 =
        if (task.feeds i).feedSockIsConnected then []
        else ((run.find? due).map fun it => (it.calls i).reconnectTimeMs).toList := by
  induction run generalizing task with
  | nil => simp [stationLoop, attemptTimes]
  | cons it run ih =>
      obtain ⟨active, created, resolved, accepted, sent⟩ := healthy it (List.mem_cons_self _ _)
      obtain ⟨connected, attempted, metered⟩ :=
        stationIteration_accepted cfg it task slot active created resolved accepted sent
      obtain ⟨rest, attempts⟩ := ih (stationIteration cfg it task).1 fun it member =>
        healthy it (List.mem_cons_of_mem _ member)
      simp only [stationLoop, attemptTimes, attempted, List.any_cons, List.find?_cons]
      rw [connected] at rest attempts
      cases wasConnected : (task.feeds i).feedSockIsConnected <;>
        cases due : reconnectDue i (task.feeds i).feedSockLastConnectTimestampMs it <;>
        simp only [wasConnected, due, Bool.or_false, Bool.or_true, Bool.false_or, Bool.true_or, Bool.not_false,
          Bool.not_true, Bool.and_true, Bool.and_false, Bool.false_and, if_true, Bool.false_eq_true, if_false]
          at rest attempts metered ⊢
      case false.false =>
        rw [Metered, if_neg Bool.false_ne_true] at metered
        rw [metered] at rest attempts
        exact ⟨rest, attempts⟩
      all_goals simp [rest, attempts]

/-- A turn that times out, then one that dequeues a packet with the reconnect
check six seconds after boot. -/
def demoConnectRun : List (Iteration (List UInt8)) := [demoTurn, { demoTurn with received := some [1, 2] }]

/-- From the task's start, slot 0 waits out the timeout and connects at the
packet turn, with one attempt. -/
theorem stationLoop_connectsOnce_demo :
    0 < demoCollaborators.kMaxNumFeeds ∧
      (∀ it ∈ demoConnectRun, (it.settings 0).feedIsActive = true ∧ 0 < (it.calls 0).socket.toInt ∧
        (isNotIPAddress (it.settings 0).feedUri = true →
          ((it.calls 0).getaddrinfo (it.settings 0).feedUri).isSome = true) ∧
        (it.calls 0).connect = 0 ∧ 0 ≤ (it.calls 0).send) ∧
      let due := reconnectDue 0 (demoTask.feeds 0).feedSockLastConnectTimestampMs
      ((stationLoop demoCollaborators demoConnectRun demoTask).1.feeds 0).feedSockIsConnected =
          ((demoTask.feeds 0).feedSockIsConnected || demoConnectRun.any due) ∧
        attemptTimes 0 demoConnectRun (stationLoop demoCollaborators demoConnectRun demoTask).2 =
          if (demoTask.feeds 0).feedSockIsConnected then []
          else ((demoConnectRun.find? due).map fun it => (it.calls 0).reconnectTimeMs).toList := by
  refine ⟨by decide, ?healthy, stationLoop_connectsOnce demoCollaborators demoConnectRun demoTask (by decide) ?healthy⟩
  decide

end CommsWiFi.Station
