import CommsWiFi.Station.Body

/-!
# Which feeds a packet goes to

A turn of the loop that dequeues a packet closes the socket of every feed
configured inactive and makes no other call for it; every other feed gets at
most one `send()` of the packet, and none when its protocol does not serve the
packet.  `stationIteration_dispatch` states this for every turn from any
state, so for every turn of every run.  A turn that dequeues nothing runs no
feed loop, so over a run a slot configured inactive throughout keeps its socket
open until the first turn that dequeues a packet, which closes it; that
`close()` is the only call the task makes for the slot (`stationLoop_inactive`).
-/

namespace CommsWiFi.Station

variable {Packet : Type} (cfg : Collaborators Packet) {w : Nat}

section Body

variable (i : Nat) (settings : FeedSettings) (calls : FeedCalls)

theorem countP_isSend_openFeed (destAddr : SockaddrIn) (feed : Feed w) :
    (openFeed i settings calls destAddr feed).ops.countP Op.isSend = 0 :=
  List.countP_eq_zero.2 fun _ member => by
    simp [not_isSend_of_mem_openFeed i settings calls member]

theorem countP_isSend_sendPacket (packet : Packet) (feed : Feed w) :
    (sendPacket cfg i settings calls packet feed).2.countP Op.isSend =
      if servesPacket cfg settings.feedProtocol packet then 1 else 0 := by
  rw [sendPacket_eq]
  split
  · rcases sendBeast_cases cfg i settings calls packet feed with ⟨-, step⟩ | ⟨-, step⟩ <;> simp [step, Op.isSend]
  · rfl

/-- The loop body sends at most once, and only what the feed's protocol serves. -/
theorem countP_isSend_feedIteration (packet : Packet) (destAddr : SockaddrIn) (feed : Feed w) :
    (feedIteration cfg i settings calls packet destAddr feed).ops.countP Op.isSend ≤
      if servesPacket cfg settings.feedProtocol packet then 1 else 0 := by
  have opened := countP_isSend_openFeed i settings calls destAddr feed
  rcases feedIteration_cases cfg i settings calls packet destAddr feed with ⟨-, -, step⟩ | ⟨-, -, step⟩ | ⟨-, step⟩ <;>
    rw [step]
  · simp [opened, countP_isSend_sendPacket]
  · simp [opened]
  · unfold closeInactive
    split <;> simp [Op.isSend]

theorem feedIteration_inactive (packet : Packet) (destAddr : SockaddrIn) (feed : Feed w)
    (inactive : settings.feedIsActive = false) :
    (feedIteration cfg i settings calls packet destAddr feed).feed.feedSockIsConnected = false ∧
      (feedIteration cfg i settings calls packet destAddr feed).ops =
        if feed.feedSockIsConnected then [.close i feed.feedSock] else [] := by
  simp only [feedIteration, closeInactive, inactive, Bool.false_eq_true, if_false]
  split <;> simp_all

end Body

theorem servesPacket_eq_false {protocol : ReportingProtocol} {packet : Packet}
    (excluded : (protocol ≠ .kBeast ∧ protocol ≠ .kBeastRaw) ∨
      (protocol = .kBeast ∧ cfg.isValid packet = false)) :
    servesPacket cfg protocol packet = false := by
  rcases excluded with ⟨notBeast, notRaw⟩ | ⟨rfl, invalid⟩
  · cases protocol <;> simp_all [servesPacket]
  · exact invalid

/-- In every turn that dequeues a packet, from any state: a feed slot configured
inactive ends the turn disconnected, and the only call made for it is the
`close()` of its open socket; every slot gets at most one `send()`, and none
when its protocol is neither Beast nor raw Beast, or is Beast and the packet is
not valid. -/
theorem stationIteration_dispatch (it : Iteration Packet) (packet : Packet) (task : Task w)
    (i : Fin cfg.kMaxNumFeeds) :
    let turn := stationIteration cfg { it with received := some packet } task
    ((it.settings i).feedIsActive = false →
      (turn.1.feeds i).feedSockIsConnected = false ∧
      opsFor i turn.2 =
        if (task.feeds i).feedSockIsConnected then [.close i (task.feeds i).feedSock] else []) ∧
    (opsFor i turn.2).countP Op.isSend ≤ 1 ∧
    (((it.settings i).feedProtocol ≠ .kBeast ∧ (it.settings i).feedProtocol ≠ .kBeastRaw) ∨
        ((it.settings i).feedProtocol = .kBeast ∧ cfg.isValid packet = false) →
      (opsFor i turn.2).countP Op.isSend = 0) := by
  obtain ⟨feed, sock, connected, -, after, ops⟩ :=
    stationIteration_received cfg { it with received := some packet } task rfl i.isLt
  have sends := countP_isSend_feedIteration cfg i (it.settings i) (it.calls i) packet (it.destAddr i) feed
  simp only [← after, ← ops, ← sock, ← connected]
  refine ⟨feedIteration_inactive cfg i _ _ packet _ feed, le_trans sends (by split <;> simp),
    fun excluded => ?_⟩
  simpa [servesPacket_eq_false cfg excluded] using sends

/-- A turn, from any state, on a slot configured inactive: a turn that
dequeued a packet closes the slot's open socket and makes no other call for
it, a turn that did not makes no call for it, and the slot keeps its
descriptor. -/
theorem stationIteration_inactive (it : Iteration Packet) (task : Task w) {i : Nat} (slot : i < cfg.kMaxNumFeeds)
    (inactive : (it.settings i).feedIsActive = false) :
    ((stationIteration cfg it task).1.feeds i).feedSock = (task.feeds i).feedSock ∧
      ((stationIteration cfg it task).1.feeds i).feedSockIsConnected =
        ((task.feeds i).feedSockIsConnected && !it.received.isSome) ∧
      opsFor i (stationIteration cfg it task).2 =
        if (task.feeds i).feedSockIsConnected ∧ it.received.isSome then [.close i (task.feeds i).feedSock]
        else [] := by
  rcases received : it.received with _ | packet
  · have turn : stationIteration cfg it task = updateStatistics cfg (getTimeSinceBootMs it.timeMs) task := by
      simp [stationIteration, received]
    rw [turn, updateStatistics_feeds, opsFor_updateStatistics]
    split <;> simp
  · obtain ⟨feed, sock, connected, -, after, ops⟩ := stationIteration_received cfg it task received slot
    obtain ⟨closed, calls⟩ :=
      feedIteration_inactive cfg i (it.settings i) (it.calls i) packet (it.destAddr i) feed inactive
    have kept : (feedIteration cfg i (it.settings i) (it.calls i) packet (it.destAddr i) feed).feed.feedSock =
        feed.feedSock := by
      simp only [feedIteration, inactive, Bool.false_eq_true, if_false, closeInactive]
      split <;> rfl
    rw [← after, ← ops, calls, ← sock, ← connected]
    exact ⟨kept, by simpa using closed, by simp⟩

/-- Over every run, from any state, in which slot `i` is configured inactive in
every turn: the only call the task makes for the slot is one `close()` of the
socket it held, when it started connected and some turn dequeued a packet; so
no `socket()`, `connect()` or `send()` for it; and the slot ends connected
exactly when it started connected and no turn dequeued a packet.  Every prefix
of a run being a run, the socket stays open until the first turn that dequeues
a packet, and is closed in that turn. -/
theorem stationLoop_inactive (run : List (Iteration Packet)) (task : Task w) {i : Nat} (slot : i < cfg.kMaxNumFeeds)
    (inactive : ∀ it ∈ run, (it.settings i).feedIsActive = false) :
    opsFor i (stationLoop cfg run task).2.flatten =
        (if (task.feeds i).feedSockIsConnected ∧ run.any (·.received.isSome) then [.close i (task.feeds i).feedSock]
          else []) ∧
      ((stationLoop cfg run task).1.feeds i).feedSockIsConnected =
        ((task.feeds i).feedSockIsConnected && !run.any (·.received.isSome)) := by
  induction run generalizing task with
  | nil => simp [stationLoop, opsFor]
  | cons it run ih =>
      obtain ⟨sock, connected, ops⟩ :=
        stationIteration_inactive cfg it task slot (inactive it (List.mem_cons_self _ _))
      obtain ⟨rest, stays⟩ := ih (stationIteration cfg it task).1 fun it member =>
        inactive it (List.mem_cons_of_mem _ member)
      simp only [stationLoop, List.flatten_cons, opsFor_append, ops, rest, stays, connected, sock, List.any_cons]
      by_cases packet : it.received.isSome <;> cases (task.feeds i).feedSockIsConnected <;> simp [packet]

/-- A turn on the demo feed configured inactive, with a packet or none. -/
def demoInactiveTurn (packet : Option (List UInt8)) : Iteration (List UInt8) :=
  { timeMs := 500, received := packet, settings := fun _ => { demoSettings with feedIsActive := false },
    calls := fun _ => demoCalls 3, destAddr := fun _ => default }

/-- Slot 0 connected on descriptor `3`, configured inactive: an idle turn
leaves the socket open, the next turn, with a packet, closes it. -/
theorem stationLoop_inactive_demo :
    let run := [demoInactiveTurn none, demoInactiveTurn (some [1])]
    let task : Task 16 := { demoTask with feeds := fun _ => ⟨3, true, 0, 0, 0⟩ }
    0 < demoCollaborators.kMaxNumFeeds ∧ (∀ it ∈ run, (it.settings 0).feedIsActive = false) ∧
      (opsFor 0 (stationLoop demoCollaborators run task).2.flatten =
          (if (task.feeds 0).feedSockIsConnected ∧ run.any (·.received.isSome) then [.close 0 (task.feeds 0).feedSock]
            else []) ∧
        ((stationLoop demoCollaborators run task).1.feeds 0).feedSockIsConnected =
          ((task.feeds 0).feedSockIsConnected && !run.any (·.received.isSome))) :=
  ⟨by decide, by simp [demoInactiveTurn], stationLoop_inactive demoCollaborators _ _ (by decide) (by simp [demoInactiveTurn])⟩

end CommsWiFi.Station
