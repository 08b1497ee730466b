import CommsWiFi.Address

/-!
# The station task

`CommsManager::WiFiStationTask` (lines 197–362 of `comms_wifi.cpp`) forwards
decoded transponder packets to the feeds of the settings over TCP.  Each turn
of its loop first publishes the feed counters once a second, then waits for a
packet; with a packet it walks the feed slots in index order, closing the
socket of an inactive feed, reconnecting an active feed at most once per
`kWiFiTCPSocketReconnectIntervalMs`, and sending the packet in Beast framing on
a connected one.  On exit it closes every open feed socket.

The model is a function of the inputs of each turn (`Iteration`): the clock
readings as true times, the packet or the queue's timeout, the settings as
read in that turn, and what the network stack answers to each slot's calls.
It returns the task's state and the calls it made (`Op`), each tagged with the
feed slot it was made for.

`dest_addr` is declared without an initializer in the reconnect block, and
`inet_pton` writes its address only on success: what it holds before is
indeterminate, so the model takes it as one more input of the turn
(`Iteration.destAddr`), free in every theorem.

The task starts once the station has an IP address (the busy wait on
`wifi_sta_has_ip_`), and the loop runs while `run_wifi_sta_task_` holds: a run
is the list of turns the loop made.
-/

namespace CommsWiFi.Station

/-- `kWiFiTCPSocketReconnectIntervalMs`. -/
def kWiFiTCPSocketReconnectIntervalMs : UInt32 := 5000

/-- What the station task uses from outside this slice: the constants
`SettingsManager::Settings::kMaxNumFeeds` and `kMsPerSec`, the validity check
of a decoded packet and the Beast encoder of `beast_utils`. -/
structure Collaborators (Packet : Type) where
  kMaxNumFeeds : Nat
  kMsPerSec : UInt32
  isValid : Packet → Bool
  transponderPacketToBeastFramePrependReceiverID : Packet → List UInt8 → List UInt8

/-- `SettingsManager::ReportingProtocol`, as far as the station task tells its
values apart.  Modelled from the spec: the enumeration is declared outside this
slice, with Beast, raw Beast and protocols the task does not serve. -/
inductive ReportingProtocol where
  | kNoReports
  | kBeast
  | kBeastRaw
  | unsupported (id : Nat)
  deriving DecidableEq, Repr

/-- The entries of `settings_manager.settings` the loop reads for one feed
slot: `feed_is_active[i]`, `feed_uris[i]`, `feed_ports[i]`,
`feed_protocols[i]` and `feed_receiver_ids[i]`. -/
structure FeedSettings where
  feedIsActive : Bool
  feedUri : CString
  feedPort : UInt16
  feedProtocol : ReportingProtocol
  feedReceiverId : List UInt8

/-- What the environment answers to one slot's calls in one turn: the true
time at the reconnect check, and the answers of `socket()`, of the resolver,
of `connect()` and of `send()`. -/
structure FeedCalls where
  reconnectTimeMs : Nat
  socket : SocketResult
  getaddrinfo : CString → Option InAddr
  connect : Int
  send : Int

/-- The inputs of one turn of the loop: the true time of the reading at its
top, the packet `xQueueReceive` returned (`none` on its timeout), and per slot
the settings, the calls' answers and the indeterminate content of `dest_addr`
when the slot's reconnect block declares it. -/
structure Iteration (Packet : Type) where
  timeMs : Nat
  received : Option Packet
  settings : Nat → FeedSettings
  calls : Nat → FeedCalls
  destAddr : Nat → SockaddrIn

/-- Everything the task keeps for one feed slot: the locals `feed_sock[i]`,
`feed_sock_is_connected[i]` and `feed_sock_last_connect_timestamp_ms[i]`, and
the members `feed_mps_counter_[i]` and `feed_mps[i]`, counters of `w` bits. -/
structure Feed (w : Nat) where
  feedSock : Int
  feedSockIsConnected : Bool
  feedSockLastConnectTimestampMs : UInt32
  feedMpsCounter : BitVec w
  feedMps : BitVec w

/-- The task's state: the feed slots and `feed_mps_last_update_timestamp_ms_`. -/
structure Task (w : Nat) where
  feeds : Nat → Feed w
  feedMpsLastUpdateTimestampMs : UInt32

/-- The calls of the task, each tagged with the feed slot it is made for, and
the statistics line with the `feed_mps` values it prints. -/
inductive Op where
  | socket (feed : Nat) (result : SocketResult)
  | getaddrinfo (feed : Nat) (uri : CString) (result : Option InAddr)
  | connect (feed : Nat) (sock : Int) (destAddr : SockaddrIn) (result : Int)
  | send (feed : Nat) (sock : Int) (bytes : List UInt8) (result : Int)
  | close (feed : Nat) (sock : Int)
  /-- `"Feed msgs/s: %s"` -/
  | feedMsgsPerSec (feedMps : List Nat)
  deriving DecidableEq

/-- The feed slot a call is made for. -/
def Op.feed : Op → Option Nat
  | .socket i _ | .getaddrinfo i _ _ | .connect i _ _ _ | .send i _ _ _ | .close i _ => some i
  | .feedMsgsPerSec _ => none

/-- The calls made for feed `i`, in order. -/
def opsFor (i : Nat) (ops : List Op) : List Op := ops.filter fun op => op.feed == some i

/-- `close(feed_sock[i]); feed_sock_is_connected[i] = false;`, the state part. -/
def Feed.disconnect {w : Nat} (feed : Feed w) : Feed w := { feed with feedSockIsConnected := false }

/-- The statistics update of one slot: `feed_mps[i] = feed_mps_counter_[i];
feed_mps_counter_[i] = 0;`. -/
def Feed.publish {w : Nat} (feed : Feed w) : Feed w :=
  { feed with feedMps := feed.feedMpsCounter, feedMpsCounter := 0 }

/-- What one piece of the loop body leaves: the slot and the calls made. -/
structure FeedStep (w : Nat) where
  feed : Feed w
  ops : List Op

@[simp] theorem Feed.disconnect_feedSock {w : Nat} (feed : Feed w) :
    feed.disconnect.feedSock = feed.feedSock := rfl

@[simp] theorem Feed.disconnect_feedSockIsConnected {w : Nat} (feed : Feed w) :
    feed.disconnect.feedSockIsConnected = false := rfl

@[simp] theorem Feed.disconnect_feedSockLastConnectTimestampMs {w : Nat} (feed : Feed w) :
    feed.disconnect.feedSockLastConnectTimestampMs = feed.feedSockLastConnectTimestampMs := rfl

@[simp] theorem Feed.disconnect_feedMpsCounter {w : Nat} (feed : Feed w) :
    feed.disconnect.feedMpsCounter = feed.feedMpsCounter := rfl

@[simp] theorem Feed.publish_feedSock {w : Nat} (feed : Feed w) :
    feed.publish.feedSock = feed.feedSock := rfl

@[simp] theorem Feed.publish_feedSockIsConnected {w : Nat} (feed : Feed w) :
    feed.publish.feedSockIsConnected = feed.feedSockIsConnected := rfl

@[simp] theorem Feed.publish_feedSockLastConnectTimestampMs {w : Nat} (feed : Feed w) :
    feed.publish.feedSockLastConnectTimestampMs = feed.feedSockLastConnectTimestampMs := rfl

@[simp] theorem Feed.publish_feedMpsCounter {w : Nat} (feed : Feed w) :
    feed.publish.feedMpsCounter = 0 := rfl

section Body

variable {Packet : Type} (cfg : Collaborators Packet) {w : Nat}
variable (i : Nat) (settings : FeedSettings) (calls : FeedCalls)

/-- The branch for an inactive feed (lines 243–252). -/
def closeInactive (feed : Feed w) : Feed w × List Op :=
  if feed.feedSockIsConnected then (feed.disconnect, [.close i feed.feedSock]) else (feed, [])

/-- `connect()` to the chosen address and its failure path (lines 294–308);
`lookup` holds the resolver call made before. -/
def connectSocket (sinAddr : InAddr) (lookup : List Op) (feed : Feed w) : FeedStep w :=
  let destAddr : SockaddrIn := ⟨settings.feedPort, sinAddr⟩
  let connect := Op.connect i feed.feedSock destAddr calls.connect
  if calls.connect ≠ 0 then
    ⟨feed.disconnect, lookup ++ [connect, .close i feed.feedSock]⟩
  else
    ⟨{ feed with feedSockIsConnected := true }, lookup ++ [connect]⟩

/-- The choice of the address for a socket just created (lines 276–292): a URI
with a letter is resolved, and a failed lookup ends the attempt; the text is
then converted by `inet_pton` into `dest_addr.sin_addr`, which keeps the
content `destAddr` it was declared with when the conversion fails. -/
def dial (destAddr : SockaddrIn) (feed : Feed w) : FeedStep w :=
  if isNotIPAddress settings.feedUri then
    let lookup := Op.getaddrinfo i settings.feedUri (calls.getaddrinfo settings.feedUri)
    match resolveURIToIP calls.getaddrinfo settings.feedUri with
    | none => ⟨feed.disconnect, [lookup, .close i feed.feedSock]⟩
    | some resolvedIp =>
        connectSocket i settings calls ((inetPton resolvedIp).getD destAddr.sinAddr) [lookup] feed
  else
    connectSocket i settings calls ((inetPton settings.feedUri).getD destAddr.sinAddr) [] feed

/-- The `if (!feed_sock_is_connected[i])` block (lines 255–309): a metered
reconnection attempt.  Every `continue` in it leaves the feed disconnected;
only a successful `connect()` marks it connected. -/
def reconnect (destAddr : SockaddrIn) (feed : Feed w) : FeedStep w :=
  let timestampMs := getTimeSinceBootMs calls.reconnectTimeMs
  if timestampMs - feed.feedSockLastConnectTimestampMs ≤ kWiFiTCPSocketReconnectIntervalMs then
    ⟨feed, []⟩
  else
    let feed := { feed with
      feedSockLastConnectTimestampMs := timestampMs
      feedSock := calls.socket.toInt }
    let created := Op.socket i calls.socket
    if feed.feedSock ≤ 0 then
      ⟨feed, [created]⟩
    else
      let dialed := dial i settings calls destAddr feed
      { dialed with ops := created :: dialed.ops }

/-- The Beast send on a connected feed (lines 320–345). -/
def sendBeast (packet : Packet) (feed : Feed w) : Feed w × List Op :=
  let beastMessage :=
    cfg.transponderPacketToBeastFramePrependReceiverID packet settings.feedReceiverId
  let send := Op.send i feed.feedSock beastMessage calls.send
  if calls.send < 0 then
    (feed.disconnect, [send, .close i feed.feedSock])
  else
    ({ feed with feedMpsCounter := feed.feedMpsCounter + 1 }, [send])

/-- The protocol dispatch on a connected feed (lines 313–350): Beast sends
valid packets only, raw Beast every packet, other protocols nothing. -/
def sendPacket (packet : Packet) (feed : Feed w) : Feed w × List Op :=
  match settings.feedProtocol with
  | .kBeast => if cfg.isValid packet then sendBeast cfg i settings calls packet feed else (feed, [])
  | .kBeastRaw => sendBeast cfg i settings calls packet feed
  | _ => (feed, [])

/-- The reconnect block when the feed is disconnected; nothing when it is
connected. -/
def openFeed (destAddr : SockaddrIn) (feed : Feed w) : FeedStep w :=
  if feed.feedSockIsConnected then ⟨feed, []⟩ else reconnect i settings calls destAddr feed

/-- The body of the feed loop for slot `i` (lines 241–351).  After the
reconnect block the packet is sent exactly when the feed is connected: the
block's every `continue` leaves it disconnected. -/
def feedIteration (packet : Packet) (destAddr : SockaddrIn) (feed : Feed w) : FeedStep w :=
  if settings.feedIsActive then
    let opened := openFeed i settings calls destAddr feed
    if opened.feed.feedSockIsConnected then
      let sent := sendPacket cfg i settings calls packet opened.feed
      ⟨sent.1, opened.ops ++ sent.2⟩
    else
      opened
  else
    let closed := closeInactive i feed
    ⟨closed.1, closed.2⟩

/-- What `connect()` can do: fail, and the socket is closed, or succeed, and
the feed is connected. -/
theorem connectSocket_cases (sinAddr : InAddr) (lookup : List Op) (feed : Feed w) :
    let connect := Op.connect i feed.feedSock ⟨settings.feedPort, sinAddr⟩ calls.connect
    (calls.connect ≠ 0 ∧ connectSocket i settings calls sinAddr lookup feed =
        ⟨feed.disconnect, lookup ++ [connect, .close i feed.feedSock]⟩) ∨
      (calls.connect = 0 ∧ connectSocket i settings calls sinAddr lookup feed =
        ⟨{ feed with feedSockIsConnected := true }, lookup ++ [connect]⟩) := by
  unfold connectSocket
  split
  · exact Or.inl ⟨‹_›, rfl⟩
  · exact Or.inr ⟨not_not.1 ‹_›, rfl⟩

/-- What the address choice can do: end the attempt when the lookup of a URI
with a letter failed, or go on to `connect()`, after that lookup when it
answered or, for a URI without a letter, after none. -/
theorem dial_cases (destAddr : SockaddrIn) (feed : Feed w) :
    let lookup := Op.getaddrinfo i settings.feedUri (calls.getaddrinfo settings.feedUri)
    (isNotIPAddress settings.feedUri = true ∧ calls.getaddrinfo settings.feedUri = none ∧
        dial i settings calls destAddr feed = ⟨feed.disconnect, [lookup, .close i feed.feedSock]⟩) ∨
      ∃ sinAddr, (isNotIPAddress settings.feedUri = true ∧ (calls.getaddrinfo settings.feedUri).isSome ∧
          dial i settings calls destAddr feed = connectSocket i settings calls sinAddr [lookup] feed) ∨
        (isNotIPAddress settings.feedUri = false ∧
          dial i settings calls destAddr feed = connectSocket i settings calls sinAddr [] feed) := by
  unfold dial
  split
  · split
    · exact Or.inl ⟨‹_›, Option.map_eq_none'.1 ‹_›, rfl⟩
    · rename_i found
      exact Or.inr ⟨_, Or.inl ⟨‹_›, by simpa [resolveURIToIP] using congrArg Option.isSome found, rfl⟩⟩
  · exact Or.inr ⟨_, Or.inr ⟨Bool.eq_false_iff.2 ‹_›, rfl⟩⟩

/-- What the reconnect block can do: nothing before the interval has passed;
otherwise record the attempt and create a socket, then stop when `socket()`
failed, or go on to `dial`. -/
theorem reconnect_cases (destAddr : SockaddrIn) (feed : Feed w) :
    let attempt := { feed with
      feedSockLastConnectTimestampMs := getTimeSinceBootMs calls.reconnectTimeMs
      feedSock := calls.socket.toInt }
    (getTimeSinceBootMs calls.reconnectTimeMs - feed.feedSockLastConnectTimestampMs ≤
          kWiFiTCPSocketReconnectIntervalMs ∧
        reconnect i settings calls destAddr feed = ⟨feed, []⟩) ∨
      (kWiFiTCPSocketReconnectIntervalMs <
          getTimeSinceBootMs calls.reconnectTimeMs - feed.feedSockLastConnectTimestampMs ∧
        calls.socket.toInt ≤ 0 ∧ reconnect i settings calls destAddr feed = ⟨attempt, [.socket i calls.socket]⟩) ∨
      (kWiFiTCPSocketReconnectIntervalMs <
          getTimeSinceBootMs calls.reconnectTimeMs - feed.feedSockLastConnectTimestampMs ∧
        0 < calls.socket.toInt ∧
        reconnect i settings calls destAddr feed = { dial i settings calls destAddr attempt with
          ops := .socket i calls.socket :: (dial i settings calls destAddr attempt).ops }) := by
  unfold reconnect
  dsimp only
  split
  · exact Or.inl ⟨‹_›, rfl⟩
  · split
    · exact Or.inr (Or.inl ⟨UInt32.not_le.1 ‹_›, ‹_›, rfl⟩)
    · exact Or.inr (Or.inr ⟨UInt32.not_le.1 ‹_›, Int.not_le.1 ‹_›, rfl⟩)

/-- What the loop body can do: for an active feed, the reconnect block, then the
dispatch when it left the feed connected; for an inactive one, the close. -/
theorem feedIteration_cases (packet : Packet) (destAddr : SockaddrIn) (feed : Feed w) :
    let opened := openFeed i settings calls destAddr feed
    (settings.feedIsActive = true ∧ opened.feed.feedSockIsConnected = true ∧
        feedIteration cfg i settings calls packet destAddr feed =
          ⟨(sendPacket cfg i settings calls packet opened.feed).1,
            opened.ops ++ (sendPacket cfg i settings calls packet opened.feed).2⟩) ∨
      (settings.feedIsActive = true ∧ opened.feed.feedSockIsConnected = false ∧
        feedIteration cfg i settings calls packet destAddr feed = opened) ∨
      (settings.feedIsActive = false ∧
        feedIteration cfg i settings calls packet destAddr feed =
          ⟨(closeInactive i feed).1, (closeInactive i feed).2⟩) := by
  unfold feedIteration
  dsimp only
  split
  · split
    · exact Or.inl ⟨‹_›, ‹_›, rfl⟩
    · exact Or.inr (Or.inl ⟨‹_›, Bool.eq_false_iff.2 ‹_›, rfl⟩)
  · exact Or.inr (Or.inr ⟨Bool.eq_false_iff.2 ‹_›, rfl⟩)

theorem sendBeast_cases (packet : Packet) (feed : Feed w) :
    let send := Op.send i feed.feedSock
      (cfg.transponderPacketToBeastFramePrependReceiverID packet settings.feedReceiverId) calls.send
    (calls.send < 0 ∧ sendBeast cfg i settings calls packet feed = (feed.disconnect, [send, .close i feed.feedSock])) ∨
      (0 ≤ calls.send ∧
        sendBeast cfg i settings calls packet feed = ({ feed with feedMpsCounter := feed.feedMpsCounter + 1 }, [send])) := by
  unfold sendBeast
  dsimp only
  split
  · exact Or.inl ⟨‹_›, rfl⟩
  · exact Or.inr ⟨Int.not_lt.1 ‹_›, rfl⟩

/-- What the dispatch can do: nothing, or one `send()`, followed by the close
when it failed and counted when it did not. -/
theorem sendPacket_cases (packet : Packet) (feed : Feed w) :
    let send := Op.send i feed.feedSock
      (cfg.transponderPacketToBeastFramePrependReceiverID packet settings.feedReceiverId) calls.send
    sendPacket cfg i settings calls packet feed = (feed, []) ∨
      (calls.send < 0 ∧ sendPacket cfg i settings calls packet feed = (feed.disconnect, [send, .close i feed.feedSock])) ∨
      (0 ≤ calls.send ∧
        sendPacket cfg i settings calls packet feed = ({ feed with feedMpsCounter := feed.feedMpsCounter + 1 }, [send])) := by
  have beast := sendBeast_cases cfg i settings calls packet feed
  unfold sendPacket
  split
  · split
    · exact Or.inr beast
    · exact Or.inl rfl
  · exact Or.inr beast
  · exact Or.inl rfl

end Body

section Loop

variable {Packet : Type} (cfg : Collaborators Packet) {w : Nat}

/-- The feed loop over the slots `feeds`, in order. -/
def forEachFeed (it : Iteration Packet) (packet : Packet) : List Nat → Task w → Task w × List Op
  | [], task => (task, [])
  | i :: feeds, task =>
      let step := feedIteration cfg i (it.settings i) (it.calls i) packet (it.destAddr i) (task.feeds i)
      let rest := forEachFeed it packet feeds { task with feeds := Function.update task.feeds i step.feed }
      (rest.1, step.ops ++ rest.2)

/-- The statistics update at the top of the loop (lines 212–230), with
`timestampMs` the clock reading there. -/
def updateStatistics (timestampMs : UInt32) (task : Task w) : Task w × List Op :=
  if cfg.kMsPerSec < timestampMs - task.feedMpsLastUpdateTimestampMs then
    let feeds := fun i => if i < cfg.kMaxNumFeeds then (task.feeds i).publish else task.feeds i
    ({ task with feeds, feedMpsLastUpdateTimestampMs := timestampMs },
      [.feedMsgsPerSec ((List.range cfg.kMaxNumFeeds).map fun i => (feeds i).feedMps.toNat)])
  else
    (task, [])

/-- One turn of the `while (run_wifi_sta_task_)` loop. -/
def stationIteration (it : Iteration Packet) (task : Task w) : Task w × List Op :=
  let stats := updateStatistics cfg (getTimeSinceBootMs it.timeMs) task
  match it.received with
  | none => stats
  | some packet =>
      let sent := forEachFeed cfg it packet (List.range cfg.kMaxNumFeeds) stats.1
      (sent.1, stats.2 ++ sent.2)

/-- The loop over a run: the final state and the calls of each turn. -/
def stationLoop : List (Iteration Packet) → Task w → Task w × List (List Op)
  | [], task => (task, [])
  | it :: run, task =>
      let step := stationIteration cfg it task
      let rest := stationLoop run step.1
      (rest.1, step.2 :: rest.2)

/-- The loop after the task's loop that closes every open feed socket
(lines 354–361). -/
def closeAllFeeds : List Nat → Task w → Task w × List Op
  | [], task => (task, [])
  | i :: feeds, task =>
      let closed := if (task.feeds i).feedSockIsConnected then
          ((task.feeds i).disconnect, [Op.close i (task.feeds i).feedSock])
        else (task.feeds i, [])
      let rest := closeAllFeeds feeds { task with feeds := Function.update task.feeds i closed.1 }
      (rest.1, closed.2 ++ rest.2)

/-- The task's state when its loop starts: the arrays `feed_sock`,
`feed_sock_is_connected` and `feed_sock_last_connect_timestamp_ms` are zero,
the members keep what `members` holds. -/
def Task.start (members : Task w) : Task w :=
  { members with feeds := fun i => { members.feeds i with
      feedSock := 0, feedSockIsConnected := false, feedSockLastConnectTimestampMs := 0 } }

/-- `CommsManager::WiFiStationTask` over a run: the final state, the calls of
each turn of the loop and the calls made on exit. -/
def wifiStationTask (run : List (Iteration Packet)) (members : Task w) :
    Task w × List (List Op) × List Op :=
  let loop := stationLoop cfg run members.start
  let exit := closeAllFeeds (List.range cfg.kMaxNumFeeds) loop.1
  (exit.1, loop.2, exit.2)

end Loop

/-! ## A configuration to run the model on -/

/-- Two feed slots, one-second statistics, every packet valid, and a Beast
encoder that puts the escape byte and the receiver id before the packet. -/
def demoCollaborators : Collaborators (List UInt8) where
  kMaxNumFeeds := 2
  kMsPerSec := 1000
  isValid _ := true
  transponderPacketToBeastFramePrependReceiverID packet receiverId := 0x1a :: receiverId ++ packet

/-- The URI `"10.0.0.1"`. -/
def demoUri : CString := ⟨[49, 48, 46, 48, 46, 48, 46, 49], by decide⟩

/-- An active raw Beast feed to `10.0.0.1:30005`. -/
def demoSettings : FeedSettings := ⟨true, demoUri, 30005, .kBeastRaw, [0xab]⟩

/-- A network stack that answers descriptor `fd` to `socket()`, resolves no
name, and accepts every `connect()` and a five-byte `send()`. -/
def demoCalls (fd : Nat) : FeedCalls := ⟨6000, .descriptor fd, fun _ => none, 0, 5⟩

/-- The task when its loop starts, with 16-bit counters at zero. -/
def demoTask : Task 16 :=
  { feeds := fun _ => ⟨0, false, 0, 0, 0⟩, feedMpsLastUpdateTimestampMs := 0 }

end CommsWiFi.Station
