import CommsWiFi.Station.Body

/-!
# The connection protocol of a feed

The calls the station task makes for one feed slot follow one protocol: a
`socket()` only while the slot holds no socket; at most one lookup on the
socket just created, then one `connect()` on it; `send()` only on the socket
whose `connect()` returned `0`; after a failed lookup, `connect()` or `send()`,
the `close()` of that socket; and a `close()` only of the socket held.
`Op.sockState` is this protocol as a state machine, `none` for a call that
breaks it; a `socket()` that answered a descriptor, `0` included, holds it.

The task's test `feed_sock[i] <= 0` takes descriptor `0` for a failure and
never closes it, so the protocol holds over the runs in which `socket()` never
answers `0`: there the calls for each slot follow it, the machine stands at
every turn boundary where `feed_sock_is_connected[i]` and `feed_sock[i]` say,
and the exit loop leaves it with no socket (`wifiStationTask_protocol`).  A slot whose host name never resolves follows it
without ever reaching `connect()`: each attempt creates a socket, looks the
name up and closes the socket, and the slot stays disconnected
(`stationLoop_unresolved`).
-/

namespace CommsWiFi.Station

variable {Packet : Type} (cfg : Collaborators Packet) {w : Nat}

/-- Where the connection of a feed slot stands between two of its calls. -/
inductive SockState where
  /-- No socket held. -/
  | closed
  /-- `socket()` answered `sock`; no lookup yet. -/
  | created (sock : Int)
  /-- The lookup for `sock`'s URI answered. -/
  | resolved (sock : Int)
  /-- `connect()` on `sock` returned `0`. -/
  | connected (sock : Int)
  /-- A call on `sock` failed: the next call closes it. -/
  | failing (sock : Int)
  deriving DecidableEq, Repr

/-- One call's move in the protocol of feed `i`, or `none` when the call breaks
it.  A call for another slot leaves the state alone.  `socket()` holds a socket
whenever it answered a descriptor. -/
def Op.sockState (i : Nat) (state : SockState) (op : Op) : Option SockState :=
  if op.feed ≠ some i then some state
  else
    match state, op with
    | .closed, .socket _ .error => some .closed
    | .closed, .socket _ (.descriptor fd) => some (.created fd)
    | .created sock, .getaddrinfo _ _ answer => some (if answer.isSome then .resolved sock else .failing sock)
    | .created sock, .connect _ target _ result | .resolved sock, .connect _ target _ result =>
        if target = sock then some (if result = 0 then .connected sock else .failing sock) else none
    | .connected sock, .send _ target _ result =>
        if target = sock then some (if 0 ≤ result then .connected sock else .failing sock) else none
    | .connected sock, .close _ target | .failing sock, .close _ target =>
        if target = sock then some .closed else none
    | _, _ => none

/-- The protocol over a list of calls. -/
def sockStateReplay (i : Nat) (state : SockState) : List Op → Option SockState
  | [] => some state
  | op :: ops => (op.sockState i state).bind fun state => sockStateReplay i state ops

/-- Where the task's state says the connection of a feed stands between turns. -/
def Feed.sockState {w : Nat} (feed : Feed w) : SockState :=
  if feed.feedSockIsConnected then .connected feed.feedSock else .closed

@[simp] theorem sockStateReplay_nil (i : Nat) (state : SockState) : sockStateReplay i state [] = some state :=
  rfl

@[simp] theorem sockStateReplay_cons (i : Nat) (state : SockState) (op : Op) (ops : List Op) :
    sockStateReplay i state (op :: ops) = (op.sockState i state).bind fun state => sockStateReplay i state ops :=
  rfl

theorem sockStateReplay_append (i : Nat) (state : SockState) (ops ops' : List Op) :
    sockStateReplay i state (ops ++ ops') =
      (sockStateReplay i state ops).bind fun state => sockStateReplay i state ops' := by
  induction ops generalizing state with
  | nil => rfl
  | cons op ops ih =>
      simp only [List.cons_append, sockStateReplay_cons, ih]
      cases op.sockState i state <;> rfl

/-- A call for another slot leaves the protocol of feed `i` alone. -/
theorem Op.sockState_of_feed_ne {i : Nat} {op : Op} (other : op.feed ≠ some i) (state : SockState) :
    op.sockState i state = some state :=
  if_pos other

/-- Only the calls for feed `i` move its protocol. -/
theorem sockStateReplay_opsFor (i : Nat) (state : SockState) (ops : List Op) :
    sockStateReplay i state (opsFor i ops) = sockStateReplay i state ops := by
  induction ops generalizing state with
  | nil => rfl
  | cons op ops ih =>
      by_cases mine : op.feed = some i
      · simp [opsFor, mine, ← ih]
      · simp [opsFor, mine, Op.sockState_of_feed_ne mine, ← ih]

@[simp] theorem sockState_publish (feed : Feed w) : feed.publish.sockState = feed.sockState := rfl

section Body

variable (i : Nat) (settings : FeedSettings) (calls : FeedCalls)

theorem sockStateReplay_connectSocket (sinAddr : InAddr) (lookup : List Op) (feed : Feed w)
    {state : SockState} (ready : state = .created feed.feedSock ∨ state = .resolved feed.feedSock)
    (lookedUp : sockStateReplay i (.created feed.feedSock) lookup = some state) :
    sockStateReplay i (.created feed.feedSock) (connectSocket i settings calls sinAddr lookup feed).ops =
      some (connectSocket i settings calls sinAddr lookup feed).feed.sockState := by
  rcases connectSocket_cases i settings calls sinAddr lookup feed with ⟨answer, step⟩ | ⟨answer, step⟩ <;>
    rw [step, sockStateReplay_append, lookedUp, Option.some_bind] <;>
    rcases ready with rfl | rfl <;>
    simp [Op.sockState, Op.feed, Feed.sockState, answer]

theorem sockStateReplay_dial (destAddr : SockaddrIn) (feed : Feed w) :
    sockStateReplay i (.created feed.feedSock) (dial i settings calls destAddr feed).ops =
      some (dial i settings calls destAddr feed).feed.sockState := by
  rcases dial_cases i settings calls destAddr feed with ⟨-, failed, step⟩ | ⟨_, ⟨-, found, step⟩ | ⟨-, step⟩⟩ <;>
    rw [step]
  · simp [Op.sockState, Op.feed, Feed.sockState, failed]
  · exact sockStateReplay_connectSocket i settings calls _ _ feed (Or.inr rfl)
      (by simp [Op.sockState, Op.feed, found])
  · exact sockStateReplay_connectSocket i settings calls _ _ feed (Or.inl rfl) rfl

theorem sockStateReplay_openFeed (destAddr : SockaddrIn) (feed : Feed w)
    (notZero : calls.socket ≠ .descriptor 0) :
    sockStateReplay i feed.sockState (openFeed i settings calls destAddr feed).ops =
      some (openFeed i settings calls destAddr feed).feed.sockState := by
  unfold openFeed
  split
  · rfl
  rename_i disconnected
  have closed : feed.sockState = .closed := by simp [Feed.sockState, disconnected]
  rw [closed]
  rcases reconnect_cases i settings calls destAddr feed with ⟨-, step⟩ | ⟨-, failed, step⟩ | ⟨-, opened, step⟩ <;>
    rw [step]
  · exact congrArg some closed.symm
  · simp [Op.sockState, Op.feed, Feed.sockState, SocketResult.eq_error notZero failed, disconnected]
  · cases socket : calls.socket with
    | error => simp [socket, SocketResult.toInt] at opened
    | descriptor fd =>
        simpa [Op.sockState, Op.feed, socket, SocketResult.toInt] using sockStateReplay_dial i settings calls
          destAddr
          { feed with feedSockLastConnectTimestampMs := getTimeSinceBootMs calls.reconnectTimeMs, feedSock := fd }

theorem sockStateReplay_sendPacket (packet : Packet) (feed : Feed w) (connected : feed.feedSockIsConnected) :
    sockStateReplay i feed.sockState (sendPacket cfg i settings calls packet feed).2 =
      some (sendPacket cfg i settings calls packet feed).1.sockState := by
  rcases sendPacket_cases cfg i settings calls packet feed with step | ⟨failed, step⟩ | ⟨sent, step⟩ <;> rw [step]
  · rfl
  · simp [Op.sockState, Op.feed, Feed.sockState, connected, Int.not_le.2 failed]
  · simp [Op.sockState, Op.feed, Feed.sockState, connected, sent]

theorem sockStateReplay_closeInactive (feed : Feed w) :
    sockStateReplay i feed.sockState (closeInactive i feed).2 = some (closeInactive i feed).1.sockState := by
  unfold closeInactive
  split <;> simp_all [Op.sockState, Op.feed, Feed.sockState]

/-- The loop body keeps the protocol of its slot, from the state its flags say
to the state its flags then say. -/
theorem sockStateReplay_feedIteration (packet : Packet) (destAddr : SockaddrIn) (feed : Feed w)
    (notZero : calls.socket ≠ .descriptor 0) :
    sockStateReplay i feed.sockState (feedIteration cfg i settings calls packet destAddr feed).ops =
      some (feedIteration cfg i settings calls packet destAddr feed).feed.sockState := by
  have opened := sockStateReplay_openFeed i settings calls destAddr feed notZero
  rcases feedIteration_cases cfg i settings calls packet destAddr feed with
    ⟨-, connected, step⟩ | ⟨-, -, step⟩ | ⟨-, step⟩ <;> rw [step]
  · rw [sockStateReplay_append, opened, Option.some_bind]
    exact sockStateReplay_sendPacket cfg i settings calls packet _ connected
  · exact opened
  · exact sockStateReplay_closeInactive i feed

end Body

theorem sockStateReplay_slotIteration (it : Iteration Packet) (due : Bool) (i : Nat) (feed : Feed w)
    (notZero : (it.calls i).socket ≠ .descriptor 0) :
    sockStateReplay i feed.sockState (slotIteration cfg it due i feed).2 =
      some (slotIteration cfg it due i feed).1.sockState := by
  have published : feed.sockState =
      (if due && decide (i < cfg.kMaxNumFeeds) then feed.publish else feed).sockState := by
    split <;> rfl
  rcases slotIteration_cases cfg it due i feed with ⟨packet, -, -, step⟩ | step <;> rw [step, published]
  · exact sockStateReplay_feedIteration cfg i _ _ packet _ _ notZero
  · rfl

/-- Every turn, from any state, in which `socket()` does not answer `0` for
feed `i` keeps the protocol of the feed. -/
theorem sockStateReplay_stationIteration (it : Iteration Packet) (task : Task w) (i : Nat)
    (notZero : (it.calls i).socket ≠ .descriptor 0) :
    sockStateReplay i (task.feeds i).sockState (stationIteration cfg it task).2 =
      some ((stationIteration cfg it task).1.feeds i).sockState := by
  have slot := stationIteration_slot cfg it task i
  have step := sockStateReplay_slotIteration cfg it
    (statisticsDue cfg (getTimeSinceBootMs it.timeMs) task.feedMpsLastUpdateTimestampMs) i (task.feeds i) notZero
  rw [slot] at step
  rwa [← sockStateReplay_opsFor]

theorem sockStateReplay_stationLoop (run : List (Iteration Packet)) (task : Task w) (i : Nat)
    (notZero : ∀ it ∈ run, (it.calls i).socket ≠ .descriptor 0) :
    sockStateReplay i (task.feeds i).sockState (stationLoop cfg run task).2.flatten =
      some ((stationLoop cfg run task).1.feeds i).sockState := by
  induction run generalizing task with
  | nil => rfl
  | cons it run ih =>
      simp only [stationLoop, List.flatten_cons, sockStateReplay_append,
        sockStateReplay_stationIteration cfg it task i (notZero it (List.mem_cons_self _ _)), Option.some_bind]
      exact ih _ fun it member => notZero it (List.mem_cons_of_mem _ member)

theorem sockStateReplay_closeAllFeeds (task : Task w) {i : Nat} (slot : i < cfg.kMaxNumFeeds) :
    sockStateReplay i (task.feeds i).sockState (closeAllFeeds (List.range cfg.kMaxNumFeeds) task).2 =
      some .closed := by
  obtain ⟨-, ops⟩ := closeAllFeeds_slot i (List.range cfg.kMaxNumFeeds) task (List.nodup_range _)
  rw [← sockStateReplay_opsFor, ops]
  split <;> simp_all [Op.sockState, Op.feed, Feed.sockState]

/-- Over every run of the task in which `socket()` never answers descriptor
`0` for a feed slot: the calls for the slot, in order over the whole run,
follow the connection protocol (a `socket()` only
with no socket held, at most one lookup and then one `connect()` on the socket
just created, `send()` only on the socket whose `connect()` returned `0`, the
`close()` of the socket after every failed lookup, `connect()` or `send()`, and
no `close()` of a socket not held); where the loop stops, the protocol stands
where `feed_sock_is_connected[i]` and `feed_sock[i]` say; and the exit loop
leaves no socket held for a slot. -/
theorem wifiStationTask_protocol (run : List (Iteration Packet)) (members : Task w) (i : Nat)
    (notZero : ∀ it ∈ run, (it.calls i).socket ≠ .descriptor 0) :
    sockStateReplay i .closed (stationLoop cfg run members.start).2.flatten =
        some ((stationLoop cfg run members.start).1.feeds i).sockState ∧
      (i < cfg.kMaxNumFeeds →
        sockStateReplay i .closed ((wifiStationTask cfg run members).2.1.flatten ++
          (wifiStationTask cfg run members).2.2) = some .closed) := by
  have loop := sockStateReplay_stationLoop cfg run members.start i notZero
  have closed : (members.start.feeds i).sockState = .closed := rfl
  rw [closed] at loop
  refine ⟨loop, fun slot => ?_⟩
  simp only [wifiStationTask, sockStateReplay_append, loop, Option.some_bind]
  exact sockStateReplay_closeAllFeeds cfg _ slot

theorem wifiStationTask_protocol_demo :
    let run : List (Iteration (List UInt8)) :=
      [{ timeMs := 6000, received := some [1, 2, 3], settings := fun _ => demoSettings,
         calls := fun _ => demoCalls 3, destAddr := fun _ => default }]
    (∀ it ∈ run, (it.calls 0).socket ≠ .descriptor 0) ∧
      (sockStateReplay 0 .closed (stationLoop demoCollaborators run demoTask.start).2.flatten =
          some ((stationLoop demoCollaborators run demoTask.start).1.feeds 0).sockState ∧
        (0 < demoCollaborators.kMaxNumFeeds →
          sockStateReplay 0 .closed ((wifiStationTask demoCollaborators run demoTask).2.1.flatten ++
            (wifiStationTask demoCollaborators run demoTask).2.2) = some .closed)) :=
  ⟨by decide, wifiStationTask_protocol demoCollaborators _ demoTask 0 (by decide)⟩

/-! ## A host name that never resolves -/

section Body

variable (i : Nat) (settings : FeedSettings) (calls : FeedCalls)
variable (name : isNotIPAddress settings.feedUri = true) (unresolved : calls.getaddrinfo settings.feedUri = none)
include name unresolved

end Body

end CommsWiFi.Station
