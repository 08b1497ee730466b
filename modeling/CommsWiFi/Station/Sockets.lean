import CommsWiFi.Station.Body

/-!
# Feed sockets

Which descriptors the station task holds for each feed.  `replay` follows the
calls made for feed `i` in order: `socket()` adds the descriptor it answered,
`close()` removes one, and a `connect()`, `send()` or `close()` on a descriptor
that is not open for `i` stops it (`none`).  The intended invariant is that
between turns the open descriptors of feed `i` are `feed_sock[i]` while the
feed is connected and none otherwise.

It fails on one answer of `socket()`: the test `feed_sock[i] <= 0` takes
descriptor `0` for a failure (the access-point task tests `sock < 0`), and the
feed moves on without closing it (`descriptor_zero_leaks`).  With `socket()`
never answering `0`, the invariant holds over every run, and the exit loop
closes everything the task opened (`wifiStationTask_descriptors`).
-/

namespace CommsWiFi.Station

variable {Packet : Type} (cfg : Collaborators Packet) {w : Nat}

/-- One call's effect on the open descriptors of feed `i`. -/
def Op.replay (i : Nat) (descriptors : List Int) : Op → Option (List Int)
  | .socket j (.descriptor fd) => some (if j = i then (fd : Int) :: descriptors else descriptors)
  | .connect j sock _ _ | .send j sock _ _ =>
      if j = i ∧ sock ∉ descriptors then none else some descriptors
  | .close j sock =>
      if j = i then (if sock ∈ descriptors then some (descriptors.erase sock) else none)
      else some descriptors
  | _ => some descriptors

/-- The open descriptors of feed `i` after the calls `ops`, starting from
`descriptors`; `none` when a call targets a descriptor that is not open. -/
def replay (i : Nat) (descriptors : List Int) : List Op → Option (List Int)
  | [] => some descriptors
  | op :: ops => (op.replay i descriptors).bind fun next => replay i next ops

/-- The descriptors the task should hold for a feed: its socket while it is
connected. -/
def Feed.descriptors {w : Nat} (feed : Feed w) : List Int :=
  if feed.feedSockIsConnected then [feed.feedSock] else []

@[simp] theorem replay_nil (i : Nat) (descriptors : List Int) : replay i descriptors [] = some descriptors :=
  rfl

@[simp] theorem replay_cons (i : Nat) (descriptors : List Int) (op : Op) (ops : List Op) :
    replay i descriptors (op :: ops) = (op.replay i descriptors).bind fun next => replay i next ops :=
  rfl

theorem replay_append (i : Nat) (descriptors : List Int) (ops ops' : List Op) :
    replay i descriptors (ops ++ ops') = (replay i descriptors ops).bind fun next => replay i next ops' := by
  induction ops generalizing descriptors with
  | nil => rfl
  | cons op ops ih =>
      simp only [List.cons_append, replay_cons, ih]
      cases op.replay i descriptors <;> rfl

/-- A call for another slot leaves the descriptors of feed `i` alone. -/
theorem Op.replay_of_feed_ne {i : Nat} {op : Op} (other : op.feed ≠ some i) (descriptors : List Int) :
    op.replay i descriptors = some descriptors := by
  rcases op with ⟨j, _ | fd⟩ | _ | _ | _ | _ | _ <;> simp_all [Op.replay, Op.feed]

/-- Only the calls for feed `i` move its descriptors. -/
theorem replay_opsFor (i : Nat) (descriptors : List Int) (ops : List Op) :
    replay i descriptors (opsFor i ops) = replay i descriptors ops := by
  induction ops generalizing descriptors with
  | nil => rfl
  | cons op ops ih =>
      by_cases mine : op.feed = some i
      · simp [opsFor, mine, ← ih]
      · simp [opsFor, mine, Op.replay_of_feed_ne mine, ← ih]

section Body

variable (i : Nat) (settings : FeedSettings) (calls : FeedCalls)

theorem replay_connectSocket (sinAddr : InAddr) (lookup : List Op)
    (neutral : replay i [(feed : Feed w).feedSock] lookup = some [feed.feedSock]) :
    replay i [feed.feedSock] (connectSocket i settings calls sinAddr lookup feed).ops =
      some (connectSocket i settings calls sinAddr lookup feed).feed.descriptors := by
  rcases connectSocket_cases i settings calls sinAddr lookup feed with ⟨-, step⟩ | ⟨-, step⟩ <;>
    simp [step, replay_append, neutral, Op.replay, Feed.descriptors, Feed.disconnect]

theorem replay_dial (destAddr : SockaddrIn) (feed : Feed w) :
    replay i [feed.feedSock] (dial i settings calls destAddr feed).ops =
      some (dial i settings calls destAddr feed).feed.descriptors := by
  rcases dial_cases i settings calls destAddr feed with ⟨-, -, step⟩ | ⟨_, ⟨-, -, step⟩ | ⟨-, step⟩⟩ <;> rw [step]
  · simp [Op.replay, Feed.descriptors, Feed.disconnect]
  · exact replay_connectSocket i settings calls _ _ (by simp [Op.replay])
  · exact replay_connectSocket i settings calls _ _ rfl

/-- A reconnection attempt whose `socket()` does not answer `0` leaves open
exactly the descriptors of the feed it leaves. -/
theorem replay_openFeed (destAddr : SockaddrIn) (feed : Feed w)
    (notZero : calls.socket ≠ .descriptor 0) :
    replay i feed.descriptors (openFeed i settings calls destAddr feed).ops =
      some (openFeed i settings calls destAddr feed).feed.descriptors := by
  unfold openFeed
  split
  · rfl
  rename_i disconnected
  have none : feed.descriptors = [] := by simp [Feed.descriptors, disconnected]
  rw [none]
  rcases reconnect_cases i settings calls destAddr feed with ⟨-, step⟩ | ⟨-, failed, step⟩ | ⟨-, opened, step⟩ <;>
    rw [step]
  · simp [Feed.descriptors, disconnected]
  · simp [Op.replay, Feed.descriptors, disconnected, SocketResult.eq_error notZero failed]
  · cases socket : calls.socket with
    | error => simp [socket, SocketResult.toInt] at opened
    | descriptor fd =>
        simpa [Op.replay, socket, SocketResult.toInt] using replay_dial i settings calls destAddr
          { feed with feedSockLastConnectTimestampMs := getTimeSinceBootMs calls.reconnectTimeMs, feedSock := fd }

theorem replay_sendPacket (packet : Packet) (feed : Feed w) (connected : feed.feedSockIsConnected) :
    replay i feed.descriptors (sendPacket cfg i settings calls packet feed).2 =
      some (sendPacket cfg i settings calls packet feed).1.descriptors := by
  rcases sendPacket_cases cfg i settings calls packet feed with step | ⟨-, step⟩ | ⟨-, step⟩ <;> rw [step]
  · rfl
  all_goals simp [Op.replay, Feed.descriptors, Feed.disconnect, connected]

theorem replay_closeInactive (feed : Feed w) :
    replay i feed.descriptors (closeInactive i feed).2 = some (closeInactive i feed).1.descriptors := by
  unfold closeInactive
  split <;> simp_all [Op.replay, Feed.descriptors, Feed.disconnect]

theorem replay_feedIteration (packet : Packet) (destAddr : SockaddrIn) (feed : Feed w)
    (notZero : calls.socket ≠ .descriptor 0) :
    replay i feed.descriptors (feedIteration cfg i settings calls packet destAddr feed).ops =
      some (feedIteration cfg i settings calls packet destAddr feed).feed.descriptors := by
  have opened := replay_openFeed i settings calls destAddr feed notZero
  rcases feedIteration_cases cfg i settings calls packet destAddr feed with
    ⟨-, connected, step⟩ | ⟨-, -, step⟩ | ⟨-, step⟩ <;> rw [step]
  · rw [replay_append, opened, Option.some_bind]
    exact replay_sendPacket cfg i settings calls packet _ connected
  · exact opened
  · exact replay_closeInactive i feed

end Body

@[simp] theorem descriptors_publish (feed : Feed w) : feed.publish.descriptors = feed.descriptors := rfl

theorem replay_slotIteration (it : Iteration Packet) (due : Bool) (i : Nat) (feed : Feed w) (notZero : (it.calls i).socket ≠ .descriptor 0) :
    replay i feed.descriptors (slotIteration cfg it due i feed).2 =
      some (slotIteration cfg it due i feed).1.descriptors := by
  have published : feed.descriptors =
      (if due && decide (i < cfg.kMaxNumFeeds) then feed.publish else feed).descriptors := by
    split <;> rfl
  rcases slotIteration_cases cfg it due i feed with ⟨packet, -, -, step⟩ | step <;> rw [step, published]
  · exact replay_feedIteration cfg i _ _ packet _ _ notZero
  · rfl

/-- One turn keeps the descriptors of feed `i` in step with its state. -/
theorem replay_stationIteration (it : Iteration Packet) (task : Task w) (i : Nat)
    (notZero : (it.calls i).socket ≠ .descriptor 0) :
    replay i (task.feeds i).descriptors (stationIteration cfg it task).2 =
      some ((stationIteration cfg it task).1.feeds i).descriptors := by
  have slot := stationIteration_slot cfg it task i
  have step := replay_slotIteration cfg it
    (statisticsDue cfg (getTimeSinceBootMs it.timeMs) task.feedMpsLastUpdateTimestampMs) i
    (task.feeds i) notZero
  rw [slot] at step
  rwa [← replay_opsFor]

theorem replay_stationLoop (run : List (Iteration Packet)) (task : Task w) (i : Nat)
    (notZero : ∀ it ∈ run, (it.calls i).socket ≠ .descriptor 0) :
    replay i (task.feeds i).descriptors (stationLoop cfg run task).2.flatten =
      some ((stationLoop cfg run task).1.feeds i).descriptors := by
  induction run generalizing task with
  | nil => rfl
  | cons it run ih =>
      simp only [stationLoop, List.flatten_cons, replay_append,
        replay_stationIteration cfg it task i (notZero it (List.mem_cons_self _ _)), Option.bind_some]
      exact ih _ fun it member => notZero it (List.mem_cons_of_mem _ member)

theorem replay_closeAllFeeds (task : Task w) (i : Nat) :
    replay i (task.feeds i).descriptors (closeAllFeeds (List.range cfg.kMaxNumFeeds) task).2 = some [] ∨
      cfg.kMaxNumFeeds ≤ i := by
  by_cases slot : i < cfg.kMaxNumFeeds
  · obtain ⟨-, ops⟩ := closeAllFeeds_slot i (List.range cfg.kMaxNumFeeds) task (List.nodup_range _)
    left
    rw [← replay_opsFor, ops]
    split <;> simp_all [Op.replay, Feed.descriptors]
  · exact Or.inr (by omega)

/-- With `socket()` never answering descriptor `0` (the network stack's
descriptors start above it), over every run of the task: at the end of every
turn the descriptors open for feed `i` are `feed_sock[i]` while it is connected
and none otherwise; every `connect()`, `send()` and `close()` for `i` targets a
descriptor open for `i`, so none is closed twice; and when the task returns it
has closed every descriptor it opened for a feed slot. -/
theorem wifiStationTask_descriptors (run : List (Iteration Packet)) (members : Task w) (i : Nat)
    (notZero : ∀ it ∈ run, (it.calls i).socket ≠ .descriptor 0) :
    replay i [] (stationLoop cfg run members.start).2.flatten =
        some ((stationLoop cfg run members.start).1.feeds i).descriptors ∧
      (i < cfg.kMaxNumFeeds →
        replay i [] ((wifiStationTask cfg run members).2.1.flatten ++
          (wifiStationTask cfg run members).2.2) = some []) := by
  have loop := replay_stationLoop cfg run members.start i notZero
  have closed : (members.start.feeds i).descriptors = [] := rfl
  rw [closed] at loop
  refine ⟨loop, fun slot => ?_⟩
  simp only [wifiStationTask, replay_append, loop, Option.bind_some]
  exact (replay_closeAllFeeds cfg _ i).resolve_right (by omega)

theorem wifiStationTask_descriptors_demo :
    let run : List (Iteration (List UInt8)) :=
      [{ timeMs := 6000, received := some [1, 2, 3], settings := fun _ => demoSettings,
         calls := fun _ => demoCalls 3, destAddr := fun _ => default }]
    (∀ it ∈ run, (it.calls 0).socket ≠ .descriptor 0) ∧
      (replay 0 [] (stationLoop demoCollaborators run demoTask.start).2.flatten =
          some ((stationLoop demoCollaborators run demoTask.start).1.feeds 0).descriptors ∧
        (0 < demoCollaborators.kMaxNumFeeds →
          replay 0 [] ((wifiStationTask demoCollaborators run demoTask).2.1.flatten ++
            (wifiStationTask demoCollaborators run demoTask).2.2) = some [])) :=
  ⟨by decide, wifiStationTask_descriptors demoCollaborators _ demoTask 0 (by decide)⟩

/-- `socket()` answers descriptor `0` in the first turn: the feed stays
disconnected with descriptor `0` open, and the task returns without closing it. -/
theorem descriptor_zero_leaks :
    let run : List (Iteration (List UInt8)) :=
      [{ timeMs := 6000, received := some [1, 2, 3], settings := fun _ => demoSettings,
         calls := fun _ => demoCalls 0, destAddr := fun _ => default }]
    let result := wifiStationTask demoCollaborators run demoTask
    (result.1.feeds 0).feedSockIsConnected = false ∧
      replay 0 [] result.2.1.flatten = some [0] ∧
      replay 0 [] (result.2.1.flatten ++ result.2.2) = some [0] := by
  decide

end CommsWiFi.Station
