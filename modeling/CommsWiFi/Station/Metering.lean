import Mathlib.Data.List.Chain
import CommsWiFi.Station.Body

/-!
# Metering by the millisecond clock

`get_time_since_boot_ms()` is the true time since boot modulo `2 ^ 32`, and the
task meters two events by unsigned differences of its readings: the
reconnection attempts of each feed, against
`feed_sock_last_connect_timestamp_ms[i]` and
`kWiFiTCPSocketReconnectIntervalMs`, and the statistics update, against
`feed_mps_last_update_timestamp_ms_` and `kMsPerSec`.  The unsigned difference
of two readings is never more than the true time between them
(`add_lt_of_lt_elapsed`), so on a clock that does not run backwards each
metered event comes more than the interval after the previous one, across the
wrap of the clock included.  The start of the loop counts as an attempt of
every feed at time `0`, since it zeroes the timestamps.

Within one wrap the test is exact (`lt_elapsed_iff`), so on readings that come
less than a wrap apart nothing metered is skipped either: the statistics lines
come exactly at the heartbeats of the turns (`stationLoop_heartbeats`), and a
feed whose `connect()` is always refused attempts exactly at the heartbeats of
its reconnect checks, the turns that dequeued a packet (`stationLoop_retries`).
-/

namespace CommsWiFi.Station

variable {Packet : Type} (cfg : Collaborators Packet) {w : Nat}

/-- Whether a call is the `socket()` of a reconnection attempt of feed `i`. -/
def Op.isSocketFor (i : Nat) : Op → Bool
  | .socket j _ => j == i
  | _ => false

/-- Whether a call is the statistics line. -/
def Op.isFeedMsgsPerSec : Op → Bool
  | .feedMsgsPerSec _ => true
  | _ => false

/-- The true times of the reconnection attempts of feed `i`, read off the
transcript of a run: the time of the reconnect check in each turn that called
`socket()` for `i`. -/
def attemptTimes (i : Nat) : List (Iteration Packet) → List (List Op) → List Nat
  | it :: run, ops :: transcript =>
      if ops.any (Op.isSocketFor i) then (it.calls i).reconnectTimeMs :: attemptTimes i run transcript
      else attemptTimes i run transcript
  | _, _ => []

/-- The true times of the statistics updates of a run: the time at the top of
each turn that printed the statistics line. -/
def updateTimes : List (Iteration Packet) → List (List Op) → List Nat
  | it :: run, ops :: transcript =>
      if ops.any Op.isFeedMsgsPerSec then it.timeMs :: updateTimes run transcript
      else updateTimes run transcript
  | _, _ => []

/-- The clock readings of a run in the order the task makes them: at the top of
each turn, then at the reconnect check of each slot.  A slot that does not
reach its check reads nothing, and any value between its neighbours stands for
its reading. -/
def clockReadings (run : List (Iteration Packet)) : List Nat :=
  run.flatMap fun it => it.timeMs :: (List.range cfg.kMaxNumFeeds).map fun j => (it.calls j).reconnectTimeMs

/-- What a metered event does to the timestamp it is tested against: when it
happens, at true time `timeMs`, the reading is more than `interval` after the
timestamp and becomes the timestamp; otherwise the timestamp stays. -/
def Metered (interval : UInt32) (timeMs : Nat) (before after : UInt32) (happened : Bool) : Prop :=
  if happened then interval < getTimeSinceBootMs timeMs - before ∧ after = getTimeSinceBootMs timeMs
  else after = before

theorem metered_false {interval : UInt32} {timeMs : Nat} {before : UInt32} :
    Metered interval timeMs before before false := by
  simp [Metered]

/-- Against the timestamp of an event at `t₀`, an event that happens at `t` is
more than `interval` later in true time. -/
theorem Metered.gap {interval : UInt32} {t₀ t : Nat} {after : UInt32} {happened : Bool}
    (metered : Metered interval t (getTimeSinceBootMs t₀) after happened) (ordered : t₀ ≤ t) :
    if happened then t₀ + interval.toNat < t ∧ after = getTimeSinceBootMs t
    else after = getTimeSinceBootMs t₀ := by
  cases happened
  · exact metered
  · exact ⟨add_lt_of_lt_elapsed interval ordered metered.1, metered.2⟩

/-! ## Reconnection attempts of one feed -/

section Body

variable (i : Nat) (settings : FeedSettings) (calls : FeedCalls)

theorem reconnect_metered (destAddr : SockaddrIn) (feed : Feed w) :
    Metered kWiFiTCPSocketReconnectIntervalMs calls.reconnectTimeMs feed.feedSockLastConnectTimestampMs
      (reconnect i settings calls destAddr feed).feed.feedSockLastConnectTimestampMs
      ((reconnect i settings calls destAddr feed).ops.any (Op.isSocketFor i)) := by
  rcases reconnect_cases i settings calls destAddr feed with ⟨-, step⟩ | ⟨due, -, step⟩ | ⟨due, -, step⟩ <;>
    rw [step]
  · exact metered_false
  · simp [Metered, Op.isSocketFor, due]
  · obtain ⟨connected, dialed⟩ := dial_feed i settings calls destAddr
      { feed with feedSockLastConnectTimestampMs := getTimeSinceBootMs calls.reconnectTimeMs
                  feedSock := calls.socket.toInt }
    simp [Metered, Op.isSocketFor, due, dialed]

theorem openFeed_metered (destAddr : SockaddrIn) (feed : Feed w) :
    Metered kWiFiTCPSocketReconnectIntervalMs calls.reconnectTimeMs feed.feedSockLastConnectTimestampMs
      (openFeed i settings calls destAddr feed).feed.feedSockLastConnectTimestampMs
      ((openFeed i settings calls destAddr feed).ops.any (Op.isSocketFor i)) := by
  unfold openFeed
  split
  · exact metered_false
  · exact reconnect_metered i settings calls destAddr feed

/-- The dispatch and the inactive branch neither create a socket nor touch the
timestamp of the last attempt. -/
theorem sendPacket_untimed (packet : Packet) (feed : Feed w) :
    (sendPacket cfg i settings calls packet feed).1.feedSockLastConnectTimestampMs =
        feed.feedSockLastConnectTimestampMs ∧
      (sendPacket cfg i settings calls packet feed).2.any (Op.isSocketFor i) = false := by
  rcases sendPacket_cases cfg i settings calls packet feed with step | ⟨-, step⟩ | ⟨-, step⟩ <;>
    simp [step, Op.isSocketFor]

theorem closeInactive_untimed (feed : Feed w) :
    (closeInactive i feed).1.feedSockLastConnectTimestampMs = feed.feedSockLastConnectTimestampMs ∧
      (closeInactive i feed).2.any (Op.isSocketFor i) = false := by
  unfold closeInactive
  split <;> simp [Op.isSocketFor]

theorem feedIteration_metered (packet : Packet) (destAddr : SockaddrIn) (feed : Feed w) :
    Metered kWiFiTCPSocketReconnectIntervalMs calls.reconnectTimeMs feed.feedSockLastConnectTimestampMs
      (feedIteration cfg i settings calls packet destAddr feed).feed.feedSockLastConnectTimestampMs
      ((feedIteration cfg i settings calls packet destAddr feed).ops.any (Op.isSocketFor i)) := by
  have opened := openFeed_metered i settings calls destAddr feed
  rcases feedIteration_cases cfg i settings calls packet destAddr feed with ⟨-, -, step⟩ | ⟨-, -, step⟩ | ⟨-, step⟩ <;>
    rw [step]
  · obtain ⟨sameTs, noSocket⟩ := sendPacket_untimed cfg i settings calls packet
      (openFeed i settings calls destAddr feed).feed
    simpa [sameTs, noSocket] using opened
  · exact opened
  · obtain ⟨sameTs, noSocket⟩ := closeInactive_untimed i feed
    simpa [sameTs, noSocket] using metered_false

end Body

/-- A turn meters the reconnection attempts of feed `i`. -/
theorem slotIteration_metered (it : Iteration Packet) (due : Bool) (i : Nat) (feed : Feed w) :
    Metered kWiFiTCPSocketReconnectIntervalMs (it.calls i).reconnectTimeMs
      feed.feedSockLastConnectTimestampMs
      (slotIteration cfg it due i feed).1.feedSockLastConnectTimestampMs
      ((slotIteration cfg it due i feed).2.any (Op.isSocketFor i)) := by
  have published : feed.feedSockLastConnectTimestampMs =
      (if due && decide (i < cfg.kMaxNumFeeds) then feed.publish else feed).feedSockLastConnectTimestampMs := by
    split <;> rfl
  rcases slotIteration_cases cfg it due i feed with ⟨packet, -, -, step⟩ | step <;> rw [step, published]
  · exact feedIteration_metered cfg i _ _ packet _ _
  · exact metered_false

/-- Over a run of feed `i` alone whose last attempt was at `t₀`, on a clock
that does not run backwards, every attempt comes more than the interval after
the one before. -/
theorem slotLoop_attemptTimes (i : Nat) (run : List (Iteration Packet)) (lastUpdate : UInt32) (feed : Feed w)
    (t₀ : Nat)
    (last : feed.feedSockLastConnectTimestampMs = getTimeSinceBootMs t₀)
    (sorted : (t₀ :: run.map fun it => (it.calls i).reconnectTimeMs).Pairwise (· ≤ ·)) :
    (t₀ :: attemptTimes i run (slotLoop cfg i run lastUpdate feed).2).Chain'
      fun a b => a + kWiFiTCPSocketReconnectIntervalMs.toNat < b := by
  induction run generalizing lastUpdate feed t₀ with
  | nil => exact List.chain'_singleton _
  | cons it run ih =>
      obtain ⟨later, sorted⟩ := List.pairwise_cons.1 sorted
      have step := slotIteration_metered cfg it
        (statisticsDue cfg (getTimeSinceBootMs it.timeMs) lastUpdate) i feed
      rw [last] at step
      have gap := step.gap (later _ (List.mem_cons_self _ _))
      simp only [slotLoop, attemptTimes]
      split
      · rename_i attempted
        rw [if_pos attempted] at gap
        exact List.chain'_cons.2 ⟨gap.1, ih _ _ _ gap.2 sorted⟩
      · rename_i quiet
        rw [if_neg quiet] at gap
        refine ih _ _ t₀ gap ?_
        exact List.pairwise_cons.2 ⟨fun b member => later b (List.mem_cons_of_mem _ member),
          List.Pairwise.of_cons sorted⟩

theorem any_isSocketFor_opsFor (i : Nat) (ops : List Op) :
    (opsFor i ops).any (Op.isSocketFor i) = ops.any (Op.isSocketFor i) := by
  simp only [opsFor, List.any_filter]
  congr 1
  funext op
  cases op <;> simp [Op.isSocketFor, Op.feed]

theorem attemptTimes_map_opsFor (i : Nat) (run : List (Iteration Packet)) (transcript : List (List Op)) :
    attemptTimes i run (transcript.map (opsFor i)) = attemptTimes i run transcript := by
  induction run generalizing transcript with
  | nil => rfl
  | cons it run ih =>
      cases transcript with
      | nil => rfl
      | cons ops transcript => simp only [List.map_cons, attemptTimes, any_isSocketFor_opsFor, ih]

/-! ## The statistics update -/

theorem any_isFeedMsgsPerSec_updateStatistics (timestampMs : UInt32) (task : Task w) :
    (updateStatistics cfg timestampMs task).2.any Op.isFeedMsgsPerSec =
      statisticsDue cfg timestampMs task.feedMpsLastUpdateTimestampMs := by
  unfold updateStatistics statisticsDue
  split <;> simp [Op.isFeedMsgsPerSec, *]

/-- A turn prints the statistics line exactly when the update is due, with or
without a packet. -/
theorem any_isFeedMsgsPerSec_stationIteration (it : Iteration Packet) (task : Task w) :
    (stationIteration cfg it task).2.any Op.isFeedMsgsPerSec =
      statisticsDue cfg (getTimeSinceBootMs it.timeMs) task.feedMpsLastUpdateTimestampMs := by
  unfold stationIteration
  split
  · exact any_isFeedMsgsPerSec_updateStatistics cfg _ task
  · have forFeeds := isSome_feed_of_mem_forEachFeed cfg it ‹_› (List.range cfg.kMaxNumFeeds)
      (updateStatistics cfg (getTimeSinceBootMs it.timeMs) task).1
    have quiet : (forEachFeed cfg it ‹_› (List.range cfg.kMaxNumFeeds)
        (updateStatistics cfg (getTimeSinceBootMs it.timeMs) task).1).2.any Op.isFeedMsgsPerSec = false :=
      List.any_eq_false.2 fun op member => by
        cases op <;> first | exact Bool.false_ne_true | exact absurd (forFeeds _ member) (by simp [Op.feed])
    rw [List.any_append, quiet, Bool.or_false, any_isFeedMsgsPerSec_updateStatistics]

/-- A turn meters the statistics update. -/
theorem stationIteration_metered (it : Iteration Packet) (task : Task w) :
    Metered cfg.kMsPerSec it.timeMs task.feedMpsLastUpdateTimestampMs
      (stationIteration cfg it task).1.feedMpsLastUpdateTimestampMs
      ((stationIteration cfg it task).2.any Op.isFeedMsgsPerSec) := by
  rw [any_isFeedMsgsPerSec_stationIteration, stationIteration_feedMpsLastUpdateTimestampMs]
  unfold Metered statisticsDue
  split <;> simp_all

/-- Over a run whose last statistics update was at `t₀`, on a clock that does
not run backwards, every update comes more than `kMsPerSec` after the one
before. -/
theorem stationLoop_updateTimes_from (run : List (Iteration Packet)) (task : Task w) (t₀ : Nat)
    (last : task.feedMpsLastUpdateTimestampMs = getTimeSinceBootMs t₀)
    (sorted : (t₀ :: run.map Iteration.timeMs).Pairwise (· ≤ ·)) :
    (t₀ :: updateTimes run (stationLoop cfg run task).2).Chain' fun a b => a + cfg.kMsPerSec.toNat < b := by
  induction run generalizing task t₀ with
  | nil => exact List.chain'_singleton _
  | cons it run ih =>
      obtain ⟨later, sorted⟩ := List.pairwise_cons.1 sorted
      have step := stationIteration_metered cfg it task
      rw [last] at step
      have gap := step.gap (later _ (List.mem_cons_self _ _))
      simp only [stationLoop, updateTimes]
      split
      · rename_i printed
        rw [if_pos printed] at gap
        exact List.chain'_cons.2 ⟨gap.1, ih _ _ gap.2 sorted⟩
      · rename_i quiet
        rw [if_neg quiet] at gap
        refine ih _ t₀ gap ?_
        exact List.pairwise_cons.2 ⟨fun b member => later b (List.mem_cons_of_mem _ member),
          List.Pairwise.of_cons sorted⟩

/-- From any state, successive statistics updates of a run are more than
`kMsPerSec` apart. -/
theorem stationLoop_updateTimes (run : List (Iteration Packet)) (task : Task w)
    (sorted : (run.map Iteration.timeMs).Pairwise (· ≤ ·)) :
    (updateTimes run (stationLoop cfg run task).2).Chain' fun a b => a + cfg.kMsPerSec.toNat < b := by
  induction run generalizing task with
  | nil => exact List.chain'_nil
  | cons it run ih =>
      have step := stationIteration_metered cfg it task
      simp only [stationLoop, updateTimes]
      split
      · rename_i printed
        rw [printed, Metered, if_pos rfl] at step
        exact stationLoop_updateTimes_from cfg run _ it.timeMs step.2 sorted
      · exact ih _ (List.Pairwise.of_cons sorted)

/-- The times of an event metered against `interval`, on the true times of
the readings that test it: from a last event at `last`, the first reading more
than `interval` later, then the first more than `interval` after that one, and
so on.  For the statistics line, the heartbeat it is meant to be. -/
def heartbeats (interval last : Nat) : List Nat → List Nat
  | [] => []
  | t :: ts => if last + interval < t then t :: heartbeats interval t ts else heartbeats interval last ts

/-- From a last update at `t₀` and a turn at `p` no more than `kMsPerSec`
after it, on readings that never go backwards and come less than one wrap of
the clock apart (less `kMsPerSec`), the updates are the heartbeats. -/
theorem updateTimes_stationLoop_from (run : List (Iteration Packet)) (task : Task w) (t₀ p : Nat)
    (last : task.feedMpsLastUpdateTimestampMs = getTimeSinceBootMs t₀) (behind : t₀ ≤ p)
    (within : p ≤ t₀ + cfg.kMsPerSec.toNat)
    (paced : (p :: run.map Iteration.timeMs).Chain' fun a b => a ≤ b ∧ b + cfg.kMsPerSec.toNat < a + UInt32.size) :
    updateTimes run (stationLoop cfg run task).2 = heartbeats cfg.kMsPerSec.toNat t₀ (run.map Iteration.timeMs) := by
  induction run generalizing task t₀ p with
  | nil => rfl
  | cons it run ih =>
      obtain ⟨⟨ordered, close⟩, paced⟩ := List.chain'_cons.1 paced
      have exact := lt_elapsed_iff cfg.kMsPerSec (behind.trans ordered) (by omega)
      have printed := any_isFeedMsgsPerSec_stationIteration cfg it task
      have next := stationIteration_feedMpsLastUpdateTimestampMs cfg it task
      rw [last, statisticsDue] at printed next
      simp only [stationLoop, updateTimes, heartbeats, List.map_cons, printed]
      by_cases due : t₀ + cfg.kMsPerSec.toNat < it.timeMs
      · simp only [exact.2 due, decide_True, if_true, due] at next ⊢
        exact congrArg _ (ih _ it.timeMs it.timeMs next le_rfl (Nat.le_add_right _ _) paced)
      · simp only [mt exact.1 due, decide_False, Bool.false_eq_true, if_false, due] at next ⊢
        exact ih _ t₀ it.timeMs next (behind.trans ordered) (by omega) paced

/-! ## A run of the task -/

theorem sublist_clockReadings_timeMs (run : List (Iteration Packet)) :
    (run.map Iteration.timeMs).Sublist (clockReadings cfg run) := by
  induction run with
  | nil => exact List.Sublist.slnil
  | cons it run ih =>
      simp only [clockReadings, List.flatMap_cons, List.map_cons, List.cons_append] at ih ⊢
      exact (ih.trans (List.sublist_append_right _ _)).cons₂ _

theorem sublist_clockReadings_reconnectTimeMs (run : List (Iteration Packet)) {i : Nat}
    (slot : i < cfg.kMaxNumFeeds) :
    (run.map fun it => (it.calls i).reconnectTimeMs).Sublist (clockReadings cfg run) := by
  induction run with
  | nil => exact List.Sublist.slnil
  | cons it run ih =>
      simp only [clockReadings, List.flatMap_cons, List.map_cons] at ih ⊢
      have read : (it.calls i).reconnectTimeMs ∈
          it.timeMs :: (List.range cfg.kMaxNumFeeds).map fun j => (it.calls j).reconnectTimeMs := by
        simp only [List.mem_cons, List.mem_map, List.mem_range]
        exact Or.inr ⟨i, slot, rfl⟩
      exact List.singleton_append ▸ (List.singleton_sublist.2 read).append ih

/-- On a clock whose readings never go backwards, over every run of the task:
the reconnection attempts of a feed slot are more than
`kWiFiTCPSocketReconnectIntervalMs` apart in true time, the first of them after
that much time since boot, and the statistics updates are more than `kMsPerSec`
apart, however often the 32-bit millisecond clock wraps in between. -/
theorem stationLoop_metered (run : List (Iteration Packet)) (members : Task w)
    (i : Fin cfg.kMaxNumFeeds) (monotone : (clockReadings cfg run).Pairwise (· ≤ ·)) :
    let transcript := (stationLoop cfg run members.start).2
    (∀ t ∈ (attemptTimes i run transcript).head?, kWiFiTCPSocketReconnectIntervalMs.toNat < t) ∧
      (attemptTimes i run transcript).Chain'
        (fun a b => a + kWiFiTCPSocketReconnectIntervalMs.toNat < b) ∧
      (updateTimes run transcript).Chain' fun a b => a + cfg.kMsPerSec.toNat < b := by
  have slot := stationLoop_slot cfg i run members.start
  have readings := List.Pairwise.sublist (sublist_clockReadings_reconnectTimeMs cfg run i.isLt) monotone
  have attempts := slotLoop_attemptTimes cfg i run members.start.feedMpsLastUpdateTimestampMs
    (members.start.feeds i) 0 rfl
    (List.pairwise_cons.2 ⟨fun _ _ => Nat.zero_le _, readings⟩)
  rw [slot, attemptTimes_map_opsFor] at attempts
  obtain ⟨first, rest⟩ := List.chain'_cons'.1 attempts
  exact ⟨fun t member => by simpa using first t member, rest,
    stationLoop_updateTimes cfg run _ (List.Pairwise.sublist (sublist_clockReadings_timeMs cfg run) monotone)⟩

/-- Three turns on either side of the wrap, with `socket()` failing: attempts at
`UInt32.size - 2000` and `UInt32.size + 4000`, none in between. -/
theorem stationLoop_metered_across_wrap :
    let turn (t : Nat) : Iteration (List UInt8) :=
      { timeMs := t, received := some [1, 2, 3], settings := fun _ => demoSettings,
        calls := fun _ => { demoCalls 3 with reconnectTimeMs := t, socket := .error }, destAddr := fun _ => default }
    let run := [turn (UInt32.size - 2000), turn (UInt32.size + 1000), turn (UInt32.size + 4000)]
    (clockReadings demoCollaborators run).Pairwise (· ≤ ·) ∧
      let transcript := (stationLoop demoCollaborators run demoTask.start).2
      (∀ t ∈ (attemptTimes 0 run transcript).head?, kWiFiTCPSocketReconnectIntervalMs.toNat < t) ∧
        (attemptTimes 0 run transcript).Chain'
          (fun a b => a + kWiFiTCPSocketReconnectIntervalMs.toNat < b) ∧
        (updateTimes run transcript).Chain' fun a b => a + demoCollaborators.kMsPerSec.toNat < b :=
  ⟨by decide, stationLoop_metered demoCollaborators _ demoTask ⟨0, by decide⟩ (by decide)⟩

/-- Over every run from a state whose last statistics update was at true time
`t₀`, on readings at the top of the turns that never go backwards and come less
than one wrap of the clock (less `kMsPerSec`) apart: the task prints the
statistics line exactly at the heartbeats, at the first turn more than
`kMsPerSec` after the last update whether or not that turn dequeued a packet,
then at the first turn more than `kMsPerSec` after that one, and so on; no line
comes early and none is skipped. -/
theorem stationLoop_heartbeats (run : List (Iteration Packet)) (task : Task w) (t₀ : Nat)
    (last : task.feedMpsLastUpdateTimestampMs = getTimeSinceBootMs t₀)
    (paced : (t₀ :: run.map Iteration.timeMs).Chain' fun a b => a ≤ b ∧ b + cfg.kMsPerSec.toNat < a + UInt32.size) :
    updateTimes run (stationLoop cfg run task).2 = heartbeats cfg.kMsPerSec.toNat t₀ (run.map Iteration.timeMs) :=
  updateTimes_stationLoop_from cfg run task t₀ t₀ last le_rfl (Nat.le_add_right _ _) paced

/-- Four idle turns, the queue timing out each time: lines at `1500` and
`2600`, none at `2000` or `3000`. -/
theorem stationLoop_heartbeats_idle :
    let turn (t : Nat) : Iteration (List UInt8) :=
      { timeMs := t, received := none, settings := fun _ => demoSettings, calls := fun _ => demoCalls 3,
        destAddr := fun _ => default }
    let run := [turn 1500, turn 2000, turn 2600, turn 3000]
    demoTask.start.feedMpsLastUpdateTimestampMs = getTimeSinceBootMs 0 ∧
      (0 :: run.map Iteration.timeMs).Chain'
        (fun a b => a ≤ b ∧ b + demoCollaborators.kMsPerSec.toNat < a + UInt32.size) ∧
      updateTimes run (stationLoop demoCollaborators run demoTask.start).2 =
        heartbeats demoCollaborators.kMsPerSec.toNat 0 (run.map Iteration.timeMs) :=
  have paced : (0 :: [1500, 2000, 2600, 3000]).Chain'
      (fun a b => a ≤ b ∧ b + demoCollaborators.kMsPerSec.toNat < a + UInt32.size) := by
    simp only [List.chain'_cons, List.chain'_singleton, and_true]
    decide
  ⟨rfl, paced, stationLoop_heartbeats demoCollaborators _ demoTask.start 0 rfl paced⟩

/-! ## A feed whose endpoint refuses every connection -/

section Body

variable (i : Nat) (settings : FeedSettings) (calls : FeedCalls) (refused : calls.connect ≠ 0)
include refused

theorem dial_refused (destAddr : SockaddrIn) (feed : Feed w) :
    (dial i settings calls destAddr feed).feed.feedSockIsConnected = false := by
  have connect : ∀ sinAddr lookup,
      (connectSocket i settings calls sinAddr lookup feed).feed.feedSockIsConnected = false := by
    intro sinAddr lookup
    rcases connectSocket_cases i settings calls sinAddr lookup feed with ⟨-, step⟩ | ⟨accepted, -⟩
    · simp [step]
    · exact absurd accepted refused
  rcases dial_cases i settings calls destAddr feed with ⟨-, -, step⟩ | ⟨_, ⟨-, -, step⟩ | ⟨-, step⟩⟩ <;>
    simp [step, connect]

/-- With `connect()` refused, the reconnect block of a disconnected feed leaves
it disconnected, and makes an attempt exactly when the interval has passed. -/
theorem openFeed_refused (destAddr : SockaddrIn) (feed : Feed w) (disconnected : feed.feedSockIsConnected = false) :
    (openFeed i settings calls destAddr feed).feed.feedSockIsConnected = false ∧
      (openFeed i settings calls destAddr feed).ops.any (Op.isSocketFor i) =
        decide (kWiFiTCPSocketReconnectIntervalMs <
          getTimeSinceBootMs calls.reconnectTimeMs - feed.feedSockLastConnectTimestampMs) := by
  simp only [openFeed, disconnected, Bool.false_eq_true, if_false]
  rcases reconnect_cases i settings calls destAddr feed with ⟨early, step⟩ | ⟨due, -, step⟩ | ⟨due, -, step⟩ <;>
    rw [step]
  · simp [disconnected, UInt32.not_lt.2 early]
  · simp [disconnected, due, Op.isSocketFor]
  · simp [due, Op.isSocketFor, dial_refused i settings calls refused]

theorem feedIteration_refused (packet : Packet) (destAddr : SockaddrIn) (feed : Feed w)
    (disconnected : feed.feedSockIsConnected = false) (active : settings.feedIsActive = true) :
    (feedIteration cfg i settings calls packet destAddr feed).feed.feedSockIsConnected = false ∧
      (feedIteration cfg i settings calls packet destAddr feed).ops.any (Op.isSocketFor i) =
        decide (kWiFiTCPSocketReconnectIntervalMs <
          getTimeSinceBootMs calls.reconnectTimeMs - feed.feedSockLastConnectTimestampMs) := by
  have opened := openFeed_refused i settings calls refused destAddr feed disconnected
  rcases feedIteration_cases cfg i settings calls packet destAddr feed with
    ⟨-, connected, -⟩ | ⟨-, -, step⟩ | ⟨inactive, -⟩
  · simp [opened.1] at connected
  · rw [step]
    exact opened
  · simp [active] at inactive

end Body

/-- The readings at the reconnect check of slot `i` over a run: one for each
turn that dequeued a packet, the only turns whose feed loop runs. -/
def checkTimes (i : Nat) (run : List (Iteration Packet)) : List Nat :=
  (run.filter fun it => it.received.isSome).map fun it => (it.calls i).reconnectTimeMs

/-- A turn on an active disconnected slot whose `connect()` is refused: the
slot stays disconnected, and the turn attempts exactly when it dequeued a
packet and the interval has passed. -/
theorem slotIteration_refused (it : Iteration Packet) (due : Bool) {i : Nat} (slot : i < cfg.kMaxNumFeeds)
    (feed : Feed w) (disconnected : feed.feedSockIsConnected = false)
    (active : (it.settings i).feedIsActive = true) (refused : (it.calls i).connect ≠ 0) :
    (slotIteration cfg it due i feed).1.feedSockIsConnected = false ∧
      (slotIteration cfg it due i feed).2.any (Op.isSocketFor i) =
        (it.received.isSome && decide (kWiFiTCPSocketReconnectIntervalMs <
          getTimeSinceBootMs (it.calls i).reconnectTimeMs - feed.feedSockLastConnectTimestampMs)) := by
  rcases received : it.received with _ | packet
  · simp only [slotIteration, received, Option.isSome_none, Bool.false_and, List.any_nil, and_true]
    split <;> exact disconnected
  · simp only [slotIteration, received, slot, decide_True, Bool.and_true, if_true, Option.isSome_some,
      Bool.true_and]
    have stamp : (if due = true then feed.publish else feed).feedSockLastConnectTimestampMs =
        feed.feedSockLastConnectTimestampMs := by
      split <;> rfl
    rw [← stamp]
    exact feedIteration_refused cfg i _ _ refused packet _ _ (by split <;> exact disconnected) active

/-- A turn, from any state, on an active disconnected slot whose `connect()` is
refused: the slot stays disconnected, and the turn attempts, metered, exactly
when it dequeued a packet and the interval has passed. -/
theorem stationIteration_refused (it : Iteration Packet) (task : Task w) {i : Nat} (slot : i < cfg.kMaxNumFeeds)
    (disconnected : (task.feeds i).feedSockIsConnected = false) (active : (it.settings i).feedIsActive = true)
    (refused : (it.calls i).connect ≠ 0) :
    let attempted := it.received.isSome && decide (kWiFiTCPSocketReconnectIntervalMs <
      getTimeSinceBootMs (it.calls i).reconnectTimeMs - (task.feeds i).feedSockLastConnectTimestampMs)
    ((stationIteration cfg it task).1.feeds i).feedSockIsConnected = false ∧
      (stationIteration cfg it task).2.any (Op.isSocketFor i) = attempted ∧
      Metered kWiFiTCPSocketReconnectIntervalMs (it.calls i).reconnectTimeMs
        (task.feeds i).feedSockLastConnectTimestampMs
        ((stationIteration cfg it task).1.feeds i).feedSockLastConnectTimestampMs attempted := by
  have slotStep := stationIteration_slot cfg it task i
  have step := slotIteration_refused cfg it
    (statisticsDue cfg (getTimeSinceBootMs it.timeMs) task.feedMpsLastUpdateTimestampMs) slot
    (task.feeds i) disconnected active refused
  have metered := slotIteration_metered cfg it
    (statisticsDue cfg (getTimeSinceBootMs it.timeMs) task.feedMpsLastUpdateTimestampMs) i (task.feeds i)
  rw [slotStep, any_isSocketFor_opsFor] at step metered
  exact ⟨step.1, step.2, step.2 ▸ metered⟩

/-- From a last attempt at `t₀` and a check at `p` no more than the interval
after it, on paced readings, a slot whose `connect()` is refused stays
disconnected and attempts exactly at the heartbeats of its checks. -/
theorem stationLoop_retries_from (run : List (Iteration Packet)) (task : Task w) {i : Nat}
    (slot : i < cfg.kMaxNumFeeds) (t₀ p : Nat) (disconnected : (task.feeds i).feedSockIsConnected = false)
    (last : (task.feeds i).feedSockLastConnectTimestampMs = getTimeSinceBootMs t₀) (behind : t₀ ≤ p)
    (within : p ≤ t₀ + kWiFiTCPSocketReconnectIntervalMs.toNat)
    (refused : ∀ it ∈ run, (it.settings i).feedIsActive = true ∧ (it.calls i).connect ≠ 0)
    (paced : (p :: checkTimes i run).Chain' fun a b =>
      a ≤ b ∧ b + kWiFiTCPSocketReconnectIntervalMs.toNat < a + UInt32.size) :
    ((stationLoop cfg run task).1.feeds i).feedSockIsConnected = false ∧
      attemptTimes i run (stationLoop cfg run task).2 =
        heartbeats kWiFiTCPSocketReconnectIntervalMs.toNat t₀ (checkTimes i run) := by
  induction run generalizing task t₀ p with
  | nil => exact ⟨disconnected, rfl⟩
  | cons it run ih =>
      obtain ⟨active, refusedNow⟩ := refused it (List.mem_cons_self _ _)
      have later := fun it member => refused it (List.mem_cons_of_mem _ member)
      obtain ⟨stays, attempted, metered⟩ := stationIteration_refused cfg it task slot disconnected active refusedNow
      rw [last] at attempted metered
      simp only [stationLoop, attemptTimes, attempted]
      rcases received : it.received with _ | packet
      · have skipped : checkTimes i (it :: run) = checkTimes i run := by simp [checkTimes, received]
        simp only [received, Option.isSome_none, Bool.false_and, Bool.false_eq_true, if_false, skipped] at metered ⊢
        exact ih _ t₀ p stays metered behind within later (skipped ▸ paced)
      · have checked : checkTimes i (it :: run) = (it.calls i).reconnectTimeMs :: checkTimes i run := by
          simp [checkTimes, received]
        rw [checked] at paced ⊢
        obtain ⟨⟨ordered, close⟩, paced⟩ := List.chain'_cons.1 paced
        have exact := lt_elapsed_iff kWiFiTCPSocketReconnectIntervalMs (behind.trans ordered) (by omega)
        simp only [received, Option.isSome_some, Bool.true_and, heartbeats] at metered ⊢
        by_cases due : t₀ + kWiFiTCPSocketReconnectIntervalMs.toNat < (it.calls i).reconnectTimeMs
        · simp only [exact.2 due, decide_True, if_true, due, Metered] at metered ⊢
          obtain ⟨rest, times⟩ := ih _ _ _ stays metered.2 le_rfl (Nat.le_add_right _ _) later paced
          exact ⟨rest, congrArg _ times⟩
        · simp only [mt exact.1 due, decide_False, Bool.false_eq_true, if_false, due, Metered] at metered ⊢
          exact ih _ t₀ _ stays metered (behind.trans ordered) (by omega) later paced

/-- Over every run in which feed slot `i` starts disconnected with its last
attempt at true time `t₀`, is active in every turn and has every `connect()`
refused, on reconnect-check readings that never go backwards and come less
than one wrap of the clock (less the interval) apart: the slot never connects,
and it keeps trying, attempting exactly at the first turn that dequeues a
packet more than `kWiFiTCPSocketReconnectIntervalMs` after the last attempt,
each time; no attempt comes early and none is skipped. -/
theorem stationLoop_retries (run : List (Iteration Packet)) (task : Task w) {i : Nat}
    (slot : i < cfg.kMaxNumFeeds) (t₀ : Nat) (disconnected : (task.feeds i).feedSockIsConnected = false)
    (last : (task.feeds i).feedSockLastConnectTimestampMs = getTimeSinceBootMs t₀)
    (refused : ∀ it ∈ run, (it.settings i).feedIsActive = true ∧ (it.calls i).connect ≠ 0)
    (paced : (t₀ :: checkTimes i run).Chain' fun a b =>
      a ≤ b ∧ b + kWiFiTCPSocketReconnectIntervalMs.toNat < a + UInt32.size) :
    ((stationLoop cfg run task).1.feeds i).feedSockIsConnected = false ∧
      attemptTimes i run (stationLoop cfg run task).2 =
        heartbeats kWiFiTCPSocketReconnectIntervalMs.toNat t₀ (checkTimes i run) :=
  stationLoop_retries_from cfg run task slot t₀ t₀ disconnected last le_rfl (Nat.le_add_right _ _) refused paced

/-- A turn at true time `t` on the demo feed, its `connect()` refused. -/
def demoRefusedTurn (t : Nat) (packet : Option (List UInt8)) : Iteration (List UInt8) :=
  { timeMs := t, received := packet, settings := fun _ => demoSettings,
    calls := fun _ => { demoCalls 3 with reconnectTimeMs := t, connect := -1 }, destAddr := fun _ => default }

/-- Packets at `6000`, `9000` and `11500` and an idle turn at `7000`. -/
def demoRefusedRun : List (Iteration (List UInt8)) :=
  [demoRefusedTurn 6000 (some [1]), demoRefusedTurn 7000 none, demoRefusedTurn 9000 (some [2]),
    demoRefusedTurn 11500 (some [3])]

/-- The refused feed attempts at `6000` and `11500`, none at `9000`. -/
theorem stationLoop_retries_demo :
    0 < demoCollaborators.kMaxNumFeeds ∧ (demoTask.start.feeds 0).feedSockIsConnected = false ∧
      (demoTask.start.feeds 0).feedSockLastConnectTimestampMs = getTimeSinceBootMs 0 ∧
      (∀ it ∈ demoRefusedRun, (it.settings 0).feedIsActive = true ∧ (it.calls 0).connect ≠ 0) ∧
      (0 :: checkTimes 0 demoRefusedRun).Chain'
        (fun a b => a ≤ b ∧ b + kWiFiTCPSocketReconnectIntervalMs.toNat < a + UInt32.size) ∧
      (((stationLoop demoCollaborators demoRefusedRun demoTask.start).1.feeds 0).feedSockIsConnected = false ∧
        attemptTimes 0 demoRefusedRun (stationLoop demoCollaborators demoRefusedRun demoTask.start).2 =
          heartbeats kWiFiTCPSocketReconnectIntervalMs.toNat 0 (checkTimes 0 demoRefusedRun)) := by
  have refused : ∀ it ∈ demoRefusedRun, (it.settings 0).feedIsActive = true ∧ (it.calls 0).connect ≠ 0 := by
    simp [demoRefusedRun, demoRefusedTurn, demoSettings, demoCalls]
  have paced : (0 :: checkTimes 0 demoRefusedRun).Chain'
      (fun a b => a ≤ b ∧ b + kWiFiTCPSocketReconnectIntervalMs.toNat < a + UInt32.size) := by
    show List.Chain' _ [0, 6000, 9000, 11500]
    simp only [List.chain'_cons, List.chain'_singleton, and_true]
    decide
  exact ⟨by decide, rfl, rfl, refused, paced,
    stationLoop_retries demoCollaborators demoRefusedRun demoTask.start (by decide) 0 rfl rfl refused paced⟩

end CommsWiFi.Station
