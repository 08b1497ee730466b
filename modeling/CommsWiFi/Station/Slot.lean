import CommsWiFi.Station.Model

/-!
# Each feed on its own

The feed loop changes slot `i` only in the turn of slot `i`, and every call it
makes there is made for `i`.  `stationLoop_slot` turns a run of the whole task
into a run of one slot alone (`slotLoop`), which reads nothing of the other
slots.  The properties of a single feed
are proved on `slotLoop` and carried back to the task by this theorem.
-/

namespace CommsWiFi.Station

variable {Packet : Type} (cfg : Collaborators Packet) {w : Nat}

/-! ## Calls made for one feed -/

/-- Every call of a list is made for feed `i`. -/
def Tagged (i : Nat) (ops : List Op) : Prop := ∀ op ∈ ops, op.feed = some i

theorem opsFor_of_tagged {i j : Nat} {ops : List Op} (tagged : Tagged j ops) :
    opsFor i ops = if i = j then ops else [] := by
  split
  · subst i
    exact List.filter_eq_self.2 fun op member => by simp [tagged op member]
  · exact List.filter_eq_nil_iff.2 fun op member => by simp [tagged op member, Ne.symm ‹i ≠ j›]

@[simp] theorem opsFor_append (i : Nat) (ops ops' : List Op) :
    opsFor i (ops ++ ops') = opsFor i ops ++ opsFor i ops' := List.filter_append _ _

theorem opsFor_flatten (i : Nat) (transcript : List (List Op)) :
    opsFor i transcript.flatten = (transcript.map (opsFor i)).flatten := List.filter_flatten _ _

@[simp] theorem tagged_nil (i : Nat) : Tagged i [] := fun _ member => absurd member (List.not_mem_nil _)

@[simp] theorem tagged_cons {i : Nat} {op : Op} {ops : List Op} :
    Tagged i (op :: ops) ↔ op.feed = some i ∧ Tagged i ops := List.forall_mem_cons

@[simp] theorem tagged_append {i : Nat} {ops ops' : List Op} :
    Tagged i (ops ++ ops') ↔ Tagged i ops ∧ Tagged i ops' := List.forall_mem_append

section Body

variable (i : Nat) (settings : FeedSettings) (calls : FeedCalls)

theorem tagged_closeInactive (feed : Feed w) : Tagged i (closeInactive i feed).2 := by
  unfold closeInactive
  split <;> simp [Op.feed]

theorem tagged_connectSocket (sinAddr : InAddr) {lookup : List Op} (tagged : Tagged i lookup)
    (feed : Feed w) : Tagged i (connectSocket i settings calls sinAddr lookup feed).ops := by
  rcases connectSocket_cases i settings calls sinAddr lookup feed with ⟨-, step⟩ | ⟨-, step⟩ <;>
    simp [step, Op.feed, tagged]

theorem tagged_dial (destAddr : SockaddrIn) (feed : Feed w) :
    Tagged i (dial i settings calls destAddr feed).ops := by
  rcases dial_cases i settings calls destAddr feed with ⟨-, -, step⟩ | ⟨_, ⟨-, -, step⟩ | ⟨-, step⟩⟩ <;> rw [step]
  · simp [Op.feed]
  · exact tagged_connectSocket _ _ _ _ (by simp [Op.feed]) _
  · exact tagged_connectSocket _ _ _ _ (tagged_nil i) _

theorem tagged_reconnect (destAddr : SockaddrIn) (feed : Feed w) :
    Tagged i (reconnect i settings calls destAddr feed).ops := by
  rcases reconnect_cases i settings calls destAddr feed with ⟨-, step⟩ | ⟨-, -, step⟩ | ⟨-, -, step⟩ <;>
    rw [step]
  · exact tagged_nil i
  · simp [Op.feed]
  · simpa [Op.feed] using tagged_dial i settings calls destAddr _

theorem tagged_sendPacket (packet : Packet) (feed : Feed w) :
    Tagged i (sendPacket cfg i settings calls packet feed).2 := by
  rcases sendPacket_cases cfg i settings calls packet feed with step | ⟨-, step⟩ | ⟨-, step⟩ <;>
    simp [step, Op.feed]

theorem tagged_openFeed (destAddr : SockaddrIn) (feed : Feed w) :
    Tagged i (openFeed i settings calls destAddr feed).ops := by
  unfold openFeed
  split
  · exact tagged_nil i
  · exact tagged_reconnect i settings calls destAddr feed

theorem tagged_feedIteration (packet : Packet) (destAddr : SockaddrIn) (feed : Feed w) :
    Tagged i (feedIteration cfg i settings calls packet destAddr feed).ops := by
  have opened := tagged_openFeed i settings calls destAddr feed
  rcases feedIteration_cases cfg i settings calls packet destAddr feed with ⟨-, -, step⟩ | ⟨-, -, step⟩ | ⟨-, step⟩ <;>
    rw [step]
  · exact tagged_append.2 ⟨opened, tagged_sendPacket cfg i settings calls packet _⟩
  · exact opened
  · exact tagged_closeInactive i feed

end Body

/-! ## One turn -/

/-- The feed loop leaves a slot outside `feeds` alone, and does to a slot in
`feeds` what the loop body does. -/
theorem forEachFeed_slot (it : Iteration Packet) (packet : Packet) (i : Nat) :
    ∀ (feeds : List Nat) (task : Task w), feeds.Nodup →
      (i ∉ feeds → (forEachFeed cfg it packet feeds task).1.feeds i = task.feeds i ∧
        opsFor i (forEachFeed cfg it packet feeds task).2 = []) ∧
      (i ∈ feeds →
        (forEachFeed cfg it packet feeds task).1.feeds i =
          (feedIteration cfg i (it.settings i) (it.calls i) packet (it.destAddr i) (task.feeds i)).feed ∧
        opsFor i (forEachFeed cfg it packet feeds task).2 =
          (feedIteration cfg i (it.settings i) (it.calls i) packet (it.destAddr i) (task.feeds i)).ops)
  | [], task, _ => ⟨fun _ => ⟨rfl, rfl⟩, fun member => absurd member (List.not_mem_nil i)⟩
  | j :: feeds, task, nodup => by
      obtain ⟨fresh, nodup⟩ := List.nodup_cons.1 nodup
      set step := feedIteration cfg j (it.settings j) (it.calls j) packet (it.destAddr j) (task.feeds j)
        with stepDef
      have tagged : Tagged j step.ops := tagged_feedIteration cfg j _ _ packet _ _
      obtain ⟨outside, inside⟩ := forEachFeed_slot it packet i feeds
        { task with feeds := Function.update task.feeds j step.feed } nodup
      simp only [forEachFeed, opsFor_append, opsFor_of_tagged tagged, List.mem_cons]
      by_cases same : i = j
      · subst same
        obtain ⟨unchanged, none⟩ := outside fresh
        refine ⟨fun absent => absurd (Or.inl rfl) absent, fun _ => ⟨?_, ?_⟩⟩
        · simpa using unchanged
        · simp [none]
      · simp only [same, if_false, List.nil_append, false_or]
        refine ⟨fun absent => ?_, fun member => ?_⟩
        · obtain ⟨unchanged, none⟩ := outside absent
          exact ⟨by simpa [Function.update_noteq same] using unchanged, none⟩
        · simpa [Function.update_noteq same] using inside member

/-- Every call of the feed loop is made for a feed. -/
theorem isSome_feed_of_mem_forEachFeed (it : Iteration Packet) (packet : Packet) :
    ∀ (feeds : List Nat) (task : Task w), ∀ op ∈ (forEachFeed cfg it packet feeds task).2, op.feed.isSome
  | [], _, _, member => absurd member (List.not_mem_nil _)
  | j :: feeds, task, op, member => by
      rcases List.mem_append.1 member with mine | rest
      · simp [tagged_feedIteration cfg j _ _ packet _ _ op mine]
      · exact isSome_feed_of_mem_forEachFeed it packet feeds _ op rest

theorem forEachFeed_feedMpsLastUpdateTimestampMs (it : Iteration Packet) (packet : Packet) :
    ∀ (feeds : List Nat) (task : Task w),
      (forEachFeed cfg it packet feeds task).1.feedMpsLastUpdateTimestampMs =
        task.feedMpsLastUpdateTimestampMs
  | [], _ => rfl
  | _ :: feeds, _ => forEachFeed_feedMpsLastUpdateTimestampMs it packet feeds _

/-- Whether the statistics update fires at a reading `timestampMs`, the last
update having been at `lastUpdate`. -/
def statisticsDue (timestampMs lastUpdate : UInt32) : Bool :=
  decide (cfg.kMsPerSec < timestampMs - lastUpdate)

theorem updateStatistics_feeds (timestampMs : UInt32) (task : Task w) (i : Nat) :
    (updateStatistics cfg timestampMs task).1.feeds i =
      if statisticsDue cfg timestampMs task.feedMpsLastUpdateTimestampMs && decide (i < cfg.kMaxNumFeeds)
      then (task.feeds i).publish else task.feeds i := by
  by_cases due : cfg.kMsPerSec < timestampMs - task.feedMpsLastUpdateTimestampMs <;>
    simp [updateStatistics, statisticsDue, due]

theorem updateStatistics_feedMpsLastUpdateTimestampMs (timestampMs : UInt32) (task : Task w) :
    (updateStatistics cfg timestampMs task).1.feedMpsLastUpdateTimestampMs =
      if statisticsDue cfg timestampMs task.feedMpsLastUpdateTimestampMs then timestampMs
      else task.feedMpsLastUpdateTimestampMs := by
  by_cases due : cfg.kMsPerSec < timestampMs - task.feedMpsLastUpdateTimestampMs <;>
    simp [updateStatistics, statisticsDue, due]

theorem opsFor_updateStatistics (timestampMs : UInt32) (task : Task w) (i : Nat) :
    opsFor i (updateStatistics cfg timestampMs task).2 = [] := by
  unfold updateStatistics
  split <;> simp [opsFor, Op.feed]

/-- What one turn does to feed `i` alone: the statistics update when `due`,
then, with a packet and `i` a slot, the loop body. -/
def slotIteration (it : Iteration Packet) (due : Bool) (i : Nat) (feed : Feed w) : Feed w × List Op :=
  let feed := if due && decide (i < cfg.kMaxNumFeeds) then feed.publish else feed
  match it.received with
  | some packet =>
      if i < cfg.kMaxNumFeeds then
        let step := feedIteration cfg i (it.settings i) (it.calls i) packet (it.destAddr i) feed
        (step.feed, step.ops)
      else (feed, [])
  | none => (feed, [])

/-- What a turn can do to slot `i`: run the loop body on the slot as the
statistics update left it, when the turn has a packet and `i` is a slot, and
otherwise make no call. -/
theorem slotIteration_cases (it : Iteration Packet) (due : Bool) (i : Nat) (feed : Feed w) :
    (∃ packet, it.received = some packet ∧ i < cfg.kMaxNumFeeds ∧ slotIteration cfg it due i feed =
        ((feedIteration cfg i (it.settings i) (it.calls i) packet (it.destAddr i)
            (if due && decide (i < cfg.kMaxNumFeeds) then feed.publish else feed)).feed,
          (feedIteration cfg i (it.settings i) (it.calls i) packet (it.destAddr i)
            (if due && decide (i < cfg.kMaxNumFeeds) then feed.publish else feed)).ops)) ∨
      slotIteration cfg it due i feed =
        (if due && decide (i < cfg.kMaxNumFeeds) then feed.publish else feed, []) := by
  unfold slotIteration
  generalize (if due && decide (i < cfg.kMaxNumFeeds) then feed.publish else feed) = feed
  dsimp only
  split
  · split
    · exact Or.inl ⟨_, ‹_›, ‹_›, rfl⟩
    · exact Or.inr rfl
  · exact Or.inr rfl

/-- One turn of the task, seen from feed `i`. -/
theorem stationIteration_slot (it : Iteration Packet) (task : Task w) (i : Nat) :
    slotIteration cfg it (statisticsDue cfg (getTimeSinceBootMs it.timeMs) task.feedMpsLastUpdateTimestampMs) i
        (task.feeds i) =
      ((stationIteration cfg it task).1.feeds i, opsFor i (stationIteration cfg it task).2) := by
  rcases received : it.received with _ | packet
  · simp [stationIteration, slotIteration, received, updateStatistics_feeds, opsFor_updateStatistics]
  · obtain ⟨outside, inside⟩ := forEachFeed_slot cfg it packet i (List.range cfg.kMaxNumFeeds)
      (updateStatistics cfg (getTimeSinceBootMs it.timeMs) task).1 (List.nodup_range _)
    by_cases slot : i < cfg.kMaxNumFeeds
    · obtain ⟨feed, ops⟩ := inside (List.mem_range.2 slot)
      simp [stationIteration, slotIteration, received, slot, feed, ops, updateStatistics_feeds,
        opsFor_updateStatistics]
    · obtain ⟨feed, ops⟩ := outside (by simpa using slot)
      simp [stationIteration, slotIteration, received, slot, feed, ops, updateStatistics_feeds,
        opsFor_updateStatistics]

/-- With a packet, a turn does to slot `i` what the loop body does, to the slot
as the statistics update left it: with its connection fields unchanged. -/
theorem stationIteration_received (it : Iteration Packet) (task : Task w) {packet : Packet}
    (received : it.received = some packet) {i : Nat} (slot : i < cfg.kMaxNumFeeds) :
    ∃ feed, feed.feedSock = (task.feeds i).feedSock ∧
      feed.feedSockIsConnected = (task.feeds i).feedSockIsConnected ∧
      feed.feedSockLastConnectTimestampMs = (task.feeds i).feedSockLastConnectTimestampMs ∧
      (feedIteration cfg i (it.settings i) (it.calls i) packet (it.destAddr i) feed).feed =
        (stationIteration cfg it task).1.feeds i ∧
      (feedIteration cfg i (it.settings i) (it.calls i) packet (it.destAddr i) feed).ops =
        opsFor i (stationIteration cfg it task).2 := by
  have step := stationIteration_slot cfg it task i
  simp only [slotIteration, received, slot, if_true, Prod.mk.injEq] at step
  split at step
  · exact ⟨(task.feeds i).publish, rfl, rfl, rfl, step⟩
  · exact ⟨task.feeds i, rfl, rfl, rfl, step⟩

theorem stationIteration_feedMpsLastUpdateTimestampMs (it : Iteration Packet) (task : Task w) :
    (stationIteration cfg it task).1.feedMpsLastUpdateTimestampMs =
      if statisticsDue cfg (getTimeSinceBootMs it.timeMs) task.feedMpsLastUpdateTimestampMs
      then getTimeSinceBootMs it.timeMs else task.feedMpsLastUpdateTimestampMs := by
  unfold stationIteration
  split <;> simp [forEachFeed_feedMpsLastUpdateTimestampMs, updateStatistics_feedMpsLastUpdateTimestampMs]

/-! ## A run -/

/-- Feed `i` over a run, alone: `lastUpdate` is the time of the last statistics
update. -/
def slotLoop (i : Nat) : List (Iteration Packet) → UInt32 → Feed w → Feed w × List (List Op)
  | [], _, feed => (feed, [])
  | it :: run, lastUpdate, feed =>
      let due := statisticsDue cfg (getTimeSinceBootMs it.timeMs) lastUpdate
      let step := slotIteration cfg it due i feed
      let rest := slotLoop i run (if due then getTimeSinceBootMs it.timeMs else lastUpdate) step.1
      (rest.1, step.2 :: rest.2)

/-- A run of the task, seen from feed `i`, is a run of the slot alone. -/
theorem stationLoop_slot (i : Nat) :
    ∀ (run : List (Iteration Packet)) (task : Task w),
      slotLoop cfg i run task.feedMpsLastUpdateTimestampMs (task.feeds i) =
        ((stationLoop cfg run task).1.feeds i, (stationLoop cfg run task).2.map (opsFor i))
  | [], _ => rfl
  | it :: run, task => by
      have next := stationIteration_feedMpsLastUpdateTimestampMs cfg it task
      simp only [slotLoop, stationLoop, List.map_cons]
      rw [stationIteration_slot, ← next, stationLoop_slot i run (stationIteration cfg it task).1]

/-! ## Exit -/

/-- The closing loop on exit closes feed `i` if it is a slot and connected. -/
theorem closeAllFeeds_slot (i : Nat) :
    ∀ (feeds : List Nat) (task : Task w), feeds.Nodup →
      (closeAllFeeds feeds task).1.feeds i =
          (if i ∈ feeds ∧ (task.feeds i).feedSockIsConnected then (task.feeds i).disconnect
            else task.feeds i) ∧
        opsFor i (closeAllFeeds feeds task).2 =
          if i ∈ feeds ∧ (task.feeds i).feedSockIsConnected then [.close i (task.feeds i).feedSock]
          else []
  | [], task, _ => by simp [closeAllFeeds, opsFor]
  | j :: feeds, task, nodup => by
      obtain ⟨fresh, nodup⟩ := List.nodup_cons.1 nodup
      set closed : Feed w × List Op := if (task.feeds j).feedSockIsConnected then
          ((task.feeds j).disconnect, [Op.close j (task.feeds j).feedSock]) else (task.feeds j, [])
        with closedDef
      have tagged : Tagged j closed.2 := by
        rw [closedDef]
        split <;> simp [Op.feed]
      obtain ⟨feed, ops⟩ :=
        closeAllFeeds_slot i feeds { task with feeds := Function.update task.feeds j closed.1 } nodup
      simp only [closeAllFeeds]
      rw [opsFor_append, opsFor_of_tagged tagged, ops, feed]
      by_cases same : i = j
      · subst same
        cases connected : (task.feeds i).feedSockIsConnected <;> simp [closedDef, connected, fresh]
      · simp [same, Function.update_noteq same]

end CommsWiFi.Station
