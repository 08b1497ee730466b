import CommsWiFi.Station.Body

/-!
# Feed statistics

`feed_mps_counter_[i]` counts the sends of feed `i` that `send()` accepted, and
once a second the statistics update publishes it to `feed_mps[i]`, printed in
the `Feed msgs/s` line, and resets it.  `feedMpsCounter_conserved` is the
accounting over any run: the counter at the start plus the accepted sends is
what the statistics lines printed plus the counter now, in the counter's `w`-bit
arithmetic.  Line by line (`stationLoop_windowCounts`), each value printed for a
feed is the number of its sends accepted since the line before, in `w` bits:
what a meter that counts the accepted sends of the transcript and restarts at
each line (`windowCounts`) shows.  `feedMps_counts_accepted_sends` puts the two
together.
-/

namespace CommsWiFi.Station

variable {Packet : Type} (cfg : Collaborators Packet) {w : Nat}

/-- Whether a call is a `send()` for feed `i` that returned `≥ 0`. -/
def Op.isAcceptedSend (i : Nat) : Op → Bool
  | .send j _ _ result => j == i && decide (0 ≤ result)
  | _ => false

/-- The number of `send()` calls for feed `i` that returned `≥ 0`. -/
def successfulSends (i : Nat) (ops : List Op) : Nat := ops.countP (Op.isAcceptedSend i)

/-- The sum of the values the statistics lines print for feed `i`. -/
def publishedMps (i : Nat) : List Op → Nat
  | [] => 0
  | .feedMsgsPerSec feedMps :: ops => feedMps.getD i 0 + publishedMps i ops
  | _ :: ops => publishedMps i ops

@[simp] theorem successfulSends_append (i : Nat) (ops ops' : List Op) :
    successfulSends i (ops ++ ops') = successfulSends i ops + successfulSends i ops' :=
  List.countP_append _ _ _

@[simp] theorem publishedMps_append (i : Nat) (ops ops' : List Op) :
    publishedMps i (ops ++ ops') = publishedMps i ops + publishedMps i ops' := by
  induction ops with
  | nil => simp [publishedMps]
  | cons op ops ih => cases op <;> simp [publishedMps, ih, Nat.add_assoc]

theorem successfulSends_opsFor (i : Nat) (ops : List Op) :
    successfulSends i (opsFor i ops) = successfulSends i ops := by
  unfold successfulSends opsFor
  rw [List.countP_filter]
  congr 1
  funext op
  cases op <;> simp [Op.isAcceptedSend, Op.feed]
  exact fun same _ => same

/-- Calls made for feeds print nothing. -/
theorem publishedMps_eq_zero {i : Nat} {ops : List Op} (forFeeds : ∀ op ∈ ops, op.feed.isSome) :
    publishedMps i ops = 0 := by
  induction ops with
  | nil => rfl
  | cons op ops ih =>
      have rest := ih fun op member => forFeeds op (List.mem_cons_of_mem _ member)
      cases op <;> first
        | exact rest
        | exact absurd (forFeeds _ (List.mem_cons_self _ _)) (by simp [Op.feed])

section Body

variable (i : Nat) (settings : FeedSettings) (calls : FeedCalls)

theorem successfulSends_openFeed (destAddr : SockaddrIn) (feed : Feed w) :
    successfulSends i (openFeed i settings calls destAddr feed).ops = 0 :=
  List.countP_eq_zero.2 fun op member => by
    have := not_isSend_of_mem_openFeed i settings calls member
    cases op <;> simp_all [Op.isAcceptedSend, Op.isSend]

/-- The loop body adds one to the counter for each `send()` it makes that
returns `≥ 0`. -/
theorem feedIteration_feedMpsCounter (packet : Packet) (destAddr : SockaddrIn) (feed : Feed w) :
    (feedIteration cfg i settings calls packet destAddr feed).feed.feedMpsCounter =
      feed.feedMpsCounter +
        BitVec.ofNat w (successfulSends i (feedIteration cfg i settings calls packet destAddr feed).ops) := by
  obtain ⟨sock, connected, timestampMs, opened⟩ := openFeed_feed i settings calls destAddr feed
  have noSends := successfulSends_openFeed i settings calls destAddr feed
  rcases feedIteration_cases cfg i settings calls packet destAddr feed with ⟨-, -, step⟩ | ⟨-, -, step⟩ | ⟨-, step⟩ <;>
    rw [step]
  · rcases sendPacket_cases cfg i settings calls packet (openFeed i settings calls destAddr feed).feed with
      sent | ⟨failed, sent⟩ | ⟨accepted, sent⟩ <;>
      simp only [sent, successfulSends_append, noSends, Nat.zero_add]
    · simp [successfulSends, opened]
    · simp [successfulSends, Op.isAcceptedSend, opened, Int.not_le.2 failed]
    · simp [successfulSends, Op.isAcceptedSend, opened, accepted]
  · simp [opened, noSends]
  · unfold closeInactive
    split <;> simp [successfulSends, Op.isAcceptedSend]

end Body

/-- What one turn prints for feed `i`: its counter, when the update fires and
`i` is a slot. -/
theorem publishedMps_stationIteration (it : Iteration Packet) (task : Task w) (i : Nat) :
    publishedMps i (stationIteration cfg it task).2 =
      if statisticsDue cfg (getTimeSinceBootMs it.timeMs) task.feedMpsLastUpdateTimestampMs &&
          decide (i < cfg.kMaxNumFeeds)
      then (task.feeds i).feedMpsCounter.toNat else 0 := by
  have lines : publishedMps i (updateStatistics cfg (getTimeSinceBootMs it.timeMs) task).2 =
      if statisticsDue cfg (getTimeSinceBootMs it.timeMs) task.feedMpsLastUpdateTimestampMs &&
          decide (i < cfg.kMaxNumFeeds)
      then (task.feeds i).feedMpsCounter.toNat else 0 := by
    by_cases due : cfg.kMsPerSec < getTimeSinceBootMs it.timeMs - task.feedMpsLastUpdateTimestampMs
    · by_cases slot : i < cfg.kMaxNumFeeds
      · simp [updateStatistics, statisticsDue, due, slot, publishedMps, List.getElem?_range slot,
          Feed.publish]
      · have outside : (List.range cfg.kMaxNumFeeds)[i]? = none :=
          List.getElem?_eq_none (by simpa using slot)
        simp [updateStatistics, statisticsDue, due, slot, publishedMps, outside]
    · simp [updateStatistics, statisticsDue, due, publishedMps]
  unfold stationIteration
  split
  · exact lines
  · simp [lines, publishedMps_eq_zero (isSome_feed_of_mem_forEachFeed cfg it _ _ _)]

/-- A turn leaves feed `i`'s counter as the statistics update left it, plus
its accepted sends. -/
theorem slotIteration_feedMpsCounter (it : Iteration Packet) (due : Bool) (i : Nat) (feed : Feed w) :
    (slotIteration cfg it due i feed).1.feedMpsCounter =
      (if due && decide (i < cfg.kMaxNumFeeds) then 0 else feed.feedMpsCounter) +
        BitVec.ofNat w (successfulSends i (slotIteration cfg it due i feed).2) := by
  have published : (if due && decide (i < cfg.kMaxNumFeeds) then 0 else feed.feedMpsCounter) =
      (if due && decide (i < cfg.kMaxNumFeeds) then feed.publish else feed).feedMpsCounter := by
    split <;> rfl
  rcases slotIteration_cases cfg it due i feed with ⟨packet, -, -, step⟩ | step <;> rw [step, published]
  · exact feedIteration_feedMpsCounter cfg i _ _ packet _ _
  · simp [successfulSends]

/-- A turn leaves feed `i`'s counter as the statistics update left it, reset
when it fired for a slot, plus the turn's accepted sends for `i`. -/
theorem feedMpsCounter_stationIteration (it : Iteration Packet) (task : Task w) (i : Nat) :
    ((stationIteration cfg it task).1.feeds i).feedMpsCounter =
      (if statisticsDue cfg (getTimeSinceBootMs it.timeMs) task.feedMpsLastUpdateTimestampMs &&
          decide (i < cfg.kMaxNumFeeds) then 0 else (task.feeds i).feedMpsCounter) +
        BitVec.ofNat w (successfulSends i (stationIteration cfg it task).2) := by
  have slot := stationIteration_slot cfg it task i
  have counter := slotIteration_feedMpsCounter cfg it
    (statisticsDue cfg (getTimeSinceBootMs it.timeMs) task.feedMpsLastUpdateTimestampMs) i (task.feeds i)
  rw [slot] at counter
  rwa [← successfulSends_opsFor]

/-- One turn keeps the accounting of feed `i`. -/
theorem stationIteration_feedMpsCounter (it : Iteration Packet) (task : Task w) (i : Nat) :
    (task.feeds i).feedMpsCounter + BitVec.ofNat w (successfulSends i (stationIteration cfg it task).2) =
      BitVec.ofNat w (publishedMps i (stationIteration cfg it task).2) +
        ((stationIteration cfg it task).1.feeds i).feedMpsCounter := by
  rw [feedMpsCounter_stationIteration, publishedMps_stationIteration]
  split <;> simp

/-- Over any run, the counter of feed `i` at the start plus the `send()` calls
for `i` that returned `≥ 0` equals the sum of the values the statistics lines
printed for `i` plus the counter at the end, modulo `2 ^ w`. -/
theorem feedMpsCounter_conserved (run : List (Iteration Packet)) (task : Task w) (i : Nat) :
    (task.feeds i).feedMpsCounter +
        BitVec.ofNat w (successfulSends i (stationLoop cfg run task).2.flatten) =
      BitVec.ofNat w (publishedMps i (stationLoop cfg run task).2.flatten) +
        ((stationLoop cfg run task).1.feeds i).feedMpsCounter := by
  induction run generalizing task with
  | nil => simp [stationLoop, successfulSends, publishedMps]
  | cons it run ih =>
      have step := stationIteration_feedMpsCounter cfg it task i
      have rest := ih (stationIteration cfg it task).1
      simp only [stationLoop, List.flatten_cons, successfulSends_append, publishedMps_append,
        BitVec.ofNat_add] at step rest ⊢
      calc (task.feeds i).feedMpsCounter + (BitVec.ofNat w (successfulSends i (stationIteration cfg it task).2) +
              BitVec.ofNat w (successfulSends i (stationLoop cfg run (stationIteration cfg it task).1).2.flatten))
          = BitVec.ofNat w (publishedMps i (stationIteration cfg it task).2) +
              (((stationIteration cfg it task).1.feeds i).feedMpsCounter +
                BitVec.ofNat w (successfulSends i (stationLoop cfg run (stationIteration cfg it task).1).2.flatten)) := by
            rw [← BitVec.add_assoc, step, BitVec.add_assoc]
        _ = _ := by rw [rest, BitVec.add_assoc]


/-! ## What each statistics line prints -/

/-- The values the statistics lines of a transcript print for feed `i`, in
order. -/
def linesPrinted (i : Nat) (ops : List Op) : List Nat :=
  ops.filterMap fun
    | .feedMsgsPerSec feedMps => some (feedMps.getD i 0)
    | _ => none

/-- What a meter of feed `i`'s accepted sends shows along a transcript, from
`count`: at each statistics line the sends counted since the line before, after
which it counts again from zero, and the count after the last line. -/
def windowCounts (i : Nat) : Nat → List Op → List Nat × Nat
  | count, [] => ([], count)
  | count, .feedMsgsPerSec _ :: ops => let rest := windowCounts i 0 ops; (count :: rest.1, rest.2)
  | count, op :: ops => windowCounts i (count + if op.isAcceptedSend i then 1 else 0) ops

@[simp] theorem linesPrinted_append (i : Nat) (ops ops' : List Op) :
    linesPrinted i (ops ++ ops') = linesPrinted i ops ++ linesPrinted i ops' :=
  List.filterMap_append _ _ _

theorem windowCounts_append (i count : Nat) (ops ops' : List Op) :
    windowCounts i count (ops ++ ops') =
      ((windowCounts i count ops).1 ++ (windowCounts i (windowCounts i count ops).2 ops').1,
        (windowCounts i (windowCounts i count ops).2 ops').2) := by
  induction ops generalizing count with
  | nil => rfl
  | cons op ops ih => cases op <;> simp [windowCounts, ih]

/-- Calls made for feeds print no line, and the meter only counts their
accepted sends. -/
theorem windowCounts_of_feeds (i : Nat) {ops : List Op} (forFeeds : ∀ op ∈ ops, op.feed.isSome) (count : Nat) :
    linesPrinted i ops = [] ∧ windowCounts i count ops = ([], count + successfulSends i ops) := by
  induction ops generalizing count with
  | nil => exact ⟨rfl, rfl⟩
  | cons op ops ih =>
      obtain ⟨silent, counted⟩ := ih (fun op member => forFeeds op (List.mem_cons_of_mem _ member))
        (count + if op.isAcceptedSend i then 1 else 0)
      cases op
      case feedMsgsPerSec => exact absurd (forFeeds _ (List.mem_cons_self _ _)) (by simp [Op.feed])
      all_goals
        simp only [linesPrinted, windowCounts, successfulSends, List.countP_cons] at silent counted ⊢
        simp only [List.filterMap_cons, silent, counted, true_and]
        exact congrArg (Prod.mk []) (by omega)

/-- The calls of a turn: those of the statistics update, then those made for
feeds. -/
theorem stationIteration_ops (it : Iteration Packet) (task : Task w) :
    ∃ rest, (∀ op ∈ rest, op.feed.isSome) ∧
      (stationIteration cfg it task).2 = (updateStatistics cfg (getTimeSinceBootMs it.timeMs) task).2 ++ rest := by
  unfold stationIteration
  split
  · exact ⟨[], by simp, by simp⟩
  · exact ⟨_, isSome_feed_of_mem_forEachFeed cfg it _ _ _, rfl⟩

/-- One turn, seen through the meter: with the counter of slot `i` the meter's
count in `w` bits, the turn prints for `i` what the meter shows, in `w` bits,
and leaves the counter at the meter's new count. -/
theorem stationIteration_windowCounts (it : Iteration Packet) (task : Task w) {i : Nat}
    (slot : i < cfg.kMaxNumFeeds) (count : Nat) (counted : (task.feeds i).feedMpsCounter = BitVec.ofNat w count) :
    linesPrinted i (stationIteration cfg it task).2 =
        (windowCounts i count (stationIteration cfg it task).2).1.map (BitVec.ofNat w · |>.toNat) ∧
      ((stationIteration cfg it task).1.feeds i).feedMpsCounter =
        BitVec.ofNat w (windowCounts i count (stationIteration cfg it task).2).2 := by
  obtain ⟨rest, forFeeds, ops⟩ := stationIteration_ops cfg it task
  rw [feedMpsCounter_stationIteration, ops, linesPrinted_append, windowCounts_append, successfulSends_append]
  by_cases due : cfg.kMsPerSec < getTimeSinceBootMs it.timeMs - task.feedMpsLastUpdateTimestampMs
  · have line : linesPrinted i (updateStatistics cfg (getTimeSinceBootMs it.timeMs) task).2 =
          [(task.feeds i).feedMpsCounter.toNat] ∧
        windowCounts i count (updateStatistics cfg (getTimeSinceBootMs it.timeMs) task).2 = ([count], 0) ∧
        successfulSends i (updateStatistics cfg (getTimeSinceBootMs it.timeMs) task).2 = 0 := by
      simp [updateStatistics, due, slot, linesPrinted, windowCounts, List.getElem?_range slot, Feed.publish,
        successfulSends, Op.isAcceptedSend]
    obtain ⟨silent, counts⟩ := windowCounts_of_feeds i forFeeds 0
    rw [line.1, line.2.1, line.2.2, silent, counts]
    simp [statisticsDue, due, slot, counted]
  · have quiet : updateStatistics cfg (getTimeSinceBootMs it.timeMs) task = (task, []) := by
      simp [updateStatistics, due]
    obtain ⟨silent, counts⟩ := windowCounts_of_feeds i forFeeds count
    simp only [quiet, linesPrinted, windowCounts, List.filterMap_nil, List.nil_append, List.map_nil] at silent ⊢
    rw [silent, counts]
    simp [statisticsDue, due, successfulSends, counted, BitVec.ofNat_add]

/-- From a counter that is the meter's count in `w` bits, a run prints for
slot `i` what the meter shows and leaves the counter at the meter's count. -/
theorem stationLoop_windowCounts_from (run : List (Iteration Packet)) (task : Task w) {i : Nat}
    (slot : i < cfg.kMaxNumFeeds) (count : Nat) (counted : (task.feeds i).feedMpsCounter = BitVec.ofNat w count) :
    linesPrinted i (stationLoop cfg run task).2.flatten =
        (windowCounts i count (stationLoop cfg run task).2.flatten).1.map (BitVec.ofNat w · |>.toNat) ∧
      ((stationLoop cfg run task).1.feeds i).feedMpsCounter =
        BitVec.ofNat w (windowCounts i count (stationLoop cfg run task).2.flatten).2 := by
  induction run generalizing task count with
  | nil => exact ⟨rfl, counted⟩
  | cons it run ih =>
      obtain ⟨printed, counter⟩ := stationIteration_windowCounts cfg it task slot count counted
      obtain ⟨rest, last⟩ := ih (stationIteration cfg it task).1 _ counter
      simp only [stationLoop, List.flatten_cons, linesPrinted_append, windowCounts_append, List.map_append]
      exact ⟨by rw [printed, rest], last⟩

/-- Over any run, for every feed slot `i`: the values the statistics lines
print for `i` are, in order, the number of `send()` calls for `i` that
returned `≥ 0` since the line before (since the start, on top of the counter's
initial value, for the first line), in the counter's `w` bits; and the counter
at the end is the number counted since the last line. -/
theorem stationLoop_windowCounts (run : List (Iteration Packet)) (task : Task w) {i : Nat}
    (slot : i < cfg.kMaxNumFeeds) :
    let ops := (stationLoop cfg run task).2.flatten
    linesPrinted i ops = (windowCounts i (task.feeds i).feedMpsCounter.toNat ops).1.map (BitVec.ofNat w · |>.toNat) ∧
      ((stationLoop cfg run task).1.feeds i).feedMpsCounter =
        BitVec.ofNat w (windowCounts i (task.feeds i).feedMpsCounter.toNat ops).2 :=
  stationLoop_windowCounts_from cfg run task slot _ (by simp)

/-- A turn at half a second that forwards a packet, then one at one and a half
seconds that prints the statistics line. -/
def demoStatsRun : List (Iteration (List UInt8)) :=
  [⟨500, some [1, 2], fun _ => demoSettings, fun _ => demoCalls 3, fun _ => default⟩,
    ⟨1500, none, fun _ => demoSettings, fun _ => demoCalls 3, fun _ => default⟩]

/-- The line prints the one packet sent to slot 0 in the second before it. -/
example : linesPrinted 0 (stationLoop demoCollaborators demoStatsRun demoTask).2.flatten = [1] := by decide

theorem stationLoop_windowCounts_demo :
    0 < demoCollaborators.kMaxNumFeeds ∧
      let ops := (stationLoop demoCollaborators demoStatsRun demoTask).2.flatten
      linesPrinted 0 ops =
          (windowCounts 0 (demoTask.feeds 0).feedMpsCounter.toNat ops).1.map (BitVec.ofNat 16 · |>.toNat) ∧
        ((stationLoop demoCollaborators demoStatsRun demoTask).1.feeds 0).feedMpsCounter =
          BitVec.ofNat 16 (windowCounts 0 (demoTask.feeds 0).feedMpsCounter.toNat ops).2 :=
  ⟨by decide, stationLoop_windowCounts demoCollaborators demoStatsRun demoTask (by decide)⟩

/-- Over any run, for every feed slot `i`: the counter at the start plus the
`send()` calls for `i` that returned `≥ 0` is the sum of the values the
statistics lines printed for `i` plus the counter at the end, in the counter's
`w` bits; and each printed value is, in `w` bits, the number of those sends
since the line before (since the start, on top of the counter's initial value,
for the first line), none lost and none counted twice.  Every prefix of a run
being a run, this holds at every loop boundary. -/
theorem feedMps_counts_accepted_sends (run : List (Iteration Packet)) (task : Task w) {i : Nat}
    (slot : i < cfg.kMaxNumFeeds) :
    let ops := (stationLoop cfg run task).2.flatten
    (task.feeds i).feedMpsCounter + BitVec.ofNat w (successfulSends i ops) =
        BitVec.ofNat w (publishedMps i ops) + ((stationLoop cfg run task).1.feeds i).feedMpsCounter ∧
      linesPrinted i ops =
        (windowCounts i (task.feeds i).feedMpsCounter.toNat ops).1.map (BitVec.ofNat w · |>.toNat) :=
  ⟨feedMpsCounter_conserved cfg run task i, (stationLoop_windowCounts_from cfg run task slot _ (by simp)).1⟩

theorem feedMps_counts_accepted_sends_demo :
    0 < demoCollaborators.kMaxNumFeeds ∧
      let ops := (stationLoop demoCollaborators demoStatsRun demoTask).2.flatten
      (demoTask.feeds 0).feedMpsCounter + BitVec.ofNat 16 (successfulSends 0 ops) =
          BitVec.ofNat 16 (publishedMps 0 ops) +
            ((stationLoop demoCollaborators demoStatsRun demoTask).1.feeds 0).feedMpsCounter ∧
        linesPrinted 0 ops =
          (windowCounts 0 (demoTask.feeds 0).feedMpsCounter.toNat ops).1.map (BitVec.ofNat 16 · |>.toNat) :=
  ⟨by decide, feedMps_counts_accepted_sends demoCollaborators demoStatsRun demoTask (by decide)⟩

end CommsWiFi.Station
