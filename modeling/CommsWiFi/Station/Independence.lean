import CommsWiFi.Station.Addresses

/-!
# Each feed on its own, up to `dest_addr`

The feed slots share no state, and what `dest_addr` holds before `inet_pton`
writes it decides only the address of a `connect()` whose URI has no letter and
does not parse.  So two runs that show slot `i` the same inputs (the clock at
the top of each turn, the packets, the slot's settings and the answers to its
calls) leave it in the same state and make the same calls for it, whatever
`dest_addr` held, up to the addresses of its `connect()` calls; and exactly the
same calls when its URIs all resolve or parse (`stationLoop_independent`).
Where a URI does not parse, the address is that indeterminate content, which
none of the slot's inputs fixes (`typo_follows_dest_addr`).
-/

namespace CommsWiFi.Station

variable {Packet : Type} (cfg : Collaborators Packet) {w : Nat}

/-- A call with the address of a `connect()` forgotten. -/
def Op.eraseAddr : Op → Op
  | .connect i sock _ result => .connect i sock default result
  | op => op

/-- What a turn shows slot `i`: the clock reading at the top, the packet, and
the slot's settings and answers. -/
def Iteration.slotView (i : Nat) (it : Iteration Packet) : Nat × Option Packet × FeedSettings × FeedCalls :=
  (it.timeMs, it.received, it.settings i, it.calls i)

/-- The URI of these settings decides the address of a `connect()`: it has a
letter, or `inet_pton` parses it. -/
def Resolvable (settings : FeedSettings) : Prop :=
  isNotIPAddress settings.feedUri = false → (inetPton settings.feedUri).isSome

/-- Two results of a piece of slot `i`'s code that differ at most in the
addresses passed to `connect()`, and not at all when `exact` holds. -/
def Agree (exact : Prop) (a b : Feed w × List Op) : Prop :=
  a.1 = b.1 ∧ a.2.map Op.eraseAddr = b.2.map Op.eraseAddr ∧ (exact → a.2 = b.2)

theorem Agree.refl {exact : Prop} (a : Feed w × List Op) : Agree exact a a :=
  ⟨Eq.refl _, Eq.refl _, fun _ => Eq.refl _⟩

theorem Agree.cons {exact : Prop} {feed₁ feed₂ : Feed w} {ops₁ ops₂ : List Op}
    (agree : Agree exact (feed₁, ops₁) (feed₂, ops₂)) (op : Op) :
    Agree exact (feed₁, op :: ops₁) (feed₂, op :: ops₂) :=
  ⟨agree.1, by simp [agree.2.1], fun exact => congrArg (op :: ·) (agree.2.2 exact)⟩

section Body

variable (i : Nat) (settings : FeedSettings) (calls : FeedCalls)

theorem connectSocket_agree (exact : Prop) (sinAddr₁ sinAddr₂ : InAddr) (lookup : List Op) (feed : Feed w)
    (same : exact → sinAddr₁ = sinAddr₂) :
    Agree exact ((connectSocket i settings calls sinAddr₁ lookup feed).feed,
        (connectSocket i settings calls sinAddr₁ lookup feed).ops)
      ((connectSocket i settings calls sinAddr₂ lookup feed).feed,
        (connectSocket i settings calls sinAddr₂ lookup feed).ops) := by
  unfold connectSocket
  split <;> exact ⟨rfl, by simp [Op.eraseAddr], fun exact => by rw [same exact]⟩

/-- The address choice is the only use of `dest_addr`, and it matters only
for a URI without a letter that does not parse. -/
theorem dial_agree (destAddr₁ destAddr₂ : SockaddrIn) (feed : Feed w) :
    Agree (Resolvable settings) ((dial i settings calls destAddr₁ feed).feed, (dial i settings calls destAddr₁ feed).ops)
      ((dial i settings calls destAddr₂ feed).feed, (dial i settings calls destAddr₂ feed).ops) := by
  unfold dial
  split
  · split
    · exact Agree.refl _
    · rename_i resolved
      obtain ⟨_, -, parsed⟩ := inetPton_resolveURIToIP resolved
      exact connectSocket_agree i settings calls _ _ _ _ feed fun _ => by simp [parsed]
  · rename_i literal
    refine connectSocket_agree i settings calls _ _ _ _ feed fun resolvable => ?_
    obtain ⟨addr, parsed⟩ := Option.isSome_iff_exists.1 (resolvable (by simpa using literal))
    simp [parsed]

theorem openFeed_agree (destAddr₁ destAddr₂ : SockaddrIn) (feed : Feed w) :
    Agree (Resolvable settings)
      ((openFeed i settings calls destAddr₁ feed).feed, (openFeed i settings calls destAddr₁ feed).ops)
      ((openFeed i settings calls destAddr₂ feed).feed, (openFeed i settings calls destAddr₂ feed).ops) := by
  unfold openFeed reconnect
  dsimp only
  split
  · exact Agree.refl _
  split
  · exact Agree.refl _
  split
  · exact Agree.refl _
  · exact (dial_agree i settings calls destAddr₁ destAddr₂ _).cons _

theorem feedIteration_agree (packet : Packet) (destAddr₁ destAddr₂ : SockaddrIn) (feed : Feed w) :
    Agree (Resolvable settings)
      ((feedIteration cfg i settings calls packet destAddr₁ feed).feed,
        (feedIteration cfg i settings calls packet destAddr₁ feed).ops)
      ((feedIteration cfg i settings calls packet destAddr₂ feed).feed,
        (feedIteration cfg i settings calls packet destAddr₂ feed).ops) := by
  obtain ⟨sameFeed, sameOps, exactOps⟩ := openFeed_agree i settings calls destAddr₁ destAddr₂ feed
  dsimp only at sameFeed sameOps exactOps
  unfold feedIteration
  dsimp only
  rw [sameFeed]
  split
  · split
    · exact ⟨rfl, by simp [sameOps], fun exact => by rw [exactOps exact]⟩
    · exact ⟨sameFeed, sameOps, exactOps⟩
  · exact Agree.refl _

end Body

theorem slotIteration_agree (it₁ it₂ : Iteration Packet) (due : Bool) (i : Nat) (feed : Feed w)
    (sameView : it₁.slotView i = it₂.slotView i) :
    Agree (Resolvable (it₁.settings i)) (slotIteration cfg it₁ due i feed) (slotIteration cfg it₂ due i feed) := by
  simp only [Iteration.slotView, Prod.mk.injEq] at sameView
  obtain ⟨-, received, settings, calls⟩ := sameView
  unfold slotIteration
  rw [← received, ← settings, ← calls]
  generalize (if due && decide (i < cfg.kMaxNumFeeds) then feed.publish else feed) = feed
  dsimp only
  split
  · split
    · exact feedIteration_agree cfg i _ _ _ _ _ feed
    · exact Agree.refl _
  · exact Agree.refl _

/-- Slot `i` alone, over two runs that show it the same inputs, whatever
`dest_addr` held in each. -/
theorem slotLoop_agree (i : Nat) (run₁ run₂ : List (Iteration Packet)) (lastUpdate : UInt32) (feed : Feed w)
    (sameView : run₁.map (Iteration.slotView i) = run₂.map (Iteration.slotView i)) :
    (slotLoop cfg i run₁ lastUpdate feed).1 = (slotLoop cfg i run₂ lastUpdate feed).1 ∧
      (slotLoop cfg i run₁ lastUpdate feed).2.map (List.map Op.eraseAddr) =
        (slotLoop cfg i run₂ lastUpdate feed).2.map (List.map Op.eraseAddr) ∧
      ((∀ it ∈ run₁, Resolvable (it.settings i)) →
        (slotLoop cfg i run₁ lastUpdate feed).2 = (slotLoop cfg i run₂ lastUpdate feed).2) := by
  induction run₁ generalizing run₂ lastUpdate feed with
  | nil =>
      cases run₂ with
      | nil => exact ⟨rfl, rfl, fun _ => rfl⟩
      | cons => simp at sameView
  | cons it₁ run₁ ih =>
      cases run₂ with
      | nil => simp at sameView
      | cons it₂ run₂ =>
          simp only [List.map_cons, List.cons.injEq] at sameView
          obtain ⟨view, rest⟩ := sameView
          have clock : it₁.timeMs = it₂.timeMs := congrArg Prod.fst view
          obtain ⟨feed', ops, exact⟩ := slotIteration_agree cfg it₁ it₂
            (statisticsDue cfg (getTimeSinceBootMs it₁.timeMs) lastUpdate) i feed view
          obtain ⟨restFeed, restOps, restExact⟩ := ih run₂
            (if statisticsDue cfg (getTimeSinceBootMs it₁.timeMs) lastUpdate then getTimeSinceBootMs it₁.timeMs
              else lastUpdate)
            (slotIteration cfg it₁ (statisticsDue cfg (getTimeSinceBootMs it₁.timeMs) lastUpdate) i feed).1 rest
          simp only [slotLoop, List.map_cons, ← clock, feed'] at restFeed restOps restExact ⊢
          refine ⟨restFeed, by rw [ops, restOps], fun resolvable => ?_⟩
          rw [exact (resolvable it₁ (List.mem_cons_self _ _)),
            restExact fun it member => resolvable it (List.mem_cons_of_mem _ member)]

/-- Two runs of the task that show slot `i` the same inputs in every turn (the
clock reading at the top, the packet or the queue's timeout, the slot's
settings, and the clock reading at its reconnect check and the answers to its
calls), from states that agree on slot `i` and on the last statistics update,
whatever the other slots and whatever `dest_addr` held, end with slot `i` in
the same state and make the same calls for it, turn by turn, except for the
addresses passed to `connect()`; and exactly the same calls when every URI the
slot is given has a letter or parses with `inet_pton`.  As the inputs of two such runs agree on every prefix, this holds at
every loop boundary. -/
theorem stationLoop_independent (run₁ run₂ : List (Iteration Packet)) (task₁ task₂ : Task w) (i : Nat)
    (sameView : run₁.map (Iteration.slotView i) = run₂.map (Iteration.slotView i))
    (sameFeed : task₁.feeds i = task₂.feeds i)
    (sameUpdate : task₁.feedMpsLastUpdateTimestampMs = task₂.feedMpsLastUpdateTimestampMs) :
    (stationLoop cfg run₁ task₁).1.feeds i = (stationLoop cfg run₂ task₂).1.feeds i ∧
      (stationLoop cfg run₁ task₁).2.map (fun ops => (opsFor i ops).map Op.eraseAddr) =
        (stationLoop cfg run₂ task₂).2.map (fun ops => (opsFor i ops).map Op.eraseAddr) ∧
      ((∀ it ∈ run₁, Resolvable (it.settings i)) →
        (stationLoop cfg run₁ task₁).2.map (opsFor i) = (stationLoop cfg run₂ task₂).2.map (opsFor i)) := by
  obtain ⟨sameFinal, sameOps, exactOps⟩ :=
    slotLoop_agree cfg i run₁ run₂ task₁.feedMpsLastUpdateTimestampMs (task₁.feeds i) sameView
  rw [stationLoop_slot, sameUpdate, sameFeed, stationLoop_slot] at sameFinal sameOps exactOps
  simp only [List.map_map] at sameOps
  exact ⟨sameFinal, sameOps, exactOps⟩

theorem stationLoop_independent_demo :
    let turn (first : FeedSettings) : Iteration (List UInt8) :=
      { timeMs := 6000, received := some [1, 2, 3],
        settings := fun j => if j = 0 then first else demoSettings, calls := fun j => demoCalls (3 + j),
        destAddr := fun _ => default }
    let run₁ := [turn demoSettings]
    let run₂ := [turn { demoSettings with feedIsActive := false }]
    (run₁.map (Iteration.slotView 1) = run₂.map (Iteration.slotView 1) ∧
        demoTask.start.feeds 1 = demoTask.start.feeds 1 ∧
        demoTask.start.feedMpsLastUpdateTimestampMs = demoTask.start.feedMpsLastUpdateTimestampMs) ∧
      (stationLoop demoCollaborators run₁ demoTask.start).1.feeds 1 =
          (stationLoop demoCollaborators run₂ demoTask.start).1.feeds 1 ∧
        (stationLoop demoCollaborators run₁ demoTask.start).2.map (fun ops => (opsFor 1 ops).map Op.eraseAddr) =
          (stationLoop demoCollaborators run₂ demoTask.start).2.map (fun ops => (opsFor 1 ops).map Op.eraseAddr) ∧
        ((∀ it ∈ run₁, Resolvable (it.settings 1)) →
          (stationLoop demoCollaborators run₁ demoTask.start).2.map (opsFor 1) =
            (stationLoop demoCollaborators run₂ demoTask.start).2.map (opsFor 1)) :=
  ⟨⟨rfl, rfl, rfl⟩, stationLoop_independent demoCollaborators _ _ demoTask.start demoTask.start 1 rfl rfl rfl⟩

/-- Two runs that show slot 0 the same inputs, its URI the unparsable
`"10.0.0.256"`, and differ only in what `dest_addr` held: slot 0 makes the same
calls in both exactly when the two contents hold the same address. -/
theorem typo_follows_dest_addr (content₁ content₂ : SockaddrIn) :
    [demoTypoTurn content₁].map (Iteration.slotView 0) = [demoTypoTurn content₂].map (Iteration.slotView 0) ∧
      ((stationLoop demoCollaborators [demoTypoTurn content₁] demoTask.start).2.map (opsFor 0) =
          (stationLoop demoCollaborators [demoTypoTurn content₂] demoTask.start).2.map (opsFor 0) ↔
        content₁.sinAddr = content₂.sinAddr) := by
  rw [(stationLoop_demoTypoTurn content₁).1, (stationLoop_demoTypoTurn content₂).1]
  exact ⟨rfl, by simp⟩

end CommsWiFi.Station
