import CommsWiFi.Station.Slot
import CommsWiFi.Station.Body

/-!
# Where a feed connects

The address a feed slot passes to `connect()` comes from its URI: a URI with a
letter goes to the resolver, whose answer survives the `inet_ntop` and
`inet_pton` round trip of `ResolveURIToIP` unchanged; any other URI goes to
`inet_pton` directly (`stationIteration_connect`).  The resolver's failure ends
the attempt, but the return value of `inet_pton` is not checked: a URI without a
letter that does not parse, such as `"10.0.0.256"`, is connected to whatever
`dest_addr` held, an indeterminate value (`typo_connects_to_indeterminate_address`).
-/

namespace CommsWiFi.Station

variable {Packet : Type} (cfg : Collaborators Packet) {w : Nat}

/-- Where the code connects a feed with these settings, `dest_addr` having
been declared holding `destAddr`: on the feed's port, to the address the
resolver answered for a URI with a letter, and for any other URI to the address
`inet_pton` parses from it, or, when it parses none, to `destAddr`'s. -/
def ConnectAddress (settings : FeedSettings) (calls : FeedCalls) (destAddr addr : SockaddrIn) : Prop :=
  addr.sinPort = settings.feedPort ∧
    if isNotIPAddress settings.feedUri then calls.getaddrinfo settings.feedUri = some addr.sinAddr
    else addr.sinAddr = (inetPton settings.feedUri).getD destAddr.sinAddr

section Body

variable (i : Nat) (settings : FeedSettings) (calls : FeedCalls)

theorem mem_connectSocket {sinAddr : InAddr} {lookup : List Op} {feed : Feed w} {op : Op}
    (member : op ∈ (connectSocket i settings calls sinAddr lookup feed).ops) :
    op ∈ lookup ∨ ∃ sock result, op = .connect i sock ⟨settings.feedPort, sinAddr⟩ result ∨
      op = .close i sock := by
  unfold connectSocket at member
  split at member <;>
    simp only [List.mem_append, List.mem_cons, List.mem_singleton, List.not_mem_nil, or_false] at member
  · rcases member with lookup | rfl | rfl
    · exact Or.inl lookup
    · exact Or.inr ⟨_, _, Or.inl rfl⟩
    · exact Or.inr ⟨_, calls.connect, Or.inr rfl⟩
  · rcases member with lookup | rfl
    · exact Or.inl lookup
    · exact Or.inr ⟨_, _, Or.inl rfl⟩

/-- `connect()` goes to the feed's port and to the resolver's answer for a URI
with a letter, or to what `inet_pton` makes of the URI, `dest_addr` unchanged
when it fails. -/
theorem connectAddress_of_dial {destAddr : SockaddrIn} {feed : Feed w} {j : Nat} {sock : Int}
    {addr : SockaddrIn} {result : Int} (member : Op.connect j sock addr result ∈ (dial i settings calls destAddr feed).ops) :
    ConnectAddress settings calls destAddr addr := by
  unfold dial at member
  split at member
  · rename_i hostname
    split at member
    · simp at member
    · rename_i resolvedIp resolved
      obtain ⟨answer, lookedUp, parsed⟩ := inetPton_resolveURIToIP resolved
      rcases mem_connectSocket i settings calls member with lookup | ⟨_, _, connect | close⟩
      · simp at lookup
      · simp only [Op.connect.injEq] at connect
        simp [ConnectAddress, hostname, connect, lookedUp, parsed]
      · cases close
  · rename_i literal
    rcases mem_connectSocket i settings calls member with lookup | ⟨_, _, connect | close⟩
    · simp at lookup
    · simp only [Op.connect.injEq] at connect
      simp [ConnectAddress, literal, connect]
    · cases close

/-- Every `connect()` of the loop body goes where `ConnectAddress` allows. -/
theorem connectAddress_of_feedIteration {packet : Packet} {destAddr : SockaddrIn} {feed : Feed w}
    {j : Nat} {sock : Int} {addr : SockaddrIn} {result : Int}
    (member : Op.connect j sock addr result ∈ (feedIteration cfg i settings calls packet destAddr feed).ops) :
    ConnectAddress settings calls destAddr addr := by
  rcases mem_feedIteration cfg i settings calls member with opened | ⟨_, _, _, send⟩ | ⟨_, close⟩
  · rcases mem_openFeed i settings calls opened with socket | ⟨_, dialed⟩
    · cases socket
    · exact connectAddress_of_dial i settings calls dialed
  · cases send
  · cases close

/-- For a URI without a letter that `inet_pton` accepts, the address choice
makes no lookup and connects to the address the URI spells. -/
theorem dial_literal (destAddr : SockaddrIn) (feed : Feed w) {addr : InAddr}
    (letterless : isNotIPAddress settings.feedUri = false) (parsed : inetPton settings.feedUri = some addr) :
    dial i settings calls destAddr feed = connectSocket i settings calls addr [] feed := by
  simp [dial, letterless, parsed]

theorem mem_dial_literal {destAddr : SockaddrIn} {feed : Feed w} {addr : InAddr} {op : Op}
    (letterless : isNotIPAddress settings.feedUri = false) (parsed : inetPton settings.feedUri = some addr)
    (member : op ∈ (dial i settings calls destAddr feed).ops) :
    op = .connect i feed.feedSock ⟨settings.feedPort, addr⟩ calls.connect ∨ op = .close i feed.feedSock := by
  rw [dial_literal i settings calls destAddr feed letterless parsed] at member
  rcases connectSocket_cases i settings calls addr [] feed with ⟨-, step⟩ | ⟨-, step⟩ <;>
    simp only [step, List.nil_append, List.mem_cons, List.not_mem_nil, or_false] at member
  · exact member
  · exact Or.inl member

end Body

/-- In every turn, from any state, every `connect()` for slot `i` goes to the
slot's port, and to the address the resolver answered when its URI has a
letter; otherwise to the address `inet_pton` parses from the URI, or, when it
parses none, to whatever `dest_addr` held when the slot declared it. -/
theorem stationIteration_connect (it : Iteration Packet) (task : Task w) (i : Nat) (sock : Int)
    (addr : SockaddrIn) (result : Int) (member : Op.connect i sock addr result ∈ (stationIteration cfg it task).2) :
    addr.sinPort = (it.settings i).feedPort ∧
      if isNotIPAddress (it.settings i).feedUri then
        (it.calls i).getaddrinfo (it.settings i).feedUri = some addr.sinAddr
      else addr.sinAddr = (inetPton (it.settings i).feedUri).getD (it.destAddr i).sinAddr := by
  have tagged : Op.connect i sock addr result ∈ opsFor i (stationIteration cfg it task).2 :=
    List.mem_filter.2 ⟨member, by simp [Op.feed]⟩
  have ops := congrArg Prod.snd (stationIteration_slot cfg it task i)
  dsimp only at ops
  rw [← ops] at tagged
  rcases slotIteration_cases cfg it _ i (task.feeds i) with ⟨packet, -, -, step⟩ | step <;>
    rw [step] at tagged
  · exact connectAddress_of_feedIteration cfg i _ _ tagged
  · simp at tagged

theorem stationIteration_connect_demo :
    let it : Iteration (List UInt8) :=
      { timeMs := 6000, received := some [1, 2, 3], settings := fun _ => demoSettings,
        calls := fun j => demoCalls (3 + j), destAddr := fun _ => default }
    Op.connect 0 3 ⟨30005, ⟨10, 0, 0, 1⟩⟩ 0 ∈ (stationIteration demoCollaborators it demoTask.start).2 ∧
      (30005 = demoSettings.feedPort ∧
        if isNotIPAddress demoSettings.feedUri then (demoCalls 3).getaddrinfo demoSettings.feedUri = some ⟨10, 0, 0, 1⟩
        else (⟨10, 0, 0, 1⟩ : InAddr) = (inetPton demoSettings.feedUri).getD (default : SockaddrIn).sinAddr) :=
  ⟨by decide, stationIteration_connect demoCollaborators
    { timeMs := 6000, received := some [1, 2, 3], settings := fun _ => demoSettings,
      calls := fun j => demoCalls (3 + j), destAddr := fun _ => default } demoTask.start 0 3 ⟨30005, ⟨10, 0, 0, 1⟩⟩ 0
    (by decide)⟩

/-- In every turn, from any state, for a slot whose URI has no letter and
parses with `inet_pton`: the task makes no DNS lookup for it, and every
`connect()` for it goes to the slot's port at the address the URI spells,
whatever `dest_addr` held. -/
theorem stationIteration_literal (it : Iteration Packet) (task : Task w) (i : Nat) {addr : InAddr}
    (letterless : isNotIPAddress (it.settings i).feedUri = false)
    (parsed : inetPton (it.settings i).feedUri = some addr) :
    ∀ op ∈ opsFor i (stationIteration cfg it task).2,
      (∀ uri answer, op ≠ .getaddrinfo i uri answer) ∧
        ∀ sock dest result, op = .connect i sock dest result → dest = ⟨(it.settings i).feedPort, addr⟩ := by
  intro op member
  have ops := congrArg Prod.snd (stationIteration_slot cfg it task i)
  dsimp only at ops
  rw [← ops] at member
  rcases slotIteration_cases cfg it _ i (task.feeds i) with ⟨packet, -, -, step⟩ | step <;>
    rw [step] at member
  · rcases mem_feedIteration cfg i _ _ member with opened | ⟨_, _, _, rfl⟩ | ⟨_, rfl⟩
    · rcases mem_openFeed i _ _ opened with rfl | ⟨_, dialed⟩
      · simp
      · rcases mem_dial_literal i _ _ letterless parsed dialed with rfl | rfl <;> simp
    · simp
    · simp
  · simp at member

theorem stationIteration_literal_demo :
    let it : Iteration (List UInt8) :=
      { timeMs := 6000, received := some [1, 2, 3], settings := fun _ => demoSettings,
        calls := fun j => demoCalls (3 + j), destAddr := fun _ => default }
    isNotIPAddress (it.settings 0).feedUri = false ∧ inetPton (it.settings 0).feedUri = some ⟨10, 0, 0, 1⟩ ∧
      ∀ op ∈ opsFor 0 (stationIteration demoCollaborators it demoTask.start).2,
        (∀ uri answer, op ≠ .getaddrinfo 0 uri answer) ∧
          ∀ sock dest result, op = .connect 0 sock dest result → dest = ⟨(it.settings 0).feedPort, ⟨10, 0, 0, 1⟩⟩ :=
  ⟨by decide, by decide, stationIteration_literal demoCollaborators _ demoTask.start 0 (by decide) (by decide)⟩

/-- The URI `"10.0.0.256"`: no letter, and a last byte out of range for every
reading of a dotted quad. -/
def demoTypoUri : CString := ⟨[49, 48, 46, 48, 46, 48, 46, 50, 53, 54], by decide⟩

/-- A turn with a packet, every slot an active raw Beast feed to
`"10.0.0.256"`, and `content` in `dest_addr` when a slot declares it. -/
def demoTypoTurn (content : SockaddrIn) : Iteration (List UInt8) :=
  { timeMs := 6000, received := some [1, 2, 3], settings := fun _ => { demoSettings with feedUri := demoTypoUri },
    calls := fun j => demoCalls (3 + j), destAddr := fun _ => content }

/-- Slot 0 over the turn, whatever `dest_addr` held: a socket, a `connect()`
to that content's address, and a send on the connection. -/
theorem stationLoop_demoTypoTurn (content : SockaddrIn) :
    (stationLoop demoCollaborators [demoTypoTurn content] demoTask.start).2.map (opsFor 0) =
        [[.socket 0 (.descriptor 3), .connect 0 3 ⟨30005, content.sinAddr⟩ 0, .send 0 3 [0x1a, 0xab, 1, 2, 3] 5]] ∧
      ((stationLoop demoCollaborators [demoTypoTurn content] demoTask.start).1.feeds 0).feedSockIsConnected =
        true := by
  have slot := stationLoop_slot demoCollaborators 0 [demoTypoTurn content] demoTask.start
  have ops := congrArg Prod.snd slot
  have feed := congrArg Prod.fst slot
  dsimp only at ops feed
  rw [← ops, ← feed]
  simp only [slotLoop, slotIteration, demoTypoTurn, show 0 < demoCollaborators.kMaxNumFeeds from by decide,
    if_true]
  exact ⟨rfl, rfl⟩

/-- Slot 0's URI `"10.0.0.256"` has no letter and does not parse, yet slot 0
connects, to the address `dest_addr` happened to hold, whatever it was, and
sends its frames there. -/
theorem typo_connects_to_indeterminate_address (content : SockaddrIn) :
    let result := stationLoop demoCollaborators [demoTypoTurn content] demoTask.start
    isNotIPAddress demoTypoUri = false ∧ inetPton demoTypoUri = none ∧
      opsFor 0 result.2.flatten =
        [.socket 0 (.descriptor 3), .connect 0 3 ⟨30005, content.sinAddr⟩ 0, .send 0 3 [0x1a, 0xab, 1, 2, 3] 5] ∧
      (result.1.feeds 0).feedSockIsConnected = true := by
  obtain ⟨ops, connected⟩ := stationLoop_demoTypoTurn content
  exact ⟨by decide, by decide, by rw [opsFor_flatten, ops]; rfl, connected⟩

end CommsWiFi.Station
