import CommsWiFi.Station.Slot

/-!
# The pieces of the loop body

What each piece of the feed loop's body may change and which calls it makes.
The reconnect block writes only the three connection fields of the slot and
never sends; the dispatch sends one Beast frame or nothing; the inactive branch
at most closes.  The properties of single feeds in the modules after this one
are assembled from these lemmas.
-/

namespace CommsWiFi.Station

variable {Packet : Type} (cfg : Collaborators Packet) {w : Nat}

/-- Whether a call is a `send()`. -/
def Op.isSend : Op → Bool
  | .send .. => true
  | _ => false

/-- Whether the dispatch sends `packet` on a feed with this protocol: Beast
sends valid packets, raw Beast every packet, other protocols none. -/
def servesPacket (protocol : ReportingProtocol) (packet : Packet) : Bool :=
  match protocol with
  | .kBeast => cfg.isValid packet
  | .kBeastRaw => true
  | _ => false

section Body

variable (i : Nat) (settings : FeedSettings) (calls : FeedCalls)

/-! ## The reconnect block -/

theorem connectSocket_feed (sinAddr : InAddr) (lookup : List Op) (feed : Feed w) :
    ∃ connected, (connectSocket i settings calls sinAddr lookup feed).feed =
      { feed with feedSockIsConnected := connected } := by
  unfold connectSocket
  split
  · exact ⟨false, rfl⟩
  · exact ⟨true, rfl⟩

theorem dial_feed (destAddr : SockaddrIn) (feed : Feed w) :
    ∃ connected, (dial i settings calls destAddr feed).feed =
      { feed with feedSockIsConnected := connected } := by
  unfold dial
  split
  · split
    · exact ⟨false, rfl⟩
    · exact connectSocket_feed i settings calls _ _ feed
  · exact connectSocket_feed i settings calls _ _ feed

/-- The reconnect block writes the connection fields of the slot and nothing else. -/
theorem openFeed_feed (destAddr : SockaddrIn) (feed : Feed w) :
    ∃ sock connected timestampMs, (openFeed i settings calls destAddr feed).feed =
      { feed with
        feedSock := sock
        feedSockIsConnected := connected
        feedSockLastConnectTimestampMs := timestampMs } := by
  unfold openFeed
  split
  · exact ⟨feed.feedSock, feed.feedSockIsConnected, feed.feedSockLastConnectTimestampMs, rfl⟩
  rcases reconnect_cases i settings calls destAddr feed with ⟨-, step⟩ | ⟨-, -, step⟩ | ⟨-, -, step⟩ <;>
    rw [step]
  · exact ⟨feed.feedSock, feed.feedSockIsConnected, feed.feedSockLastConnectTimestampMs, rfl⟩
  · exact ⟨_, _, _, rfl⟩
  · obtain ⟨connected, dialed⟩ := dial_feed i settings calls destAddr _
    exact ⟨_, connected, _, dialed⟩

theorem not_isSend_of_mem_connectSocket {sinAddr : InAddr} {lookup : List Op} {feed : Feed w} {op : Op}
    (quiet : ∀ op ∈ lookup, op.isSend = false)
    (member : op ∈ (connectSocket i settings calls sinAddr lookup feed).ops) : op.isSend = false := by
  rcases connectSocket_cases i settings calls sinAddr lookup feed with ⟨-, step⟩ | ⟨-, step⟩ <;>
    rw [step] at member <;>
    rcases List.mem_append.1 member with old | new
  · exact quiet op old
  · rcases List.mem_pair.1 new with rfl | rfl <;> rfl
  · exact quiet op old
  · rw [List.mem_singleton.1 new]
    rfl

theorem not_isSend_of_mem_dial {destAddr : SockaddrIn} {feed : Feed w} {op : Op}
    (member : op ∈ (dial i settings calls destAddr feed).ops) : op.isSend = false := by
  rcases dial_cases i settings calls destAddr feed with ⟨-, -, step⟩ | ⟨_, ⟨-, -, step⟩ | ⟨-, step⟩⟩ <;> rw [step] at member
  · rcases List.mem_pair.1 member with rfl | rfl <;> rfl
  · exact not_isSend_of_mem_connectSocket i settings calls (by simp [Op.isSend]) member
  · exact not_isSend_of_mem_connectSocket i settings calls (by simp) member

theorem not_isSend_of_mem_openFeed {destAddr : SockaddrIn} {feed : Feed w} {op : Op}
    (member : op ∈ (openFeed i settings calls destAddr feed).ops) : op.isSend = false := by
  unfold openFeed at member
  split at member
  · simp at member
  rcases reconnect_cases i settings calls destAddr feed with ⟨-, step⟩ | ⟨-, -, step⟩ | ⟨-, -, step⟩ <;>
    rw [step] at member
  · simp at member
  · rw [List.mem_singleton.1 member]
    rfl
  · rcases List.mem_cons.1 member with rfl | member
    · rfl
    · exact not_isSend_of_mem_dial i settings calls member

/-- The calls of the reconnect block: its `socket()`, then those of `dial` on
the attempt. -/
theorem mem_openFeed {destAddr : SockaddrIn} {feed : Feed w} {op : Op}
    (member : op ∈ (openFeed i settings calls destAddr feed).ops) :
    op = .socket i calls.socket ∨ ∃ attempt : Feed w, op ∈ (dial i settings calls destAddr attempt).ops := by
  unfold openFeed at member
  split at member
  · simp at member
  rcases reconnect_cases i settings calls destAddr feed with ⟨-, step⟩ | ⟨-, -, step⟩ | ⟨-, -, step⟩ <;>
    rw [step] at member
  · simp at member
  · exact Or.inl (List.mem_singleton.1 member)
  · rcases List.mem_cons.1 member with socket | dialed
    · exact Or.inl socket
    · exact Or.inr ⟨_, dialed⟩

/-! ## The dispatch -/

theorem sendPacket_eq (packet : Packet) (feed : Feed w) :
    sendPacket cfg i settings calls packet feed =
      if servesPacket cfg settings.feedProtocol packet then sendBeast cfg i settings calls packet feed
      else (feed, []) := by
  cases protocol : settings.feedProtocol <;> simp [sendPacket, servesPacket, protocol]

/-- The calls of the loop body: those of the reconnect block, a `send()`, or a
`close()`. -/
theorem mem_feedIteration {packet : Packet} {destAddr : SockaddrIn} {feed : Feed w} {op : Op}
    (member : op ∈ (feedIteration cfg i settings calls packet destAddr feed).ops) :
    op ∈ (openFeed i settings calls destAddr feed).ops ∨ (∃ sock bytes result, op = .send i sock bytes result) ∨
      ∃ sock, op = .close i sock := by
  rcases feedIteration_cases cfg i settings calls packet destAddr feed with
    ⟨-, -, step⟩ | ⟨-, -, step⟩ | ⟨-, step⟩ <;> rw [step] at member
  · rcases List.mem_append.1 member with opened | sent
    · exact Or.inl opened
    · rcases sendPacket_cases cfg i settings calls packet (openFeed i settings calls destAddr feed).feed with
        step | ⟨-, step⟩ | ⟨-, step⟩ <;>
        simp only [step, List.mem_cons, List.not_mem_nil, or_false] at sent
      · rcases sent with rfl | rfl
        · exact Or.inr (Or.inl ⟨_, _, _, rfl⟩)
        · exact Or.inr (Or.inr ⟨_, rfl⟩)
      · exact Or.inr (Or.inl ⟨_, _, _, sent⟩)
  · exact Or.inl member
  · unfold closeInactive at member
    split at member <;> simp only [List.mem_singleton, List.not_mem_nil] at member
    exact Or.inr (Or.inr ⟨_, member⟩)

end Body

end CommsWiFi.Station
