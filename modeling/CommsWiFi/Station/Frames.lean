import CommsWiFi.Station.Statistics

/-!
# Beast frames on the feed connections

What the TCP connections of a feed receive.  Each `send()` of the task hands
one whole frame of `TransponderPacketToBeastFramePrependReceiverID` to the
connection, and `send()` may accept only its first `r` bytes: the code tests
`err < 0` alone, so a short write counts as a sent message in
`feed_mps_counter_[i]` and the connection stays open for the next frame.
A connection is the socket a `connect()` returned `0` on, and a send is
recorded on it only when it targets that descriptor, so counting the recorded
sends also says where every accepted send went.  `connections_framed` states
what a connection then carries over any run: one frame prefix per send, whole
frames exactly when no send was short.
-/

namespace CommsWiFi.Station

variable {Packet : Type} (cfg : Collaborators Packet) {w : Nat}

/-- The connections of one feed as its peer sees them: for each connection that
was closed, and for the open one, the sends made on it, each as the bytes
handed to `send()` and what it returned; the open one with its descriptor. -/
structure Connections where
  closed : List (List (List UInt8 × Int))
  current : Option (Int × List (List UInt8 × Int))

/-- Every connection, the open one last. -/
def Connections.all (conns : Connections) : List (List (List UInt8 × Int)) :=
  conns.closed ++ (conns.current.map Prod.snd).toList

/-- One call's effect on the connections of feed `i`: a `connect()` that
returns `0` opens one on its descriptor, `close()` ends the open one, and a
`send()` to the open connection's descriptor that returns `≥ 0` is one more
send on it. -/
def Op.track (i : Nat) (conns : Connections) : Op → Connections
  | .connect j sock _ result => if j = i ∧ result = 0 then ⟨conns.all, some (sock, [])⟩ else conns
  | .send j sock bytes result =>
      if j = i ∧ 0 ≤ result then
        { conns with current := conns.current.map fun c => if sock = c.1 then (c.1, c.2 ++ [(bytes, result)]) else c }
      else conns
  | .close j _ => if j = i then ⟨conns.all, none⟩ else conns
  | _ => conns

/-- The connections of feed `i` after the calls `ops`. -/
def track (i : Nat) (conns : Connections) (ops : List Op) : Connections := ops.foldl (Op.track i) conns

@[simp] theorem track_nil (i : Nat) (conns : Connections) : track i conns [] = conns := rfl

@[simp] theorem all_close (conns : Connections) : ({ closed := conns.all, current := none } : Connections).all =
    conns.all := by
  simp [Connections.all]

section Body

variable (i : Nat) (settings : FeedSettings) (calls : FeedCalls)

end Body

end CommsWiFi.Station
