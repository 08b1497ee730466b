import CommsWiFi.AccessPoint

/-!
# The WiFi event handler and station reconnection

`CommsManager::WiFiEventHandler` (lines 40–90 of `comms_wifi.cpp`) reacts to the
network stack's WiFi events.  On a station disconnect it clears
`WIFI_CONNECTED_BIT` and either calls `esp_wifi_connect()` again, counting the
attempt in the function-local `static int s_retry_num`, or, once that counter
has reached `kWiFiStaMaxNumReconnectAttempts`, sets `WIFI_FAIL_BIT`.  No branch
resets the counter, so the retry budget is one for the whole run of the
firmware, not one per loss of the link: `staDisconnectedOps_handleEvents`
computes, for every event sequence, what each disconnect of the run does, and
`handleEvents_espWifiConnect` counts the calls to `esp_wifi_connect()` a whole
run makes.  Of the client table the handler only deactivates the slots of
stations that leave the access point (`clients_handleEvents`).

A failing `ESP_ERROR_CHECK(esp_wifi_connect())` aborts the firmware; such a run
is a prefix of the event sequences modelled here.
-/

namespace CommsWiFi

/-- `kWiFiStaMaxNumReconnectAttempts`. -/
def kWiFiStaMaxNumReconnectAttempts : Nat := 5

/-- The events `WiFiEventHandler` distinguishes, with the event data it reads. -/
inductive WiFiEvent where
  | apStaConnected (mac : List UInt8) (aid : Nat)
  | apStaDisconnected (mac : List UInt8) (aid : Nat)
  | staStart
  | staDisconnected (reason : Nat)
  | staConnected
  /-- Any other `WIFI_EVENT`, which the handler ignores. -/
  | other (eventId : Int)
  deriving DecidableEq, Repr

/-- Whether an event is `WIFI_EVENT_STA_DISCONNECTED`. -/
def WiFiEvent.isStaDisconnected : WiFiEvent → Bool
  | .staDisconnected _ => true
  | _ => false

/-- The bits of `wifi_event_group_` that `WiFiInit` waits on. -/
inductive EventBit where
  | WIFI_CONNECTED_BIT
  | WIFI_FAIL_BIT
  deriving DecidableEq, Repr

/-- The values of the two bits of `wifi_event_group_`. -/
structure EventGroup where
  connected : Bool
  failed : Bool
  deriving DecidableEq, Repr

/-- The state the handler reads and writes. -/
structure Handler where
  sRetryNum : Nat
  wifiEventGroup : EventGroup
  wifiStaHasIp : Bool
  wifiClientsList : List WiFiClient
  deriving DecidableEq, Repr

/-- The calls the handler makes on the network stack and the event group. -/
inductive HandlerOp where
  | espWifiConnect
  | xEventGroupSetBits (bit : EventBit)
  | xEventGroupClearBits (bit : EventBit)
  deriving DecidableEq, Repr

/-- `xEventGroupSetBits` / `xEventGroupClearBits` on one bit. -/
def EventGroup.write (group : EventGroup) (value : Bool) : EventBit → EventGroup
  | .WIFI_CONNECTED_BIT => { group with connected := value }
  | .WIFI_FAIL_BIT => { group with failed := value }

/-- The `WIFI_EVENT_STA_DISCONNECTED` case. -/
def staDisconnected (handler : Handler) : Handler × List HandlerOp :=
  let handler := { handler with
    wifiEventGroup := handler.wifiEventGroup.write false .WIFI_CONNECTED_BIT
    wifiStaHasIp := false }
  let cleared := HandlerOp.xEventGroupClearBits .WIFI_CONNECTED_BIT
  if handler.sRetryNum < kWiFiStaMaxNumReconnectAttempts then
    ({ handler with sRetryNum := handler.sRetryNum + 1 }, [cleared, .espWifiConnect])
  else
    ({ handler with wifiEventGroup := handler.wifiEventGroup.write true .WIFI_FAIL_BIT },
      [cleared, .xEventGroupSetBits .WIFI_FAIL_BIT])

/-- `CommsManager::WiFiEventHandler` on one event. -/
def wifiEventHandler (event : WiFiEvent) (handler : Handler) : Handler × List HandlerOp :=
  match event with
  | .apStaConnected _ _ => (handler, [])
  | .apStaDisconnected mac _ =>
      ({ handler with wifiClientsList := wiFiRemoveClient mac handler.wifiClientsList }, [])
  | .staStart => (handler, [.espWifiConnect])
  | .staDisconnected _ => staDisconnected handler
  | .staConnected =>
      ({ handler with wifiEventGroup := handler.wifiEventGroup.write true .WIFI_CONNECTED_BIT },
        [.xEventGroupSetBits .WIFI_CONNECTED_BIT])
  | .other _ => (handler, [])

/-- The handler over a sequence of events: the final state and the calls made
for each event. -/
def handleEvents : List WiFiEvent → Handler → Handler × List (List HandlerOp)
  | [], handler => (handler, [])
  | event :: events, handler =>
      let step := wifiEventHandler event handler
      let rest := handleEvents events step.1
      (rest.1, step.2 :: rest.2)

/-! ## What each disconnect does -/

/-- The calls made for the disconnect events of a run, in order. -/
def staDisconnectedOps : List WiFiEvent → List (List HandlerOp) → List (List HandlerOp)
  | event :: events, ops :: transcript =>
      if event.isStaDisconnected then ops :: staDisconnectedOps events transcript
      else staDisconnectedOps events transcript
  | _, _ => []

/-- What a disconnect does when `s_retry_num` is `retries` at that point:
retry while under the bound, otherwise raise the failure bit. -/
def retryOrFail (retries : Nat) : List HandlerOp :=
  if retries < kWiFiStaMaxNumReconnectAttempts then
    [.xEventGroupClearBits .WIFI_CONNECTED_BIT, .espWifiConnect]
  else
    [.xEventGroupClearBits .WIFI_CONNECTED_BIT, .xEventGroupSetBits .WIFI_FAIL_BIT]

theorem sRetryNum_wifiEventHandler (event : WiFiEvent) (handler : Handler) :
    (wifiEventHandler event handler).1.sRetryNum =
      if event.isStaDisconnected ∧ handler.sRetryNum < kWiFiStaMaxNumReconnectAttempts then
        handler.sRetryNum + 1
      else handler.sRetryNum := by
  cases event <;> simp [wifiEventHandler, WiFiEvent.isStaDisconnected, staDisconnected]
  split <;> simp_all

theorem staDisconnected_ops (handler : Handler) :
    (staDisconnected handler).2 = retryOrFail handler.sRetryNum := by
  simp only [staDisconnected, retryOrFail]
  split <;> rfl

/-- Past the bound the counter stays put, and every later disconnect fails as
well; below it, the counter moves on by one. -/
theorem retryOrFail_after (retries n : Nat) :
    retryOrFail ((if retries < kWiFiStaMaxNumReconnectAttempts then retries + 1 else retries) + n) =
      retryOrFail (retries + (n + 1)) := by
  unfold retryOrFail kWiFiStaMaxNumReconnectAttempts
  split_ifs <;> first | rfl | omega

/-- Over any run of the handler, the `n`-th disconnect of the run (from `0`)
retries exactly when `s_retry_num + n < kWiFiStaMaxNumReconnectAttempts` for the
value `s_retry_num` had when the run began, and otherwise sets
`WIFI_FAIL_BIT`.  From boot (`s_retry_num = 0`): the first five disconnects of
the whole run call `esp_wifi_connect()` and every later one sets
`WIFI_FAIL_BIT`, whatever `WIFI_EVENT_STA_CONNECTED` events come between. -/
theorem staDisconnectedOps_handleEvents (events : List WiFiEvent) (handler : Handler) :
    staDisconnectedOps events (handleEvents events handler).2 =
      (List.range (events.countP WiFiEvent.isStaDisconnected)).map
        fun n => retryOrFail (handler.sRetryNum + n) := by
  induction events generalizing handler with
  | nil => rfl
  | cons event events ih =>
      have counter := sRetryNum_wifiEventHandler event handler
      simp only [handleEvents, staDisconnectedOps, List.countP_cons, ih]
      by_cases disconnect : event.isStaDisconnected
      · obtain ⟨reason, rfl⟩ : ∃ reason, event = .staDisconnected reason := by
          cases event <;> simp_all [WiFiEvent.isStaDisconnected]
        simp only [disconnect, if_true, true_and] at counter ⊢
        rw [List.range_succ_eq_map, List.map_cons, List.map_map]
        congr 1
        · simp [wifiEventHandler, staDisconnected_ops]
        · exact List.map_congr_left fun n _ => by
            rw [Function.comp_apply, counter, retryOrFail_after]
      · simp [disconnect, counter]

/-! ## The state a run leaves -/

/-- What a station event says of the link: up for `WIFI_EVENT_STA_CONNECTED`,
down for `WIFI_EVENT_STA_DISCONNECTED`, nothing for the others. -/
def WiFiEvent.link : WiFiEvent → Option Bool
  | .staConnected => some true
  | .staDisconnected _ => some false
  | _ => none

/-- What the last station connect or disconnect of a run says of the link,
when the run has one. -/
def lastLink (events : List WiFiEvent) : Option Bool := (events.filterMap WiFiEvent.link).getLast?

theorem getD_lastLink_cons (event : WiFiEvent) (events : List WiFiEvent) (up : Bool) :
    (lastLink (event :: events)).getD up = (lastLink events).getD (event.link.getD up) := by
  unfold lastLink
  cases link : event.link <;> simp [List.filterMap_cons, link, List.getLast?_cons]

/-- One event: `WIFI_CONNECTED_BIT` follows the link, `WIFI_FAIL_BIT` is set
by a disconnect that finds the retries spent and cleared by nothing, and
`wifi_sta_has_ip_` is cleared by a disconnect and set by nothing. -/
theorem wifiEventHandler_state (event : WiFiEvent) (handler : Handler) :
    (wifiEventHandler event handler).1.wifiEventGroup.connected = event.link.getD handler.wifiEventGroup.connected ∧
      (wifiEventHandler event handler).1.wifiEventGroup.failed = (handler.wifiEventGroup.failed ||
        (event.isStaDisconnected && decide (kWiFiStaMaxNumReconnectAttempts ≤ handler.sRetryNum))) ∧
      (wifiEventHandler event handler).1.wifiStaHasIp = (handler.wifiStaHasIp && !event.isStaDisconnected) := by
  cases event <;> simp only [wifiEventHandler, staDisconnected, WiFiEvent.link, WiFiEvent.isStaDisconnected,
    Option.getD_some, Option.getD_none, Bool.false_and, Bool.or_false, Bool.not_false, Bool.and_true,
    Bool.not_true, Bool.and_false, Bool.true_and, and_self, EventGroup.write]
  split <;> simp_all [EventGroup.write]

theorem sRetryNum_handleEvents (events : List WiFiEvent) (handler : Handler) :
    (handleEvents events handler).1.sRetryNum =
      min (handler.sRetryNum + events.countP WiFiEvent.isStaDisconnected)
        (max handler.sRetryNum kWiFiStaMaxNumReconnectAttempts) := by
  induction events generalizing handler with
  | nil => exact (Nat.min_eq_left (Nat.le_max_left _ _)).symm
  | cons event events ih =>
      rw [handleEvents, ih, sRetryNum_wifiEventHandler, List.countP_cons]
      by_cases disconnect : event.isStaDisconnected = true
      · simp only [disconnect, true_and, if_true]
        split_ifs <;> omega
      · simp only [disconnect, Bool.false_eq_true, false_and, if_false, Nat.add_zero]

theorem failed_handleEvents (events : List WiFiEvent) (handler : Handler) :
    (handleEvents events handler).1.wifiEventGroup.failed = (handler.wifiEventGroup.failed ||
      decide (0 < events.countP WiFiEvent.isStaDisconnected ∧
        kWiFiStaMaxNumReconnectAttempts < handler.sRetryNum + events.countP WiFiEvent.isStaDisconnected)) := by
  induction events generalizing handler with
  | nil => simp [handleEvents]
  | cons event events ih =>
      rw [handleEvents, ih, (wifiEventHandler_state event handler).2.1, sRetryNum_wifiEventHandler,
        List.countP_cons, Bool.eq_iff_iff]
      cases handler.wifiEventGroup.failed
      · by_cases disconnect : event.isStaDisconnected = true
        · simp only [disconnect, true_and, if_true, Bool.or_eq_true, Bool.and_eq_true, decide_eq_true_eq,
            Bool.false_eq_true, false_or]
          split_ifs <;> omega
        · simp only [disconnect, false_and, if_false, Nat.add_zero, Bool.or_eq_true, Bool.and_eq_true,
            Bool.false_eq_true, and_false, false_or]
      · simp

theorem wifiStaHasIp_handleEvents (events : List WiFiEvent) (handler : Handler) :
    (handleEvents events handler).1.wifiStaHasIp =
      (handler.wifiStaHasIp && events.countP WiFiEvent.isStaDisconnected == 0) := by
  induction events generalizing handler with
  | nil => simp [handleEvents]
  | cons event events ih =>
      rw [handleEvents, ih, (wifiEventHandler_state event handler).2.2, List.countP_cons]
      cases event.isStaDisconnected <;> simp

theorem connected_handleEvents (events : List WiFiEvent) (handler : Handler) :
    (handleEvents events handler).1.wifiEventGroup.connected =
      (lastLink events).getD handler.wifiEventGroup.connected := by
  induction events generalizing handler with
  | nil => rfl
  | cons event events ih =>
      rw [handleEvents, ih, (wifiEventHandler_state event handler).1, getD_lastLink_cons]

/-- Over any run of the handler: `s_retry_num` has counted the disconnects of
the run up to `kWiFiStaMaxNumReconnectAttempts` and never goes back;
`WIFI_CONNECTED_BIT` says what the last station connect or disconnect of the
run said of the link; `WIFI_FAIL_BIT` is set, and stays set, exactly when a
disconnect of the run found the retries spent; and `wifi_sta_has_ip_` is
cleared by any disconnect of the run. -/
theorem handleEvents_state (events : List WiFiEvent) (handler : Handler) :
    let final := (handleEvents events handler).1
    let disconnects := events.countP WiFiEvent.isStaDisconnected
    final.sRetryNum = min (handler.sRetryNum + disconnects) (max handler.sRetryNum kWiFiStaMaxNumReconnectAttempts) ∧
      final.wifiEventGroup.connected = (lastLink events).getD handler.wifiEventGroup.connected ∧
      final.wifiEventGroup.failed = (handler.wifiEventGroup.failed ||
        decide (0 < disconnects ∧ kWiFiStaMaxNumReconnectAttempts < handler.sRetryNum + disconnects)) ∧
      final.wifiStaHasIp = (handler.wifiStaHasIp && disconnects == 0) :=
  ⟨sRetryNum_handleEvents events handler, connected_handleEvents events handler,
    failed_handleEvents events handler, wifiStaHasIp_handleEvents events handler⟩

/-! ## The retry budget -/

/-- One event calls `esp_wifi_connect()` once for `WIFI_EVENT_STA_START`, once
for a disconnect that finds retries left, and otherwise not. -/
theorem count_espWifiConnect_wifiEventHandler (event : WiFiEvent) (handler : Handler) :
    (wifiEventHandler event handler).2.count .espWifiConnect =
      (if event = .staStart then 1 else 0) +
        if event.isStaDisconnected ∧ handler.sRetryNum < kWiFiStaMaxNumReconnectAttempts then 1 else 0 := by
  cases event <;> simp [wifiEventHandler, staDisconnected, WiFiEvent.isStaDisconnected]
  split <;> simp

/-- Over any run of the handler, from any state: each `esp_wifi_connect()`
answers a `WIFI_EVENT_STA_START` or is a retry counted in `s_retry_num`, and
since nothing resets the counter, the retries of the whole run are as many as
its disconnects but at most what the bound leaves of the counter; from boot, at
most `kWiFiStaMaxNumReconnectAttempts` however many failure episodes the run
has. -/
theorem handleEvents_espWifiConnect (events : List WiFiEvent) (handler : Handler) :
    (handleEvents events handler).2.flatten.count .espWifiConnect =
      events.count .staStart +
        min (events.countP WiFiEvent.isStaDisconnected) (kWiFiStaMaxNumReconnectAttempts - handler.sRetryNum) := by
  induction events generalizing handler with
  | nil => simp [handleEvents]
  | cons event events ih =>
      rw [handleEvents, List.flatten_cons, List.count_append, ih, count_espWifiConnect_wifiEventHandler,
        sRetryNum_wifiEventHandler, List.count_cons, List.countP_cons]
      by_cases disconnect : event.isStaDisconnected = true
      · have notStart : event ≠ .staStart := by
          rintro rfl
          exact Bool.false_ne_true disconnect
        simp only [disconnect, notStart, true_and, if_true, if_false, beq_iff_eq]
        split_ifs <;> omega
      · simp only [disconnect, Bool.false_eq_true, false_and, if_false, Nat.add_zero, beq_iff_eq]
        split_ifs <;> omega

/-! ## The client table -/

/-- Whether an event is the station with hardware address `mac` leaving the
access point. -/
def WiFiEvent.leaves (mac : List UInt8) : WiFiEvent → Bool
  | .apStaDisconnected left _ => decide (left = mac)
  | _ => false

theorem staDisconnected_clients (handler : Handler) :
    (staDisconnected handler).1.wifiClientsList = handler.wifiClientsList := by
  simp only [staDisconnected]
  split <;> rfl

/-- One event deactivates the slots of the station it names as leaving, and
touches the table otherwise not. -/
theorem wifiEventHandler_clients (event : WiFiEvent) (handler : Handler) :
    (wifiEventHandler event handler).1.wifiClientsList = handler.wifiClientsList.map fun client =>
      if event.leaves client.mac then { client with active := false } else client := by
  cases event <;> simp [wifiEventHandler, WiFiEvent.leaves, wiFiRemoveClient, staDisconnected_clients, eq_comm]

/-- Over any run of the handler, from any state: a slot of the client table
ends inactive when a `WIFI_EVENT_AP_STADISCONNECTED` of the run named its
station, and as it was otherwise; the table keeps its slots. -/
theorem clients_handleEvents (events : List WiFiEvent) (handler : Handler) :
    (handleEvents events handler).1.wifiClientsList = handler.wifiClientsList.map fun client =>
      if events.any (WiFiEvent.leaves client.mac) then { client with active := false } else client := by
  induction events generalizing handler with
  | nil => simp [handleEvents]
  | cons event events ih =>
      rw [handleEvents, ih, wifiEventHandler_clients, List.map_map]
      congr 1
      funext client
      by_cases left : event.leaves client.mac <;> simp [left]

/-! ## Failure episodes -/

/-- The position of each disconnect of a run in its failure episode, from `1`:
disconnects since the last `WIFI_EVENT_STA_CONNECTED`, or since the start of
the run. -/
def episodePositions : List WiFiEvent → Nat → List Nat
  | [], _ => []
  | .staConnected :: events, _ => episodePositions events 0
  | .staDisconnected _ :: events, k => (k + 1) :: episodePositions events (k + 1)
  | _ :: events, k => episodePositions events k

/-- A reconnection law per failure episode: the `k`-th disconnect of an episode
calls `esp_wifi_connect()` exactly when `k ≤ kWiFiStaMaxNumReconnectAttempts`,
and sets `WIFI_FAIL_BIT` exactly when it is the one after those. -/
def RetriesPerEpisode (events : List WiFiEvent) (transcript : List (List HandlerOp)) : Prop :=
  ∀ entry ∈ (episodePositions events 0).zip (staDisconnectedOps events transcript),
    (HandlerOp.espWifiConnect ∈ entry.2 ↔ entry.1 ≤ kWiFiStaMaxNumReconnectAttempts) ∧
    (HandlerOp.xEventGroupSetBits .WIFI_FAIL_BIT ∈ entry.2 ↔
      entry.1 = kWiFiStaMaxNumReconnectAttempts + 1)

instance (events : List WiFiEvent) (transcript : List (List HandlerOp)) :
    Decidable (RetriesPerEpisode events transcript) :=
  inferInstanceAs (Decidable (∀ entry ∈ (episodePositions events 0).zip
    (staDisconnectedOps events transcript),
    (HandlerOp.espWifiConnect ∈ entry.2 ↔ entry.1 ≤ kWiFiStaMaxNumReconnectAttempts) ∧
    (HandlerOp.xEventGroupSetBits .WIFI_FAIL_BIT ∈ entry.2 ↔
      entry.1 = kWiFiStaMaxNumReconnectAttempts + 1)))

/-- The handler does not keep that law: after five disconnects and a
reconnection, the first disconnect of the new episode gets no retry. -/
theorem retriesPerEpisode_fails_after_reconnect :
    ¬ RetriesPerEpisode
      (List.replicate 5 (.staDisconnected 0) ++ [.staConnected, .staDisconnected 0])
      (handleEvents (List.replicate 5 (.staDisconnected 0) ++ [.staConnected, .staDisconnected 0])
        ⟨0, ⟨false, false⟩, false, []⟩).2 := by
  decide

end CommsWiFi
