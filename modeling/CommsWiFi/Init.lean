import CommsWiFi.EventHandler

/-!
# Bringing WiFi up

`CommsManager::WiFiInit` (lines 421–525) configures the access point and the
station, starts the driver, and, with the station enabled, blocks in
`xEventGroupWaitBits` until the event handler sets `WIFI_CONNECTED_BIT` or
`WIFI_FAIL_BIT`; it starts the station task only in the first case.  The wait
is modelled against `WiFiEventHandler` itself, fed the events the driver
delivers while `WiFiInit` waits (`waitBits`).  From boot, the outcome is
decided by the order of two events: a `WIFI_EVENT_STA_CONNECTED`, or the sixth
`WIFI_EVENT_STA_DISCONNECTED` (`connectOutcome`, `wiFiInit_station`).
`CommsManager::WiFiDeInit` (lines 527–532) resets the chip once WiFi was
initialised.
-/

namespace CommsWiFi

/-- The members of `CommsManager` that `WiFiInit` reads. -/
structure WiFiSettings where
  wifiApEnabled : Bool
  wifiStaEnabled : Bool
  wifiApSsid : CString
  wifiApPassword : CString
  wifiApChannel : UInt8
  wifiStaSsid : CString
  wifiStaPassword : CString
  ipEventHandlerWasInitialized : Bool

/-- `wifi_mode_t`, the values `WiFiInit` sets. -/
inductive WiFiMode where
  | WIFI_MODE_APSTA
  | WIFI_MODE_AP
  | WIFI_MODE_STA
  deriving DecidableEq, Repr

/-- `wifi_auth_mode_t`, the values `WiFiInit` sets. -/
inductive WiFiAuthMode where
  | WIFI_AUTH_OPEN
  | WIFI_AUTH_WPA_WPA2_PSK
  deriving DecidableEq, Repr

/-- The fields of `wifi_config_ap.ap` that `WiFiInit` writes. -/
structure WiFiConfigAp where
  ssid : CString
  password : CString
  channel : UInt8
  ssidLen : Nat
  authmode : WiFiAuthMode
  maxConnection : Nat
  deriving DecidableEq, Repr

/-- The calls of `WiFiInit` on the network stack and the scheduler. -/
inductive InitOp where
  | espNetifCreateDefaultWifiAp
  | espNetifCreateDefaultWifiSta
  | espNetifSetHostname (hostname : CString)
  | espWifiInit
  | espEventHandlerRegister
  | ipInit
  | espWifiSetMode (mode : WiFiMode)
  | espWifiSetConfigAp (config : WiFiConfigAp)
  | espWifiSetConfigSta (ssid password : CString)
  | espWifiStop
  | espWifiStart
  | createWifiApTask
  | xEventGroupWaitBits
  | createWifiStaTask
  deriving DecidableEq, Repr

/-- What `WiFiInit` leaves: its result (`none` while it still waits), the flags
it sets and its calls. -/
structure InitResult where
  result : Option Bool
  wifiWasInitialized : Bool
  runWifiApTask : Bool
  runWifiStaTask : Bool
  ops : List InitOp
  deriving DecidableEq, Repr

/-- `xEventGroupWaitBits(wifi_event_group_, WIFI_CONNECTED_BIT | WIFI_FAIL_BIT,
pdFALSE, pdFALSE, portMAX_DELAY)` against the event handler: the bits once
either is set, the handler handling the events the driver delivers meanwhile;
`none` while neither is set. -/
def waitBits : List WiFiEvent → Handler → Option EventGroup
  | events, handler =>
      if handler.wifiEventGroup.connected || handler.wifiEventGroup.failed then some handler.wifiEventGroup
      else
        match events with
        | [] => none
        | event :: events => waitBits events (wifiEventHandler event handler).1

/-- The mode `WiFiInit` selects. -/
def wifiMode (settings : WiFiSettings) : WiFiMode :=
  if settings.wifiApEnabled && settings.wifiStaEnabled then .WIFI_MODE_APSTA
  else if settings.wifiApEnabled then .WIFI_MODE_AP
  else .WIFI_MODE_STA

/-- The access-point configuration: open when the password is empty. -/
def wifiConfigAp (kWiFiMaxNumClients : Nat) (settings : WiFiSettings) : WiFiConfigAp where
  ssid := settings.wifiApSsid
  password := settings.wifiApPassword
  channel := settings.wifiApChannel
  ssidLen := settings.wifiApSsid.bytes.length
  authmode := if settings.wifiApPassword.bytes.length = 0 then .WIFI_AUTH_OPEN else .WIFI_AUTH_WPA_WPA2_PSK
  maxConnection := kWiFiMaxNumClients

/-- `CommsManager::WiFiInit`, with `events` the events the driver delivers to
the handler, in state `handler`, while it waits. -/
def wiFiInit (kWiFiMaxNumClients : Nat) (hostname : CString) (settings : WiFiSettings)
    (events : List WiFiEvent) (handler : Handler) : InitResult :=
  let setup := [InitOp.espNetifCreateDefaultWifiAp, .espNetifCreateDefaultWifiSta, .espNetifSetHostname hostname,
    .espWifiInit, .espEventHandlerRegister] ++
    (if settings.ipEventHandlerWasInitialized then [] else [.ipInit]) ++
    [.espWifiSetMode (wifiMode settings)] ++
    (if settings.wifiApEnabled then [.espWifiSetConfigAp (wifiConfigAp kWiFiMaxNumClients settings)] else []) ++
    (if settings.wifiStaEnabled then [.espWifiSetConfigSta settings.wifiStaSsid settings.wifiStaPassword] else [])
  if !settings.wifiApEnabled && !settings.wifiStaEnabled then
    ⟨some true, true, false, false, setup ++ [.espWifiStop]⟩
  else
    let started := setup ++ [.espWifiStart] ++ (if settings.wifiApEnabled then [.createWifiApTask] else [])
    if settings.wifiStaEnabled then
      match waitBits events handler with
      | none => ⟨none, true, settings.wifiApEnabled, false, started ++ [.xEventGroupWaitBits]⟩
      | some bits =>
          if bits.connected then
            ⟨some true, true, settings.wifiApEnabled, true, started ++ [.xEventGroupWaitBits, .createWifiStaTask]⟩
          else ⟨some false, true, settings.wifiApEnabled, false, started ++ [.xEventGroupWaitBits]⟩
    else ⟨some true, true, settings.wifiApEnabled, false, started⟩

/-- The calls of `WiFiDeInit` that are not commented out. -/
inductive DeInitOp where
  | espRestart
  deriving DecidableEq, Repr

/-- `CommsManager::WiFiDeInit`: its result, `none` when it resets the chip
with `esp_restart()`, which does not return (so its `return false` is never
reached), and its calls. -/
def wiFiDeInit (wifiWasInitialized : Bool) : Option Bool × List DeInitOp :=
  if !wifiWasInitialized then (some true, []) else (none, [.espRestart])

/-- The handler at boot: no retry yet, both bits clear. -/
def Handler.boot (clients : List WiFiClient) : Handler := ⟨0, ⟨false, false⟩, false, clients⟩

/-! ## What the wait decides -/

/-- What the wait should decide, from a handler with both bits clear that has
made `retries` reconnection attempts: connected at the first
`WIFI_EVENT_STA_CONNECTED`, failed at the first disconnect once
`kWiFiStaMaxNumReconnectAttempts` attempts are spent, and nothing while neither
has come. -/
def connectOutcome : List WiFiEvent → Nat → Option Bool
  | [], _ => none
  | .staConnected :: _, _ => some true
  | .staDisconnected _ :: events, retries =>
      if retries < kWiFiStaMaxNumReconnectAttempts then connectOutcome events (retries + 1) else some false
  | _ :: events, retries => connectOutcome events retries

/-- Once a bit is set, the wait returns at once. -/
theorem waitBits_of_set (events : List WiFiEvent) {handler : Handler}
    (set : (handler.wifiEventGroup.connected || handler.wifiEventGroup.failed) = true) :
    waitBits events handler = some handler.wifiEventGroup := by
  cases events <;> simp [waitBits, set]

/-- The handler refines `connectOutcome`: from both bits clear, the wait ends
with exactly one bit set, the one `connectOutcome` names. -/
theorem waitBits_eq_connectOutcome (events : List WiFiEvent) (handler : Handler)
    (clear : handler.wifiEventGroup = ⟨false, false⟩) :
    waitBits events handler = (connectOutcome events handler.sRetryNum).map fun connected => ⟨connected, !connected⟩ := by
  induction events generalizing handler with
  | nil => simp [waitBits, clear, connectOutcome]
  | cons event events ih =>
      rw [waitBits, clear]
      cases event with
      | staConnected =>
          simp [wifiEventHandler, EventGroup.write, connectOutcome, clear, waitBits_of_set]
      | staDisconnected reason =>
          by_cases spent : handler.sRetryNum < kWiFiStaMaxNumReconnectAttempts
          · simp only [wifiEventHandler, staDisconnected, spent, if_true, connectOutcome]
            exact ih _ (by simp [EventGroup.write, clear])
          · simp [wifiEventHandler, staDisconnected, spent, connectOutcome, EventGroup.write, clear,
              waitBits_of_set]
      | apStaDisconnected mac aid => exact ih _ clear
      | apStaConnected mac aid => exact ih _ clear
      | staStart => exact ih _ clear
      | other eventId => exact ih _ clear

/-- With the station enabled, from boot: `WiFiInit` returns what the order of
the events decides (nothing while it still waits), and starts the station task,
setting `run_wifi_sta_task_`, exactly when a `WIFI_EVENT_STA_CONNECTED` comes
before the sixth `WIFI_EVENT_STA_DISCONNECTED`. -/
theorem wiFiInit_station (kWiFiMaxNumClients : Nat) (hostname : CString) (settings : WiFiSettings)
    (events : List WiFiEvent) (clients : List WiFiClient) (staEnabled : settings.wifiStaEnabled = true) :
    let init := wiFiInit kWiFiMaxNumClients hostname settings events (Handler.boot clients)
    init.result = connectOutcome events 0 ∧
      (init.runWifiStaTask = true ↔ connectOutcome events 0 = some true) ∧
      (InitOp.createWifiStaTask ∈ init.ops ↔ connectOutcome events 0 = some true) := by
  have wait : waitBits events (Handler.boot clients) =
      (connectOutcome events 0).map fun connected => ⟨connected, !connected⟩ :=
    waitBits_eq_connectOutcome events (Handler.boot clients) rfl
  simp only [wiFiInit, staEnabled, Bool.not_true, Bool.and_false, Bool.false_eq_true, if_false, if_true, wait]
  cases connectOutcome events 0 with
  | none => simp
  | some connected => cases connected <;> simp

theorem wiFiInit_station_demo :
    let settings : WiFiSettings := ⟨false, true, CString.empty, CString.empty, 1, CString.empty, CString.empty, true⟩
    let events := [WiFiEvent.staStart, .staDisconnected 2, .staDisconnected 2, .staConnected]
    settings.wifiStaEnabled = true ∧
      let init := wiFiInit 4 CString.empty settings events (Handler.boot [])
      init.result = connectOutcome events 0 ∧
        (init.runWifiStaTask = true ↔ connectOutcome events 0 = some true) ∧
        (InitOp.createWifiStaTask ∈ init.ops ↔ connectOutcome events 0 = some true) :=
  ⟨rfl, wiFiInit_station 4 CString.empty _ _ [] rfl⟩

end CommsWiFi
