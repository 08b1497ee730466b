import CommsWiFi.Basic

/-!
# The access-point broadcaster

`CommsManager::WiFiAccessPointTask` takes one `NetworkMessage` at a time from
its queue and, holding `wifi_clients_list_mutex_`, sends it by UDP to every
active slot of `wifi_clients_list_`.  A client gets up to `kWiFiNumRetries`
attempts, and another attempt only after `sendto` failed with `ENOMEM`
(lines 108–146 of `comms_wifi.cpp`).

The environment's answers are a function of the client slot and the attempt
number, so that one fan-out pass is a pure function of the table, the message
and those answers.  `broadcastMessage_spec` says what one pass does.

A pass waits in `vTaskDelay` only right after a `sendto` answered with
`ENOMEM`, `kWiFiRetryWaitTimeMs` each time, and always between its take and its
give of the mutex, so at most `kWiFiNumRetries` times per active client
(`broadcastMessage_delayMs`).
-/

namespace CommsWiFi

/-- `kWiFiNumRetries`. -/
def kWiFiNumRetries : Nat := 3

/-- `kWiFiRetryWaitTimeMs`. -/
def kWiFiRetryWaitTimeMs : Nat := 100

/-- `ENOMEM` of the network stack's `errno.h`. -/
def ENOMEM : Nat := 12

/-- One slot of `wifi_clients_list_`: the station's hardware address, the IPv4
address it was given and whether the slot is in use. -/
structure WiFiClient where
  mac : List UInt8
  ip : InAddr
  active : Bool
  deriving DecidableEq, Repr

/-- `WiFiRemoveClient(mac)`.  Modelled from the spec: the function is declared
outside this slice; on a station leaving the access point it deactivates the
slot with that hardware address. -/
def wiFiRemoveClient (mac : List UInt8) (clients : List WiFiClient) : List WiFiClient :=
  clients.map fun client => if client.mac = mac then { client with active := false } else client

/-- A message for every client of the access point. -/
structure NetworkMessage where
  data : List UInt8
  len : Nat
  port : UInt16
  deriving DecidableEq, Repr

/-- What `sendto` returns, with the `errno` it leaves. -/
structure SendtoResult where
  ret : Int
  errno : Nat
  deriving DecidableEq, Repr

/-- Whether the loop tries again after this answer: `ret < 0` and `errno == ENOMEM`. -/
def SendtoResult.retries (result : SendtoResult) : Bool :=
  decide (result.ret < 0) && result.errno == ENOMEM

/-- The calls of one fan-out pass, in order. -/
inductive BroadcastOp where
  | xSemaphoreTake
  | sendto (destAddr : SockaddrIn) (data : List UInt8) (len : Nat) (result : SendtoResult)
  | vTaskDelay (ms : Nat)
  /-- `"Error occurred during sending: errno %d. Tried %d times."` -/
  | sendError (errno : Nat) (numTries : Nat)
  | xSemaphoreGive
  deriving DecidableEq, Repr

/-- How the `num_tries` loop ends: the calls it made, the last answer and the
value of `num_tries`. -/
structure RetryExit where
  ops : List BroadcastOp
  last : SendtoResult
  numTries : Nat

/-- The `num_tries` loop from attempt `numTries` on, with `remaining` iterations
left and `last` the answer before them. -/
def retryLoop (answer : Nat → SendtoResult) (destAddr : SockaddrIn) (message : NetworkMessage) :
    (numTries remaining : Nat) → SendtoResult → RetryExit
  | numTries, 0, last => ⟨[], last, numTries⟩
  | numTries, remaining + 1, _ =>
      let result := answer numTries
      let attempt := BroadcastOp.sendto destAddr message.data message.len result
      if result.retries then
        let exit := retryLoop answer destAddr message (numTries + 1) remaining result
        { exit with ops := attempt :: .vTaskDelay kWiFiRetryWaitTimeMs :: exit.ops }
      else
        ⟨[attempt], result, numTries⟩

/-- The body of the client loop for one slot of the table. -/
def sendToClient (answer : Nat → SendtoResult) (message : NetworkMessage) (client : WiFiClient) :
    List BroadcastOp :=
  if client.active then
    let exit := retryLoop answer ⟨message.port, client.ip⟩ message 0 kWiFiNumRetries ⟨0, 0⟩
    exit.ops ++ if exit.last.ret < 0 then [.sendError exit.last.errno exit.numTries] else []
  else
    []

/-- One fan-out pass of `WiFiAccessPointTask` over the table, slot `i` answered
by `answers i`. -/
def broadcastMessage (answers : Nat → Nat → SendtoResult) (message : NetworkMessage)
    (clients : List WiFiClient) : List BroadcastOp :=
  .xSemaphoreTake :: forEachClient 0 clients ++ [.xSemaphoreGive]
where
  forEachClient (i : Nat) : List WiFiClient → List BroadcastOp
    | [] => []
    | client :: clients => sendToClient (answers i) message client ++ forEachClient (i + 1) clients

/-! ## One client -/

/-- The `sendto` calls of a list of calls, with their destination, payload,
length and answer. -/
def sendtoCalls : List BroadcastOp → List (SockaddrIn × List UInt8 × Nat × SendtoResult)
  | [] => []
  | .sendto destAddr data len result :: ops => (destAddr, data, len, result) :: sendtoCalls ops
  | _ :: ops => sendtoCalls ops

@[simp] theorem sendtoCalls_append (ops ops' : List BroadcastOp) :
    sendtoCalls (ops ++ ops') = sendtoCalls ops ++ sendtoCalls ops' := by
  induction ops with
  | nil => rfl
  | cons op ops ih => cases op <;> simp [sendtoCalls, ih]

section Retry

variable (answer : Nat → SendtoResult) (destAddr : SockaddrIn) (message : NetworkMessage)

/-- The attempts of the retry loop: `count` of them, the `k`-th answered by
`answer (numTries + k)`, each before the last one answered with `ENOMEM`. -/
theorem retryLoop_attempts (numTries remaining : Nat) (last : SendtoResult) (running : 0 < remaining) :
    ∃ count, 1 ≤ count ∧ count ≤ remaining ∧
      sendtoCalls (retryLoop answer destAddr message numTries remaining last).ops =
        (List.range count).map (fun k => (destAddr, message.data, message.len, answer (numTries + k))) ∧
      ∀ k, k + 1 < count → (answer (numTries + k)).retries := by
  induction remaining generalizing numTries last with
  | zero => omega
  | succ remaining ih =>
      by_cases again : (answer numTries).retries
      · rcases Nat.eq_zero_or_pos remaining with rfl | more
        · refine ⟨1, le_rfl, le_rfl, ?_, fun k lt => by omega⟩
          simp [retryLoop, again, sendtoCalls, List.range_succ]
        · obtain ⟨count, one, atMost, calls, before⟩ := ih (numTries + 1) (answer numTries) more
          refine ⟨count + 1, by omega, by omega, ?_, ?_⟩
          · simp only [retryLoop, again, if_true, sendtoCalls, calls, List.range_succ_eq_map,
              List.map_cons, List.map_map]
            simp [Function.comp_def, Nat.add_assoc, Nat.add_comm 1]
          · intro k lt
            cases k with
            | zero => exact again
            | succ k => simpa [Nat.add_assoc, Nat.add_comm 1] using before k (by omega)
      · refine ⟨1, le_rfl, by omega, ?_, fun k lt => by omega⟩
        simp [retryLoop, again, sendtoCalls, List.range_succ]

end Retry

/-- The calls for one slot: none for an inactive slot; for an active one,
between one and `kWiFiNumRetries` attempts to its address carrying the message,
the `k`-th answered by `answer k`, each but the last answered with `ENOMEM`. -/
theorem sendToClient_attempts (answer : Nat → SendtoResult) (message : NetworkMessage)
    (client : WiFiClient) :
    (client.active = false → sendToClient answer message client = []) ∧
    (client.active = true → ∃ count, 1 ≤ count ∧ count ≤ kWiFiNumRetries ∧
      sendtoCalls (sendToClient answer message client) =
        (List.range count).map (fun k => (⟨message.port, client.ip⟩, message.data, message.len, answer k)) ∧
      ∀ k, k + 1 < count → (answer k).retries) := by
  refine ⟨fun inactive => by simp [sendToClient, inactive], fun active => ?_⟩
  obtain ⟨count, one, atMost, calls, before⟩ :=
    retryLoop_attempts answer ⟨message.port, client.ip⟩ message 0 kWiFiNumRetries ⟨0, 0⟩ (by decide)
  refine ⟨count, one, atMost, ?_, by simpa using before⟩
  simp only [sendToClient, active, if_true, sendtoCalls_append, calls, Nat.zero_add]
  split <;> simp [sendtoCalls]

/-! ## One pass -/

theorem forEachClient_eq (answers : Nat → Nat → SendtoResult) (message : NetworkMessage) (i : Nat)
    (clients : List WiFiClient) :
    broadcastMessage.forEachClient answers message i clients =
      ((clients.enumFrom i).map fun slot => sendToClient (answers slot.1) message slot.2).flatten := by
  induction clients generalizing i with
  | nil => rfl
  | cons client clients ih => simp [broadcastMessage.forEachClient, ih]

/-- Whether a call is on `wifi_clients_list_mutex_`. -/
def BroadcastOp.isMutex : BroadcastOp → Bool
  | .xSemaphoreTake | .xSemaphoreGive => true
  | _ => false

theorem not_isMutex_of_mem_retryLoop {answer : Nat → SendtoResult} {destAddr : SockaddrIn}
    {message : NetworkMessage} {numTries remaining : Nat} {last : SendtoResult} {op : BroadcastOp}
    (member : op ∈ (retryLoop answer destAddr message numTries remaining last).ops) :
    op.isMutex = false := by
  induction remaining generalizing numTries last with
  | zero => simp [retryLoop] at member
  | succ remaining ih =>
      simp only [retryLoop] at member
      split at member <;> simp at member
      · rcases member with rfl | rfl | member
        · rfl
        · rfl
        · exact ih member
      · subst member; rfl

theorem not_isMutex_of_mem_sendToClient {answer : Nat → SendtoResult} {message : NetworkMessage}
    {client : WiFiClient} {op : BroadcastOp} (member : op ∈ sendToClient answer message client) :
    op.isMutex = false := by
  unfold sendToClient at member
  split at member
  · simp only [List.mem_append] at member
    rcases member with member | member
    · exact not_isMutex_of_mem_retryLoop member
    · split at member <;> simp at member
      subst member; rfl
  · simp at member

theorem not_isMutex_of_mem_forEachClient {answers : Nat → Nat → SendtoResult} {message : NetworkMessage}
    {clients : List WiFiClient} {op : BroadcastOp}
    (member : op ∈ broadcastMessage.forEachClient answers message 0 clients) : op.isMutex = false := by
  rw [forEachClient_eq] at member
  simp only [List.mem_flatten, List.mem_map] at member
  obtain ⟨_, ⟨slot, _, rfl⟩, member⟩ := member
  exact not_isMutex_of_mem_sendToClient member

/-- One fan-out pass: the mutex is taken first and given last, once each; in
between come the calls for each slot in slot order, those for slot `i` decided
by its entry of the table and its own answers alone; an inactive slot gets no
call, an active one between one and three `sendto` attempts to its address with
the message's data, length and port, a further attempt only after `ENOMEM`. -/
theorem broadcastMessage_spec (answers : Nat → Nat → SendtoResult) (message : NetworkMessage)
    (clients : List WiFiClient) :
    let ops := broadcastMessage answers message clients
    ops.count .xSemaphoreTake = 1 ∧ ops.count .xSemaphoreGive = 1 ∧
    ops = .xSemaphoreTake ::
      (clients.enum.map fun slot => sendToClient (answers slot.1) message slot.2).flatten ++
        [.xSemaphoreGive] ∧
    ∀ i client, clients.get? i = some client →
      (client.active = false → sendToClient (answers i) message client = []) ∧
      (client.active = true → ∃ count, 1 ≤ count ∧ count ≤ kWiFiNumRetries ∧
        sendtoCalls (sendToClient (answers i) message client) =
          (List.range count).map
            (fun k => (⟨message.port, client.ip⟩, message.data, message.len, answers i k)) ∧
        ∀ k, k + 1 < count → (answers i k).retries) := by
  have noMutex : ∀ op ∈ (clients.enum.map fun slot => sendToClient (answers slot.1) message slot.2).flatten,
      op.isMutex = false := fun _ member => not_isMutex_of_mem_forEachClient (by rwa [forEachClient_eq])
  have shape : broadcastMessage answers message clients = .xSemaphoreTake ::
      (clients.enum.map fun slot => sendToClient (answers slot.1) message slot.2).flatten ++
        [.xSemaphoreGive] := by
    simp [broadcastMessage, forEachClient_eq, List.enum]
  have noTake := List.count_eq_zero.2 fun member => absurd (noMutex .xSemaphoreTake member) (by decide)
  have noGive := List.count_eq_zero.2 fun member => absurd (noMutex .xSemaphoreGive member) (by decide)
  refine ⟨?_, ?_, shape, fun i client _ => sendToClient_attempts (answers i) message client⟩ <;>
    simp [shape, List.count_cons, noTake, noGive]


/-! ## Time under the mutex -/

/-- The milliseconds a call waits in `vTaskDelay`. -/
def BroadcastOp.delayMs : BroadcastOp → Nat
  | .vTaskDelay ms => ms
  | _ => 0

/-- The milliseconds a list of calls waits in `vTaskDelay`. -/
def delayMs : List BroadcastOp → Nat
  | [] => 0
  | op :: ops => op.delayMs + delayMs ops

/-- The number of `sendto` calls answered with `ENOMEM`. -/
def enomemAnswers (ops : List BroadcastOp) : Nat := (sendtoCalls ops).countP fun call => call.2.2.2.retries

@[simp] theorem delayMs_append (ops ops' : List BroadcastOp) : delayMs (ops ++ ops') = delayMs ops + delayMs ops' := by
  induction ops with
  | nil => simp [delayMs]
  | cons op ops ih => simp [delayMs, ih, Nat.add_assoc]

@[simp] theorem enomemAnswers_append (ops ops' : List BroadcastOp) :
    enomemAnswers (ops ++ ops') = enomemAnswers ops + enomemAnswers ops' := by
  simp [enomemAnswers]

/-- The retry loop waits once after each answer it retries. -/
theorem delayMs_retryLoop (answer : Nat → SendtoResult) (destAddr : SockaddrIn) (message : NetworkMessage)
    (numTries remaining : Nat) (last : SendtoResult) :
    delayMs (retryLoop answer destAddr message numTries remaining last).ops =
      kWiFiRetryWaitTimeMs * enomemAnswers (retryLoop answer destAddr message numTries remaining last).ops := by
  induction remaining generalizing numTries last with
  | zero => rfl
  | succ remaining ih =>
      simp only [retryLoop]
      split
      next again =>
        have rest := ih (numTries + 1) (answer numTries)
        simp only [delayMs, enomemAnswers] at rest ⊢
        simp [sendtoCalls, BroadcastOp.delayMs, again, rest, Nat.mul_add, Nat.add_comm]
      next stop => simp [delayMs, enomemAnswers, sendtoCalls, BroadcastOp.delayMs, stop]

/-- A slot waits once after each answer its loop retries; the error line does
not wait. -/
theorem delayMs_sendToClient (answer : Nat → SendtoResult) (message : NetworkMessage) (client : WiFiClient) :
    delayMs (sendToClient answer message client) =
      kWiFiRetryWaitTimeMs * enomemAnswers (sendToClient answer message client) := by
  unfold sendToClient
  split
  · simp only [delayMs_append, enomemAnswers_append, delayMs_retryLoop, Nat.mul_add]
    split <;> simp [delayMs, enomemAnswers, sendtoCalls, BroadcastOp.delayMs]
  · rfl

/-- A slot's loop meets at most `kWiFiNumRetries` answers `ENOMEM`, and an
inactive slot none. -/
theorem enomemAnswers_sendToClient (answer : Nat → SendtoResult) (message : NetworkMessage)
    (client : WiFiClient) :
    enomemAnswers (sendToClient answer message client) ≤ if client.active then kWiFiNumRetries else 0 := by
  obtain ⟨inactive, active⟩ := sendToClient_attempts answer message client
  cases activity : client.active
  · simp [inactive activity, enomemAnswers, sendtoCalls]
  · obtain ⟨count, -, atMost, calls, -⟩ := active activity
    simp only [enomemAnswers, calls, if_true]
    exact (List.countP_le_length _).trans (by simpa using atMost)

theorem forEachClient_delayMs (answers : Nat → Nat → SendtoResult) (message : NetworkMessage) (i : Nat)
    (clients : List WiFiClient) :
    delayMs (broadcastMessage.forEachClient answers message i clients) =
        kWiFiRetryWaitTimeMs * enomemAnswers (broadcastMessage.forEachClient answers message i clients) ∧
      enomemAnswers (broadcastMessage.forEachClient answers message i clients) ≤
        kWiFiNumRetries * clients.countP (·.active) := by
  induction clients generalizing i with
  | nil => exact ⟨rfl, Nat.zero_le _⟩
  | cons client clients ih =>
      obtain ⟨restDelay, restBound⟩ := ih (i + 1)
      have slot := enomemAnswers_sendToClient (answers i) message client
      simp only [broadcastMessage.forEachClient, delayMs_append, enomemAnswers_append, List.countP_cons,
        delayMs_sendToClient, restDelay, Nat.mul_add, true_and]
      cases activity : client.active <;> simp only [activity, if_true, if_false, Bool.false_eq_true] at slot ⊢ <;>
        omega

/-- Every `vTaskDelay` of a list of calls waits `kWiFiRetryWaitTimeMs` right
after a `sendto` answered with `ENOMEM`. -/
def WaitsAfterEnomem (ops : List BroadcastOp) : Prop :=
  ∀ pre ms post, ops = pre ++ .vTaskDelay ms :: post → ms = kWiFiRetryWaitTimeMs ∧
    ∃ pre' dest data len result, pre = pre' ++ [.sendto dest data len result] ∧ result.retries = true

theorem waitsAfterEnomem_of_forall {ops : List BroadcastOp} (noWait : ∀ ms, .vTaskDelay ms ∉ ops) :
    WaitsAfterEnomem ops := fun pre ms _ split =>
  absurd (split ▸ List.mem_append_right pre (List.mem_cons_self _ _)) (noWait ms)

theorem waitsAfterEnomem_retried {dest : SockaddrIn} {data : List UInt8} {len : Nat} {result : SendtoResult}
    (retried : result.retries = true) :
    WaitsAfterEnomem [.sendto dest data len result, .vTaskDelay kWiFiRetryWaitTimeMs] := by
  intro pre ms post split
  rcases pre with _ | ⟨op, _ | ⟨op', pre⟩⟩ <;> simp at split
  obtain ⟨rfl, rfl, -⟩ := split
  exact ⟨rfl, [], dest, data, len, result, rfl, retried⟩

theorem WaitsAfterEnomem.append {ops ops' : List BroadcastOp} (first : WaitsAfterEnomem ops)
    (second : WaitsAfterEnomem ops') : WaitsAfterEnomem (ops ++ ops') := by
  intro pre ms post split
  rcases List.append_eq_append_iff.1 split with ⟨rest, rfl, inSecond⟩ | ⟨_ | ⟨op, rest⟩, inFirst, inSecond⟩
  · -- the wait is one of the second list
    obtain ⟨wait, pre', dest, data, len, result, rfl, retried⟩ := second rest ms post inSecond
    exact ⟨wait, ops ++ pre', dest, data, len, result, (List.append_assoc _ _ _).symm, retried⟩
  · -- the second list would start with it
    obtain ⟨-, pre', _, _, _, _, ends, -⟩ := second [] ms post inSecond.symm
    simp at ends
  · -- the wait is one of the first list
    obtain ⟨rfl, rfl⟩ := List.cons.inj inSecond
    exact first pre ms rest inFirst

theorem waitsAfterEnomem_retryLoop (answer : Nat → SendtoResult) (destAddr : SockaddrIn)
    (message : NetworkMessage) (numTries remaining : Nat) (last : SendtoResult) :
    WaitsAfterEnomem (retryLoop answer destAddr message numTries remaining last).ops := by
  induction remaining generalizing numTries last with
  | zero => exact waitsAfterEnomem_of_forall (by simp [retryLoop])
  | succ remaining ih =>
      simp only [retryLoop]
      split
      next again => exact (waitsAfterEnomem_retried again).append (ih _ _)
      next => exact waitsAfterEnomem_of_forall (by simp)

theorem waitsAfterEnomem_forEachClient (answers : Nat → Nat → SendtoResult) (message : NetworkMessage)
    (i : Nat) (clients : List WiFiClient) :
    WaitsAfterEnomem (broadcastMessage.forEachClient answers message i clients) := by
  induction clients generalizing i with
  | nil => exact waitsAfterEnomem_of_forall (by simp [broadcastMessage.forEachClient])
  | cons client clients ih =>
      have slot : WaitsAfterEnomem (sendToClient (answers i) message client) := by
        unfold sendToClient
        split
        · exact (waitsAfterEnomem_retryLoop _ _ _ _ _ _).append (waitsAfterEnomem_of_forall (by split <;> simp))
        · exact waitsAfterEnomem_of_forall (by simp)
      exact slot.append (ih (i + 1))

/-- Every call of a pass but the two on the mutex comes after its take and
before its give. -/
theorem broadcastMessage_between {answers : Nat → Nat → SendtoResult} {message : NetworkMessage}
    {clients : List WiFiClient} {pre post : List BroadcastOp} {op : BroadcastOp} (notMutex : op.isMutex = false)
    (split : broadcastMessage answers message clients = pre ++ op :: post) :
    .xSemaphoreTake ∈ pre ∧ .xSemaphoreGive ∉ pre ∧ .xSemaphoreGive ∈ post := by
  rw [broadcastMessage, List.cons_append] at split
  have notGive : ∀ rest, op :: rest ≠ [.xSemaphoreGive] := by
    rintro rest ⟨⟩
    cases notMutex
  rcases pre with _ | ⟨_, pre⟩ <;> simp only [List.nil_append, List.cons_append, List.cons.injEq] at split
  · obtain ⟨rfl, -⟩ := split
    cases notMutex
  obtain ⟨rfl, split⟩ := split
  rcases List.append_eq_append_iff.1 split with ⟨rest, -, inGive⟩ | ⟨rest, inPass, inGive⟩
  · -- the op would be the give, or come after it
    rcases List.append_eq_cons_iff.1 inGive.symm with ⟨-, given⟩ | ⟨_, -, ends⟩
    · exact absurd given (notGive post)
    · simp at ends
  · -- the op is one of the clients' calls
    rcases List.cons_eq_append_iff.1 inGive with ⟨-, given⟩ | ⟨_, -, rfl⟩
    · exact absurd given.symm (notGive post)
    refine ⟨List.mem_cons_self _ _, fun early => ?_, by simp⟩
    rcases List.mem_cons.1 early with taken | early
    · cases taken
    have quiet := not_isMutex_of_mem_forEachClient (inPass ▸ List.mem_append_left rest early)
    cases quiet

/-- A fan-out pass waits in `vTaskDelay` only right after a `sendto` answered
with `ENOMEM`, `kWiFiRetryWaitTimeMs` each time, and only while it holds
`wifi_clients_list_mutex_`: after its take and before its give.  It waits once
per such answer, so at most `kWiFiNumRetries` times per active client, and
never for an inactive slot. -/
theorem broadcastMessage_delayMs (answers : Nat → Nat → SendtoResult) (message : NetworkMessage)
    (clients : List WiFiClient) :
    let ops := broadcastMessage answers message clients
    (∀ pre ms post, ops = pre ++ .vTaskDelay ms :: post → ms = kWiFiRetryWaitTimeMs ∧
      (∃ pre' dest data len result, pre = pre' ++ [.sendto dest data len result] ∧ result.retries = true) ∧
      .xSemaphoreTake ∈ pre ∧ .xSemaphoreGive ∉ pre ∧ .xSemaphoreGive ∈ post) ∧
    delayMs ops = kWiFiRetryWaitTimeMs * enomemAnswers ops ∧
    delayMs ops ≤ kWiFiNumRetries * kWiFiRetryWaitTimeMs * clients.countP (·.active) := by
  have waits : WaitsAfterEnomem (broadcastMessage answers message clients) :=
    ((waitsAfterEnomem_of_forall (by simp) : WaitsAfterEnomem [.xSemaphoreTake]).append
      (waitsAfterEnomem_forEachClient answers message 0 clients)).append
      (waitsAfterEnomem_of_forall (by simp) : WaitsAfterEnomem [.xSemaphoreGive])
  refine ⟨fun pre ms post split => ⟨(waits pre ms post split).1, (waits pre ms post split).2,
    broadcastMessage_between (by rfl) split⟩, ?_⟩
  obtain ⟨passDelay, passBound⟩ := forEachClient_delayMs answers message 0 clients
  have mutex : ∀ ops, delayMs (.xSemaphoreTake :: ops ++ [.xSemaphoreGive]) = delayMs ops ∧
      enomemAnswers (.xSemaphoreTake :: ops ++ [.xSemaphoreGive]) = enomemAnswers ops := by
    intro ops
    simp [delayMs, enomemAnswers, sendtoCalls, BroadcastOp.delayMs]
  rw [broadcastMessage, (mutex _).1, (mutex _).2]
  refine ⟨passDelay, passDelay ▸ ?_⟩
  calc kWiFiRetryWaitTimeMs * enomemAnswers (broadcastMessage.forEachClient answers message 0 clients)
      ≤ kWiFiRetryWaitTimeMs * (kWiFiNumRetries * clients.countP (·.active)) := Nat.mul_le_mul_left _ passBound
    _ = kWiFiNumRetries * kWiFiRetryWaitTimeMs * clients.countP (·.active) := by
      rw [← Nat.mul_assoc, Nat.mul_comm kWiFiRetryWaitTimeMs]

end CommsWiFi
