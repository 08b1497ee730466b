import Mathlib.Data.List.Basic

/-!
# Shared data of the WiFi module

C strings, IPv4 socket addresses and the millisecond clock as `comms_wifi.cpp`
uses them.  The clock is the HAL's `get_time_since_boot_ms()`: the true time
since boot in milliseconds, read through a `uint32_t`, so that readings wrap
every 2^32 ms.  The tasks of the module meter time by subtracting two readings
in `uint32_t` arithmetic; `add_lt_of_lt_elapsed` says what such a test tells
about the true times, across the wrap included.
-/

namespace CommsWiFi

/-- A NUL-terminated C string, as the bytes before its terminator. -/
structure CString where
  bytes : List UInt8
  noNul : 0 ∉ bytes
  deriving DecidableEq, Repr

/-- The empty C string `""`. -/
def CString.empty : CString := ⟨[], List.not_mem_nil 0⟩

/-- An IPv4 address `struct in_addr`, as its four octets in network order. -/
structure InAddr where
  b0 : UInt8
  b1 : UInt8
  b2 : UInt8
  b3 : UInt8
  deriving DecidableEq, Repr, Inhabited

/-- The fields of `struct sockaddr_in` that the module writes; `sin_family` is
always `AF_INET`, and `sin_port` is kept in host order (the code stores it
through `htons`). -/
structure SockaddrIn where
  sinPort : UInt16
  sinAddr : InAddr
  deriving DecidableEq, Repr, Inhabited

/-- What `socket()` answers: `-1`, or a descriptor, which POSIX makes
non-negative. -/
inductive SocketResult where
  | error
  | descriptor (fd : Nat)
  deriving DecidableEq, Repr

/-- The `int` the caller stores. -/
def SocketResult.toInt : SocketResult → Int
  | .error => -1
  | .descriptor fd => fd

/-- Read through the test `sock <= 0`, an answer other than descriptor `0` is
a failure only when it is the error. -/
theorem SocketResult.eq_error {result : SocketResult} (notZero : result ≠ .descriptor 0)
    (failed : result.toInt ≤ 0) : result = .error := by
  cases result with
  | error => rfl
  | descriptor fd =>
      have zero : fd = 0 := by simp only [SocketResult.toInt] at failed; omega
      exact absurd (by rw [zero]) notZero

/-! ## The millisecond clock -/

/-- `get_time_since_boot_ms()` at true time `t` (milliseconds since boot). -/
def getTimeSinceBootMs (t : Nat) : UInt32 := UInt32.ofNat t

@[simp] theorem toNat_getTimeSinceBootMs (t : Nat) :
    (getTimeSinceBootMs t).toNat = t % UInt32.size := by
  simp [getTimeSinceBootMs, UInt32.toNat, UInt32.ofNat, UInt32.size]

theorem UInt32.lt_iff_toNat_lt {a b : UInt32} : a < b ↔ a.toNat < b.toNat := by
  simp [UInt32.lt_def, BitVec.lt_def, UInt32.toNat]

/-- Between two readings taken in order, `uint32_t` subtraction measures the
elapsed true time modulo 2^32. -/
theorem toNat_elapsed {t₁ t₂ : Nat} (ordered : t₁ ≤ t₂) :
    (getTimeSinceBootMs t₂ - getTimeSinceBootMs t₁).toNat = (t₂ - t₁) % UInt32.size := by
  have difference : (getTimeSinceBootMs t₂ - getTimeSinceBootMs t₁).toNat =
      (2 ^ 32 - (getTimeSinceBootMs t₁).toNat + (getTimeSinceBootMs t₂).toNat) % 2 ^ 32 :=
    BitVec.toNat_sub _ _
  rw [difference, toNat_getTimeSinceBootMs, toNat_getTimeSinceBootMs]
  unfold UInt32.size
  omega

/-- A metering test `now - last > interval` that passes on two readings taken
in order means that more than `interval` ms of true time went by: the wrap can
only make a long gap look short, never a short one long. -/
theorem add_lt_of_lt_elapsed {t₁ t₂ : Nat} (interval : UInt32) (ordered : t₁ ≤ t₂)
    (passed : interval < getTimeSinceBootMs t₂ - getTimeSinceBootMs t₁) :
    t₁ + interval.toNat < t₂ := by
  rw [UInt32.lt_iff_toNat_lt, toNat_elapsed ordered] at passed
  have bounded : interval.toNat < UInt32.size := interval.toNat_lt_size
  unfold UInt32.size at passed bounded
  omega

/-- Within one wrap of the clock the test is exact: the unsigned difference of
two readings exceeds `interval` exactly when more than `interval` ms of true
time went by. -/
theorem lt_elapsed_iff {t₁ t₂ : Nat} (interval : UInt32) (ordered : t₁ ≤ t₂) (unwrapped : t₂ < t₁ + UInt32.size) :
    interval < getTimeSinceBootMs t₂ - getTimeSinceBootMs t₁ ↔ t₁ + interval.toNat < t₂ := by
  rw [UInt32.lt_iff_toNat_lt, toNat_elapsed ordered, Nat.mod_eq_of_lt (by omega)]
  omega

end CommsWiFi
