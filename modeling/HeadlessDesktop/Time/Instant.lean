import HeadlessDesktop.Time.Calendar

/-! Instants with a zone. -/

namespace HeadlessDesktop.Time

abbrev nanosPerSecond : Nat := 1000000000

def nanosOf (count : Nat) : Fin nanosPerSecond := Fin.ofNat nanosPerSecond count

/-- Seconds since 1970-01-01T00:00:00Z, a part of a second, and the seconds that local
clocks are ahead of UTC. -/
structure Instant where
  seconds : Int64
  nanos : Fin nanosPerSecond
  offset : Int
deriving DecidableEq, Repr

/-- 0001-01-01T00:00:00Z, the instant of a record that carries none. -/
def Instant.zero : Instant := ⟨-62135596800, nanosOf 0, 0⟩

instance : Inhabited Instant := ⟨.zero⟩

def Instant.epoch : Instant := ⟨0, nanosOf 0, 0⟩

def Instant.localSeconds (time : Instant) : Int := time.seconds.toInt + time.offset

def Instant.localYear (time : Instant) : Int :=
  (Date.ofDays (time.localSeconds / 86400)).year

def Instant.advance (time : Instant) (nanos : Int) : Instant :=
  let total := (time.nanos.val : Int) + nanos
  { time with
    seconds := time.seconds + Int64.ofInt (total / nanosPerSecond)
    nanos := nanosOf (total % nanosPerSecond).toNat }

end HeadlessDesktop.Time
