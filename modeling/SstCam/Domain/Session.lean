import Mathlib.Order.Basic

/-!
# Session models

The in-memory session (`domain/session/models`): its phase, the configuration the app pushed
and the live match. It exists between a central's connect and its disconnect.
-/

namespace SstCam
set_option autoImplicit false

/-- Ordered lifecycle phase; the constructors stand in the order of the source's values. -/
inductive SessionPhase where
  | idle
  | connected
  | wifiReady
  | configured
  | ready
  | recording
  deriving DecidableEq, Repr

/-- The underlying value of the enumeration, which the phase comparisons use. -/
def SessionPhase.toNat : SessionPhase → Nat
  | .idle => 0
  | .connected => 1
  | .wifiReady => 2
  | .configured => 3
  | .ready => 4
  | .recording => 5

instance : LT SessionPhase := ⟨fun a b => a.toNat < b.toNat⟩

instance (a b : SessionPhase) : Decidable (a < b) := inferInstanceAs (Decidable (a.toNat < b.toNat))

@[simp] theorem SessionPhase.lt_connected_iff (a : SessionPhase) : a < .connected ↔ a = .idle := by
  cases a <;> decide

@[simp] theorem SessionPhase.lt_wifiReady_iff (a : SessionPhase) : a < .wifiReady ↔ a = .idle ∨ a = .connected := by
  cases a <;> decide

@[simp] theorem SessionPhase.lt_configured_iff (a : SessionPhase) :
    a < .configured ↔ a = .idle ∨ a = .connected ∨ a = .wifiReady := by
  cases a <;> decide

/-- Coarse match segment for the period label. -/
inductive MatchSegment where
  | inPlay
  | halfTime
  | fullTime
  deriving DecidableEq, Repr

/-- Display-only live match. The numbers are the source's `uint32` values. -/
structure LiveMatch where
  scoreA : Nat := 0
  scoreB : Nat := 0
  period : Nat := 0
  clockSeconds : Nat := 0
  clockRunning : Bool := false
  segment : MatchSegment := .inPlay
  deriving DecidableEq, Repr

/-- Working copy of the pushed session configuration; an unset proto optional is empty. -/
structure SessionConfig where
  matchUuid : String := ""
  userUuid : String := ""
  sport : String := ""
  numPeriods : Int := 0
  periodLengthSeconds : Int := 0
  rtmpUrl : String := ""
  streamKey : String := ""
  videoOutputPath : String := ""
  thumbnailOutputPath : String := ""
  teamAId : String := ""
  teamBId : String := ""
  teamAName : String := ""
  teamBName : String := ""
  teamAColorHex : String := ""
  teamBColorHex : String := ""
  deriving DecidableEq, Repr

/-- The complete in-memory session. -/
structure SessionState where
  phase : SessionPhase := .idle
  config : Option SessionConfig := none
  liveMatch : LiveMatch := {}
  deriving DecidableEq, Repr

end SstCam
