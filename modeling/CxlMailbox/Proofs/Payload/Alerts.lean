/-
# CxlMailbox.Proofs.Payload.Alerts — what a request does to each alert

A request names the alerts it is about by bits of a mask, and may set bits that name none.  Seen
alert by alert it is simple:

* `AlertConfig.apply_setting`: an alert that the request is about has the request's setting
  afterwards, every other one the setting it had;
* `AlertConfig.apply_limits`: no request changes a critical threshold or what can be programmed;
* `AlertConfig.apply_programmable`: if only programmable alerts are enabled, and the request is
  about no others, the same holds afterwards.

Masks are compared bit by bit (`covers_iff`).
-/
import CxlMailbox.Payload.Alert

namespace CxlMailbox

set_option autoImplicit false

/-! ## Masks -/

theorem covers_iff {mask bits : UInt8} :
    covers mask bits = true ↔
      ∀ i, bits.toBitVec.getLsbD i = true → mask.toBitVec.getLsbD i = true := by
  rw [covers, beq_iff_eq, ← UInt8.toBitVec_inj]
  constructor
  · intro same i set_
    rw [← same, UInt8.toBitVec_and, BitVec.getLsbD_and, Bool.and_eq_true] at set_
    exact set_.1
  · intro inside
    refine BitVec.eq_of_getLsbD_eq fun i _ => ?_
    rw [UInt8.toBitVec_and, BitVec.getLsbD_and]
    rcases unset : bits.toBitVec.getLsbD i with _ | _
    · rw [Bool.and_false]
    · rw [inside i unset, Bool.and_true]

/-! ## Alerts -/

/-- The alerts that a device can give. -/
inductive Alert where
  | lifeUsed
  | overTemperature
  | underTemperature
  | volatileErrors
  | persistentErrors
  deriving DecidableEq, Repr

namespace Alert

/-- The bit that stands for the alert in a mask. -/
def bit : Alert → UInt8
  | lifeUsed => AlertBit.lifeUsed
  | overTemperature => AlertBit.overTemperature
  | underTemperature => AlertBit.underTemperature
  | volatileErrors => AlertBit.volatileErrors
  | persistentErrors => AlertBit.persistentErrors

/-- The position of the bit. -/
def position : Alert → Nat
  | lifeUsed => 0
  | overTemperature => 1
  | underTemperature => 2
  | volatileErrors => 3
  | persistentErrors => 4

theorem getLsbD_bit (alert : Alert) (i : Nat) :
    alert.bit.toBitVec.getLsbD i = decide (i = alert.position) := by
  have power : alert.bit.toBitVec = BitVec.twoPow 8 alert.position := by cases alert <;> rfl
  have small : alert.position < 8 := by cases alert <;> decide
  rw [power, BitVec.getLsbD_twoPow]
  simp [small, eq_comm]

/-- A mask has the bit of an alert at its position. -/
theorem covers_bit (mask : UInt8) (alert : Alert) :
    covers mask alert.bit = mask.toBitVec.getLsbD alert.position := by
  rw [Bool.eq_iff_iff, covers_iff]
  simp [getLsbD_bit]

end Alert

/-- What can be programmed of an alert. -/
structure AlertSetting where
  warning : UInt16
  enabled : Bool
  deriving DecidableEq, Repr

namespace AlertConfig

/-- The warning threshold of an alert; that of the life used is a byte. -/
def warning (config : AlertConfig) : Alert → UInt16
  | .lifeUsed => config.lifeUsedWarning.toUInt16
  | .overTemperature => config.overTemperatureWarning
  | .underTemperature => config.underTemperatureWarning
  | .volatileErrors => config.volatileErrorsWarning
  | .persistentErrors => config.persistentErrorsWarning

/-- The setting of an alert. -/
def setting (config : AlertConfig) (alert : Alert) : AlertSetting :=
  ⟨config.warning alert, covers config.validAlerts alert.bit⟩

/-- What no request changes: the critical thresholds, and which alerts can be programmed. -/
def limits (config : AlertConfig) : UInt8 × UInt8 × UInt16 × UInt16 :=
  (config.programmableAlerts, config.lifeUsedCritical, config.overTemperatureCritical,
    config.underTemperatureCritical)

end AlertConfig

namespace AlertRequest

/-- The warning threshold that a request carries for an alert. -/
def warning (request : AlertRequest) : Alert → UInt16
  | .lifeUsed => request.lifeUsedWarning.toUInt16
  | .overTemperature => request.overTemperatureWarning
  | .underTemperature => request.underTemperatureWarning
  | .volatileErrors => request.volatileErrorsWarning
  | .persistentErrors => request.persistentErrorsWarning

/-- The setting that a request has for an alert, if it is about the alert. -/
def setting? (request : AlertRequest) (alert : Alert) : Option AlertSetting :=
  if covers request.validActions alert.bit then
    some ⟨request.warning alert, covers request.enableActions alert.bit⟩
  else none

end AlertRequest

/-! ## A request -/

namespace AlertConfig

variable (config : AlertConfig) (request : AlertRequest)

theorem apply_limits : (config.apply request).limits = config.limits := rfl

theorem apply_warning (alert : Alert) :
    (config.apply request).warning alert =
      if covers request.validActions alert.bit then request.warning alert
      else config.warning alert := by
  cases alert
  case lifeUsed => exact apply_ite UInt8.toUInt16 _ _ _
  all_goals rfl

theorem apply_enabled (alert : Alert) :
    covers (config.apply request).validAlerts alert.bit =
      if covers request.validActions alert.bit then covers request.enableActions alert.bit
      else covers config.validAlerts alert.bit := by
  have small : alert.position < 8 := by cases alert <;> decide
  simp only [Alert.covers_bit, apply, UInt8.toBitVec_or, UInt8.toBitVec_and, UInt8.toBitVec_not,
    BitVec.getLsbD_or, BitVec.getLsbD_and, BitVec.getLsbD_not, small, decide_true, Bool.true_and]
  cases request.validActions.toBitVec.getLsbD alert.position <;> simp

/-- An alert that the request is about gets its setting, every other one keeps its own. -/
theorem apply_setting (alert : Alert) :
    (config.apply request).setting alert =
      (request.setting? alert).getD (config.setting alert) := by
  rw [setting, apply_warning, apply_enabled, AlertRequest.setting?]
  split <;> rfl

variable {config request}

theorem apply_programmable
    (enabled : covers config.programmableAlerts config.validAlerts = true)
    (about : covers config.programmableAlerts request.validActions = true) :
    covers (config.apply request).programmableAlerts (config.apply request).validAlerts = true := by
  rw [covers_iff] at enabled about ⊢
  intro i set_
  simp only [apply, UInt8.toBitVec_or, UInt8.toBitVec_and, BitVec.getLsbD_or, BitVec.getLsbD_and,
    Bool.or_eq_true, Bool.and_eq_true] at set_
  rcases set_ with ⟨before, -⟩ | ⟨-, named⟩
  · exact enabled i before
  · exact about i named

end AlertConfig

end CxlMailbox
