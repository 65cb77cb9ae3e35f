/-
# CxlMailbox.FlagSet — words of named bits

A flag word shows as the names of its set bits, joined by bars, behind the name of its kind.
Bits without a name come last as one hexadecimal number, and a word without bits shows as zero.
-/
import CxlMailbox.Text.Numeral

namespace CxlMailbox

set_option autoImplicit false

/-- A kind of flag word: its name, and the names of its bits from bit 0 on. -/
structure FlagKind where
  name : String
  bits : List String

namespace FlagKind

/-- All bits that have a name. -/
def all (kind : FlagKind) : Nat := (1 <<< kind.bits.length) - 1

/-- The bits of `word` that have a name. -/
def truncate (kind : FlagKind) (word : Nat) : Nat := word &&& kind.all

/-- The names of the set bits of `word`, lowest bit first. -/
def namesOf (kind : FlagKind) (word : Nat) : List String :=
  (kind.bits.zipIdx.filter fun bit => word.testBit bit.2).map (·.1)

/-- The text of a flag word. -/
def text (kind : FlagKind) (word : Nat) : String :=
  let unnamed := word - kind.truncate word
  let parts := kind.namesOf word ++ if unnamed = 0 then [] else [Text.hexNumeral 1 unnamed]
  let inner := if parts.isEmpty then "0x0" else String.intercalate " | " parts
  s!"{kind.name}({inner})"

end FlagKind

/-- What a device may say of a command in its catalog. -/
def commandFlags : FlagKind := ⟨"CommandFlags", ["ENABLED", "EXCLUSIVE"]⟩

/-- The bits of the health status byte. -/
def healthFlags : FlagKind :=
  ⟨"HealthStatus", ["MAINTENANCE_NEEDED", "PERFORMANCE_DEGRADED", "HW_REPLACEMENT_NEEDED"]⟩

/-- The alerts whose warning threshold can be programmed. -/
def alertFlags : FlagKind :=
  ⟨"AlertFlags", ["LIFE_USED", "OVER_TEMPERATURE", "UNDER_TEMPERATURE",
    "CORRECTED_VOLATILE_ERROR", "CORRECTED_PERSISTENT_ERROR"]⟩

end CxlMailbox
