/-
The voltages of the AXP8191: the ranges of its regulators and the selector of a voltage, as
`src/axp8191_voltage.c` computes them.
-/
import Mathlib.Init

namespace A733Boot.Boot

/-- `enum a7s_axp8191_voltage_rail`. -/
inductive A7sAxp8191VoltageRail
  | dcdc6 | dcdc7 | dcdc8 | eldo | cldo
deriving DecidableEq

/-- `struct a7s_axp8191_linear_range`. -/
structure A7sAxp8191LinearRange where
  minMv : UInt32
  minSelector : UInt32
  maxSelector : UInt32
  stepMv : UInt32

/-- The ranges of a rail, `voltage_descs`. -/
def voltageDescs : A7sAxp8191VoltageRail → List A7sAxp8191LinearRange
  | .dcdc6 => [⟨500, 0x00, 0x46, 10⟩, ⟨1220, 0x47, 0x57, 20⟩, ⟨1800, 0x58, 0x67, 20⟩,
      ⟨2440, 0x68, 0x70, 40⟩]
  | .dcdc7 => [⟨500, 0x00, 0x46, 10⟩, ⟨1220, 0x47, 0x57, 20⟩]
  | .dcdc8 => [⟨500, 0x00, 0x46, 10⟩, ⟨1220, 0x47, 0x57, 20⟩, ⟨1900, 0x58, 0x67, 100⟩]
  | .eldo => [⟨500, 0x00, 0x28, 25⟩]
  | .cldo => [⟨500, 0x00, 0x1d, 100⟩]

def rangeMaxMv (range : A7sAxp8191LinearRange) : UInt32 :=
  range.minMv + (range.maxSelector - range.minSelector) * range.stepMv

/-- The loop over the ranges of a rail. -/
def voltageSelectorLoop (millivolts : UInt32) : List A7sAxp8191LinearRange → Option UInt32
  | [] => none
  | range :: ranges =>
      if range.stepMv = 0 ∨ range.maxSelector < range.minSelector then none
      else if rangeMaxMv range < millivolts then voltageSelectorLoop millivolts ranges
      else if millivolts ≤ range.minMv then some range.minSelector
      else
        let offset := (millivolts - range.minMv + range.stepMv - 1) / range.stepMv
        if range.maxSelector < range.minSelector + offset then
          voltageSelectorLoop millivolts ranges
        else some (range.minSelector + offset)

/-- `none` for a failure; the request is clamped to the ranges first. -/
def a7sAxp8191VoltageSelector (rail : A7sAxp8191VoltageRail) (millivolts : UInt32) :
    Option UInt32 :=
  match (voltageDescs rail).head?, (voltageDescs rail).getLast? with
  | some first, some last =>
      let millivolts := if millivolts < first.minMv then first.minMv else millivolts
      let maxMv := rangeMaxMv last
      let millivolts := if maxMv < millivolts then maxMv else millivolts
      voltageSelectorLoop millivolts (voltageDescs rail)
  | _, _ => none

end A733Boot.Boot
