import A733Boot.Ar100s.Dtb
import A733Boot.Ar100s.Delivery
import A733Boot.Ar100s.Feedback
import A733Boot.Ar100s.Notifier
import A733Boot.Ar100s.Cpucfg
import A733Boot.Ar100s.Standby.CrcRange
import A733Boot.Ar100s.Standby.ClockCycle
import A733Boot.Ar100s.Standby.Smc
import A733Boot.Ar100s.Standby.Timestamp
import A733Boot.Ar100s.Standby.Gate
import A733Boot.Boot.BusRates
import A733Boot.Boot.PllIsolation
import A733Boot.Boot.ClockFailure
import A733Boot.Ar100s.Standby.WakeupEvents
import A733Boot.Fip.CopyImages
import A733Boot.Boot.Handoff
import A733Boot.Boot.Pmic
import A733Boot.Ar100s.Pin
import A733Boot.Ar100s.Standby.RailBits
import A733Boot.Ar100s.Standby.CpuPll
import A733Boot.Boot.RailVoltage
import A733Boot.Ar100s.Numbers
import A733Boot.Ar100s.Twi
import A733Boot.Ar100s.Intervals
import A733Boot.Ar100s.LineEditor
import A733Boot.Ar100s.CommandLine
import A733Boot.Ar100s.Debugger
import A733Boot.Fdt.Update
import A733Boot.Fdt.Returns
import A733Boot.Fdt.Edits
import A733Boot.Ar100s.Standby.RailBus
