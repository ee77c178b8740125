/-
The return values of the firmware, `ar100s/include/error.h` and `ar100s/include/types.h`.
A function that succeeds returns `0`.
-/
import Mathlib.Data.Int.Notation

namespace A733Boot.Ar100s

def fail : ℤ := -1
def eSrch : ℤ := 3
def e2Big : ℤ := 7
def eAcces : ℤ := 13
def eNodev : ℤ := 19
def eInval : ℤ := 22
def eNospc : ℤ := 28
def eTimeout : ℤ := 35
def eFail : ℤ := 36

end A733Boot.Ar100s
