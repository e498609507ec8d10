import Mathlib.Algebra.Group.Int.Defs
import Mathlib.Algebra.Group.Nat.Defs
import Mathlib.Order.Basic

/-! # Saturating machine arithmetic -/

namespace Basil

def u32Max : Nat := 2 ^ 32 - 1
def u64Max : Nat := 2 ^ 64 - 1
def i64Max : Int := 2 ^ 63 - 1
def i64Min : Int := -2 ^ 63

def satAddU32 (a b : Nat) : Nat := min (a + b) u32Max

def satMulU32 (a b : Nat) : Nat := min (a * b) u32Max

def satAddU64 (a b : Nat) : Nat := min (a + b) u64Max

def clampI64 (x : Int) : Int := max i64Min (min x i64Max)

def satAddI64 (a b : Int) : Int := clampI64 (a + b)

def satSubI64 (a b : Int) : Int := clampI64 (a - b)

end Basil
