/-!
# Doubles

A double is its sixty-four bits: a sign and a magnitude. The magnitudes above infinity are the
NaNs. Arithmetic treats them all alike and makes one of them only, but a value may hold any: as
numbers two NaNs are never equal, while in the total order each has a place of its own.
-/

namespace DocumentTemplates

/-- A double, by its bits. -/
structure Double where
  bits : UInt64
  deriving DecidableEq, Inhabited

namespace Double

/-- What arithmetic gives, as a double. -/
def ofFloat (x : Float) : Double :=
  ⟨x.toBits⟩

instance : Coe Float Double := ⟨ofFloat⟩

/-- The double nearest to a whole number. -/
def ofInt (i : Int) : Double :=
  ofFloat (Float.ofInt i)

/-- The bits without the sign. -/
def magnitude (x : Double) : Nat :=
  x.bits.toNat % Nat.pow 2 63

def isNegative (x : Double) : Bool :=
  Nat.pow 2 63 ≤ x.bits.toNat

/-- The sign and the magnitude are all there is to a double. -/
theorem ext_of_magnitude {x y : Double} (hs : x.isNegative = y.isNegative)
    (hm : x.magnitude = y.magnitude) : x = y := by
  obtain ⟨a⟩ := x
  obtain ⟨b⟩ := y
  have ha := a.toNat_lt
  have hb := b.toNat_lt
  simp only [isNegative, magnitude, Nat.pow_eq, decide_eq_decide] at hs hm
  have hab : a = b := UInt64.toNat_inj.1 (by omega)
  rw [hab]

/-- The magnitude of the infinities. All finite magnitudes are below it. -/
def infinity : Nat :=
  0x7ff0000000000000

def isNaN (x : Double) : Bool :=
  infinity < x.magnitude

/-- Equality as numbers: the two zeros are one number, and a NaN is none. -/
def sameNumber (x y : Double) : Bool :=
  !x.isNaN && !y.isNaN && (x.bits == y.bits || (x.magnitude = 0 && y.magnitude = 0))

/-- A double's place in the total order of doubles: the magnitude, with the negative half
reversed and put below. -/
def rank (x : Double) : Int :=
  if x.isNegative then -(x.magnitude : Int) - 1 else x.magnitude

/-- The total order of doubles, from the negative NaNs to the positive ones. -/
def totalCompare (x y : Double) : Ordering :=
  compare x.rank y.rank

end Double

end DocumentTemplates
