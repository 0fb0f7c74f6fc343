/-
**Arithmetic modulo a number.**

The public key operations need two functions beyond the remainder: a power by repeated squaring
and an inverse by the extended Euclidean algorithm.
-/

namespace ClientAssertion.Modular

/-- `base ^ exponent` modulo `modulus`, by repeated squaring. -/
def power (modulus base : Nat) (exponent : Nat) : Nat :=
  if _ : exponent = 0 then 1 % modulus
  else
    let half := power modulus (base * base % modulus) (exponent / 2)
    if exponent % 2 = 1 then base * half % modulus else half
termination_by exponent
decreasing_by omega

/-- The coefficient of the second number in the Euclidean algorithm run on `first` and `second`. -/
def euclid (first second : Nat) (firstCoefficient secondCoefficient : Int) : Int :=
  if _ : second = 0 then firstCoefficient
  else
    euclid second (first % second) secondCoefficient
      (firstCoefficient - (first / second : Nat) * secondCoefficient)
termination_by second
decreasing_by exact Nat.mod_lt _ (by omega)

/-- The inverse of a number that shares no factor with the modulus. -/
def inverse (modulus value : Nat) : Nat :=
  (euclid modulus (value % modulus) 0 1 % (modulus : Int)).toNat

/-- The difference of two numbers below the modulus, modulo the modulus. -/
def sub (modulus first second : Nat) : Nat := (first + (modulus - second)) % modulus

end ClientAssertion.Modular
