/-!
Signed 32-bit decimal text: an optional `+` or `-`, then ASCII digits and nothing else. The
digits are taken left to right, and the first one that is not a digit, or that carries the
magnitude past the bound of its sign, decides the error.
-/
namespace TunBridge.Decimal

inductive IntError where
  | empty
  | invalidDigit
  | tooLarge
  | tooSmall
  deriving DecidableEq, Repr

def IntError.message : IntError → String
  | .empty => "cannot parse integer from empty string"
  | .invalidDigit => "invalid digit found in string"
  | .tooLarge => "number too large to fit in target type"
  | .tooSmall => "number too small to fit in target type"

/-- The magnitude of a digit run, at most `bound`; `excess` is the error past it. -/
def magnitude (bound : Nat) (excess : IntError) : Nat → List Char → Except IntError Nat
  | acc, [] => .ok acc
  | acc, c :: cs =>
    if c.isDigit then
      if acc * 10 + (c.toNat - 48) ≤ bound then magnitude bound excess (acc * 10 + (c.toNat - 48)) cs
      else .error excess
    else .error .invalidDigit

def maxInt32 : Nat := 2147483647

def parseInt32 : List Char → Except IntError Int
  | [] => .error .empty
  | ['+'] => .error .invalidDigit
  | ['-'] => .error .invalidDigit
  | '+' :: rest => (magnitude maxInt32 .tooLarge 0 rest).map Int.ofNat
  | '-' :: rest => (magnitude (maxInt32 + 1) .tooSmall 0 rest).map fun n => -Int.ofNat n
  | cs => (magnitude maxInt32 .tooLarge 0 cs).map Int.ofNat

end TunBridge.Decimal
