/-!
# Powers of two and ten

* `twoTo`, `tenTo`: the powers that the bits and the digits of numbers count.
-/

namespace NotificationTap

/-- A power of two. -/
def twoTo (exponent : Nat) : Nat := Nat.pow 2 exponent

/-- A power of ten. -/
def tenTo (exponent : Nat) : Nat := Nat.pow 10 exponent

end NotificationTap
