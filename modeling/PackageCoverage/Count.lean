/-!
# Statement counts

A `Count` is a natural number of at most `2 ^ 64 - 1`, the range of the count
fields of a coverage profile.  Adding counts stops at the largest one instead of
wrapping round: the sum is the exact sum of the values cut off at `Count.limit`
(`value_add`).  Cutting off early or late makes no difference, so addition is
still commutative and associative (`add_comm`, `add_assoc`) and the order in
which blocks are tallied cannot be seen in a total.

Subtracting does wrap round, below zero.  It is the plain difference where the
second count is no larger than the first (`value_sub_of_le`).
-/

namespace PackageCoverage

/-- The largest value of a count, `2 ^ 64 - 1`. -/
def Count.limit : Nat := 0xFFFFFFFFFFFFFFFF

/-- A number of statements or executions, at most `Count.limit`. -/
structure Count where
  value : Nat
  value_le : value ≤ Count.limit
deriving DecidableEq

namespace Count

@[ext] theorem ext {first second : Count} (hvalue : first.value = second.value) :
    first = second := by
  cases first
  cases second
  cases hvalue
  rfl

/-- The count nearest to `n`: `n` itself, or the limit if `n` is beyond it. -/
def clamp (n : Nat) : Count := ⟨min n limit, Nat.min_le_right n limit⟩

instance : Zero Count := ⟨clamp 0⟩

instance : Inhabited Count := ⟨0⟩

/-- Addition that stops at the limit. -/
instance : Add Count := ⟨fun first second => clamp (first.value + second.value)⟩

/-- Subtraction that wraps round below zero. -/
instance : Sub Count :=
  ⟨fun first second => ⟨(limit + 1 + first.value - second.value) % (limit + 1),
    Nat.le_of_lt_succ (Nat.mod_lt _ limit.succ_pos)⟩⟩

/-- The count that a field of decimal digits writes, with one `+` allowed in
front.  A field without digits, with any other character, or beyond the limit
writes no count; leading zeros are of no account. -/
def read? (field : List Char) : Option Count :=
  let digits := match field with
    | '+' :: rest => rest
    | _ => field
  if digits.isEmpty || !digits.all Char.isDigit then none
  else
    let value := Nat.ofDigitChars 10 digits 0
    if hvalue : value ≤ limit then some ⟨value, hvalue⟩ else none

/-- The shortest decimal digits of a count. -/
def digits (count : Count) : List Char := Nat.toDigits 10 count.value

instance : ToString Count := ⟨fun count => String.ofList count.digits⟩

/-! ## Addition through the values -/

@[simp] theorem value_clamp (n : Nat) : (clamp n).value = min n limit := rfl

@[simp] theorem value_zero : (0 : Count).value = 0 := rfl

@[simp] theorem value_add (first second : Count) :
    (first + second).value = min (first.value + second.value) limit := rfl

protected theorem add_comm (first second : Count) : first + second = second + first := by
  ext
  simp only [value_add]
  omega

protected theorem add_assoc (first second third : Count) :
    first + second + third = first + (second + third) := by
  ext
  have := first.value_le
  have := third.value_le
  simp only [value_add]
  omega

@[simp] protected theorem zero_add (count : Count) : 0 + count = count := by
  ext
  have := count.value_le
  simp only [value_add, value_zero]
  omega

@[simp] protected theorem add_zero (count : Count) : count + 0 = count := by
  rw [Count.add_comm, Count.zero_add]

/-! ## Subtraction through the values -/

@[simp] theorem value_sub (first second : Count) :
    (first - second).value = (limit + 1 + first.value - second.value) % (limit + 1) := rfl

theorem value_sub_of_le {first second : Count} (hle : second.value ≤ first.value) :
    (first - second).value = first.value - second.value := by
  have hsmall : first.value - second.value < limit + 1 :=
    Nat.lt_succ_of_le (Nat.le_trans (Nat.sub_le _ _) first.value_le)
  rw [value_sub, Nat.add_sub_assoc hle, Nat.add_mod_left, Nat.mod_eq_of_lt hsmall]

end Count

end PackageCoverage
