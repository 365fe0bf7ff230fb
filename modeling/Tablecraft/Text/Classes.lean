import Tablecraft.Text.ClassTable

namespace Tablecraft.Text

/-- How many entries of the ascending table are at most `n`. -/
def rank (table : Array Nat) (n : Nat) : Nat :=
  go 0 table.size
where
  go (low high : Nat) : Nat :=
    if low < high then
      let middle := (low + high) / 2
      if table.getD middle 0 ≤ n then go (middle + 1) high else go low middle
    else low
  termination_by high - low

def inClass (bounds : Array Nat) (c : Char) : Bool :=
  rank bounds c.toNat % 2 == 1

def isAscii (c : Char) : Bool := c.toNat < 128

/-- What a table of the 128 ASCII characters shows holds of each of them. -/
theorem of_isAscii {P : Char → Prop} (h : ∀ n < 128, P (Char.ofNat n)) {c : Char}
    (hc : isAscii c = true) : P c := by
  have hp := h c.toNat (of_decide_eq_true hc)
  rwa [Char.ofNat_toNat] at hp

def isUppercase (c : Char) : Bool :=
  if isAscii c then c.isUpper else inClass ClassTable.uppercaseBounds c

def isAlphanumeric (c : Char) : Bool :=
  if isAscii c then c.isAlphanum else inClass ClassTable.alphanumericBounds c

def isCased (c : Char) : Bool :=
  if isAscii c then c.isAlpha else inClass ClassTable.casedBounds c

def isCaseIgnorable (c : Char) : Bool :=
  inClass ClassTable.caseIgnorableBounds c

def isCombining (c : Char) : Bool :=
  if isAscii c then false else inClass ClassTable.combiningBounds c

def isPrintable (c : Char) : Bool :=
  inClass ClassTable.printableBounds c

/-- The property White_Space: the ASCII controls from tab to carriage return, the space, and the
spaces and separators beyond ASCII. -/
def isWhiteSpace (c : Char) : Bool :=
  let n := c.toNat
  (9 ≤ n && n ≤ 13) || n == 0x20 || n == 0x85 || n == 0xA0 || n == 0x1680 ||
    (0x2000 ≤ n && n ≤ 0x200A) || n == 0x2028 || n == 0x2029 || n == 0x202F || n == 0x205F ||
    n == 0x3000

end Tablecraft.Text
