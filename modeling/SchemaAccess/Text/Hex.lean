namespace SchemaAccess.Text

def hexValue? (c : Char) : Option Nat :=
  if '0' ≤ c ∧ c ≤ '9' then some (c.toNat - 48)
  else if 'a' ≤ c ∧ c ≤ 'f' then some (c.toNat - 87)
  else if 'A' ≤ c ∧ c ≤ 'F' then some (c.toNat - 55)
  else none

/-- The number written by hexadecimal digits, none if some character is no such digit. -/
def hexNumber? (cs : List Char) : Option Nat :=
  cs.foldl (fun acc c => acc.bind fun n => (hexValue? c).map (16 * n + ·)) (some 0)

def padLeft (width : Nat) (filler : Char) (cs : List Char) : List Char :=
  List.replicate (width - cs.length) filler ++ cs

def hexLower (width n : Nat) : String :=
  String.ofList (padLeft width '0' (Nat.toDigits 16 n))

def hexUpper (width n : Nat) : String :=
  String.ofList (padLeft width '0' ((Nat.toDigits 16 n).map Char.toUpper))

def surrogates (n : Nat) : Nat × Nat :=
  (0xD800 + (n - 0x10000) / 0x400, 0xDC00 + (n - 0x10000) % 0x400)

def joinSurrogates (high low : Nat) : Nat := 0x10000 + (high - 0xD800) * 0x400 + (low - 0xDC00)

theorem length_padLeft (width : Nat) (filler : Char) (cs : List Char) :
    (padLeft width filler cs).length = max width cs.length := by
  simp [padLeft]
  omega

theorem length_hexLower {width n : Nat} (h : (Nat.toDigits 16 n).length ≤ width) :
    (hexLower width n).toList.length = width := by
  rw [hexLower, String.toList_ofList, length_padLeft]
  omega

end SchemaAccess.Text
