import Mathlib.Data.List.DropRight

/-!
# Search strings

The two Foundation calls a query goes through before it is put in a URL.
-/

namespace NewsReader

/-- `CharacterSet.whitespacesAndNewlines`: the separators of Unicode, the tab,
U+000A to U+000D and U+0085. -/
def isWhitespaceOrNewline (c : Char) : Bool :=
  let n := c.toNat
  (0x09 ≤ n && n ≤ 0x0D) || n == 0x20 || n == 0x85 || n == 0xA0 || n == 0x1680 ||
    (0x2000 ≤ n && n ≤ 0x200A) || n == 0x2028 || n == 0x2029 || n == 0x202F || n == 0x205F ||
    n == 0x3000

/-- `trimmingCharacters(in: .whitespacesAndNewlines)`. -/
def trimmingCharacters (s : String) : String :=
  String.ofList ((s.toList.dropWhile isWhitespaceOrNewline).rdropWhile isWhitespaceOrNewline)

def hexDigit (n : Nat) : Char := "0123456789ABCDEF".toList.getD n '0'

/-- One byte in a URL: ASCII letters and digits stay, anything else is `%XX`. -/
def percentEncode (b : UInt8) : List Char :=
  let c := Char.ofNat b.toNat
  if c.isAlphanum then [c] else ['%', hexDigit (b.toNat / 16), hexDigit (b.toNat % 16)]

/-- `addingPercentEncoding(withAllowedCharacters: .alphanumerics)`, which works
on UTF-8 bytes. It is `nil` for no string that is Unicode. -/
def addingPercentEncoding (s : String) : Option String :=
  some (String.ofList ((s.toList.flatMap String.utf8EncodeChar).flatMap percentEncode))

/-! ## Trimming -/

/-- Trimming the right end leaves a left end that is already trimmed. -/
theorem dropWhile_rdropWhile {α : Type} {p : α → Bool} {l : List α} (h : l.dropWhile p = l) :
    (l.rdropWhile p).dropWhile p = l.rdropWhile p := by
  rw [List.dropWhile_eq_self_iff] at h ⊢
  intro nonempty
  have kept := List.rdropWhile_prefix p (l := l)
  rw [kept.getElem nonempty]
  exact h (nonempty.trans_le kept.length_le)

@[simp] theorem trimmingCharacters_empty : trimmingCharacters "" = "" := rfl

@[simp] theorem trimmingCharacters_idem (s : String) :
    trimmingCharacters (trimmingCharacters s) = trimmingCharacters s := by
  simp only [trimmingCharacters, String.toList_ofList]
  rw [dropWhile_rdropWhile (List.dropWhile_idempotent _ _), List.rdropWhile_idempotent]

end NewsReader
