import Mathlib.Data.List.Basic

/-!
Texts of bytes: hexadecimal numbers of a fixed length, and base64url without padding. Three
bytes are four characters, so that the first bytes of a text decide its first characters.
-/
namespace Encoding

/-- Every unit is a character of ASCII, of one byte in UTF-8. -/
def Ascii (text : List Nat) : Prop := ∀ unit ∈ text, unit < 128

instance (text : List Nat) : Decidable (Ascii text) :=
  inferInstanceAs (Decidable (∀ unit ∈ text, unit < 128))

@[simp] theorem ascii_append {xs ys : List Nat} : Ascii (xs ++ ys) ↔ Ascii xs ∧ Ascii ys := by
  simp [Ascii, or_imp, forall_and]

@[simp] theorem ascii_cons {unit : Nat} {xs : List Nat} :
    Ascii (unit :: xs) ↔ unit < 128 ∧ Ascii xs := by
  simp [Ascii]

def literal (text : String) : List Nat := text.toList.map Char.toNat

def hexDigit (n : Nat) : Nat :=
  if n < 10 then 0x30 + n else 0x57 + n

/-- The last `count` digits of `n`. -/
def hex : Nat → Nat → List Nat
  | 0, _ => []
  | count + 1, n => hex count (n / 16) ++ [hexDigit (n % 16)]

@[simp] theorem hex_length (count n : Nat) : (hex count n).length = count := by
  induction count generalizing n with
  | zero => rfl
  | succ count ih => simp [hex, ih]

namespace Base64url

/-- The character of six bits. -/
def symbol (n : Nat) : Nat :=
  if n < 26 then 0x41 + n
  else if n < 52 then 0x61 + (n - 26)
  else if n < 62 then 0x30 + (n - 52)
  else if n = 62 then 0x2D
  else 0x5F

def encode : List Nat → List Nat
  | a :: b :: c :: bytes =>
      symbol (a / 4) :: symbol (a % 4 * 16 + b / 16) :: symbol (b % 16 * 4 + c / 64)
        :: symbol (c % 64) :: encode bytes
  | [a, b] => [symbol (a / 4), symbol (a % 4 * 16 + b / 16), symbol (b % 16 * 4)]
  | [a] => [symbol (a / 4), symbol (a % 4 * 16)]
  | [] => []

theorem symbol_ascii (n : Nat) : symbol n < 128 := by
  unfold symbol
  split_ifs <;> omega

theorem encode_ascii (bytes : List Nat) : Ascii (encode bytes) := by
  induction bytes using encode.induct with
  | case1 a b c bytes ih => simp [encode, symbol_ascii, ih]
  | case2 a b => simp [encode, symbol_ascii, Ascii]
  | case3 a => simp [encode, symbol_ascii, Ascii]
  | case4 => simp [encode, Ascii]

theorem encode_length (bytes : List Nat) (whole : bytes.length % 3 = 0) :
    (encode bytes).length = bytes.length / 3 * 4 := by
  induction bytes using encode.induct with
  | case1 a b c bytes ih =>
    simp only [List.length_cons] at whole
    have shorter := ih (by omega)
    simp only [encode, List.length_cons, shorter]
    omega
  | case2 a b => simp at whole
  | case3 a => simp at whole
  | case4 => rfl

/-- Behind a whole number of groups of three the encoding starts anew. -/
theorem encode_append (bytes more : List Nat) (whole : bytes.length % 3 = 0) :
    encode (bytes ++ more) = encode bytes ++ encode more := by
  induction bytes using encode.induct with
  | case1 a b c bytes ih =>
    simp only [List.length_cons] at whole
    have rest := ih (by omega)
    simp [encode, rest]
  | case2 a b => simp at whole
  | case3 a => simp at whole
  | case4 => rfl

example : encode (literal "Man!") = literal "TWFuIQ" := by decide

end Base64url

end Encoding
