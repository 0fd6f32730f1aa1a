import EspHttpControl.CText.Strtok

/-! Bytes as text, six bits to a character.
Three bytes go into four characters; an incomplete last group is filled with `=`.
-/

namespace CText

def base64Alphabet : Str :=
  "ABCDEFGHIJKLMNOPQRSTUVWXYZabcdefghijklmnopqrstuvwxyz0123456789+/".toList

/-- The character of six bits. -/
def base64Digit (sextet : Nat) : Char := base64Alphabet.getD sextet '='

def base64Sextet (c : Char) : Option Nat := base64Alphabet.idxOf? c

def base64Encode : Str → Str
  | [] => []
  | [a] =>
    let group := a.toNat * 16
    [base64Digit (group / 64), base64Digit (group % 64), '=', '=']
  | [a, b] =>
    let group := (a.toNat * 256 + b.toNat) * 4
    [base64Digit (group / 4096), base64Digit (group / 64 % 64), base64Digit (group % 64), '=']
  | a :: b :: c :: rest =>
    let group := (a.toNat * 256 + b.toNat) * 256 + c.toNat
    base64Digit (group / 262144) :: base64Digit (group / 4096 % 64)
      :: base64Digit (group / 64 % 64) :: base64Digit (group % 64) :: base64Encode rest

/-- The bytes of a text of whole groups; `=` stands at the end of the last one only. -/
def base64Decode : Str → Option Str
  | [] => some []
  | w :: x :: y :: z :: rest => do
    let two := (← base64Sextet w) * 64 + (← base64Sextet x)
    if z = '=' then
      if rest ≠ [] then none
      else if y = '=' then return [Char.ofNat (two / 16)]
      else
        let three := two * 64 + (← base64Sextet y)
        return [Char.ofNat (three / 1024), Char.ofNat (three / 4 % 256)]
    else
      let four := (two * 64 + (← base64Sextet y)) * 64 + (← base64Sextet z)
      return Char.ofNat (four / 65536) :: Char.ofNat (four / 256 % 256)
        :: Char.ofNat (four % 256) :: (← base64Decode rest)
  | _ => none

example : base64Encode "sensor".toList = "c2Vuc29y".toList
    ∧ base64Encode "s".toList = "cw==".toList := by
  decide

theorem base64Sextet_digit
    : ∀ sextet < 64, base64Sextet (base64Digit sextet) = some sextet := by
  decide +kernel

theorem base64Digit_ne : ∀ sextet < 64, base64Digit sextet ≠ '=' := by
  decide +kernel

theorem length_base64Encode (s : Str) : (base64Encode s).length = 4 * ((s.length + 2) / 3) := by
  fun_induction base64Encode s with
  | case1 => rfl
  | case2 a => simp
  | case3 a b => simp
  | case4 a b c rest group ih =>
      simp only [List.length_cons, ih]
      omega

/-- Decoding undoes encoding, by induction on the groups. -/
theorem base64Decode_encode {s : Str} (bytes : ∀ c ∈ s, c.toNat < 256)
    : base64Decode (base64Encode s) = some s := by
  fun_induction base64Encode s with
  | case1 => rfl
  | case2 a group =>
      have byte : group < 4096 := by
        have small := bytes a List.mem_cons_self
        omega
      have same : (group / 64 * 64 + group % 64) / 16 = a.toNat := by
        omega
      simp only [base64Decode, base64Sextet_digit _ (by omega : group / 64 < 64),
        base64Sextet_digit _ (by omega : group % 64 < 64), Option.bind_eq_bind, Option.bind_some,
        ↓reduceIte, same, Char.ofNat_toNat]
      rfl
  | case3 a b group =>
      have first := bytes a (by simp)
      have second := bytes b (by simp)
      have room : group / 4096 < 64 := by
        omega
      have left : ((group / 4096 * 64 + group / 64 % 64) * 64 + group % 64) / 1024 = a.toNat := by
        omega
      have right : ((group / 4096 * 64 + group / 64 % 64) * 64 + group % 64) / 4 % 256
          = b.toNat := by
        omega
      simp only [base64Decode, base64Sextet_digit _ room,
        base64Sextet_digit _ (Nat.mod_lt _ (by decide : 0 < 64)), Option.bind_eq_bind,
        Option.bind_some, base64Digit_ne _ (Nat.mod_lt _ (by decide : 0 < 64)), ↓reduceIte, left,
        right, Char.ofNat_toNat]
      rfl
  | case4 a b c rest group ih =>
      have first := bytes a (by simp)
      have second := bytes b (by simp)
      have third := bytes c (by simp)
      have room : group / 262144 < 64 := by
        omega
      have four : ((group / 262144 * 64 + group / 4096 % 64) * 64 + group / 64 % 64) * 64
          + group % 64 = group := by
        omega
      have left : group / 65536 = a.toNat := by
        omega
      have middle : group / 256 % 256 = b.toNat := by
        omega
      have right : group % 256 = c.toNat := by
        omega
      have later := ih fun d member => bytes d (by simp [member])
      simp only [base64Decode, base64Sextet_digit _ room,
        base64Sextet_digit _ (Nat.mod_lt _ (by decide : 0 < 64)), Option.bind_eq_bind,
        Option.bind_some, base64Digit_ne _ (Nat.mod_lt _ (by decide : 0 < 64)), ↓reduceIte, four,
        left, middle, right, later, Char.ofNat_toNat]
      rfl

end CText
