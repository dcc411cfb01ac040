import TwoStepLogin.Proofs.Text.Utf8Reading
import TwoStepLogin.Text.Percent

/-!
# Escaped bytes are read back

A byte is written as itself or as an escape of three ASCII characters. Provided that the sign of the
escapes does not stand for itself, either form is read back as the byte, whatever follows; and a byte
that is neither kept nor part of an escape is never written.

* `Percent.encodeByte_cases` — the two forms of a byte;
* `Percent.decode_encodeByte` — each of them is read back;
* `Percent.notMem_encodeByte` — what is never written;
* `Percent.decode_encode` — bytes are read back from all that was written for them;
* `Percent.forall_mem_encode` — which characters are written at all.
-/

set_option autoImplicit false

namespace TwoStepLogin.Percent

/-- The byte of a hexadecimal digit. -/
def digitByte (n : Nat) : UInt8 := UInt8.ofNat (hexDigit n).toNat

theorem hexDigit_lt : ∀ n : Fin 16, (hexDigit n.val).toNat < 0x80 := by decide

theorem digitByte_alphanumeric : ∀ n : Fin 16, isAlphanumeric (digitByte n.val) = true := by decide

variable {kept : UInt8 → Bool}

theorem isAlphanumeric_digitByte {n : Nat} (h : n < 16) : isAlphanumeric (digitByte n) = true :=
  digitByte_alphanumeric ⟨n, h⟩

theorem hexValue?_digitByte {n : Nat} (h : n < 16) : hexValue? (digitByte n) = some n :=
  hexValue?_hexDigit ⟨n, h⟩

theorem high_lt (b : UInt8) : b.toNat / 16 < 16 := by
  have hb : b.toNat < 256 := b.toNat_lt
  omega

theorem low_lt (b : UInt8) : b.toNat % 16 < 16 := Nat.mod_lt _ (by decide)

/-- An escape is a sign and two digits. -/
theorem encode_escape (b : UInt8) :
    Utf8.encode (escape b) = [37, digitByte (b.toNat / 16), digitByte (b.toNat % 16)] := by
  have hhigh := Utf8.encodeChar_of_lt (hexDigit_lt ⟨b.toNat / 16, high_lt b⟩)
  have hlow := Utf8.encodeChar_of_lt (hexDigit_lt ⟨b.toNat % 16, low_lt b⟩)
  rw [escape, Utf8.encode_cons, Utf8.encode_cons, Utf8.encode_cons, hhigh, hlow]
  rfl

/-- A byte of ASCII, written as itself. -/
theorem encode_kept {b : UInt8} (h : b.toNat < 0x80) : Utf8.encode [Char.ofNat b.toNat] = [b] := by
  have hvalid : b.toNat.isValidChar := .inl (by omega)
  have hchar : (Char.ofNat b.toNat).toNat = b.toNat := by
    rw [Char.ofNat, dif_pos hvalid]
    rfl
  rw [Utf8.encode_cons, Utf8.encodeChar_of_lt (by rw [hchar]; exact h), hchar, UInt8.ofNat_toNat]
  rfl

/-- A byte is kept or escaped. -/
theorem encodeByte_cases (kept : UInt8 → Bool) (b : UInt8) :
    (kept b = true ∧ Utf8.encode (encodeByte kept b) = [b]) ∨
      Utf8.encode (encodeByte kept b) = [37, digitByte (b.toNat / 16), digitByte (b.toNat % 16)] := by
  unfold encodeByte
  split
  · rename_i h
    simp only [Bool.and_eq_true, decide_eq_true_eq] at h
    exact .inl ⟨h.2, encode_kept h.1⟩
  · exact .inr (encode_escape b)

theorem decode_cons_of_ne {a : UInt8} (ha : a ≠ 37) (rest : List UInt8) :
    decode (a :: rest) = a :: decode rest := by
  match rest with
  | [] => rfl
  | [_] => rfl
  | _ :: _ :: _ => rw [decode, if_neg ha]

theorem decode_digits (b : UInt8) (rest : List UInt8) :
    decode (37 :: digitByte (b.toNat / 16) :: digitByte (b.toNat % 16) :: rest) =
      b :: decode rest := by
  have hsum : 16 * (b.toNat / 16) + b.toNat % 16 = b.toNat := Nat.div_add_mod b.toNat 16
  rw [decode, if_pos rfl, hexValue?_digitByte (high_lt b), hexValue?_digitByte (low_lt b)]
  dsimp only
  rw [hsum, UInt8.ofNat_toNat]

/-- A written byte is read back, whatever follows. -/
theorem decode_encodeByte (hsign : kept 37 = false) (b : UInt8) (rest : List UInt8) :
    decode (Utf8.encode (encodeByte kept b) ++ rest) = b :: decode rest := by
  rcases encodeByte_cases kept b with ⟨hkept, he⟩ | he
  · rw [he, List.singleton_append]
    refine decode_cons_of_ne (fun hb => ?_) rest
    rw [hb, hsign] at hkept
    cases hkept
  · rw [he]
    exact decode_digits b rest

/-- No byte is written that is neither kept nor part of an escape. -/
theorem notMem_encodeByte {x : UInt8} (hkept : kept x = false) (hsign : x ≠ 37)
    (hdigit : isAlphanumeric x = false) (b : UInt8) : x ∉ Utf8.encode (encodeByte kept b) := by
  have hne {n : Nat} (hn : n < 16) : x ≠ digitByte n := by
    rintro rfl
    rw [isAlphanumeric_digitByte hn] at hdigit
    cases hdigit
  intro hx
  rcases encodeByte_cases kept b with ⟨hb, he⟩ | he
  · rw [he, List.mem_singleton] at hx
    rw [← hx, hkept] at hb
    cases hb
  · rw [he] at hx
    simp only [List.mem_cons, List.not_mem_nil, or_false] at hx
    rcases hx with hx | hx | hx
    · exact hsign hx
    · exact hne (high_lt b) hx
    · exact hne (low_lt b) hx

/-! ## Several bytes -/

theorem decode_encode (hsign : kept 37 = false) (bytes : List UInt8) :
    decode (Utf8.encode (encode kept bytes)) = bytes := by
  induction bytes with
  | nil => rfl
  | cons b bytes ih =>
    rw [encode, List.flatMap_cons, Utf8.encode_append, decode_encodeByte hsign]
    exact congrArg _ ih

/-- Only kept bytes, the sign of the escapes and digits are written. -/
theorem forall_mem_encode {P : Char → Prop} (hsign : P '%') (hdigit : ∀ n < 16, P (hexDigit n))
    (hkept : ∀ b : UInt8, b.toNat < 0x80 → kept b = true → P (Char.ofNat b.toNat))
    (bytes : List UInt8) : ∀ c ∈ encode kept bytes, P c := by
  intro c hc
  obtain ⟨b, -, hc⟩ := List.mem_flatMap.1 hc
  unfold encodeByte at hc
  split at hc
  · rename_i h
    rw [Bool.and_eq_true, decide_eq_true_eq] at h
    rw [List.mem_singleton.1 hc]
    exact hkept b h.1 h.2
  · simp only [escape, List.mem_cons, List.not_mem_nil, or_false] at hc
    rcases hc with rfl | rfl | rfl
    · exact hsign
    · exact hdigit _ (high_lt b)
    · exact hdigit _ (low_lt b)

end TwoStepLogin.Percent
