import TwoStepLogin.Text.Utf8

/-!
# UTF-8 is read back

The one to four bytes of a character are read as this character whatever follows them, so that the
bytes of a text are cut into its characters and nothing is ill-formed.

* `Utf8.chunks_encodeChar` — one character in front of other bytes;
* `Utf8.chunks_encode` — the bytes of a text;
* `Utf8.decodeLossy_encode` — reading without failure gives the text back;
* `Utf8.decode?_encode` — so does strict reading.
-/

set_option autoImplicit false

namespace TwoStepLogin.Utf8

/-! ## Bytes of a character -/

theorem encode_append (cs ds : List Char) : encode (cs ++ ds) = encode cs ++ encode ds :=
  List.flatMap_append

theorem encode_cons (c : Char) (cs : List Char) : encode (c :: cs) = encodeChar c ++ encode cs := rfl

theorem encodeString_append (s t : String) :
    encodeString (s ++ t) = encodeString s ++ encodeString t := by
  rw [encodeString, String.toList_append, encode_append]
  rfl

theorem encodeString_ofList (cs : List Char) : encodeString (String.ofList cs) = encode cs := by
  rw [encodeString, String.toList_ofList]

/-- A character of ASCII is its own byte. -/
theorem encodeChar_of_lt {c : Char} (h : c.toNat < 0x80) : encodeChar c = [UInt8.ofNat c.toNat] := by
  simp [encodeChar, h]

theorem toNat_byte {n : Nat} (h : n < 256) : (UInt8.ofNat n).toNat = n :=
  UInt8.toNat_ofNat_of_lt' h

theorem isContinuation_byte (n : Nat) : isContinuation (UInt8.ofNat (0x80 + n % 64)) = true := by
  have hlt : n % 64 < 64 := Nat.mod_lt n (by decide)
  rw [isContinuation, toNat_byte (by omega)]
  simp only [Bool.and_eq_true, decide_eq_true_eq]
  omega

theorem payload_byte (n : Nat) : payload (UInt8.ofNat (0x80 + n % 64)) = n % 64 := by
  have hlt : n % 64 < 64 := Nat.mod_lt n (by decide)
  rw [payload, toNat_byte (by omega)]
  omega

/-- The second byte of a character of three bytes: no shorter form, and no surrogate. -/
theorem follows3_byte {n : Nat} (hlow : 0x800 ≤ n) (hhigh : n < 0x10000)
    (hvalid : n < 0xD800 ∨ 0xDFFF < n) :
    follows3 (UInt8.ofNat (0xE0 + n / 4096)) (UInt8.ofNat (0x80 + n / 64 % 64)) = true := by
  have ha : (UInt8.ofNat (0xE0 + n / 4096)).toNat = 0xE0 + n / 4096 := toNat_byte (by omega)
  have hb : (UInt8.ofNat (0x80 + n / 64 % 64)).toNat = 0x80 + n / 64 % 64 := toNat_byte (by omega)
  rw [follows3, ha, hb, isContinuation_byte]
  split
  · simp only [Bool.and_eq_true, decide_eq_true_eq]
    omega
  · split
    · simp only [Bool.and_eq_true, decide_eq_true_eq]
      omega
    · rfl

/-- The second byte of a character of four bytes: no shorter form, and nothing beyond the last
character. -/
theorem follows4_byte {n : Nat} (hlow : 0x10000 ≤ n) (hhigh : n < 0x110000) :
    follows4 (UInt8.ofNat (0xF0 + n / 262144)) (UInt8.ofNat (0x80 + n / 4096 % 64)) = true := by
  have ha : (UInt8.ofNat (0xF0 + n / 262144)).toNat = 0xF0 + n / 262144 := toNat_byte (by omega)
  have hb : (UInt8.ofNat (0x80 + n / 4096 % 64)).toNat = 0x80 + n / 4096 % 64 :=
    toNat_byte (by omega)
  rw [follows4, ha, hb, isContinuation_byte]
  split
  · simp only [Bool.and_eq_true, decide_eq_true_eq]
    omega
  · split
    · simp only [Bool.and_eq_true, decide_eq_true_eq]
      omega
    · rfl

/-! ## Reading -/

section Chunks

variable {a b c d : UInt8} {rest : List UInt8}

theorem chunks_one (ha : a.toNat < 0x80) :
    chunks (a :: rest) = some (Char.ofNat a.toNat) :: chunks rest := by
  rw [chunks.eq_def]
  dsimp only
  rw [if_pos ha]

theorem chunks_two (ha : 0xC2 ≤ a.toNat ∧ a.toNat ≤ 0xDF) (hb : isContinuation b = true) :
    chunks (a :: b :: rest) =
      some (Char.ofNat ((a.toNat - 0xC0) * 64 + payload b)) :: chunks rest := by
  rw [chunks.eq_def]
  dsimp only
  rw [if_neg (by omega), if_pos ha]
  simp only [hb, if_true]

theorem chunks_three (ha : 0xE0 ≤ a.toNat ∧ a.toNat ≤ 0xEF) (hb : follows3 a b = true)
    (hc : isContinuation c = true) :
    chunks (a :: b :: c :: rest) =
      some (Char.ofNat ((a.toNat - 0xE0) * 4096 + payload b * 64 + payload c)) :: chunks rest := by
  rw [chunks.eq_def]
  dsimp only
  rw [if_neg (by omega), if_neg (by omega), if_pos ha]
  simp only [hb, hc, if_true]

theorem chunks_four (ha : 0xF0 ≤ a.toNat ∧ a.toNat ≤ 0xF4) (hb : follows4 a b = true)
    (hc : isContinuation c = true) (hd : isContinuation d = true) :
    chunks (a :: b :: c :: d :: rest) =
      some (Char.ofNat ((a.toNat - 0xF0) * 262144 + payload b * 4096 + payload c * 64 + payload d)) ::
        chunks rest := by
  rw [chunks.eq_def]
  dsimp only
  rw [if_neg (by omega), if_neg (by omega), if_neg (by omega), if_pos ha]
  simp only [hb, hc, hd, if_true]

end Chunks

/-- The bytes of a character are read as this character, whatever follows. -/
theorem chunks_encodeChar (c : Char) (rest : List UInt8) :
    chunks (encodeChar c ++ rest) = some c :: chunks rest := by
  have hvalid : c.toNat < 0xD800 ∨ 0xDFFF < c.toNat ∧ c.toNat < 0x110000 := c.valid
  have hchar : Char.ofNat c.toNat = c := Char.ofNat_toNat c
  rw [encodeChar]
  generalize c.toNat = n at *
  -- One case for each number of bytes.
  split
  · have ha : (UInt8.ofNat n).toNat = n := toNat_byte (by omega)
    rw [List.singleton_append, chunks_one (by omega), ha, hchar]
  · split
    · have ha : (UInt8.ofNat (0xC0 + n / 64)).toNat = 0xC0 + n / 64 := toNat_byte (by omega)
      have hsum : (0xC0 + n / 64 - 0xC0) * 64 + n % 64 = n := by omega
      simp only [List.cons_append, List.nil_append]
      rw [chunks_two (by omega) (isContinuation_byte n), payload_byte, ha, hsum, hchar]
    · split
      · have ha : (UInt8.ofNat (0xE0 + n / 4096)).toNat = 0xE0 + n / 4096 := toNat_byte (by omega)
        have hfollows := follows3_byte (n := n) (by omega) (by omega) (by omega)
        have hsum : (0xE0 + n / 4096 - 0xE0) * 4096 + n / 64 % 64 * 64 + n % 64 = n := by omega
        simp only [List.cons_append, List.nil_append]
        rw [chunks_three (by omega) hfollows (isContinuation_byte n), payload_byte, payload_byte, ha,
          hsum, hchar]
      · have ha : (UInt8.ofNat (0xF0 + n / 262144)).toNat = 0xF0 + n / 262144 :=
          toNat_byte (by omega)
        have hfollows := follows4_byte (n := n) (by omega) (by omega)
        have hsum : (0xF0 + n / 262144 - 0xF0) * 262144 + n / 4096 % 64 * 4096 + n / 64 % 64 * 64 +
            n % 64 = n := by omega
        simp only [List.cons_append, List.nil_append]
        rw [chunks_four (by omega) hfollows (isContinuation_byte _) (isContinuation_byte n),
          payload_byte, payload_byte, payload_byte, ha, hsum, hchar]

/-- The bytes of a text are cut into its characters. -/
theorem chunks_encode (cs : List Char) : chunks (encode cs) = cs.map some := by
  induction cs with
  | nil => rfl
  | cons c cs ih => rw [encode_cons, chunks_encodeChar, ih, List.map_cons]

theorem decodeLossy_encode (cs : List Char) : decodeLossy (encode cs) = cs := by
  rw [decodeLossy, chunks_encode, List.map_map]
  exact List.map_id cs

theorem decode?_encode (cs : List Char) : decode? (encode cs) = some cs := by
  rw [decode?, chunks_encode, List.mapM_map]
  exact List.mapM_pure.trans (congrArg some (List.map_id cs))

theorem decodeString?_encodeString (s : String) : decodeString? (encodeString s) = some s := by
  rw [decodeString?, encodeString, decode?_encode, Option.map_some, String.ofList_toList]

end TwoStepLogin.Utf8
