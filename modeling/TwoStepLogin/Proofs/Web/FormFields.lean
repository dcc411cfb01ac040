import Mathlib.Data.List.Basic
import Mathlib.Data.List.TakeWhile
import TwoStepLogin.Proofs.Text.Escapes
import TwoStepLogin.Web.Url.Basic

/-!
# Form fields are read back

The text of a name or a value holds neither of the signs that separate names, values and pairs, so
that pairs are cut where they were joined; and a space written as a plus sign does not meet a plus
sign, since this one is escaped.

* `Web.Form.decodeText_encodeText` — a name or a value;
* `Web.Form.decode_encode` — pairs;
* `Web.Url.queryPairs_appendQuery` — pairs behind the query of an address;
* `Web.Url.eq_of_text_appendQuery` — the text of the address tells which.
-/

set_option autoImplicit false

namespace TwoStepLogin.Web

namespace Form

/-! ## Names and values -/

/-- The bytes of a byte in a form: a plus sign for a space, or those of its escape. -/
theorem encodeByte_cases (b : UInt8) :
    (b = 32 ∧ encodeByte b = ['+']) ∨ encodeByte b = Percent.encodeByte isPlain b := by
  unfold encodeByte
  split
  · rename_i hb
    exact .inl ⟨hb, rfl⟩
  · exact .inr rfl

/-- Only a space is written as a plus sign. -/
theorem unplus_encodeByte (b : UInt8) :
    (Utf8.encode (Percent.encodeByte isPlain b)).map unplus =
      Utf8.encode (Percent.encodeByte isPlain b) := by
  have hplus : (43 : UInt8) ∉ Utf8.encode (Percent.encodeByte isPlain b) :=
    Percent.notMem_encodeByte (by decide) (by decide) (by decide) b
  have hkept : ∀ x ∈ Utf8.encode (Percent.encodeByte isPlain b), unplus x = id x := by
    intro x hx
    unfold unplus
    split
    · rename_i he
      exact absurd (he ▸ hx) hplus
    · rfl
  rw [List.map_congr_left hkept, List.map_id]

/-- A written byte is read back, whatever follows. -/
theorem decode_encodeByte (b : UInt8) (rest : List UInt8) :
    Percent.decode ((Utf8.encode (encodeByte b)).map unplus ++ rest) = b :: Percent.decode rest := by
  rcases encodeByte_cases b with ⟨rfl, he⟩ | he
  · rw [he]
    exact Percent.decode_cons_of_ne (by decide) rest
  · rw [he, unplus_encodeByte]
    exact Percent.decode_encodeByte (by decide) b rest

theorem decode_flatMap_encodeByte (bytes : List UInt8) :
    Percent.decode ((Utf8.encode (bytes.flatMap encodeByte)).map unplus) = bytes := by
  induction bytes with
  | nil => rfl
  | cons b bytes ih =>
    rw [List.flatMap_cons, Utf8.encode_append, List.map_append, decode_encodeByte, ih]

/-- A written text is read back. -/
theorem decodeText_encodeText (s : String) : decodeText (Utf8.encode (encodeText s)) = s := by
  rw [decodeText, encodeText, decode_flatMap_encodeByte, Utf8.encodeString, Utf8.decodeLossy_encode,
    String.ofList_toList]

/-- A sign that is neither kept nor part of an escape does not occur in the bytes of a text. -/
theorem notMem_encodeText {x : UInt8} (hplain : isPlain x = false) (hsign : x ≠ 37) (hspace : x ≠ 43)
    (hdigit : Percent.isAlphanumeric x = false) (s : String) :
    x ∉ Utf8.encode (encodeText s) := by
  rw [encodeText]
  induction Utf8.encodeString s with
  | nil => exact List.not_mem_nil
  | cons b bytes ih =>
    have hb : x ∉ Utf8.encode (encodeByte b) := by
      rcases encodeByte_cases b with ⟨-, he⟩ | he
      · rw [he]
        exact fun hx => hspace (List.mem_singleton.1 hx)
      · rw [he]
        exact Percent.notMem_encodeByte hplain hsign hdigit b
    rw [List.flatMap_cons, Utf8.encode_append, List.mem_append, not_or]
    exact ⟨hb, ih⟩

theorem equals_notMem_encodeText (s : String) : (61 : UInt8) ∉ Utf8.encode (encodeText s) :=
  notMem_encodeText (by decide) (by decide) (by decide) (by decide) s

theorem ampersand_notMem_encodeText (s : String) : (38 : UInt8) ∉ Utf8.encode (encodeText s) :=
  notMem_encodeText (by decide) (by decide) (by decide) (by decide) s

/-! ## Pairs -/

theorem encode_encodePair (pair : String × String) :
    Utf8.encode (encodePair pair) =
      Utf8.encode (encodeText pair.1) ++ 61 :: Utf8.encode (encodeText pair.2) := by
  rw [encodePair, Utf8.encode_append, Utf8.encode_cons]
  rfl

/-- A name ends at the first equals sign. -/
theorem splitPair_append {name : List UInt8} (h : 61 ∉ name) (value : List UInt8) :
    splitPair (name ++ 61 :: value) = (name, value) := by
  have hname : ∀ b ∈ name, (b != 61) = true := by
    intro b hb
    rw [bne_iff_ne]
    rintro rfl
    exact h hb
  rw [splitPair, List.takeWhile_append_of_pos hname, List.dropWhile_append_of_pos hname,
    List.takeWhile_cons_of_neg (by decide), List.dropWhile_cons_of_neg (by decide), List.append_nil]
  rfl

theorem decodePair_encodePair (pair : String × String) :
    decodePair (Utf8.encode (encodePair pair)) = pair := by
  rw [decodePair, encode_encodePair, splitPair_append (equals_notMem_encodeText _)]
  dsimp only
  rw [decodeText_encodeText, decodeText_encodeText]

/-- Bytes without an ampersand are one part. -/
theorem splitPairs_of_notMem {bytes : List UInt8} (h : 38 ∉ bytes) : splitPairs bytes = [bytes] := by
  induction bytes with
  | nil => rfl
  | cons b bytes ih =>
    rw [List.mem_cons, not_or] at h
    rw [splitPairs, if_neg (Ne.symm h.1), ih h.2]

theorem decode_encodePair (pair : String × String) :
    decode (Utf8.encode (encodePair pair)) = [pair] := by
  have hampersand : (38 : UInt8) ∉ Utf8.encode (encodePair pair) := by
    rw [encode_encodePair, List.mem_append, List.mem_cons]
    rintro (hname | hequals | hvalue)
    · exact ampersand_notMem_encodeText _ hname
    · cases hequals
    · exact ampersand_notMem_encodeText _ hvalue
  have hsome : (Utf8.encode (encodePair pair)).isEmpty = false := by
    rw [encode_encodePair]
    simp
  rw [decode, splitPairs_of_notMem hampersand]
  simp only [List.filter_cons, hsome, Bool.not_false, if_true, List.filter_nil, List.map_cons,
    List.map_nil, decodePair_encodePair]

theorem encode_ampersand (cs : List Char) : Utf8.encode ('&' :: cs) = 38 :: Utf8.encode cs := rfl

/-- Written pairs are read back, in their order. -/
theorem decode_encode (pairs : List (String × String)) : decode (Utf8.encode (encode pairs)) = pairs := by
  induction pairs with
  | nil => rfl
  | cons pair pairs ih =>
    cases pairs with
    | nil =>
      have hone : encode [pair] = encodePair pair := by simp [encode, List.intercalate]
      rw [hone]
      exact decode_encodePair pair
    | cons next pairs =>
      have hmore : encode (pair :: next :: pairs) = encodePair pair ++ '&' :: encode (next :: pairs) := by
        simp [encode, List.intercalate]
      rw [hmore, Utf8.encode_append, encode_ampersand, decode_append, decode_encodePair, ih]
      rfl

end Form

namespace Url

/-! ## Behind a query -/

variable {url : Url} {pairs others : List (String × String)}

/-- What is added to a query comes after what it says already. -/
theorem decodeString_extendQuery (query : Option String) (pairs : List (String × String)) :
    Form.decodeString (extendQuery query pairs) =
      (query.map Form.decodeString).getD [] ++ pairs := by
  have hadded : Form.decodeString (String.ofList (Form.encode pairs)) = pairs := by
    rw [Form.decodeString, Utf8.encodeString_ofList, Form.decode_encode]
  cases query with
  | none => exact hadded
  | some query =>
    unfold extendQuery
    dsimp only
    split
    · rename_i hempty
      rw [hadded, String.isEmpty_iff.1 hempty]
      rfl
    · have hbytes : Utf8.encodeString (query ++ "&" ++ String.ofList (Form.encode pairs)) =
          Utf8.encodeString query ++ 38 :: Utf8.encode (Form.encode pairs) := by
        rw [Utf8.encodeString_append, Utf8.encodeString_append,
          Utf8.encodeString_ofList (Form.encode pairs), List.append_assoc]
        rfl
      rw [Form.decodeString, hbytes, Form.decode_append, Form.decode_encode]
      rfl

theorem queryPairs_appendQuery (url : Url) (pairs : List (String × String)) :
    (url.appendQuery pairs).queryPairs = url.queryPairs ++ pairs := by
  change Form.decodeString (extendQuery url.query pairs) = _
  rw [decodeString_extendQuery, queryPairs]
  cases url.query <;> rfl

/-- Two addresses that differ by their queries only have different texts. -/
theorem eq_of_text_appendQuery (h : (url.appendQuery pairs).text = (url.appendQuery others).text) :
    pairs = others := by
  have hquery : extendQuery url.query pairs = extendQuery url.query others := by
    simpa [text, appendQuery, pathText, marked, String.append_assoc] using h
  have hread := congrArg Form.decodeString hquery
  rw [decodeString_extendQuery, decodeString_extendQuery] at hread
  exact List.append_cancel_left hread

end Url

end TwoStepLogin.Web
