import TwoStepLogin.Host.Cookie
import TwoStepLogin.Proofs.Text.Escapes
import TwoStepLogin.Proofs.Text.Parts

/-!
# The cookie comes back

A browser sends back the name and the encoded value of the cookie that it was given, among cookies of
its own. The encoded value holds no semicolon, no blank and no double quote, so that nothing of it is
lost where the header is cut, trimmed and unquoted; and whatever stands around it, in the same header or
in others, does not hide it as long as it does not bear its name.

* `Host.Cookie.returned` — what a browser sends back;
* `Host.Foreign` — other parts of a header;
* `Host.CookiePlace` — where the cookie stands among them;
* `Host.readPair?_returned` — the cookie alone is read as name and value;
* `Host.Foreign.name_ne` — nothing else is read as a cookie of that name;
* `Host.session_cookie_reads_back` — the identifier of the session is read back exactly.
-/

set_option autoImplicit false

namespace TwoStepLogin.Host

open Text (isBlank trimChars splitOnce)

/-- What a browser sends back of a cookie: its text up to the first semicolon. -/
def Cookie.returned (c : Cookie) : List Char := c.encodedText.toList.takeWhile (· != ';')

/-- A header of these parts. -/
def headerOf (parts : List (List Char)) : String := String.ofList ([';'].intercalate parts)

/-- A part of a header that does not bear the name of a session's cookie. It may be a cookie of another
name, or no cookie at all. -/
structure Foreign (part : List Char) : Prop where
  one_part : ';' ∉ part
  other_name : ∀ before after, part = before ++ '=' :: after → '=' ∉ before →
    decodeText? (trimChars before) ≠ some cookieName

theorem foreign_iff {part : List Char} : Foreign part ↔ ';' ∉ part ∧
    (splitOnce '=' part).bind (fun cut => decodeText? (trimChars cut.1)) ≠ some cookieName := by
  constructor
  · intro h
    refine ⟨h.one_part, fun hname => ?_⟩
    obtain ⟨cut, hsplit, hdecoded⟩ := Option.bind_eq_some_iff.1 hname
    obtain ⟨hpart, hequals⟩ := Text.splitOnce_eq_some hsplit
    exact h.other_name cut.1 cut.2 hpart hequals hdecoded
  · rintro ⟨hone, hname⟩
    refine ⟨hone, ?_⟩
    rintro before after rfl hequals
    rwa [Text.splitOnce_append hequals, Option.bind_some] at hname

instance : DecidablePred Foreign := fun _ => decidable_of_iff _ foreign_iff.symm

/-- Where a cookie stands in the headers of a request: in one of them, between other parts, perhaps
with blanks on its sides. -/
structure CookiePlace where
  headersBefore : List (List (List Char))
  partsBefore : List (List Char)
  blanksBefore : List Char
  blanksAfter : List Char
  partsAfter : List (List Char)
  headersAfter : List (List (List Char))
  foreign_before : ∀ part ∈ headersBefore.flatten ++ partsBefore, Foreign part
  foreign_after : ∀ part ∈ partsAfter ++ headersAfter.flatten, Foreign part
  blank : ∀ c ∈ blanksBefore ++ blanksAfter, isBlank c = true

namespace CookiePlace

/-- The part with a cookie in it. -/
def around (place : CookiePlace) (pair : List Char) : List Char :=
  place.blanksBefore ++ pair ++ place.blanksAfter

/-- The headers with a cookie in its place, part by part. -/
def headerParts (place : CookiePlace) (pair : List Char) : List (List (List Char)) :=
  place.headersBefore ++ (place.partsBefore ++ place.around pair :: place.partsAfter) ::
    place.headersAfter

/-- The headers with a cookie in its place. -/
def headers (place : CookiePlace) (pair : List Char) : List String :=
  (place.headerParts pair).map headerOf

theorem flatten_headerParts (place : CookiePlace) (pair : List Char) :
    (place.headerParts pair).flatten = (place.headersBefore.flatten ++ place.partsBefore) ++
      place.around pair :: (place.partsAfter ++ place.headersAfter.flatten) := by
  simp [headerParts]

end CookiePlace

variable {part : List Char} {parts : List (List Char)} {name value : String}

/-! ## Encoded values -/

/-- Nothing that is written for a value has a meaning of its own in a header. -/
theorem encode_inert (s : String) : ∀ c ∈ (Cookie.encode s).toList,
    isBlank c = false ∧ c ≠ ';' ∧ c ≠ '"' := by
  have hdigit : ∀ n : Fin 16, isBlank (Percent.hexDigit n) = false ∧ Percent.hexDigit n ≠ ';' ∧
      Percent.hexDigit n ≠ '"' := by decide
  have hkept : ∀ n : Fin 128, Cookie.isPlain (UInt8.ofNat n) = true →
      isBlank (Char.ofNat n) = false ∧ Char.ofNat n ≠ ';' ∧ Char.ofNat n ≠ '"' := by decide
  rw [Cookie.encode, String.toList_ofList]
  refine Percent.forall_mem_encode (by decide) (fun n hn => hdigit ⟨n, hn⟩) (fun b hb hplain => ?_) _
  exact hkept ⟨b.toNat, hb⟩ (by rwa [UInt8.ofNat_toNat])

/-- The name has no meaning of its own in a header either. -/
theorem cookieName_inert : ∀ c ∈ cookieName.toList, isBlank c = false ∧ c ≠ ';' := by
  have hall : cookieName.toList.all (fun c => !isBlank c && c != ';') = true := by decide
  intro c hc
  simpa using List.all_eq_true.1 hall c hc

theorem decodeText?_encode (s : String) : decodeText? (Cookie.encode s).toList = some s := by
  rw [decodeText?, Cookie.encode, String.toList_ofList, Percent.encodeChars,
    Percent.decode_encode (by decide)]
  exact Utf8.decodeString?_encodeString s

/-- A text that does not begin with a double quote is not quoted. -/
theorem unquote_eq_self {cs : List Char} (h : '"' ∉ cs) : unquote cs = cs := by
  rw [unquote.eq_def]
  split
  · exact absurd List.mem_cons_self h
  · rfl

/-! ## One part -/

theorem attributes_eq (c : Cookie) : ∃ rest, c.attributes.toList = ';' :: rest := by
  have hfirst : "; HttpOnly; SameSite=".toList = ';' :: " HttpOnly; SameSite=".toList := rfl
  unfold Cookie.attributes
  simp only [String.toList_append, List.append_assoc]
  exact ⟨_, congrArg (· ++ _) hfirst⟩

/-- What is sent back is the name and the encoded value. -/
theorem returned_eq (c : Cookie) :
    c.returned = cookieName.toList ++ '=' :: (Cookie.encode c.value).toList := by
  have hkept : ∀ d ∈ cookieName.toList ++ '=' :: (Cookie.encode c.value).toList, (d != ';') = true := by
    refine List.forall_mem_append.2 ⟨fun d hd => ?_, List.forall_mem_cons.2 ⟨rfl, fun d hd => ?_⟩⟩
    · exact bne_iff_ne.2 (cookieName_inert d hd).2
    · exact bne_iff_ne.2 (encode_inert c.value d hd).2.1
  have hequals : "=".toList = ['='] := rfl
  have htext : c.encodedText.toList =
      (cookieName.toList ++ '=' :: (Cookie.encode c.value).toList) ++ c.attributes.toList := by
    simp only [Cookie.encodedText, String.toList_append, hequals, List.append_assoc,
      List.singleton_append]
  obtain ⟨rest, hrest⟩ := attributes_eq c
  rw [Cookie.returned, htext, hrest, List.takeWhile_append_of_pos hkept,
    List.takeWhile_cons_of_neg (by decide), List.append_nil]

theorem semicolon_notMem_returned (c : Cookie) : ';' ∉ c.returned := by
  intro h
  have hkept := List.mem_takeWhile_imp h
  revert hkept
  decide

/-- The cookie is read as its name and its value. -/
theorem readPair?_returned (c : Cookie) : readPair? c.returned = some (cookieName, c.value) := by
  have hsplit : splitOnce '=' c.returned =
      some (cookieName.toList, (Cookie.encode c.value).toList) := by
    rw [returned_eq]
    exact Text.splitOnce_append (by decide) _
  have hname : trimChars cookieName.toList = cookieName.toList := by decide +kernel
  have hdecoded : decodeText? cookieName.toList = some cookieName := by decide +kernel
  have htrim : trimChars (Cookie.encode c.value).toList = (Cookie.encode c.value).toList :=
    Text.trimChars_eq_self fun d hd => (encode_inert c.value d hd).1
  have hquote : unquote (Cookie.encode c.value).toList = (Cookie.encode c.value).toList :=
    unquote_eq_self fun h => (encode_inert c.value '"' h).2.2 rfl
  have hsome : cookieName ≠ "" := by decide
  simp [readPair?, hsplit, hname, hsome, hdecoded, htrim, hquote, decodeText?_encode]

/-- Blanks around the cookie do not count. -/
theorem trimChars_around (place : CookiePlace) (c : Cookie) :
    trimChars (place.around c.returned) = c.returned := by
  obtain ⟨hbefore, hafter⟩ := List.forall_mem_append.1 place.blank
  have hsolid : ∀ d ∈ c.returned, isBlank d = false := by
    rw [returned_eq]
    exact List.forall_mem_append.2 ⟨fun d hd => (cookieName_inert d hd).1,
      List.forall_mem_cons.2 ⟨rfl, fun d hd => (encode_inert c.value d hd).1⟩⟩
  exact Text.trimChars_append hbefore hafter (fun d hd => hsolid d (List.mem_of_head? hd))
    fun d hd => hsolid d (List.mem_of_getLast? hd)

/-- The name of a cookie is what stands before the first equals sign. -/
theorem name_of_readPair? {cs : List Char} (hread : readPair? cs = some (name, value)) :
    ∃ before after, splitOnce '=' cs = some (before, after) ∧
      decodeText? (trimChars before) = some name := by
  obtain ⟨⟨before, after⟩, hsplit, hpair⟩ := Option.bind_eq_some_iff.1 hread
  refine ⟨before, after, hsplit, ?_⟩
  dsimp only at hpair
  split at hpair
  · cases hpair
  · simp only [Option.bind_eq_bind, Option.bind_eq_some_iff, Option.some.injEq, Prod.mk.injEq] at hpair
    obtain ⟨decoded, hdecoded, -, -, rfl, -⟩ := hpair
    exact hdecoded

/-- A foreign part is no cookie, or one of another name. -/
theorem Foreign.name_ne (h : Foreign part) (hread : readPair? (trimChars part) = some (name, value)) :
    name ≠ cookieName := by
  rintro rfl
  obtain ⟨before, after, hsplit, hdecoded⟩ := name_of_readPair? hread
  -- The equals sign that is found behind the blanks is the first one of the part.
  obtain ⟨blanks, rest, hpart, hblanks, -⟩ := (Text.trimmed_trimChars part).around
  obtain ⟨hcut, hequals⟩ := Text.splitOnce_eq_some hsplit
  refine h.other_name (blanks ++ before) (after ++ rest) ?_ ?_ ?_
  · rw [hpart, hcut]
    simp
  · rw [List.mem_append, not_or]
    refine ⟨fun hmem => ?_, hequals⟩
    have hfalse := hblanks '=' hmem
    revert hfalse
    decide
  · rw [Text.trimChars_blanks_append hblanks, hdecoded]

/-! ## Headers -/

/-- A header is read part by part. -/
theorem readCookies_headerOf (h : ∀ part ∈ parts, ';' ∉ part) :
    readCookies (headerOf parts) = parts.filterMap fun part => readPair? (trimChars part) := by
  rw [readCookies, headerOf, String.toList_ofList]
  cases parts with
  | nil => rfl
  | cons part parts => rw [Text.splitOn_intercalate (List.cons_ne_nil _ _) h]

/-- Several headers are read as one. -/
theorem flatMap_readCookies {headers : List (List (List Char))}
    (h : ∀ part ∈ headers.flatten, ';' ∉ part) : (headers.map headerOf).flatMap readCookies =
      headers.flatten.filterMap fun part => readPair? (trimChars part) := by
  induction headers with
  | nil => rfl
  | cons parts headers ih =>
    rw [List.flatten_cons, List.forall_mem_append] at h
    rw [List.map_cons, List.flatMap_cons, readCookies_headerOf h.1, ih h.2, List.flatten_cons,
      List.filterMap_append]

/-- In foreign parts there is no cookie of a session. -/
theorem lookup_foreign (h : ∀ part ∈ parts, Foreign part) :
    (parts.filterMap fun part => readPair? (trimChars part)).lookup cookieName = none := by
  refine List.lookup_eq_none_iff.2 fun pair hpair => ?_
  obtain ⟨part, hpart, hread⟩ := List.mem_filterMap.1 hpair
  exact bne_iff_ne.2 ((h part hpart).name_ne hread).symm

theorem sessionId?_foreign {headers : List (List (List Char))}
    (h : ∀ part ∈ headers.flatten, Foreign part) : sessionId? (headers.map headerOf) = none := by
  rw [sessionId?, flatMap_readCookies fun part hpart => (h part hpart).one_part, lookup_foreign h]

/-- A cookie in its place is one part. -/
theorem one_part_of_mem (place : CookiePlace) (c : Cookie) :
    ∀ part ∈ (place.headerParts c.returned).flatten, ';' ∉ part := by
  rw [place.flatten_headerParts, List.forall_mem_append, List.forall_mem_cons]
  refine ⟨fun part hpart => (place.foreign_before part hpart).one_part, fun hmem => ?_,
    fun part hpart => (place.foreign_after part hpart).one_part⟩
  rw [← Text.mem_trimChars_iff (by decide), trimChars_around] at hmem
  exact semicolon_notMem_returned c hmem

/-- The value of a cookie that comes back, unless it is empty. -/
theorem sessionId?_headers (place : CookiePlace) (c : Cookie) :
    sessionId? (place.headers c.returned) = if c.value.isEmpty then none else some c.value := by
  have hread : ((place.headerParts c.returned).map headerOf).flatMap readCookies =
      ((place.headersBefore.flatten ++ place.partsBefore).filterMap fun part =>
          readPair? (trimChars part)) ++ (cookieName, c.value) ::
        (place.partsAfter ++ place.headersAfter.flatten).filterMap fun part =>
          readPair? (trimChars part) := by
    rw [flatMap_readCookies (one_part_of_mem place c), place.flatten_headerParts,
      List.filterMap_append, List.filterMap_cons, trimChars_around, readPair?_returned]
  rw [sessionId?, CookiePlace.headers, hread, List.lookup_append, lookup_foreign place.foreign_before,
    Option.none_or, List.lookup_cons_self]

/-- Whatever stands around it, the cookie of a session is read back as the identifier that it was made
from; the cookie that is given out to forget a session, and headers without either, are read as none. -/
theorem session_cookie_reads_back (jar : CookieJar) (place : CookiePlace) :
    (∀ id, id ≠ "" → sessionId? (place.headers (jar.session id).returned) = some id) ∧
      sessionId? (place.headers jar.expired.returned) = none ∧
      ∀ headers : List (List (List Char)), (∀ part ∈ headers.flatten, Foreign part) →
        sessionId? (headers.map headerOf) = none := by
  refine ⟨fun id hid => ?_, ?_, fun headers => sessionId?_foreign⟩
  · rw [sessionId?_headers]
    exact if_neg (by simpa [CookieJar.session] using hid)
  · rw [sessionId?_headers]
    rfl

/-- Two headers, in which a cookie stands between others. One of them bears a similar name, one an
escape that is no text, and one part is no cookie. -/
def crowdedPlace : CookiePlace where
  headersBefore := [["lang=\"en\"".toList, " %FF=1".toList]]
  partsBefore := ["u2f_session2=abc".toList]
  blanksBefore := [' ', '\t']
  blanksAfter := [' ']
  partsAfter := [" u2f_session".toList, []]
  headersAfter := []
  foreign_before := by decide +kernel
  foreign_after := by decide +kernel
  blank := List.all_eq_true.1 (by decide)

/-- Signs of the header, an escape, blanks at the ends and a letter of two bytes come back; without the
cookie nothing does. -/
theorem rough_identifier_reads_back :
    let jar : CookieJar := ⟨true, 600⟩
    sessionId? (crowdedPlace.headers (jar.session " é; u2f_session=%41\" ").returned) =
        some " é; u2f_session=%41\" " ∧
      sessionId? (crowdedPlace.headersBefore.map headerOf) = none := by
  have hback := session_cookie_reads_back ⟨true, 600⟩ crowdedPlace
  refine ⟨hback.1 _ (by decide), hback.2.2 _ fun part hpart => ?_⟩
  exact crowdedPlace.foreign_before part (List.mem_append_left _ hpart)

end TwoStepLogin.Host
