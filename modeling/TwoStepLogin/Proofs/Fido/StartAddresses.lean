import TwoStepLogin.Fido.Remote
import TwoStepLogin.Proofs.Web.FormFields

/-!
# Addresses where workflows start

The parameters of a workflow are form fields behind the query of an endpoint. Read back from the
address they are what was given, in their order and behind the endpoint's own fields, whatever signs
they hold; all other parts are the endpoint's.

* `Fido.Lengthened` — an address is another one with fields behind its query;
* `Fido.Distinct` — different parameters lead to addresses with different texts;
* `Fido.start_addresses_carry_their_fields` — both hold of the addresses where workflows start.
-/

set_option autoImplicit false

namespace TwoStepLogin.Fido

open Web (Url)

/-- An address is another one with fields behind its query, and does not differ otherwise. -/
structure Lengthened (base url : Url) (fields : List (String × String)) : Prop where
  scheme : url.scheme = base.scheme
  authority : url.authority = base.authority
  path : url.path = base.path
  fragment : url.fragment = base.fragment
  queryPairs : url.queryPairs = base.queryPairs ++ fields

/-- Different parameters lead to addresses with different texts. -/
def Distinct {α : Type} (address : α → Except Fault Url) : Prop :=
  ∀ x y url url', address x = .ok url → address y = .ok url' → url.text = url'.text → x = y

theorem lengthened_appendQuery (base : Url) (fields : List (String × String)) :
    Lengthened base (base.appendQuery fields) fields where
  scheme := rfl
  authority := rfl
  path := rfl
  fragment := rfl
  queryPairs := base.queryPairs_appendQuery fields

/-- An endpoint is an address just if its text is one. -/
theorem parseEndpoint_of_parse {endpoint : String} {base : Url} (h : Url.parse endpoint = .ok base) :
    parseEndpoint endpoint = .ok base := by
  rw [parseEndpoint, h]

/-- Fields that tell parameters apart make addresses that do so. -/
theorem distinct_of_fields {α : Type} {base : Url} {fields : α → List (String × String)}
    {address : α → Except Fault Url} (haddress : ∀ x, address x = .ok (base.appendQuery (fields x)))
    (hfields : ∀ x y, fields x = fields y → x = y) : Distinct address := by
  intro x y url url' hx hy htext
  rw [haddress] at hx hy
  cases hx
  cases hy
  exact hfields x y (Url.eq_of_text_appendQuery htext)

variable {metadata : Metadata} {base : Url}

theorem registrationStartUrl_eq (h : Url.parse metadata.registrationEndpoint = .ok base)
    (userId applicationId sessionId : String) :
    registrationStartUrl metadata userId applicationId sessionId =
      .ok (base.appendQuery (registrationPairs userId applicationId sessionId)) := by
  rw [registrationStartUrl, parseEndpoint_of_parse h]
  rfl

theorem authenticationStartUrl_eq (h : Url.parse metadata.authenticationEndpoint = .ok base)
    (userId : String) (keyHandle : Option String) (applicationId sessionId : String) :
    authenticationStartUrl metadata userId keyHandle applicationId sessionId =
      .ok (base.appendQuery (authenticationPairs userId keyHandle applicationId sessionId)) := by
  rw [authenticationStartUrl, parseEndpoint_of_parse h]
  rfl

theorem registrationPairs_injective {u a s u' a' s' : String}
    (h : registrationPairs u a s = registrationPairs u' a' s') : u = u' ∧ a = a' ∧ s = s' := by
  simpa [registrationPairs] using h

/-- With or without a key handle: there is a field more or less. -/
theorem authenticationPairs_injective {u a s u' a' s' : String} {k k' : Option String}
    (h : authenticationPairs u k a s = authenticationPairs u' k' a' s') :
    u = u' ∧ k = k' ∧ a = a' ∧ s = s' := by
  cases k with
  | none =>
    cases k' with
    | none => simpa [authenticationPairs] using h
    | some handle' =>
      have hlength := congrArg List.length h
      simp [authenticationPairs] at hlength
  | some handle =>
    cases k' with
    | none =>
      have hlength := congrArg List.length h
      simp [authenticationPairs] at hlength
    | some handle' => simpa [authenticationPairs] using h

/-- Wherever the endpoints of a server are addresses, registrations and authentications start at these
addresses with the parameters as further fields of the query: user, application and session, and behind
the user of an authentication the key handle, if one is given. No two lists of parameters lead to the
same address of one endpoint. -/
theorem start_addresses_carry_their_fields (metadata : Metadata) :
    (∀ base, Url.parse metadata.registrationEndpoint = .ok base →
      (∀ userId applicationId sessionId, ∃ url,
        registrationStartUrl metadata userId applicationId sessionId = .ok url ∧
          Lengthened base url
            [("username", userId), ("application", applicationId), ("session_state", sessionId)]) ∧
      Distinct fun p : String × String × String => registrationStartUrl metadata p.1 p.2.1 p.2.2) ∧
    (∀ base, Url.parse metadata.authenticationEndpoint = .ok base →
      (∀ userId applicationId sessionId, ∃ url,
        authenticationStartUrl metadata userId none applicationId sessionId = .ok url ∧
          Lengthened base url
            [("username", userId), ("application", applicationId), ("session_state", sessionId)]) ∧
      (∀ userId keyHandle applicationId sessionId, ∃ url,
        authenticationStartUrl metadata userId (some keyHandle) applicationId sessionId = .ok url ∧
          Lengthened base url [("username", userId), ("keyhandle", keyHandle),
            ("application", applicationId), ("session_state", sessionId)]) ∧
      Distinct fun p : String × Option String × String × String =>
        authenticationStartUrl metadata p.1 p.2.1 p.2.2.1 p.2.2.2) := by
  refine ⟨fun base hbase => ⟨fun userId applicationId sessionId => ?_, ?_⟩, fun base hbase =>
    ⟨fun userId applicationId sessionId => ?_, fun userId keyHandle applicationId sessionId => ?_, ?_⟩⟩
  · exact ⟨_, registrationStartUrl_eq hbase _ _ _, lengthened_appendQuery base _⟩
  · refine distinct_of_fields (fun _ => registrationStartUrl_eq hbase _ _ _) ?_
    rintro ⟨u, a, s⟩ ⟨u', a', s'⟩ hsame
    obtain ⟨rfl, rfl, rfl⟩ := registrationPairs_injective hsame
    rfl
  · exact ⟨_, authenticationStartUrl_eq hbase _ none _ _, lengthened_appendQuery base _⟩
  · exact ⟨_, authenticationStartUrl_eq hbase _ (some keyHandle) _ _, lengthened_appendQuery base _⟩
  · refine distinct_of_fields (fun _ => authenticationStartUrl_eq hbase _ _ _ _) ?_
    rintro ⟨u, k, a, s⟩ ⟨u', k', a', s'⟩ hsame
    obtain ⟨rfl, rfl, rfl, rfl⟩ := authenticationPairs_injective hsame
    rfl

/-- A server whose endpoint for authentications has a query, with an empty part at its end, and a
fragment. -/
def crowdedServer : Metadata :=
  ⟨"1", "issuer", "https://r.example", "https://idp.example:8443/u2f?kind=a%26b&#enroll"⟩

/-- Its endpoint, in parts. -/
def crowdedEndpoint : Url :=
  ⟨"https", some ⟨"", none, .name "idp.example", some 8443⟩, "/u2f", some "kind=a%26b&", some "enroll"⟩

theorem parse_crowdedEndpoint : Url.parse crowdedServer.authenticationEndpoint = .ok crowdedEndpoint := by
  decide +kernel

/-- Signs that separate fields or begin a fragment do not add, drop or change one. -/
theorem crowded_address_carries_its_fields :
    Url.parse crowdedServer.authenticationEndpoint = .ok crowdedEndpoint ∧ ∃ url,
      authenticationStartUrl crowdedServer "a&username=b" (some "1+2=3 %") "x#y" "é?" = .ok url ∧
        url.fragment = some "enroll" ∧
        url.queryPairs = [("kind", "a&b"), ("username", "a&username=b"), ("keyhandle", "1+2=3 %"),
          ("application", "x#y"), ("session_state", "é?")] := by
  have hauthentication := (start_addresses_carry_their_fields crowdedServer).2 _ parse_crowdedEndpoint
  obtain ⟨url, hurl, hlonger⟩ := hauthentication.2.1 "a&username=b" "1+2=3 %" "x#y" "é?"
  have hown : crowdedEndpoint.queryPairs = [("kind", "a&b")] := by decide +kernel
  refine ⟨parse_crowdedEndpoint, url, hurl, hlonger.fragment, ?_⟩
  rw [hlonger.queryPairs, hown]
  rfl

end TwoStepLogin.Fido
