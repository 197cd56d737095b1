import Mathlib.Tactic.Tauto
import SignOn.Dialect
import SignOn.Proofs.Form

/-
This file shows that the address of a request asks for what was meant and for nothing else.
-/

namespace SignOn

/--
An address asks a service of a server with parameters in its query, the leading ones before any
others of their names.
-/
structure Asks (address server service : String) (leading following : List (String × String)) :
    Prop where
  joined : address = Form.location address ++ "?" ++ Form.query address
  located : Form.location address =
    server ++ (if server.toList.getLast? = some '/' then "" else "/") ++ service
  written : ∀ character ∈ (Form.query address).toList,
    character.isAlphanum = true ∨ character ∈ "*-._+%&=".toList
  decoded : Form.decode (Form.query address) = leading ++ following
  first : ∀ pair ∈ leading, (Form.decode (Form.query address)).lookup pair.1 = some pair.2

/-- A name that comes once among the leading pairs is found there, whatever follows them. -/
theorem lookup_append_of_mem {leading : List (String × String)}
    (distinct : (leading.map Prod.fst).Nodup) (following : List (String × String))
    {pair : String × String} (member : pair ∈ leading) :
    (leading ++ following).lookup pair.1 = some pair.2 := by
  induction leading with
  | nil => cases member
  | cons head others inductionHypothesis =>
      obtain ⟨fresh, distinct⟩ := List.nodup_cons.1 distinct
      rw [List.cons_append, List.lookup_cons]
      rcases List.mem_cons.1 member with rfl | later
      · rw [beq_self_eq_true]
      · have different : pair.1 ≠ head.1 := by
          intro same
          exact fresh (same ▸ List.mem_map_of_mem later)
        rw [beq_eq_false_iff_ne.2 different]
        exact inductionHypothesis distinct later

/-- The characters of encoded pairs, listed. -/
theorem Form.mem_of_mem_encode {pairs : List (String × String)} {character : Char}
    (member : character ∈ (Form.encode pairs).toList) :
    character.isAlphanum = true ∨ character ∈ "*-._+%&=".toList := by
  have marks : "*-._+%&=".toList = ['*', '-', '.', '_', '+', '%', '&', '='] := by decide
  rw [marks]
  rcases Form.forall_mem_encode pairs character member with written | rfl | rfl
  · simp only [Form.isWritten, Form.isPlain, Bool.or_eq_true, beq_iff_eq] at written
    simp only [List.mem_cons, List.not_mem_nil, or_false]
    tauto
  · exact Or.inr (by decide)
  · exact Or.inr (by decide)

namespace Endpoint

/-- The parameters of a request are read back from the query of its address. -/
theorem decode_query_url (endpoint : Endpoint) (service : String)
    (leading trailing : List (String × String)) :
    Form.decode (Form.query (endpoint.url service leading trailing)) =
      endpoint.parameters leading trailing := by
  rw [url, Form.query_append_encode, Form.decode_encode]

/-- A slash joins the service to the server, unless the server ends in one. -/
theorem path_eq (server service : String) :
    path server service =
      server ++ (if server.toList.getLast? = some '/' then "" else "/") ++ service := by
  rw [path]
  split
  · rw [String.append_empty]
  · rfl

/-- The request for primary authentication, if there is one. -/
def renewal (endpoint : Endpoint) : List (String × String) :=
  if endpoint.renew then [("renew", "true")] else []

/-- The address for granting tickets, if there is one. -/
def callback (endpoint : Endpoint) : List (String × String) :=
  match endpoint.callbackUrl with
  | none => []
  | some url => [("pgtUrl", url)]

theorem callback_eq (endpoint : Endpoint) :
    endpoint.callback = (endpoint.callbackUrl.map ("pgtUrl", ·)).toList := by
  rw [callback]
  cases endpoint.callbackUrl <;> rfl

/--
The address that an endpoint makes asks for all that it was given, and for what it adds to every
request.
-/
theorem asks_url (endpoint : Endpoint) (service : String)
    {leading : List (String × String)} (distinct : (leading.map Prod.fst).Nodup)
    (trailing : List (String × String)) :
    Asks (endpoint.url service leading trailing) endpoint.serverUrl service leading
      (endpoint.renewal ++ trailing ++ endpoint.customParameters.entries) := by
  have parameters : endpoint.parameters leading trailing =
      leading ++ (endpoint.renewal ++ trailing ++ endpoint.customParameters.entries) := by
    simp [Endpoint.parameters, renewal]
  have decoded := (endpoint.decode_query_url service leading trailing).trans parameters
  exact {
    joined := by rw [url, Form.location_append_encode, Form.query_append_encode]
    located := by rw [url, Form.location_append_encode, path_eq]
    written := by
      intro character member
      rw [url, Form.query_append_encode] at member
      exact Form.mem_of_mem_encode member
    decoded := decoded
    first := fun pair member => decoded ▸ lookup_append_of_mem distinct _ member }

end Endpoint

namespace Dialect

/-- A request goes to the address of its dialect. -/
theorem url_request (dialect : Dialect) (randomBits : BitVec 128) (ticket service : String)
    (now : Instant) :
    (dialect.request randomBits ticket service now).url = dialect.url ticket service := by
  cases dialect <;> rfl

/-- No leading parameter comes twice. -/
theorem nodup_leading (dialect : Dialect) (ticket service : String) :
    ((dialect.leading ticket service).map Prod.fst).Nodup := by
  cases dialect <;> simp [leading]

/-- Every request asks the service of its dialect, with the ticket and the service first. -/
theorem asks_request (dialect : Dialect) (randomBits : BitVec 128) (ticket service : String)
    (now : Instant) :
    Asks (dialect.request randomBits ticket service now).url dialect.endpoint.serverUrl
      dialect.service (dialect.leading ticket service)
      (dialect.endpoint.renewal ++ dialect.trailing ++
        dialect.endpoint.customParameters.entries) := by
  rw [url_request]
  exact dialect.endpoint.asks_url dialect.service (dialect.nodup_leading ticket service)
    dialect.trailing

end Dialect

/--
Every request asks for the ticket and the service that were meant, then for what its endpoint adds,
whatever these hold. Custom parameters come last, in the order of their names.
-/
theorem request_asks_as_meant (dialect : Dialect) (randomBits : BitVec 128)
    (ticket service : String) (now : Instant) (issuer : ProxyTicketIssuer)
    (grantingTicket targetService : String) :
    (match dialect with
      | .cas10 endpoint =>
        Asks (dialect.request randomBits ticket service now).url endpoint.serverUrl "validate"
          [("ticket", ticket), ("service", service)]
          (endpoint.renewal ++ endpoint.customParameters.entries)
      | .cas20 endpoint expectsProxies =>
        Asks (dialect.request randomBits ticket service now).url endpoint.serverUrl
          (if expectsProxies then "proxyValidate" else "serviceValidate")
          [("ticket", ticket), ("service", service)]
          (endpoint.renewal ++ endpoint.callback ++ endpoint.customParameters.entries)
      | .cas30 endpoint expectsProxies =>
        Asks (dialect.request randomBits ticket service now).url endpoint.serverUrl
          (if expectsProxies then "p3/proxyValidate" else "p3/serviceValidate")
          [("ticket", ticket), ("service", service)]
          (endpoint.renewal ++ endpoint.callback ++ endpoint.customParameters.entries)
      | .saml11 endpoint _ _ =>
        Asks (dialect.request randomBits ticket service now).url endpoint.serverUrl "samlValidate"
          [("TARGET", service)] (endpoint.renewal ++ endpoint.customParameters.entries)) ∧
      dialect.endpoint.customParameters.entries.Pairwise (fun left right => left.1 < right.1) ∧
      Asks (issuer.request grantingTicket targetService).url issuer.serverUrl "proxy"
        [("pgt", grantingTicket), ("targetService", targetService)] [] := by
  refine ⟨?_, dialect.endpoint.customParameters.ascending,
    (Endpoint.ofServer issuer.serverUrl).asks_url "proxy" (by simp) []⟩
  have asked := dialect.asks_request randomBits ticket service now
  cases dialect with
  | cas10 endpoint =>
      rw [show (Dialect.cas10 endpoint).trailing = [] from rfl, List.append_nil] at asked
      exact asked
  | cas20 endpoint expectsProxies =>
      rw [Dialect.trailing, ← Endpoint.callback_eq] at asked
      cases expectsProxies <;> exact asked
  | cas30 endpoint expectsProxies =>
      rw [Dialect.trailing, ← Endpoint.callback_eq] at asked
      cases expectsProxies <;> exact asked
  | saml11 endpoint tolerance identifiers =>
      rw [show (Dialect.saml11 endpoint tolerance identifiers).trailing = [] from rfl,
        List.append_nil] at asked
      exact asked

end SignOn
