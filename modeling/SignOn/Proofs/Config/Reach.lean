import SignOn.Config
import SignOn.Proofs.Form.Mark
import SignOn.Proofs.RequestAddress

/-
This file shows for which servers all requests reach the service that is meant, with the ticket and the
service that were asked about: for those that are named without a query and without a fragment.
-/

namespace SignOn

open SignOn.Text

/-- What an address asks for: a path, a query behind it, and a fragment that no server gets to see. -/
structure AddressParts where
  path : String
  query : Option String
  fragment : Option String
  deriving DecidableEq

namespace AddressParts

/-- A text is cut at its first separator, if it has one. -/
def cutAt (separator : Char) (text : List Char) : List Char × Option (List Char) :=
  match splitFirst? separator text with
  | none => (text, none)
  | some (before, behind) => (before, some behind)

/-- The first number sign begins the fragment, and the first question mark before it the query. -/
def read (address : String) : AddressParts :=
  let (locator, fragment) := cutAt '#' address.toList
  let (path, query) := cutAt '?' locator
  ⟨String.ofList path, query.map String.ofList, fragment.map String.ofList⟩

theorem cutAt_of_not_mem {separator : Char} {text : List Char} (absent : separator ∉ text) :
    cutAt separator text = (text, none) := by
  rw [cutAt, splitFirst?_eq_none absent]

/-- A text is cut at its first separator. -/
theorem cutAt_append {separator : Char} {before : List Char} (absent : separator ∉ before)
    (behind : List Char) : cutAt separator (before ++ separator :: behind) = (before, some behind) := by
  rw [cutAt, splitFirst?_append absent]

/-- An address with a number sign has a fragment. -/
theorem fragment_ne_none {address : String} (marked : '#' ∈ address.toList) :
    (read address).fragment ≠ none := by
  obtain ⟨before, behind, split, absent⟩ := List.eq_append_cons_of_mem marked
  rw [read, split, cutAt_append absent]
  exact Option.some_ne_none _

/-- An address without a fragment is its path and its query. -/
theorem read_of_query {address : String} {path query : List Char}
    (split : address.toList = path ++ '?' :: query) (unasked : '?' ∉ path)
    (unmarked : '#' ∉ address.toList) :
    read address = ⟨String.ofList path, some (String.ofList query), none⟩ := by
  rw [read, cutAt_of_not_mem unmarked, split]
  simp only [cutAt_append unasked]
  rfl

end AddressParts

/--
An address reaches a service when it has no fragment, its path ends in the service, and its query
begins with what is asked.
-/
structure Reaches (address service : String) (asked : List (String × String)) : Prop where
  whole : (AddressParts.read address).fragment = none
  located : ∃ server, (AddressParts.read address).path = server ++ "/" ++ service
  asks : ∃ query following, (AddressParts.read address).query = some query ∧
    Form.decode query = asked ++ following

/-- A text without the marks that begin a query or a fragment. -/
structure IsMarkless (text : String) : Prop where
  unasked : '?' ∉ text.toList
  unmarked : '#' ∉ text.toList

instance (text : String) : Decidable (IsMarkless text) :=
  decidable_of_iff ('?' ∉ text.toList ∧ '#' ∉ text.toList)
    ⟨fun marks => ⟨marks.1, marks.2⟩, fun markless => ⟨markless.unasked, markless.unmarked⟩⟩

namespace Endpoint

variable (endpoint : Endpoint) {service : String}

/-- A path has no marks but slashes and those of the server and the service. -/
theorem not_mem_path {mark : Char} (isMark : mark ≠ '/') {server : String}
    (absent : mark ∉ server.toList) (absentBehind : mark ∉ service.toList) :
    mark ∉ (path server service).toList := by
  have slash : mark ∉ "/".toList := by simpa using isMark
  rw [path]
  split
  · rw [String.toList_append, List.mem_append]
    tauto
  · rw [String.toList_append, String.toList_append, List.mem_append, List.mem_append]
    tauto

/-- The marks of the server stay in the address of a service. -/
theorem toList_path (server service : String) :
    ∃ behind, (path server service).toList = server.toList ++ behind := by
  rw [path]
  split
  · exact ⟨_, String.toList_append⟩
  · exact ⟨_, by rw [String.toList_append, String.toList_append, List.append_assoc]⟩

theorem toList_url (leading trailing : List (String × String)) :
    (endpoint.url service leading trailing).toList =
      (path endpoint.serverUrl service).toList ++
        '?' :: (Form.encode (endpoint.parameters leading trailing)).toList := by
  rw [url, String.toList_append, String.toList_append, List.append_assoc]
  rfl

/-- An encoded list holds what encoding writes and, between its parts, ampersands and equals signs. -/
theorem not_mem_encode {mark : Char} (unwritten : Form.isWritten mark = false)
    (noAmpersand : mark ≠ '&') (noEquals : mark ≠ '=') (pairs : List (String × String)) :
    mark ∉ (Form.encode pairs).toList := by
  intro member
  rcases Form.forall_mem_encode pairs mark member with written | ampersand | equals
  · rw [unwritten] at written
    cases written
  · exact noAmpersand ampersand
  · exact noEquals equals

/-- The address of a service has no number sign unless the server has one. -/
theorem unmarked_url (plainService : IsMarkless service) (unmarked : '#' ∉ endpoint.serverUrl.toList)
    (leading trailing : List (String × String)) :
    '#' ∉ (endpoint.url service leading trailing).toList := by
  rw [toList_url, List.mem_append, List.mem_cons]
  rintro (inPath | isMark | inQuery)
  · exact not_mem_path (by decide) unmarked plainService.unmarked inPath
  · cases isMark
  · exact not_mem_encode (by decide) (by decide) (by decide) _ inQuery

/-- A server without marks is reached with all that is asked. -/
theorem reaches_url_of_markless (plainService : IsMarkless service)
    (markless : IsMarkless endpoint.serverUrl) (leading trailing : List (String × String)) :
    Reaches (endpoint.url service leading trailing) service leading := by
  have unasked : '?' ∉ (path endpoint.serverUrl service).toList :=
    not_mem_path (by decide) markless.unasked plainService.unasked
  have parts := AddressParts.read_of_query (endpoint.toList_url leading trailing) unasked
    (endpoint.unmarked_url plainService markless.unmarked leading trailing)
  rw [String.ofList_toList, String.ofList_toList] at parts
  refine ⟨by rw [parts], ?located, ?asks⟩
  case located =>
    rw [parts, path]
    split
    · rename_i slashed
      obtain ⟨server, split⟩ := List.getLast?_eq_some_iff.1 slashed
      refine ⟨String.ofList server, ?_⟩
      rw [← String.toList_inj]
      simp [split]
    · exact ⟨endpoint.serverUrl, rfl⟩
  case asks =>
    refine ⟨Form.encode (endpoint.parameters leading trailing),
      endpoint.renewal ++ trailing ++ endpoint.customParameters.entries, by rw [parts], ?_⟩
    rw [Form.decode_encode, parameters, renewal, List.append_assoc, List.append_assoc,
      List.append_assoc]

/-- A number sign in the server begins the fragment, so that no service behind it is reached. -/
theorem not_reaches_url_of_mark (marked : '#' ∈ endpoint.serverUrl.toList)
    (leading trailing : List (String × String)) (service : String)
    (asked : List (String × String)) :
    ¬ Reaches (endpoint.url service leading trailing) service asked := by
  intro reaches
  obtain ⟨behind, kept⟩ := toList_path endpoint.serverUrl service
  refine AddressParts.fragment_ne_none ?_ reaches.whole
  rw [toList_url, kept]
  simp [marked]

/-- Behind a server with a query of its own, what is asked comes behind more query. -/
theorem exists_query_url (plainService : IsMarkless service) (asked : '?' ∈ endpoint.serverUrl.toList)
    (unmarked : '#' ∉ endpoint.serverUrl.toList) :
    ∃ front, ∀ leading trailing,
      (AddressParts.read (endpoint.url service leading trailing)).query =
        some (String.ofList
          (front ++ ['?'] ++ (Form.encode (endpoint.parameters leading trailing)).toList)) := by
  obtain ⟨before, own, split, absent⟩ := List.eq_append_cons_of_mem asked
  obtain ⟨behind, kept⟩ := toList_path endpoint.serverUrl service
  refine ⟨own ++ behind, fun leading trailing => ?_⟩
  -- The question mark of the server comes first, so the one before the parameters is part of the query.
  have cut : (endpoint.url service leading trailing).toList = before ++ '?' :: (own ++ behind ++
      ['?'] ++ (Form.encode (endpoint.parameters leading trailing)).toList) := by
    rw [toList_url, kept, split]
    simp
  rw [AddressParts.read_of_query cut absent
    (endpoint.unmarked_url plainService unmarked leading trailing)]

/-- What is read first is fixed by the server, or it is the first pair with something in front of it. -/
theorem read_of_reaches {front stub : List Char} {settled : List (String × String)}
    (decoded : ∀ first rest,
      Form.decode (String.ofList (front ++ ['?'] ++ (Form.encode (first :: rest)).toList)) =
        settled ++ Form.decodePair (stub ++ ['?'] ++ Form.encodePair first) :: rest)
    {first : String × String} {others trailing : List (String × String)}
    (queried : (AddressParts.read (endpoint.url service (first :: others) trailing)).query =
      some (String.ofList
        (front ++ ['?'] ++ (Form.encode (endpoint.parameters (first :: others) trailing)).toList)))
    (short : others.length ≤ 1)
    (reached : Reaches (endpoint.url service (first :: others) trailing) service (first :: others)) :
    settled.head? = some first ∧ first :: others =
      (settled ++ [Form.decodePair (stub ++ ['?'] ++ Form.encodePair first)]).take
        (others.length + 1) := by
  obtain ⟨query, following, isQuery, asks⟩ := reached.asks
  have parameters : endpoint.parameters (first :: others) trailing =
      first :: (others ++ endpoint.renewal ++ trailing ++ endpoint.customParameters.entries) := rfl
  rw [← Option.some.inj (queried.symm.trans isQuery), parameters, decoded] at asks
  -- With nothing settled, the first pair would be read back with a question mark in front of it.
  cases settled with
  | nil => exact absurd (List.cons.inj asks).1 (Form.decodePair_append_ne stub first)
  | cons settledFirst more =>
      refine ⟨congrArg some (List.cons.inj asks).1, ?_⟩
      have long : others.length + 1 ≤ (settledFirst :: more ++
          [Form.decodePair (stub ++ ['?'] ++ Form.encodePair first)]).length := by
        rw [List.length_append, List.length_cons, List.length_singleton]
        omega
      have kept := congrArg (List.take (others.length + 1)) asks
      rw [List.append_cons, List.take_append_of_le_length long] at kept
      exact (kept.trans (List.take_left' List.length_cons)).symm

/-- A server with a query of its own is reached with one inquiry at most. -/
theorem asked_eq_of_reaches (plainService : IsMarkless service)
    (asked : '?' ∈ endpoint.serverUrl.toList) (unmarked : '#' ∉ endpoint.serverUrl.toList)
    {first second : String × String} {others more trailing : List (String × String)}
    (sameLength : others.length = more.length) (short : more.length ≤ 1)
    (reached : Reaches (endpoint.url service (first :: others) trailing) service (first :: others))
    (reachedToo : Reaches (endpoint.url service (second :: more) trailing) service (second :: more)) :
    first :: others = second :: more := by
  obtain ⟨front, queries⟩ := endpoint.exists_query_url plainService asked unmarked
  obtain ⟨settled, stub, decoded⟩ := Form.exists_decode_append_encode front
  obtain ⟨isFirst, read⟩ := endpoint.read_of_reaches (decoded ['?'] (by decide)) (queries _ _)
    (sameLength ▸ short) reached
  obtain ⟨isSecond, readToo⟩ := endpoint.read_of_reaches (decoded ['?'] (by decide)) (queries _ _)
    short reachedToo
  rw [isFirst] at isSecond
  cases isSecond
  rw [read, readToo, sameLength]

end Endpoint

namespace Config

variable (config : Config)

/-- The service that answers about tickets is named by the protocol. -/
def validationService : String :=
  match config.protocol with
  | .cas10 => "validate"
  | .cas20 => if config.policy.expectsProxies then "proxyValidate" else "serviceValidate"
  | .cas30 => if config.policy.expectsProxies then "p3/proxyValidate" else "p3/serviceValidate"
  | .saml11 => "samlValidate"

/-- What is asked about a ticket in an address. -/
def inquiry (ticket service : String) : List (String × String) :=
  match config.protocol with
  | .saml11 => [("TARGET", service)]
  | _ => [("ticket", ticket), ("service", service)]

/-- A request about a ticket asks the service that answers about tickets, with what is meant. -/
def Addresses (request : Request) (ticket service : String) : Prop :=
  Reaches request.url config.validationService (config.inquiry ticket service)

/-- The dialect that is configured asks the service of its protocol. -/
theorem service_dialect : config.dialect.service = config.validationService := by
  rw [dialect, validationService]
  cases config.protocol with
  | cas10 => rfl
  | cas20 => cases config.policy.expectsProxies <;> rfl
  | cas30 => cases config.policy.expectsProxies <;> rfl
  | saml11 => rfl

/-- The dialect that is configured leads with what is asked about a ticket. -/
theorem leading_dialect (ticket service : String) :
    config.dialect.leading ticket service = config.inquiry ticket service := by
  rw [dialect, inquiry]
  cases config.protocol <;> rfl

theorem endpoint_dialect : config.dialect.endpoint = config.endpoint := by
  rw [dialect]
  cases config.protocol <;> rfl

/-- A request goes to an address of its endpoint, with what is asked in front. -/
theorem exists_url_request : ∃ trailing, ∀ randomBits ticket service now,
    (config.dialect.request randomBits ticket service now).url =
      config.endpoint.url config.validationService (config.inquiry ticket service) trailing := by
  refine ⟨config.dialect.trailing, fun randomBits ticket service now => ?_⟩
  rw [Dialect.url_request, Dialect.url, endpoint_dialect, service_dialect, leading_dialect]

/-- No service that answers about tickets has a mark in its name. -/
theorem isMarkless_validationService : IsMarkless config.validationService := by
  rw [validationService]
  cases config.protocol with
  | cas10 => exact (by decide : IsMarkless "validate")
  | cas20 => cases config.policy.expectsProxies <;> decide +revert
  | cas30 => cases config.policy.expectsProxies <;> decide +revert
  | saml11 => exact (by decide : IsMarkless "samlValidate")

/-- One protocol always asks for the same number of things, at least one and at most two. -/
theorem exists_inquiry : ∃ size ≤ 1, ∀ ticket service, ∃ first others,
    config.inquiry ticket service = first :: others ∧ others.length = size := by
  unfold inquiry
  cases config.protocol with
  | saml11 => exact ⟨0, by decide, fun _ _ => ⟨_, _, rfl, rfl⟩⟩
  | _ => exact ⟨1, by decide, fun _ _ => ⟨_, _, rfl, rfl⟩⟩

/-- What is asked about a ticket tells one service from another. -/
theorem service_eq_of_inquiry {ticket service otherTicket otherService : String}
    (same : config.inquiry ticket service = config.inquiry otherTicket otherService) :
    service = otherService := by
  rw [inquiry, inquiry] at same
  cases protocol : config.protocol <;> simp_all

section Marked

variable {config} {randomBits : BitVec 128} {now : Instant}

/-- With a fragment in the name of its server, a configuration cannot ask anything. -/
theorem not_addresses_of_fragment (marked : '#' ∈ config.serverUrl.toList) (ticket service : String) :
    ¬ config.Addresses (config.dialect.request randomBits ticket service now) ticket service := by
  obtain ⟨trailing, addressed⟩ := config.exists_url_request
  rw [Addresses, addressed]
  exact config.endpoint.not_reaches_url_of_mark marked _ _ _ _

/-- With marks in the name of its server, a configuration can ask one thing at most. -/
theorem inquiry_eq_of_addresses (marked : ¬ IsMarkless config.serverUrl)
    {ticket service otherTicket otherService : String}
    (reached : config.Addresses (config.dialect.request randomBits ticket service now) ticket service)
    (reachedToo : config.Addresses
      (config.dialect.request randomBits otherTicket otherService now) otherTicket otherService) :
    config.inquiry ticket service = config.inquiry otherTicket otherService := by
  by_cases fragmented : '#' ∈ config.serverUrl.toList
  · exact absurd reached (not_addresses_of_fragment fragmented ticket service)
  have asked : '?' ∈ config.serverUrl.toList :=
    Classical.byContradiction fun unasked => marked ⟨unasked, fragmented⟩
  obtain ⟨trailing, addressed⟩ := config.exists_url_request
  obtain ⟨size, short, sized⟩ := config.exists_inquiry
  obtain ⟨first, others, inquired, length⟩ := sized ticket service
  obtain ⟨second, more, inquiredToo, lengthToo⟩ := sized otherTicket otherService
  rw [Addresses, addressed, inquired] at reached
  rw [Addresses, addressed, inquiredToo] at reachedToo
  rw [inquired, inquiredToo]
  exact config.endpoint.asked_eq_of_reaches config.isMarkless_validationService asked
    fragmented (length.trans lengthToo.symm) (lengthToo.trans_le short) reached reachedToo

end Marked

/--
All requests of a configuration ask what is meant exactly when its server is named without a query and
without a fragment. With a fragment none of them does, and with a query only those of one inquiry can.
-/
theorem requests_reach_iff_markless (randomBits : BitVec 128) (now : Instant) :
    ((∀ ticket service,
        config.Addresses (config.dialect.request randomBits ticket service now) ticket service) ↔
      IsMarkless config.serverUrl) ∧
    ('#' ∈ config.serverUrl.toList → ∀ ticket service,
      ¬ config.Addresses (config.dialect.request randomBits ticket service now) ticket service) ∧
    (¬ IsMarkless config.serverUrl → ∀ ticket service otherTicket otherService,
      config.Addresses (config.dialect.request randomBits ticket service now) ticket service →
      config.Addresses (config.dialect.request randomBits otherTicket otherService now) otherTicket
        otherService →
      config.inquiry ticket service = config.inquiry otherTicket otherService) := by
  refine ⟨⟨fun all => ?markless, fun markless ticket service => ?reached⟩,
    fun marked => not_addresses_of_fragment marked,
    fun marked _ _ _ _ reached reachedToo => inquiry_eq_of_addresses marked reached reachedToo⟩
  case markless =>
    by_contra marked
    have same := inquiry_eq_of_addresses marked (all "" "") (all "" "another")
    exact absurd (config.service_eq_of_inquiry same) (by decide)
  case reached =>
    obtain ⟨trailing, addressed⟩ := config.exists_url_request
    rw [Addresses, addressed]
    exact config.endpoint.reaches_url_of_markless config.isMarkless_validationService markless _ _

/-- A server without marks is always asked what is meant, and one with a query what it prepares for. -/
theorem requests_reach_iff_markless_of_prepared :
    let plain := Config.ofServer "https://cas.example.com/cas" .cas30
    let prepared := Config.ofServer "https://cas.example.com/validate?ticket=ST-1&service=app&" .cas10
    plain.check = .ok () ∧ prepared.check = .ok () ∧
      (∀ ticket service,
        plain.Addresses (plain.dialect.request 0 ticket service default) ticket service) ∧
      ∀ ticket service,
        prepared.Addresses (prepared.dialect.request 0 ticket service default) ticket service →
        prepared.inquiry ticket service = [("ticket", "ST-1"), ("service", "app")] := by
  intro plain prepared
  have reachedPrepared : prepared.Addresses (prepared.dialect.request 0 "ST-1" "app" default) "ST-1"
      "app" := by
    refine ⟨by decide +kernel, ⟨"https://cas.example.com", by decide +kernel⟩, ?_⟩
    exact ⟨"ticket=ST-1&service=app&/validate?ticket=ST-1&service=app",
      [("/validate?ticket", "ST-1"), ("service", "app")], by decide +kernel, by decide +kernel⟩
  refine ⟨by decide +kernel, by decide +kernel, ?_, fun ticket service reached => ?_⟩
  · exact (plain.requests_reach_iff_markless 0 default).1.2 (by decide +kernel)
  · exact (prepared.requests_reach_iff_markless 0 default).2.2 (by decide +kernel) ticket service
      "ST-1" "app" reached reachedPrepared

/-- Servers with a fragment or a query are accepted, and requests to them do not ask what is meant. -/
theorem marked_servers_are_accepted :
    let fragmented := Config.ofServer "https://cas.example.com/cas#main" .cas30
    let queried := Config.ofServer "https://cas.example.com/cas?tenant=1" .cas30
    fragmented.check = .ok () ∧ queried.check = .ok () ∧
      ¬ fragmented.Addresses (fragmented.dialect.request 0 "ST-1" "https://app/" default) "ST-1"
        "https://app/" ∧
      ¬ queried.Addresses (queried.dialect.request 0 "ST-1" "https://app/" default) "ST-1"
        "https://app/" := by
  intro fragmented queried
  refine ⟨by decide +kernel, by decide +kernel, fun reached => ?_, fun reached => ?_⟩
  · exact absurd reached.whole (by decide +kernel)
  · obtain ⟨query, following, isQuery, decoded⟩ := reached.asks
    have read : (AddressParts.read
        (queried.dialect.request 0 "ST-1" "https://app/" default).url).query =
        some "tenant=1/p3/serviceValidate?ticket=ST-1&service=https%3A%2F%2Fapp%2F" := by
      decide +kernel
    rw [← Option.some.inj (read.symm.trans isQuery)] at decoded
    have first : (Form.decode
        "tenant=1/p3/serviceValidate?ticket=ST-1&service=https%3A%2F%2Fapp%2F").head? =
        some ("ticket", "ST-1") := congrArg List.head? decoded
    exact absurd first (by decide +kernel)

end Config

end SignOn
