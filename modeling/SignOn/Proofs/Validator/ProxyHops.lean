import SignOn.Proofs.ProxyChain
import SignOn.Proofs.ServiceResponse.Reading
import SignOn.Proofs.Validator.Workflow

/-
This file shows which proxies of an answer reach the policy, and when a ticket that came through proxies
is accepted.
-/

namespace SignOn.ServiceResponse

open SignOn.Markup

/-- The texts of the proxies in a list, blank ones included. -/
def hops (proxies : Element) : List String := (proxies.childrenNamed "proxy").map Element.text

/-- The texts of the proxies that have one. -/
def namedHops (proxies : Element) : List String := (hops proxies).filter (· ≠ "")

theorem filterMap_nonemptyText? (elements : List Element) :
    elements.filterMap nonemptyText? = (elements.map Element.text).filter (· ≠ "") := by
  induction elements with
  | nil => rfl
  | cons element others inductionHypothesis =>
      by_cases empty : element.text = ""
      · have left : nonemptyText? element = none := if_pos empty
        rw [List.filterMap_cons_none left, List.map_cons,
          List.filter_cons_of_neg (by simpa using empty), inductionHypothesis]
      · have kept : nonemptyText? element = some element.text := if_neg empty
        rw [List.filterMap_cons_some kept, List.map_cons,
          List.filter_cons_of_pos (by simpa using empty), inductionHypothesis]

/-- A success holds one list of proxies, directly and with a proxy in it. -/
structure ListsProxies (success proxies : Element) : Prop where
  only : success.descendantsNamed "proxies" = [proxies]
  direct : proxies ∈ success.children
  some : hops proxies ≠ []

/-- The chain holds the proxies that have a text, in order. -/
theorem ListsProxies.proxyChain_eq {success proxies : Element}
    (lists : ListsProxies success proxies) : proxyChain success = namedHops proxies := by
  have found : success.descendant? "proxies" = Option.some proxies := by
    rw [Element.descendant?_eq_head?, lists.only]
    rfl
  rw [proxyChain, found, namedHops, hops]
  exact filterMap_nonemptyText? _

/-- Nothing is left out of a list in which every proxy has a text. -/
theorem namedHops_eq_hops {proxies : Element} (named : "" ∉ hops proxies) :
    namedHops proxies = hops proxies := by
  refine List.filter_eq_self.2 fun hop member => ?_
  have nonempty : hop ≠ "" := fun empty => named (empty ▸ member)
  simpa using nonempty

end SignOn.ServiceResponse

namespace SignOn.Validator

open SignOn.Markup SignOn.ServiceResponse SignOn.Text

/-- An answer with a status of success holds a success without a failure, and with a list of proxies. -/
structure Proxied (validator : Validator) (delivery : Delivery) (root success proxies : Element) :
    Prop where
  answered : ∃ answer, delivery.outcome = .ok answer ∧ 200 ≤ answer.status ∧
    answer.status < 300 ∧ Element.parse (validator.charset.decodeBody answer.body).result = .ok root
  unrejected : root.descendant? "authenticationFailure" = none
  succeeded : root.descendant? "authenticationSuccess" = some success
  lists : ListsProxies success proxies

/-- Nothing but the chain of proxies stands in the way of a success. -/
structure Reaches (validator : Validator) (delivery : Delivery) (root success : Element)
    (ticket service : String) : Prop where
  spokenTicket : isBlankText ticket = false
  spokenService : isBlankText service = false
  inTime : delivery.delay.nanos ≤ validator.config.timeout.nanos
  kind : root.name = "serviceResponse"
  named : userOf? success ≠ none

variable {validator : Validator} {delivery : Delivery} {now : Instant}
  {root success proxies : Element} {ticket service : String}

/-- What is read from an answer with a list of proxies is about those that have a text. -/
theorem Proxied.exists_reply_iff (proxied : Proxied validator delivery root success proxies)
    (supported : validator.dialect.protocol.supportsProxying = true) (trusted : ProxyChain → Prop) :
    (∃ reply, validator.replyOf delivery now = .ok reply ∧ trusted reply.proxies) ↔
      delivery.delay.nanos ≤ validator.config.timeout.nanos ∧ root.name = "serviceResponse" ∧
        userOf? success ≠ none ∧ trusted (namedHops proxies) := by
  obtain ⟨answer, arrived, atLeast, below, parsed⟩ := proxied.answered
  obtain ⟨attributesOf, reads⟩ := read_of_supportsProxying supported
  have chain := proxied.lists.proxyChain_eq
  have readings (reply : Reply) : validator.reading answer now = .ok reply ↔
      root.name = "serviceResponse" ∧ ∃ user, userOf? success = some user ∧
        reply = ⟨.openEnded ⟨user, attributesOf success, none⟩ now, iouOf? success,
          namedHops proxies⟩ := by
    rw [reading, reads, read_of_parse parsed, readRoot_eq_ok_iff, ← chain]
    simp [proxied.unrejected, proxied.succeeded]
  by_cases late : validator.config.timeout.nanos < delivery.delay.nanos
  · simp [replyOf, accept_of_late validator delivery late, Nat.not_le.2 late]
  · rw [replyOf, accept_of_answer validator delivery late arrived, if_pos ⟨atLeast, below⟩]
    simp only [readings]
    constructor
    · rintro ⟨reply, ⟨kind, user, named, rfl⟩, trusts⟩
      exact ⟨Nat.not_lt.1 late, kind, by simp [named], trusts⟩
    · rintro ⟨_, kind, named, trusts⟩
      obtain ⟨user, found⟩ := Option.ne_none_iff_exists'.1 named
      exact ⟨_, ⟨kind, user, found, rfl⟩, trusts⟩

/-- A ticket is accepted when the proxies that have a text are none or form an allowed chain. -/
theorem accepts_iff_namedHops_allowed (validator : Validator) (transport : Transport)
    (randomBits : BitVec 128) (now : Instant) (uptime : Span) (store : Option GrantStore)
    (ticket service : String) (root success proxies : Element)
    (supported : validator.dialect.protocol.supportsProxying = true)
    (strict : validator.config.acceptsAnyProxy = false)
    (proxied : Proxied validator (validator.exchange transport randomBits now ticket service) root
      success proxies) :
    let accepted := ∃ assertion, ((validator.equipped store).validate transport randomBits now
      uptime store ticket service).result.1 = .ok assertion
    let reaches := Reaches validator
      (validator.exchange transport randomBits now ticket service) root success ticket service
    let allowed := validator.config.allowedChains.chains
    (accepted ↔ reaches ∧ (namedHops proxies = [] ∨ namedHops proxies ∈ allowed)) ∧
      (accepted ∧ hops proxies ∉ allowed ↔
        reaches ∧ "" ∈ hops proxies ∧ (namedHops proxies = [] ∨ namedHops proxies ∈ allowed) ∧
          hops proxies ∉ allowed) := by
  intro accepted reaches allowed
  have accepts : accepted ↔
      reaches ∧ (namedHops proxies = [] ∨ namedHops proxies ∈ allowed) := by
    have authorizes (chain : ProxyChain) : validator.config.policy.authorizes chain = true ↔
        chain = [] ∨ chain ∈ allowed :=
      ProxyPolicy.authorizes_iff_of_strict validator.config.policy strict chain
    refine (validator.validate_ok_iff transport randomBits now uptime store ticket service).trans ?_
    simp only [authorizes]
    rw [proxied.exists_reply_iff supported fun chain => chain = [] ∨ chain ∈ allowed]
    constructor
    · rintro ⟨spokenTicket, spokenService, inTime, kind, named, trusted⟩
      exact ⟨⟨spokenTicket, spokenService, inTime, kind, named⟩, trusted⟩
    · rintro ⟨⟨spokenTicket, spokenService, inTime, kind, named⟩, trusted⟩
      exact ⟨spokenTicket, spokenService, inTime, kind, named, trusted⟩
  refine ⟨accepts, ?_⟩
  rw [accepts]
  constructor
  · rintro ⟨⟨reached, trusted⟩, foreign⟩
    refine ⟨reached, ?_, trusted, foreign⟩
    by_contra named
    rw [namedHops_eq_hops named] at trusted
    exact trusted.elim proxied.lists.some foreign
  · rintro ⟨reached, -, trusted, foreign⟩
    exact ⟨⟨reached, trusted⟩, foreign⟩

/-- A success for one user whose ticket came through one proxy. -/
def successVia (text : String) : Element :=
  ⟨"authenticationSuccess", none, [], [letter "user" "al", oneHop text], ""⟩

/-- An answer about a ticket that came through one proxy. -/
def rootVia (text : String) : Element := ⟨"serviceResponse", none, [], [successVia text], ""⟩

/-- The text of an answer about a ticket that came through one proxy. -/
def answerVia (text : String) : String :=
  answerWith ("<user>al</user><proxies><proxy>" ++ text ++ "</proxy></proxies>")

/-- An answer about a ticket that came through one proxy lists that proxy. -/
theorem proxied_of_oneHop {validator : Validator} (charset : validator.charset = .utf8)
    {text : String} (request : Request)
    (parsed : Element.parse (answerVia text) = .ok (rootVia text)) :
    Proxied validator (answering (answerVia text) request) (rootVia text) (successVia text)
      (oneHop text) where
  answered := by
    refine ⟨_, rfl, (by decide : 200 ≤ 200), (by decide : 200 < 300), ?_⟩
    have opens : (answerVia text).toList.head? = some '<' := head?_answerWith _
    simp only [charset, Charset.decodeBody_encode opens, parsed]
  unrejected := by
    simp [rootVia, successVia, oneHop, letter, Element.descendant?_eq, Element.firstAmong?_cons]
  succeeded := by
    simp [rootVia, successVia, Element.descendant?_eq, Element.firstAmong?_cons]
  lists := {
    only := by
      simp [successVia, oneHop, letter, Element.descendantsNamed_eq_filter, Element.descendants_eq,
        Element.withDescendants_cons]
    direct := by simp [successVia]
    some := by simp [hops, oneHop, letter, Element.childrenNamed]
  }

/-- The one proxy of a ticket is the whole chain when it has a text. -/
theorem accepts_iff_namedHops_allowed_via_one :
    let validator := allowing [["a"]]
    let delivery := validator.exchange (answering (answerVia "a")) 0 default "ST-1" "https://app"
    validator.dialect.protocol.supportsProxying = true ∧
      validator.config.acceptsAnyProxy = false ∧
      Proxied validator delivery (rootVia "a") (successVia "a") (oneHop "a") ∧
      ((∃ assertion, ((validator.equipped none).validate (answering (answerVia "a")) 0 default ⟨0⟩
          none "ST-1" "https://app").result.1 = .ok assertion) ↔
        Reaches validator delivery (rootVia "a") (successVia "a") "ST-1" "https://app" ∧
          (namedHops (oneHop "a") = [] ∨ namedHops (oneHop "a") ∈ [["a"]])) := by
  have parsed : Element.parse (answerVia "a") = .ok (rootVia "a") := by
    rw [Element.parse, answerVia, toList_answerWith]
    decide +kernel
  have proxied : Proxied (allowing [["a"]])
      ((allowing [["a"]]).exchange (answering (answerVia "a")) 0 default "ST-1" "https://app")
      (rootVia "a") (successVia "a") (oneHop "a") := proxied_of_oneHop rfl _ parsed
  exact ⟨rfl, rfl, proxied,
    (accepts_iff_namedHops_allowed (allowing [["a"]]) (answering (answerVia "a")) 0 default ⟨0⟩ none
      "ST-1" "https://app" (rootVia "a") (successVia "a") (oneHop "a") rfl rfl proxied).1⟩

/-- A ticket that came through one proxy without a text is accepted where no chain is allowed. -/
theorem blank_hop_escapes_policy :
    let validator := allowing []
    let delivery := validator.exchange (answering (answerVia "")) 0 default "ST-1" "https://app"
    validator.dialect.protocol.supportsProxying = true ∧
      validator.config.acceptsAnyProxy = false ∧
      Proxied validator delivery (rootVia "") (successVia "") (oneHop "") ∧
      hops (oneHop "") = [""] ∧ [""] ∉ validator.config.allowedChains.chains ∧
      ∃ assertion, ((validator.equipped none).validate (answering (answerVia "")) 0 default ⟨0⟩
        none "ST-1" "https://app").result.1 = .ok assertion := by
  have parsed : Element.parse (answerVia "") = .ok (rootVia "") := by
    rw [Element.parse, answerVia, toList_answerWith]
    decide +kernel
  have proxied : Proxied (allowing [])
      ((allowing []).exchange (answering (answerVia "")) 0 default "ST-1" "https://app")
      (rootVia "") (successVia "") (oneHop "") := proxied_of_oneHop rfl _ parsed
  have named : userOf? (successVia "") = some "al" := by
    simp [userOf?, successVia, letter, Element.descendant?_eq, Element.firstAmong?_cons,
      nonemptyText?]
    decide
  refine ⟨rfl, rfl, proxied, rfl, List.not_mem_nil, ?_⟩
  refine (validate_ok_iff _ _ _ _ _ _ _ _).2 ⟨by decide, by decide, ?_⟩
  refine (proxied.exists_reply_iff rfl fun chain =>
    (allowing []).config.policy.authorizes chain = true).2 ⟨Nat.zero_le _, rfl, ?_, rfl⟩
  simp [named]

end SignOn.Validator
