import SignOn.Dialect
import SignOn.Proofs.Markup.Search
import SignOn.Proofs.Text.Blank

/-
This file shows what is read from an answer of protocol version 2 or 3.
-/

namespace SignOn

/-- A name without blanks around it can name a principal. -/
theorem Principal.create_of_trimmed {name : String} (trimmed : Text.trim name = name)
    (nonempty : name ≠ "") (attributes : AttributeBag) :
    create name attributes = .ok ⟨name, attributes, none⟩ := by
  refine if_neg fun blank => nonempty ?_
  rw [← trimmed]
  exact (Text.trim_eq_empty_iff name).2 blank

namespace ServiceResponse

open SignOn.Markup SignOn.Text

/-- The user is the first one inside a success, unless that one has no name. -/
def userOf? (success : Element) : Option String :=
  (success.descendant? "user").bind nonemptyText?

/-- The reference to a granting ticket is the first one inside a success, unless it is empty. -/
def iouOf? (success : Element) : Option String :=
  (success.descendant? "proxyGrantingTicket").bind nonemptyText?

theorem nonemptyText?_eq_some_iff (element : Element) (text : String) :
    nonemptyText? element = some text ↔ element.text = text ∧ text ≠ "" := by
  rw [nonemptyText?]
  split
  · rename_i empty
    constructor
    · intro absent
      cases absent
    · rintro ⟨same, nonempty⟩
      exact absurd (same.symm.trans empty) nonempty
  · rename_i nonempty
    rw [Option.some.injEq]
    exact ⟨fun same => ⟨same, same ▸ nonempty⟩, And.left⟩

/-- A text that counts has lost the blanks around it, and something is left. -/
theorem trim_of_nonemptyText? {element : Element} {text : String}
    (found : nonemptyText? element = some text) : trim text = text ∧ text ≠ "" := by
  obtain ⟨rfl, nonempty⟩ := (nonemptyText?_eq_some_iff element text).1 found
  exact ⟨trim_trim _, nonempty⟩

/-- A text that was found without blanks around it can name a principal. -/
theorem create_of_nonemptyText? {element : Element} {text : String}
    (found : nonemptyText? element = some text) (attributes : AttributeBag) :
    Principal.create text attributes = .ok ⟨text, attributes, none⟩ := by
  obtain ⟨trimmed, nonempty⟩ := trim_of_nonemptyText? found
  exact Principal.create_of_trimmed trimmed nonempty attributes

/-- A success is read unless its user is missing. -/
theorem readSuccess_eq (attributesOf : Element → AttributeBag) (success : Element)
    (now : Instant) :
    readSuccess attributesOf success now =
      match userOf? success with
      | none => .error .noPrincipal
      | some user =>
        .ok ⟨.openEnded ⟨user, attributesOf success, none⟩ now, iouOf? success,
          proxyChain success⟩ := by
  rw [readSuccess, userOf?]
  cases search : success.descendant? "user" with
  | none => rfl
  | some element =>
      rw [Option.bind_some]
      cases found : nonemptyText? element with
      | none => rfl
      | some user =>
          simp only [create_of_nonemptyText? found]
          rfl

/-- A reply needs an answer of the right kind without a failure, and a success with a user. -/
theorem readRoot_eq_ok_iff (attributesOf : Element → AttributeBag) (root : Element)
    (now : Instant) (reply : Reply) :
    readRoot attributesOf root now = .ok reply ↔
      root.name = "serviceResponse" ∧ root.descendant? "authenticationFailure" = none ∧
        ∃ success, root.descendant? "authenticationSuccess" = some success ∧
          ∃ user, userOf? success = some user ∧
            reply = ⟨.openEnded ⟨user, attributesOf success, none⟩ now, iouOf? success,
              proxyChain success⟩ := by
  rw [readRoot]
  by_cases kind : root.name = "serviceResponse"
  · rw [if_pos kind]
    cases root.descendant? "authenticationFailure" with
    | some failure => simp
    | none =>
        cases root.descendant? "authenticationSuccess" with
        | none => simp
        | some success =>
            simp only [readSuccess_eq]
            cases named : userOf? success with
            | none => simp [named]
            | some user => simp [kind, named, eq_comm (a := reply)]
  · rw [if_neg kind]
    simp [kind]

/-- Both versions that support proxying read answers of this kind. -/
theorem read_of_supportsProxying {dialect : Dialect}
    (supported : dialect.protocol.supportsProxying = true) :
    ∃ attributesOf, ∀ body now, (dialect.read body now).result = read attributesOf body now := by
  cases dialect with
  | cas10 endpoint => simp [Dialect.protocol, Protocol.supportsProxying] at supported
  | cas20 endpoint expectsProxies => exact ⟨blockAttributes, fun _ _ => rfl⟩
  | cas30 endpoint expectsProxies => exact ⟨inlineOrBlockAttributes, fun _ _ => rfl⟩
  | saml11 endpoint tolerance identifiers =>
      simp [Dialect.protocol, Protocol.supportsProxying] at supported

theorem read_of_parse {document : String} {root : Element}
    (parsed : Element.parse document = .ok root) (attributesOf : Element → AttributeBag)
    (now : Instant) : read attributesOf document now = readRoot attributesOf root now := by
  rw [read, parsed]

/-- An element that holds a text and nothing else. -/
def letter (name text : String) : Element := ⟨name, none, [], [], text⟩

/-- A list of one proxy with a text. -/
def oneHop (text : String) : Element := ⟨"proxies", none, [], [letter "proxy" text], ""⟩

/-- An answer that holds one success and nothing else. -/
def answerWith (inside : String) : String :=
  "<serviceResponse><authenticationSuccess>" ++ inside ++
    "</authenticationSuccess></serviceResponse>"

/-- The same tags stand around whatever is inside of an answer. -/
theorem toList_answerWith (inside : String) :
    (answerWith inside).toList = "<serviceResponse><authenticationSuccess>".toList ++
      inside.toList ++ "</authenticationSuccess></serviceResponse>".toList := by
  have parts : answerWith inside = "<serviceResponse><authenticationSuccess>" ++ inside ++
      "</authenticationSuccess></serviceResponse>" := rfl
  rw [parts, String.toList_append, String.toList_append]

/-- An answer begins with an opening mark. -/
theorem head?_answerWith (inside : String) : (answerWith inside).toList.head? = some '<' := by
  have opens : "<serviceResponse><authenticationSuccess>".toList =
      '<' :: "serviceResponse><authenticationSuccess>".toList := by decide
  rw [toList_answerWith, opens, List.append_assoc, List.cons_append, List.head?_cons]

end ServiceResponse

end SignOn
