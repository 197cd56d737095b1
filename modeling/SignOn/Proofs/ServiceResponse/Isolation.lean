import SignOn.Proofs.Markup.Frame
import SignOn.Proofs.ServiceResponse.Reading

/-
This file compares two answers that differ only in the elements of an attributes block. What is
read besides the attributes is the same exactly when the user, the reference to the granting ticket
and the list of proxies open before the block, or when both blocks lead to the same findings.
-/

namespace SignOn

/-- What is left of a reply when the attributes of its principal are not looked at. -/
def Reply.withoutAttributes (reply : Reply) : Reply :=
  { reply with
    assertion :=
      { reply.assertion with
        principal := { reply.assertion.principal with attributes := NameMap.empty } } }

namespace ServiceResponse

open SignOn.Markup

/-- An attributes block stands directly inside a success, which can be anywhere in the answer. -/
structure BlockPlace where
  frames : List Frame
  block : Element
  isBlock : block.name = "attributes"
  insideSuccess : (frames.getLast?.map Frame.name) = some "authenticationSuccess"

def BlockPlace.document (place : BlockPlace) (content : List Element) : Element :=
  enclose place.frames (place.block.withChildren content)

/-- What counts of the first failure. -/
def refusal? (failure : Option Element) : Option (Option String × String) :=
  failure.map fun element => (element.attribute? "code", element.text)

/-- What counts of the first user or reference. -/
def spoken? (element : Option Element) : Option String := element.bind nonemptyText?

/-- What counts of the first list of proxies. -/
def chainOf (proxies : Option Element) : ProxyChain :=
  match proxies with
  | none => []
  | some element => (element.childrenNamed "proxy").filterMap nonemptyText?

/-- An observation is shallow when it looks at an element and its children and no further. -/
def Shallow {Finding : Type} (observe : Option Element → Finding) : Prop :=
  ∀ element, observe (element.map Element.outline) = observe element

/-- A failure is read from its own attribute and text. -/
theorem shallow_refusal? : Shallow refusal? := by
  intro element
  cases element <;> rfl

/-- A user and a reference are read from their own text. -/
theorem shallow_spoken? : Shallow spoken? := by
  intro element
  cases element <;> rfl

/-- What an element says does not depend on its children. -/
theorem nonemptyText?_bare (element : Element) :
    nonemptyText? element.bare = nonemptyText? element := by
  have sameText : element.bare.text = element.text := by
    rw [Element.text, Element.text]
    rfl
  rw [nonemptyText?, nonemptyText?, sameText]

/-- A chain is read from the list and its proxies. -/
theorem shallow_chainOf : Shallow chainOf := by
  intro element
  cases element with
  | none => rfl
  | some proxies =>
      have blind : nonemptyText? ∘ Element.bare = nonemptyText? := by
        funext element
        rw [Function.comp_apply, nonemptyText?_bare]
      have named : ((·.name == "proxy") ∘ Element.bare : Element → Bool) = (·.name == "proxy") :=
        rfl
      simp only [Option.map_some, chainOf, Element.childrenNamed, Element.outline,
        Element.withChildren, List.filter_map, List.filterMap_map, blind, named]

/-- A finding is settled when it opens before the block or when both contents lead to the same. -/
def Settled {Finding : Type} (place : BlockPlace) (within : List Frame) (name : String)
    (observe : Option Element → Finding) (first second : List Element) : Prop :=
  (opened? within place.block name).isSome = true ∨
    observe (Element.firstAmong? (first ++ following within) name) =
      observe (Element.firstAmong? (second ++ following within) name)

/--
Two contents of a block are isolated from the rest when they lead to the same user and, if there is
one, to the same reference and the same proxies. This matters only for an answer of the right kind
without a failure, and only when the success that is read has the block inside.
-/
def BlockPlace.Isolated (place : BlockPlace) (first second : List Element) : Prop :=
  (place.document []).name = "serviceResponse" →
    (place.document []).descendant? "authenticationFailure" = none →
      ∀ within, innerFrames? place.frames "authenticationSuccess" = some within →
        Settled place within "user" spoken? first second ∧
          (userOf? (enclose within (place.block.withChildren first)) ≠ none →
            Settled place within "proxyGrantingTicket" spoken? first second ∧
              Settled place within "proxies" chainOf first second)

/-- The content of the block decides only a search that nothing before the block has ended. -/
theorem observe_descendant?_enclose {Finding : Type} {observe : Option Element → Finding}
    (shallow : Shallow observe) (frames : List Frame) (block : Element) {name : String}
    (other : block.name ≠ name) (content : List Element) :
    observe ((enclose frames (block.withChildren content)).descendant? name) =
      observe ((opened? frames block name).or
        (Element.firstAmong? (content ++ following frames) name)) := by
  have alike := outline_opened? frames block other content block.children
  rw [Element.withChildren_children] at alike
  rw [descendant?_enclose]
  cases found : opened? frames (block.withChildren content) name with
  | none =>
      rw [found, Option.map_none, eq_comm, Option.map_eq_none_iff] at alike
      rw [alike]
      rfl
  | some element =>
      cases expected : opened? frames block name with
      | none => simp [found, expected] at alike
      | some other =>
          rw [found, expected] at alike
          rw [Option.some_or, Option.some_or, ← shallow (some element), alike, shallow]

/-- Two contents of a block lead to one finding exactly when it is settled. -/
theorem observe_eq_iff_settled {Finding : Type} {observe : Option Element → Finding}
    (shallow : Shallow observe) (place : BlockPlace) (within : List Frame) {name : String}
    (other : name ≠ "attributes") (first second : List Element) :
    observe ((enclose within (place.block.withChildren first)).descendant? name) =
        observe ((enclose within (place.block.withChildren second)).descendant? name) ↔
      Settled place within name observe first second := by
  have different : place.block.name ≠ name := by
    rw [place.isBlock]
    exact other.symm
  rw [observe_descendant?_enclose shallow within place.block different first,
    observe_descendant?_enclose shallow within place.block different second, Settled]
  cases opened? within place.block name <;> simp

/-- The reader of attributes does not matter to the rest of a reply. -/
theorem readRoot_withoutAttributes (attributesOf : Element → AttributeBag) (root : Element)
    (now : Instant) :
    (readRoot attributesOf root now).map Reply.withoutAttributes =
      readRoot (fun _ => NameMap.empty) root now := by
  rw [readRoot, readRoot]
  split
  · cases root.descendant? "authenticationFailure" with
    | some failure => rfl
    | none =>
        cases root.descendant? "authenticationSuccess" with
        | none => rfl
        | some success =>
            simp only [readSuccess_eq]
            cases userOf? success <;> rfl
  · rfl

/-- Both contents leave the same first failure to be found, if neither has one of its own. -/
theorem refusal?_document (place : BlockPlace) {content : List Element}
    (harmless : Element.firstAmong? content "authenticationFailure" = none) :
    refusal? ((place.document content).descendant? "authenticationFailure") =
      refusal? ((place.document []).descendant? "authenticationFailure") := by
  have different : place.block.name ≠ "authenticationFailure" := by
    rw [place.isBlock]
    decide
  rw [BlockPlace.document, BlockPlace.document,
    observe_descendant?_enclose shallow_refusal? place.frames place.block different content,
    observe_descendant?_enclose shallow_refusal? place.frames place.block different [],
    Element.firstAmong?_append, harmless, Option.none_or, List.nil_append]

theorem userOf?_eq (success : Element) : userOf? success = spoken? (success.descendant? "user") :=
  rfl

theorem iouOf?_eq (success : Element) :
    iouOf? success = spoken? (success.descendant? "proxyGrantingTicket") := rfl

theorem proxyChain_eq (success : Element) :
    proxyChain success = chainOf (success.descendant? "proxies") := rfl

/-- Two successes are read alike when they agree in the user and, if there is one, in the rest. -/
theorem readSuccess_eq_iff (first second : Element) (now : Instant) :
    readSuccess (fun _ => NameMap.empty) first now =
        readSuccess (fun _ => NameMap.empty) second now ↔
      userOf? first = userOf? second ∧
        (userOf? first ≠ none →
          iouOf? first = iouOf? second ∧ proxyChain first = proxyChain second) := by
  rw [readSuccess_eq, readSuccess_eq]
  cases userOf? first with
  | none => cases userOf? second <;> simp
  | some user =>
      cases userOf? second with
      | none => simp
      | some other => simp [Assertion.openEnded]

/--
Two contents of a block lead to one reading of the success exactly when they name the same user and, if
there is one, lead to the same reference and proxies.
-/
theorem readSuccess_enclose_eq_iff (place : BlockPlace) (within : List Frame)
    (first second : List Element) (now : Instant) :
    readSuccess (fun _ => NameMap.empty) (enclose within (place.block.withChildren first)) now =
        readSuccess (fun _ => NameMap.empty) (enclose within (place.block.withChildren second))
          now ↔
      Settled place within "user" spoken? first second ∧
        (userOf? (enclose within (place.block.withChildren first)) ≠ none →
          Settled place within "proxyGrantingTicket" spoken? first second ∧
            Settled place within "proxies" chainOf first second) := by
  rw [readSuccess_eq_iff, userOf?_eq, userOf?_eq, iouOf?_eq, iouOf?_eq, proxyChain_eq,
    proxyChain_eq, observe_eq_iff_settled shallow_spoken? place within (by decide),
    observe_eq_iff_settled shallow_spoken? place within (by decide),
    observe_eq_iff_settled shallow_chainOf place within (by decide)]

/-- A success is found in the document, because the block stands inside of one. -/
theorem isSome_opened?_success (place : BlockPlace) (content : List Element)
    (kind : (place.document content).name = "serviceResponse") (element : Element) :
    (opened? place.frames element "authenticationSuccess").isSome = true := by
  have inside := place.insideSuccess
  rw [Option.map_eq_some_iff] at inside
  obtain ⟨success, last, named⟩ := inside
  rw [← named]
  apply isSome_opened?
  cases frames : place.frames with
  | nil => simp [frames] at last
  | cons outer inner =>
      rw [frames] at last
      cases inner with
      | nil =>
          have root : (place.document content).name = success.name := by
            rw [BlockPlace.document, frames, ← Option.some.inj last]
            rfl
          rw [root, named] at kind
          exact absurd kind (by decide)
      | cons next deeper =>
          rw [List.getLast?_cons_cons] at last
          exact List.mem_of_getLast? last

/-- An answer with a failure is read as that failure. -/
theorem readRoot_of_refused {attributesOf : Element → AttributeBag} {root : Element}
    {now : Instant} {code : Option String} {detail : String} (kind : root.name = "serviceResponse")
    (refused : refusal? (root.descendant? "authenticationFailure") = some (code, detail)) :
    readRoot attributesOf root now = .error (.serverRejected code detail) := by
  obtain ⟨failure, found, said⟩ := Option.map_eq_some_iff.1 refused
  cases said
  rw [readRoot, if_pos kind, found]

/-- An answer without a failure is read as its first success. -/
theorem readRoot_of_unrefused {attributesOf : Element → AttributeBag} {root : Element}
    {now : Instant} (kind : root.name = "serviceResponse")
    (unrefused : refusal? (root.descendant? "authenticationFailure") = none) :
    readRoot attributesOf root now =
      match root.descendant? "authenticationSuccess" with
      | none => .error (.protocolViolation .noOutcome)
      | some success => readSuccess attributesOf success now := by
  have absent := Option.map_eq_none_iff.1 unrefused
  cases found : root.descendant? "authenticationSuccess" with
  | none => simp only [readRoot, if_pos kind, absent, found]
  | some success => simp only [readRoot, if_pos kind, absent, found]

/-- The success that is found stands in the frames, whatever the block holds. -/
theorem descendant?_success (place : BlockPlace) (content : List Element)
    (kind : (place.document content).name = "serviceResponse") :
    (place.document content).descendant? "authenticationSuccess" =
      opened? place.frames (place.block.withChildren content) "authenticationSuccess" := by
  have opens := isSome_opened?_success place content kind (place.block.withChildren content)
  rw [BlockPlace.document, descendant?_enclose]
  exact Option.or_of_isSome opens

/-- What is read of two answers besides attributes agrees exactly when the contents are isolated. -/
theorem readRoot_eq_iff_isolated (place : BlockPlace) (now : Instant) {first second : List Element}
    (firstHarmless : Element.firstAmong? first "authenticationFailure" = none)
    (secondHarmless : Element.firstAmong? second "authenticationFailure" = none) :
    readRoot (fun _ => NameMap.empty) (place.document first) now =
        readRoot (fun _ => NameMap.empty) (place.document second) now ↔
      place.Isolated first second := by
  have firstName : (place.document first).name = (place.document []).name :=
    name_enclose place.frames place.block first []
  have secondName : (place.document second).name = (place.document []).name :=
    name_enclose place.frames place.block second []
  have firstRefusal := refusal?_document place firstHarmless
  have secondRefusal := refusal?_document place secondHarmless
  rw [BlockPlace.Isolated]
  by_cases kind : (place.document []).name = "serviceResponse"
  · have firstKind := firstName.trans kind
    have secondKind := secondName.trans kind
    cases refused : (place.document []).descendant? "authenticationFailure" with
    | some failure =>
        rw [refused] at firstRefusal secondRefusal
        rw [readRoot_of_refused firstKind firstRefusal,
          readRoot_of_refused secondKind secondRefusal]
        simp
    | none =>
        rw [refused] at firstRefusal secondRefusal
        rw [readRoot_of_unrefused firstKind firstRefusal,
          readRoot_of_unrefused secondKind secondRefusal,
          descendant?_success place first firstKind, descendant?_success place second secondKind]
        cases reached : innerFrames? place.frames "authenticationSuccess" with
        | none =>
            have different : place.block.name ≠ "authenticationSuccess" := by
              rw [place.isBlock]
              decide
            simp [opened?_of_not_reached reached different first second]
        | some within =>
            rw [opened?_of_innerFrames? reached, opened?_of_innerFrames? reached]
            simp [readSuccess_enclose_eq_iff, kind]
  · rw [readRoot, readRoot, if_neg (firstName ▸ kind), if_neg (secondName ▸ kind), firstName,
      secondName]
    simp [kind]

/--
A block is shielded when the user opens before it and, if that one has a name, the reference and the
proxies do so as well.
-/
def BlockPlace.Shielded (place : BlockPlace) : Prop :=
  (place.document []).name = "serviceResponse" →
    (place.document []).descendant? "authenticationFailure" = none →
      ∀ within, innerFrames? place.frames "authenticationSuccess" = some within →
        (opened? within place.block "user").isSome = true ∧
          (userOf? (enclose within (place.block.withChildren [])) ≠ none →
            (opened? within place.block "proxyGrantingTicket").isSome = true ∧
              (opened? within place.block "proxies").isSome = true)

/-- Once the user has opened, the content of the block has no say in it. -/
theorem userOf?_enclose_of_opened {place : BlockPlace} {within : List Frame}
    (opened : (opened? within place.block "user").isSome = true) (first second : List Element) :
    userOf? (enclose within (place.block.withChildren first)) =
      userOf? (enclose within (place.block.withChildren second)) := by
  rw [userOf?_eq, userOf?_eq,
    observe_eq_iff_settled shallow_spoken? place within (by decide) first second]
  exact Or.inl opened

/-- A search that is settled for two different first elements is settled before the block. -/
theorem opened_of_settled {Finding : Type} {place : BlockPlace} {within : List Frame}
    {name : String} (observe : Option Element → Finding) (first second : Element)
    (firstNamed : first.name = name) (secondNamed : second.name = name)
    (different : observe (some first) ≠ observe (some second))
    (settled : Settled place within name observe [first] [second]) :
    (opened? within place.block name).isSome = true := by
  refine settled.resolve_right fun same => different ?_
  simpa [Element.firstAmong?_cons, firstNamed, secondNamed] using same

/-- An element that is no failure is harmless when its children are. -/
theorem firstAmong?_harmless {name : String} (other : name ≠ "authenticationFailure")
    {children : List Element}
    (inside : Element.firstAmong? children "authenticationFailure" = none) (text : String) :
    Element.firstAmong? [(⟨name, none, [], children, text⟩ : Element)] "authenticationFailure" =
      none := by
  simp [Element.firstAmong?_cons, Element.descendant?_eq, other, inside]

/-- A block that is isolated whatever it holds has everything that counts before it. -/
theorem shielded_of_forall_isolated {place : BlockPlace}
    (isolated : ∀ first second, Element.firstAmong? first "authenticationFailure" = none →
      Element.firstAmong? second "authenticationFailure" = none → place.Isolated first second) :
    place.Shielded := by
  intro kind accepted within reached
  have harmless {name : String} (other : name ≠ "authenticationFailure") (text : String) :
      Element.firstAmong? [letter name text] "authenticationFailure" = none :=
    firstAmong?_harmless other (Element.firstAmong?_nil _) text
  have listHarmless (text : String) :
      Element.firstAmong? [oneHop text] "authenticationFailure" = none :=
    firstAmong?_harmless (by decide) (harmless (by decide) text) ""
  have userOpened : (opened? within place.block "user").isSome = true := by
    refine opened_of_settled spoken? (letter "user" "a") (letter "user" "b") rfl rfl
      (by decide) ?_
    exact (isolated _ _ (harmless (by decide) "a") (harmless (by decide) "b") kind accepted within
      reached).1
  refine ⟨userOpened, fun named => ⟨?reference, ?proxies⟩⟩
  case reference =>
    refine opened_of_settled spoken? (letter "proxyGrantingTicket" "a")
      (letter "proxyGrantingTicket" "b") rfl rfl (by decide) ?_
    refine ((isolated _ _ (harmless (by decide) "a") (harmless (by decide) "b") kind accepted within
      reached).2 ?_).1
    rw [userOf?_enclose_of_opened userOpened _ []]
    exact named
  case proxies =>
    have different : chainOf (some (oneHop "a")) ≠ chainOf (some (oneHop "b")) := by
      change ["a"] ≠ ["b"]
      decide
    refine opened_of_settled chainOf (oneHop "a") (oneHop "b") rfl rfl different ?_
    refine ((isolated _ _ (listHarmless "a") (listHarmless "b") kind accepted within
      reached).2 ?_).2
    rw [userOf?_enclose_of_opened userOpened _ []]
    exact named

/-- A block is isolated from the rest of the answer, whatever it holds, exactly when it is shielded. -/
theorem forall_isolated_iff_shielded (place : BlockPlace) :
    (∀ first second, Element.firstAmong? first "authenticationFailure" = none →
      Element.firstAmong? second "authenticationFailure" = none →
        place.Isolated first second) ↔ place.Shielded := by
  constructor
  · exact shielded_of_forall_isolated
  · intro shielded first second _ _ kind accepted within reached
    obtain ⟨userOpened, rest⟩ := shielded kind accepted within reached
    refine ⟨Or.inl userOpened, fun named => ?_⟩
    rw [userOf?_enclose_of_opened userOpened first []] at named
    exact ⟨Or.inl (rest named).1, Or.inl (rest named).2⟩

/--
Two answers that differ only in the elements of an attributes block are read alike, apart from the
attributes, exactly when the contents of the block are isolated. That is so for all contents
exactly when the block is shielded.
-/
theorem read_eq_iff_isolated {dialect : Dialect}
    (supported : dialect.protocol.supportsProxying = true) (now : Instant) (place : BlockPlace) :
    (∀ first second firstBody secondBody,
      Element.firstAmong? first "authenticationFailure" = none →
      Element.firstAmong? second "authenticationFailure" = none →
      Element.parse firstBody = .ok (place.document first) →
      Element.parse secondBody = .ok (place.document second) →
        ((dialect.read firstBody now).result.map Reply.withoutAttributes =
            (dialect.read secondBody now).result.map Reply.withoutAttributes ↔
          place.Isolated first second)) ∧
      ((∀ first second, Element.firstAmong? first "authenticationFailure" = none →
        Element.firstAmong? second "authenticationFailure" = none →
          place.Isolated first second) ↔ place.Shielded) := by
  obtain ⟨attributesOf, reads⟩ := read_of_supportsProxying supported
  refine ⟨?_, forall_isolated_iff_shielded place⟩
  intro first second firstBody secondBody firstHarmless secondHarmless firstParsed secondParsed
  rw [reads, reads, read_of_parse firstParsed, read_of_parse secondParsed,
    readRoot_withoutAttributes, readRoot_withoutAttributes]
  exact readRoot_eq_iff_isolated place now firstHarmless secondHarmless

/-- A success with an attributes block between other elements. -/
def placeBetween (before after : List Element) : BlockPlace where
  frames :=
    [⟨"serviceResponse", none, [], [], [], ""⟩,
      ⟨"authenticationSuccess", none, [], before, after, ""⟩]
  block := letter "attributes" ""
  isBlock := rfl
  insideSuccess := rfl

/-- Behind the user an attribute that is called like it changes nothing but the attributes. -/
theorem read_eq_iff_isolated_behind_user :
    (Dialect.cas20 (Endpoint.ofServer "https://cas.example.com") false).protocol.supportsProxying =
        true ∧
      Element.firstAmong? [letter "user" "eve"] "authenticationFailure" = none ∧
      Element.firstAmong? [] "authenticationFailure" = none ∧
      Element.parse (answerWith "<user>al</user><attributes><user>eve</user></attributes>") =
        .ok ((placeBetween [letter "user" "al"] []).document [letter "user" "eve"]) ∧
      Element.parse (answerWith "<user>al</user><attributes/>") =
        .ok ((placeBetween [letter "user" "al"] []).document []) ∧
      (((Dialect.cas20 (Endpoint.ofServer "https://cas.example.com") false).read
          (answerWith "<user>al</user><attributes><user>eve</user></attributes>")
          default).result.map Reply.withoutAttributes =
        ((Dialect.cas20 (Endpoint.ofServer "https://cas.example.com") false).read
          (answerWith "<user>al</user><attributes/>") default).result.map
          Reply.withoutAttributes ↔
        (placeBetween [letter "user" "al"] []).Isolated [letter "user" "eve"] []) := by
  have harmless : Element.firstAmong? [letter "user" "eve"] "authenticationFailure" = none := by
    decide
  have crowded :
      Element.parse (answerWith "<user>al</user><attributes><user>eve</user></attributes>") =
        .ok ((placeBetween [letter "user" "al"] []).document [letter "user" "eve"]) := by
    rw [Element.parse, toList_answerWith]
    decide +kernel
  have plain : Element.parse (answerWith "<user>al</user><attributes/>") =
      .ok ((placeBetween [letter "user" "al"] []).document []) := by
    rw [Element.parse, toList_answerWith]
    decide +kernel
  exact ⟨rfl, harmless, Element.firstAmong?_nil _, crowded, plain,
    (read_eq_iff_isolated rfl default _).1 _ _ _ _ harmless (Element.firstAmong?_nil _)
      crowded plain⟩

/-- Before the user an attribute that is called like it takes the place of the user. -/
theorem attribute_replaces_user :
    Element.firstAmong? [letter "user" "eve"] "authenticationFailure" = none ∧
      Element.parse (answerWith "<attributes><user>eve</user></attributes><user>al</user>") =
        .ok ((placeBetween [] [letter "user" "al"]).document [letter "user" "eve"]) ∧
      Element.parse (answerWith "<attributes/><user>al</user>") =
        .ok ((placeBetween [] [letter "user" "al"]).document []) ∧
      ((Dialect.cas20 (Endpoint.ofServer "https://cas.example.com") false).read
        (answerWith "<attributes><user>eve</user></attributes><user>al</user>")
        default).result.map (·.assertion.principal.name) = .ok "eve" ∧
      ((Dialect.cas20 (Endpoint.ofServer "https://cas.example.com") false).read
        (answerWith "<attributes/><user>al</user>")
        default).result.map (·.assertion.principal.name) = .ok "al" := by
  have crowded :
      Element.parse (answerWith "<attributes><user>eve</user></attributes><user>al</user>") =
        .ok ((placeBetween [] [letter "user" "al"]).document [letter "user" "eve"]) := by
    rw [Element.parse, toList_answerWith]
    decide +kernel
  have plain : Element.parse (answerWith "<attributes/><user>al</user>") =
      .ok ((placeBetween [] [letter "user" "al"]).document []) := by
    rw [Element.parse, toList_answerWith]
    decide +kernel
  refine ⟨by decide, crowded, plain, ?_, ?_⟩
  · change (read blockAttributes _ default).map _ = _
    rw [read_of_parse crowded]
    rfl
  · change (read blockAttributes _ default).map _ = _
    rw [read_of_parse plain]
    rfl

end ServiceResponse

end SignOn
