import SignOn.Dialect
import SignOn.Proofs.Markup.Beginning
import SignOn.Proofs.Markup.Progress

/-
This file shows that an answer is refused when it breaks off before the root of its document is closed.
-/

namespace SignOn.Markup

open SignOn.Text

/-- Reading on from a place in a document, a tag closes the root, and something is left behind it. -/
inductive ClosesRoot : Progress → List Char → List Char → Prop
  | now {progress : Progress} {characters behind : List Char} {token : Token} {root : Element}
      (scanned : scan characters = .found token behind)
      (isTag : ∃ content, token = .closing content ∨ token = .standalone content)
      (stepped : progress.step token = .ok ⟨[], some root⟩) :
      ClosesRoot progress characters behind
  | later {progress next : Progress} {characters rest behind : List Char} {token : Token}
      (scanned : scan characters = .found token rest) (stepped : progress.step token = .ok next)
      (rootless : next.root = none) (closes : ClosesRoot next rest behind) :
      ClosesRoot progress characters behind

/-- The root of every document that is accepted is closed somewhere. -/
theorem exists_closesRoot {progress : Progress} {characters : List Char} {root : Element}
    (rootless : progress.root = none) (accepts : Accepts root progress characters) :
    ∃ behind, ClosesRoot progress characters behind := by
  induction accepts with
  | finished _ finish =>
      obtain ⟨fault, refused⟩ := Progress.finish_of_rootless rootless
      cases refused.symm.trans finish
  | token scanned step _ inductionHypothesis =>
      rcases step.root_cases rootless with still | ⟨isTag, closed, rfl⟩
      · obtain ⟨behind, closes⟩ := inductionHypothesis still
        exact ⟨behind, .later scanned step.step_eq still closes⟩
      · exact ⟨_, .now scanned isTag step.step_eq⟩

namespace ClosesRoot

/-- Less is left behind the end of the root than before it. -/
theorem length_lt {progress : Progress} {characters behind : List Char}
    (closes : ClosesRoot progress characters behind) : behind.length < characters.length := by
  induction closes with
  | now scanned => exact length_of_scan scanned
  | later scanned _ _ _ inductionHypothesis =>
      have := length_of_scan scanned
      omega

/-- The tag that closes the root ends with a closing mark. -/
theorem exists_before {progress : Progress} {characters behind : List Char}
    (closes : ClosesRoot progress characters behind) :
    ∃ before, characters = before ++ '>' :: behind := by
  induction closes with
  | now scanned isTag =>
      rcases scan_ends scanned with ⟨written, -, rfl, -⟩ | marked
      · obtain ⟨content, closing | standalone⟩ := isTag
        · cases closing
        · cases standalone
      · exact marked
  | later scanned _ _ _ inductionHypothesis =>
      obtain ⟨between, rfl⟩ := inductionHypothesis
      rcases scan_ends scanned with ⟨-, before, -, rfl⟩ | ⟨before, rfl⟩
      · exact ⟨before ++ between, by simp⟩
      · exact ⟨before ++ '>' :: between, by simp⟩

end ClosesRoot

/-- Where the scan of a document is cut short while it has no root, the document is refused. -/
theorem readFrom_of_cutShort {progress : Progress} {characters : List Char}
    (rootless : progress.root = none) (cutShort : (scan characters).IsCutShort) :
    ∃ fault, readFrom progress characters = .error fault := by
  cases scanned : scan characters with
  | finished =>
      rw [readFrom_eq, scanned]
      exact Progress.finish_of_rootless rootless
  | broken =>
      rw [readFrom_eq, scanned]
      exact ⟨.malformed, rfl⟩
  | found token rest =>
      rw [scanned] at cutShort
      cases token with
      | text written =>
          obtain rfl : rest = [] := cutShort
          cases stepped : progress.step (.text written) with
          | error fault => exact ⟨fault, readFrom_of_refused scanned stepped⟩
          | ok next =>
              have still : next.root = none := by
                rcases (Progress.step_eq_ok_iff.1 stepped).root_cases rootless with
                  still | ⟨⟨content, closing | standalone⟩, -⟩
                · exact still
                · cases closing
                · cases standalone
              obtain ⟨fault, refused⟩ := Progress.finish_of_rootless still
              refine ⟨fault, ?_⟩
              rw [readFrom_of_scan scanned stepped, readFrom_eq]
              exact refused
      | opening content => cases cutShort
      | standalone content => cases cutShort
      | closing content => cases cutShort
      | literal characters => cases cutShort
      | remark => cases cutShort

/-- A beginning that ends before its root is closed is refused. -/
theorem readFrom_of_short {progress : Progress} {read unread behind : List Char}
    (rootless : progress.root = none) (closes : ClosesRoot progress (read ++ unread) behind)
    (short : behind.length < unread.length) : ∃ fault, readFrom progress read = .error fault := by
  generalize whole : read ++ unread = characters at closes
  induction closes generalizing read with
  | now scanned =>
      subst whole
      rcases scan_begins scanned with ⟨left, rfl, -⟩ | ⟨-, cutShort⟩
      · rw [List.length_append] at short
        omega
      · exact readFrom_of_cutShort rootless cutShort
  | later scanned stepped still _ inductionHypothesis =>
      subst whole
      rcases scan_begins scanned with ⟨left, rfl, found⟩ | ⟨-, cutShort⟩
      · rw [readFrom_of_scan found stepped]
        exact inductionHypothesis still short rfl
      · exact readFrom_of_cutShort rootless cutShort

/-- The beginning that ends where the root is closed holds the whole root. -/
theorem readFrom_of_closed_here {progress : Progress} {read behind : List Char} {root : Element}
    (closes : ClosesRoot progress (read ++ behind) behind)
    (accepted : readFrom progress (read ++ behind) = .ok root) :
    readFrom progress read = .ok root := by
  generalize whole : read ++ behind = characters at closes accepted
  induction closes generalizing read with
  | @now _ _ behind token closed scanned _ stepped =>
      subst whole
      rw [readFrom_of_scan scanned stepped] at accepted
      rcases scan_begins scanned with ⟨left, same, found⟩ | ⟨shorter, -⟩
      · obtain rfl : left = [] := by simpa using same
        rw [readFrom_of_scan found stepped, (readFrom_eq_ok_iff.1 accepted).eq_of_closed, readFrom_eq]
        rfl
      · omega
  | later scanned stepped _ closes inductionHypothesis =>
      subst whole
      have behindRest := closes.length_lt
      rw [readFrom_of_scan scanned stepped] at accepted
      rcases scan_begins scanned with ⟨left, rfl, found⟩ | ⟨shorter, -⟩
      · rw [readFrom_of_scan found stepped]
        exact inductionHypothesis rfl accepted
      · omega

/-- A document is split at the closing mark of the tag that closes its root. -/
structure RootEnds (document : String) (before behind : List Char) : Prop where
  whole : document.toList = before ++ '>' :: behind
  closes : ClosesRoot .start (skipByteOrderMark document.toList) behind

/-- A document that is accepted has an end of its root. -/
theorem exists_rootEnds {document : String} {root : Element}
    (accepted : Element.parse document = .ok root) :
    ∃ before behind, RootEnds document before behind := by
  obtain ⟨behind, closes⟩ := exists_closesRoot rfl (readFrom_eq_ok_iff.1 accepted)
  obtain ⟨inside, read⟩ := closes.exists_before
  obtain ⟨skipped, whole⟩ := exists_skipped document.toList
  refine ⟨skipped ++ inside, behind, ?_, closes⟩
  rw [whole, read, List.append_assoc]

namespace RootEnds

variable {document : String} {before behind : List Char}

/-- A document is refused when it breaks off before its root is closed. -/
theorem parse_of_short (ends : RootEnds document before behind) {cut : String}
    (short : cut.toList <+: before) : ∃ fault, Element.parse cut = .error fault := by
  obtain ⟨missing, rfl⟩ := short
  by_cases empty : cut.toList = []
  · rw [Element.parse, empty]
    exact readFrom_of_cutShort rfl trivial
  · have closes := ends.closes
    rw [ends.whole, List.append_assoc, skipByteOrderMark_append empty] at closes
    refine readFrom_of_short rfl closes ?_
    rw [List.length_append, List.length_cons]
    omega

/-- What stands behind the root does not count. -/
theorem parse_of_closed (ends : RootEnds document before behind) {root : Element}
    (accepted : Element.parse document = .ok root) :
    Element.parse (String.ofList (before ++ ['>'])) = .ok root := by
  have nonempty : before ++ ['>'] ≠ [] := by simp
  have whole : document.toList = before ++ ['>'] ++ behind := by
    rw [ends.whole, List.append_assoc, List.singleton_append]
  have closes := ends.closes
  rw [whole, skipByteOrderMark_append nonempty] at closes
  rw [Element.parse, Element.read, whole, skipByteOrderMark_append nonempty] at accepted
  rw [Element.parse, Element.read, String.toList_ofList]
  exact readFrom_of_closed_here closes accepted

end RootEnds

end SignOn.Markup

namespace SignOn

open SignOn.Markup

/-- A document that cannot be parsed fails with its fault in every dialect that reads markup. -/
theorem Dialect.read_of_fault {dialect : Dialect} (marked : dialect.protocol ≠ .cas10)
    {body : String} {fault : Markup.Fault} (refused : Element.parse body = .error fault)
    (now : Instant) : (dialect.read body now).result = .error (.ofMarkup fault) := by
  cases dialect with
  | cas10 endpoint => exact absurd rfl marked
  | cas20 endpoint expectsProxies =>
      rw [Dialect.read, Logged.pure_result, ServiceResponse.read, refused]
  | cas30 endpoint expectsProxies =>
      rw [Dialect.read, Logged.pure_result, ServiceResponse.read, refused]
  | saml11 endpoint tolerance identifiers =>
      rw [Dialect.read, Saml.read, refused]
      rfl

/-- A document that cannot be parsed issues no ticket. -/
theorem ProxyTicketIssuer.read_of_fault {body : String} {fault : Markup.Fault}
    (refused : Element.parse body = .error fault) (targetService : String) :
    (ProxyTicketIssuer.read targetService body).result = .error (.ofMarkup fault) := by
  rw [ProxyTicketIssuer.read, refused]
  rfl

/--
The root of a document is closed by one of its tags. What breaks off before the last character of
that tag violates the protocol in every version that reads documents, and so it does as an answer to
a request for a proxy ticket.
-/
theorem cut_short_violates_protocol (document : String) (root : Element)
    (accepted : Element.parse document = .ok root) :
    (∃ before behind, RootEnds document before behind) ∧
      ∀ before behind, RootEnds document before behind →
        Element.parse (String.ofList (before ++ ['>'])) = .ok root ∧
          ∀ cut : String, cut.toList <+: before →
            ∃ fault, Element.parse cut = .error fault ∧
              (∀ dialect : Dialect, dialect.protocol ≠ .cas10 → ∀ now,
                (dialect.read cut now).result = .error (.protocolViolation (.markup fault))) ∧
              ∀ targetService, (ProxyTicketIssuer.read targetService cut).result =
                .error (.protocolViolation (.markup fault)) := by
  refine ⟨exists_rootEnds accepted, fun before behind ends => ?_⟩
  refine ⟨ends.parse_of_closed accepted, fun cut short => ?_⟩
  obtain ⟨fault, refused⟩ := ends.parse_of_short short
  exact ⟨fault, refused, fun dialect marked now => dialect.read_of_fault marked refused now,
    fun targetService => ProxyTicketIssuer.read_of_fault refused targetService⟩

/-- A document that breaks off inside of its last tag is refused, although its text is all there. -/
theorem cut_short_violates_protocol_in_last_tag :
    Element.parse "<a>al</a>\n" = .ok ⟨"a", none, [], [], "al"⟩ ∧
      RootEnds "<a>al</a>\n" "<a>al</a".toList ['\n'] ∧
        ∃ fault, Element.parse "<a>al</a" = .error fault := by
  have accepted : Element.parse "<a>al</a>\n" = .ok ⟨"a", none, [], [], "al"⟩ := by
    decide +kernel
  have first : scan (skipByteOrderMark "<a>al</a>\n".toList) =
      .found (.opening ['a']) "al</a>\n".toList := by decide
  have second : scan "al</a>\n".toList = .found (.text ['a', 'l']) "</a>\n".toList := by decide
  have third : scan "</a>\n".toList = .found (.closing ['a']) ['\n'] := by decide
  have opened : Progress.Step .start (.opening ['a'])
      ⟨[.ofTag [] ⟨"a", []⟩], none⟩ := .opening (by decide) (by decide +kernel)
  have spoken : Progress.Step ⟨[.ofTag [] ⟨"a", []⟩], none⟩ (.text ['a', 'l'])
      ⟨[(OpenElement.ofTag [] ⟨"a", []⟩).append ['a', 'l']], none⟩ := .text (by decide)
  have closed : Progress.Step ⟨[(OpenElement.ofTag [] ⟨"a", []⟩).append ['a', 'l']], none⟩
      (.closing ['a']) ⟨[], some _⟩ := .closing (by decide)
  have ends : RootEnds "<a>al</a>\n" "<a>al</a".toList ['\n'] := {
    whole := by decide
    closes := .later first opened.step_eq rfl (.later second spoken.step_eq rfl
      (.now third ⟨['a'], Or.inl rfl⟩ closed.step_eq)) }
  obtain ⟨-, refuses⟩ := cut_short_violates_protocol _ _ accepted
  obtain ⟨fault, refused, -⟩ := (refuses _ _ ends).2 "<a>al</a" List.prefix_rfl
  exact ⟨accepted, ends, fault, refused⟩

end SignOn
