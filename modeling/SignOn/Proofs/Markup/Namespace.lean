import Mathlib.Data.List.Nodup
import SignOn.Proofs.Markup.Name
import SignOn.Proofs.Markup.Outline
import SignOn.Proofs.Markup.Writing

/-
This file shows that the namespace of an element is declared by the nearest tag around it.
-/

namespace SignOn.Markup

open SignOn.Text

namespace Tag

/-- A tag declares a namespace by an attribute, wherever it stands among the others. -/
def Declares (tag : Tag) (declared : Option String) (uri : String) : Prop :=
  (declarationName declared, uri) ∈ tag.attributes

/-- The scope of a tag is made of its declarations. -/
theorem mem_scope_iff {tag : Tag} {declared : Option String} {uri : String} :
    (declared, uri) ∈ tag.scope ↔ tag.Declares declared uri := by
  rw [Tag.scope, List.mem_filterMap]
  constructor
  · rintro ⟨⟨key, value⟩, member, found⟩
    obtain ⟨declared', isDeclaration, same⟩ := Option.map_eq_some_iff.1 found
    obtain ⟨rfl, rfl⟩ := Prod.mk.inj same
    rw [declaration?_eq_some_iff] at isDeclaration
    obtain rfl : key = declarationName declared' := isDeclaration
    exact member
  · intro declares
    refine ⟨_, declares, ?_⟩
    rw [declaration?_eq_some_iff.2 rfl]
    rfl

/-- A tag declares each prefix once at most. -/
theorem Declares.unique {tag : Tag} {declared : Option String} {first second : String}
    (distinct : tag.IsDistinct) (declares : tag.Declares declared first)
    (again : tag.Declares declared second) : first = second := by
  have same := List.inj_on_of_nodup_map distinct declares again rfl
  exact (Prod.mk.inj same).2

end Tag

/-- The nearest of the tags that declares a namespace binds it, and without one nothing does. -/
inductive Binds (declared : Option String) : List Tag → Option String → Prop
  | unbound : Binds declared [] none
  | here {tag : Tag} {outer : List Tag} {uri : String} (declares : tag.Declares declared uri) :
      Binds declared (tag :: outer) (some uri)
  | further {tag : Tag} {outer : List Tag} {found : Option String}
      (silent : ∀ uri, ¬ tag.Declares declared uri) (binds : Binds declared outer found) :
      Binds declared (tag :: outer) found

namespace Binds

variable {declared : Option String} {tags : List Tag}

/-- The search through the scopes of tags finds what binds. -/
theorem resolve? (declared : Option String) (tags : List Tag) :
    Binds declared tags (Markup.resolve? (tags.map Tag.scope) declared) := by
  induction tags with
  | nil => exact .unbound
  | cons tag outer inductionHypothesis =>
      rw [List.map_cons, Markup.resolve?, List.findSome?_cons]
      cases found : tag.scope.lookup declared with
      | some uri =>
          obtain ⟨before, after, scope, -⟩ := List.lookup_eq_some_iff.1 found
          exact .here (Tag.mem_scope_iff.1 (by rw [scope]; simp))
      | none =>
          refine .further ?_ inductionHypothesis
          intro uri declares
          have missing := List.lookup_eq_none_iff.1 found _ (Tag.mem_scope_iff.2 declares)
          simp at missing

/-- Where no key comes twice in a tag, at most one namespace is bound. -/
theorem unique {first second : Option String} (distinct : ∀ tag ∈ tags, tag.IsDistinct)
    (binds : Binds declared tags first) (again : Binds declared tags second) : first = second := by
  induction binds with
  | unbound =>
      cases again
      rfl
  | here declares =>
      cases again with
      | here declaresAgain =>
          rw [declares.unique (distinct _ List.mem_cons_self) declaresAgain]
      | further silent => exact absurd declares (silent _)
  | further silent _ inductionHypothesis =>
      cases again with
      | here declares => exact absurd declares (silent _)
      | further _ binds =>
          exact inductionHypothesis
            (fun tag member => distinct tag (List.mem_cons_of_mem _ member)) binds

/-- A prefix is resolved to what the nearest declaration in scope binds it to. -/
theorem iff_resolve?_eq {found : Option String} (distinct : ∀ tag ∈ tags, tag.IsDistinct) :
    Binds declared tags found ↔ Markup.resolve? (tags.map Tag.scope) declared = found := by
  constructor
  · exact fun binds => (resolve? declared tags).unique distinct binds
  · rintro rfl
    exact resolve? declared tags

end Binds

mutual

/--
An element follows its tag when it has the local part of the name, what the nearest declaration
binds to the part before it, and the attributes that declare nothing, and when the elements inside
follow the tags inside.
-/
inductive Follows : List Tag → TagTree → Element → Prop
  | node {outer : List Tag} {tag : Tag} {inner : List TagTree} {element : Element}
      {before : Option String} (named : SplitsAs tag.name before element.name)
      (bound : ∀ found, Binds before (tag :: outer) found ↔ element.namespaceUri = found)
      (attributes : ∀ name value, (name, value) ∈ element.attributes ↔
        ∃ key part, (key, value) ∈ tag.attributes ∧ SplitsAs key part name ∧
          ∀ declared, key ≠ declarationName declared)
      (children : FollowAll (tag :: outer) inner element.children) :
      Follows outer (.node tag inner) element

/-- Elements follow tags one by one, among the tags around them. -/
inductive FollowAll : List Tag → List TagTree → List Element → Prop
  | nil {outer : List Tag} : FollowAll outer [] []
  | cons {outer : List Tag} {tree : TagTree} {element : Element} {trees : List TagTree}
      {elements : List Element} (first : Follows outer tree element)
      (others : FollowAll outer trees elements) :
      FollowAll outer (tree :: trees) (element :: elements)

end

/-- Trees that follow their tags do so in one list too. -/
theorem FollowAll.append {outer : List Tag} {trees others : List TagTree}
    {elements further : List Element} (before : FollowAll outer trees elements)
    (after : FollowAll outer others further) :
    FollowAll outer (trees ++ others) (elements ++ further) := by
  induction trees generalizing elements with
  | nil =>
      cases before
      exact after
  | cons tree trees inductionHypothesis =>
      cases before with
      | cons first rest => exact .cons first (inductionHypothesis rest)

/-- The plain attributes are those that declare nothing, under their local names. -/
theorem Tag.mem_plainAttributes_iff {tag : Tag} {name value : String} :
    (name, value) ∈ tag.plainAttributes ↔
      ∃ key part, (key, value) ∈ tag.attributes ∧ SplitsAs key part name ∧
        ∀ declared, key ≠ declarationName declared := by
  rw [Tag.plainAttributes, List.mem_map]
  constructor
  · rintro ⟨⟨key, value'⟩, kept, same⟩
    obtain ⟨rfl, rfl⟩ := Prod.mk.inj same
    obtain ⟨member, undeclared⟩ := List.mem_filter.1 kept
    exact ⟨key, _, member, splitsAs_splitName key,
      declaration?_eq_none_iff.1 (Option.isNone_iff_eq_none.1 undeclared)⟩
  · rintro ⟨key, part, member, splits, undeclared⟩
    refine ⟨(key, value), List.mem_filter.2 ⟨member, ?_⟩, ?_⟩
    · exact Option.isNone_iff_eq_none.2 (declaration?_eq_none_iff.2 undeclared)
    · rw [localName, splits.splitName_eq]

/-- An open element is closed as one that follows its tag, when the elements inside do. -/
theorem follows_close {outer : List Tag} {tag : Tag} {enclosing : List OpenElement}
    {inner : List TagTree} {children : List Element} {text : List Char}
    (distinct : ∀ other ∈ tag :: outer, other.IsDistinct)
    (scopes : enclosing.map (·.scope) = outer.map Tag.scope)
    (follow : FollowAll (tag :: outer) inner children) :
    Follows outer (.node tag inner) ((OpenElement.ofTag enclosing tag).hold children text).close := by
  rw [OpenElement.close_hold_ofTag, scopes]
  exact .node (splitsAs_splitName tag.name) (fun _ => Binds.iff_resolve?_eq distinct)
    (fun _ _ => Tag.mem_plainAttributes_iff) follow

/--
Inside an open element the tokens nest up to a closing tag with its name. The elements that they
become follow their tags, and the rest is accepted with the element closed.
-/
inductive Completes (tags : List Tag) (innermost : OpenElement) (outer : List OpenElement)
    (root : Element) (characters : List Char) : Prop
  | mk {inside : List Token} {inner : List TagTree} {closing rest text : List Char}
      {children : List Element} (yields : Yields characters (inside ++ [.closing closing]) rest)
      (nests : Nests inside inner) (named : closingName closing = innermost.tagName.toList)
      (follow : FollowAll tags inner children)
      (goesOn : Accepts root (Progress.attach (innermost.hold children text).close outer) rest) :
      Completes tags innermost outer root characters

/-- What nests and is held first comes before the rest of what an element holds. -/
theorem Completes.behind {tags : List Tag} {innermost : OpenElement} {outer : List OpenElement}
    {root : Element} {characters rest text : List Char} {first : List Token}
    {trees : List TagTree} {earlier : List Element} (yields : Yields characters first rest)
    (nests : Nests first trees) (follow : FollowAll tags trees earlier)
    (completes : Completes tags (innermost.hold earlier text) outer root rest) :
    Completes tags innermost outer root characters := by
  obtain ⟨yieldsLater, nestsLater, named, followLater, goesOn⟩ := completes
  rw [OpenElement.hold_hold] at goesOn
  refine .mk ?_ (nests.append nestsLater) named (follow.append followLater) goesOn
  rw [List.append_assoc]
  exact yields.append yieldsLater

/-- A closing tag at once leaves what the element holds as it is. -/
theorem Completes.here {tags : List Tag} {innermost : OpenElement} {outer : List OpenElement}
    {root : Element} {characters rest closing : List Char}
    (scanned : scan characters = .found (.closing closing) rest)
    (named : closingName closing = innermost.tagName.toList)
    (goesOn : Accepts root (Progress.attach innermost.close outer) rest) :
    Completes tags innermost outer root characters := by
  rw [← innermost.hold_nil] at goesOn
  exact .mk (.one scanned) .nil named .nil goesOn

/-- Every open element of a document that is accepted is completed. -/
theorem Accepts.completes {tags : List Tag} {innermost : OpenElement} {outer : List OpenElement}
    {root : Element} {characters : List Char} (distinct : ∀ tag ∈ tags, tag.IsDistinct)
    (scopes : (innermost :: outer).map (·.scope) = tags.map Tag.scope)
    (accepts : Accepts root ⟨innermost :: outer, none⟩ characters) :
    Completes tags innermost outer root characters := by
  -- What stands behind an element inside is shorter, but it is not the rest behind one token.
  induction length : characters.length using Nat.strong_induction_on
    generalizing tags innermost outer characters with
  | _ bound inductionHypothesis =>
  subst length
  cases accepts with
  | finished _ finish => cases finish
  | token scanned step accepts =>
      have shorter := length_of_scan scanned
      have yields := Yields.one scanned
      cases step with
      | text =>
          exact .behind yields (.other id .nil) .nil
            (inductionHypothesis _ shorter distinct scopes accepts rfl)
      | @opening _ content tag _ read =>
          have distinctHere := List.forall_mem_cons.2 ⟨Tag.isDistinct_of_read read, distinct⟩
          have scopesHere : (OpenElement.ofTag (innermost :: outer) tag :: innermost :: outer).map
              (·.scope) = (tag :: tags).map Tag.scope := congrArg (List.cons tag.scope) scopes
          obtain ⟨yieldsInside, nests, named, follow, goesOn⟩ :=
            inductionHypothesis _ shorter distinctHere scopesHere accepts rfl
          have behind := yieldsInside.length_le
          rw [Progress.attach_cons] at goesOn
          exact .behind (.cons scanned yieldsInside) (.element read nests named .nil)
            (.cons (follows_close distinctHere scopes follow) .nil)
            (inductionHypothesis _ (by omega) distinct scopes goesOn rfl)
      | standalone _ read =>
          have distinctHere := List.forall_mem_cons.2 ⟨Tag.isDistinct_of_read read, distinct⟩
          rw [Progress.attach_cons, ← OpenElement.hold_nil (OpenElement.ofTag _ _)] at accepts
          exact .behind yields (.standalone read .nil)
            (.cons (follows_close distinctHere scopes .nil) .nil)
            (inductionHypothesis _ shorter distinct scopes accepts rfl)
      | closing named => exact .here scanned named accepts
      | literal =>
          exact .behind yields (.other id .nil) .nil
            (inductionHypothesis _ shorter distinct scopes accepts rfl)
      | remark =>
          rw [← innermost.hold_nil] at accepts
          exact .behind yields (.other id .nil) .nil
            (inductionHypothesis _ shorter distinct scopes accepts rfl)

/-- Behind the root there are no more tags. -/
theorem Accepts.exists_nests_of_closed {root found : Element} {characters : List Char}
    (accepts : Accepts found ⟨[], some root⟩ characters) :
    ∃ tokens, Yields characters tokens [] ∧ Nests tokens [] := by
  generalize closed : (⟨[], some root⟩ : Progress) = progress at accepts
  induction accepts with
  | finished ended =>
      rw [scan_eq_finished_iff.1 ended]
      exact ⟨[], .nil, .nil⟩
  | @token _ _ _ _ token scanned step _ inductionHypothesis =>
      subst closed
      obtain ⟨tokens, yields, nests⟩ := inductionHypothesis step.eq_of_closed.symm
      have noTag : ¬ token.IsTag := by
        cases step <;> exact id
      exact ⟨_, .cons scanned yields, .other noTag nests⟩

/-- A document that is accepted has an outline, which its tree follows. -/
theorem Accepts.exists_outline {root : Element} {characters : List Char}
    (accepts : Accepts root .start characters) :
    ∃ tokens tree, Yields characters tokens [] ∧ Nests tokens [tree] ∧ Follows [] tree root := by
  generalize started : Progress.start = progress at accepts
  induction accepts with
  | finished _ finish =>
      subst started
      cases finish
  | @token _ next characters _ token scanned step accepts inductionHypothesis =>
      subst started
      have goesOn (noTag : ¬ token.IsTag) (unchanged : Progress.start = next) :
          ∃ tokens tree, Yields characters tokens [] ∧ Nests tokens [tree] ∧
            Follows [] tree root := by
        obtain ⟨tokens, tree, yields, nests, follows⟩ := inductionHypothesis unchanged
        exact ⟨_, tree, .cons scanned yields, .other noTag nests, follows⟩
      cases step with
      | blankText => exact goesOn id rfl
      | opening _ read =>
          have distinct := List.forall_mem_singleton.2 (Tag.isDistinct_of_read read)
          obtain ⟨yields, nests, named, follow, accepts⟩ := accepts.completes distinct rfl
          obtain rfl := accepts.eq_of_closed
          obtain ⟨further, yieldsFurther, nestsFurther⟩ := accepts.exists_nests_of_closed
          exact ⟨_, _, (Yields.cons scanned yields).append yieldsFurther,
            (Nests.element read nests named .nil).append nestsFurther,
            follows_close distinct rfl follow⟩
      | standalone _ read =>
          have distinct := List.forall_mem_singleton.2 (Tag.isDistinct_of_read read)
          rw [← OpenElement.hold_nil (OpenElement.ofTag _ _)] at accepts
          obtain rfl := accepts.eq_of_closed
          obtain ⟨further, yieldsFurther, nestsFurther⟩ := accepts.exists_nests_of_closed
          exact ⟨_, _, .cons scanned yieldsFurther, .standalone read nestsFurther,
            follows_close distinct rfl .nil⟩
      | ignoredLiteral => exact goesOn id rfl
      | remark => exact goesOn id rfl

/--
The tags of a document that is accepted nest in one tree, and the elements follow it. The namespace of
an element is the one that the nearest tag among its own and those around it declares for its prefix,
or none where no such tag does, and what declares a namespace is not among the attributes.
-/
theorem namespaces_follow_scope {document : String} {root : Element}
    (accepted : Element.parse document = .ok root) :
    ∃ tree, (∀ other, Outlines document other ↔ other = tree) ∧ Follows [] tree root := by
  obtain ⟨tokens, tree, yields, nests, follows⟩ :=
    (readFrom_eq_ok_iff.1 accepted).exists_outline
  have outlines : Outlines document tree := ⟨tokens, yields, nests⟩
  refine ⟨tree, fun other => ⟨fun again => again.unique outlines, ?_⟩, follows⟩
  rintro rfl
  exact outlines

/-- A prefix is declared again in an element that stands alone, and another one is never declared. -/
def shadowedDocument : String :=
  "<p:a xmlns:p='1' xmlns='0'><p:b k='v' xmlns:p='&lt;'/><p:c><d xmlns=''/></p:c><q:e/></p:a>"

def shadowedRoot : Element where
  name := "a"
  namespaceUri := some "1"
  attributes := []
  children :=
    [⟨"b", some "<", [("k", "v")], [], ""⟩, ⟨"c", some "1", [], [⟨"d", some "", [], [], ""⟩], ""⟩,
      ⟨"e", none, [], [], ""⟩]
  characterData := ""

/-- A declaration inside another one of the same prefix comes first. -/
theorem namespaces_follow_scope_of_shadowed :
    Element.parse shadowedDocument = .ok shadowedRoot ∧
      ∃ tree, (∀ other, Outlines shadowedDocument other ↔ other = tree) ∧
        Follows [] tree shadowedRoot := by
  have accepted : Element.parse shadowedDocument = .ok shadowedRoot := by
    decide +kernel
  exact ⟨accepted, namespaces_follow_scope accepted⟩

end SignOn.Markup
