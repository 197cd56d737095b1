import SignOn.Markup.Document
import SignOn.Markup.Node
import SignOn.Proofs.Markup.Beginning
import SignOn.Proofs.Markup.Reference

/-
This file shows that a tag is read back from what is written for it.
-/

namespace SignOn.Markup

open SignOn.Text

/-- Written names are made of these characters, none of which has a meaning in a tag. -/
def isNameCharacter (character : Char) : Bool :=
  character.isAlphanum || character == ':' || character == '-' || character == '_' ||
    character == '.'

def isName (name : String) : Bool :=
  !name.toList.isEmpty && name.toList.all isNameCharacter

/-- A tag can be written when it and its attributes have names and no attribute comes twice. -/
structure Tag.IsWritable (tag : Tag) : Prop where
  named : isName tag.name = true
  keyed : ∀ pair ∈ tag.attributes, isName pair.1 = true
  distinct : (tag.attributes.map Prod.fst).Nodup

/-- The values of its attributes do not decide whether a tag can be written. -/
theorem Tag.isWritable_of_keys {name : String} {attributes : List (String × String)}
    (keys : List String) (listed : attributes.map Prod.fst = keys) (named : isName name = true)
    (keyed : keys.all isName = true) (distinct : keys.Nodup) :
    Tag.IsWritable ⟨name, attributes⟩ where
  named := named
  keyed pair member :=
    List.all_eq_true.1 keyed pair.1 (listed ▸ List.mem_map_of_mem member)
  distinct := listed ▸ distinct

theorem Tag.isWritable_plain {name : String} (named : isName name = true) :
    Tag.IsWritable ⟨name, []⟩ :=
  Tag.isWritable_of_keys [] rfl named rfl List.nodup_nil

/-- These characters end a name or begin something else in a tag. -/
def tagMarks : List Char := [' ', '\t', '\r', '\n', '>', '"', '\'', '=', '/', '!', '?']

/-- Among the legible characters are the letters and the digits of all scripts. -/
def isLegible (character : Char) : Bool := !tagMarks.contains character

def isLegibleName (name : String) : Bool :=
  !name.toList.isEmpty && name.toList.all isLegible

/-- A tag can be read back when its names are legible and no attribute comes twice. -/
structure Tag.IsLegible (tag : Tag) : Prop where
  named : isLegibleName tag.name = true
  keyed : ∀ pair ∈ tag.attributes, isLegibleName pair.1 = true
  distinct : (tag.attributes.map Prod.fst).Nodup

theorem isLegible_iff (character : Char) : isLegible character = true ↔ character ∉ tagMarks := by
  simp [isLegible]

/-- The characters that are written in names can be read back. -/
theorem isLegible_of_isNameCharacter {character : Char}
    (named : isNameCharacter character = true) : isLegible character = true := by
  have foreign : (tagMarks.all fun mark => !isNameCharacter mark) = true := by decide
  rw [isLegible_iff]
  intro isMark
  have unnamed := List.all_eq_true.1 foreign character isMark
  rw [named] at unnamed
  cases unnamed

/-- A name that is written can be read back. -/
theorem isLegibleName_of_isName {name : String} (named : isName name = true) :
    isLegibleName name = true := by
  rw [isName, Bool.and_eq_true, List.all_eq_true] at named
  rw [isLegibleName, Bool.and_eq_true, List.all_eq_true]
  exact ⟨named.1, fun character member =>
    isLegible_of_isNameCharacter (named.2 character member)⟩

/-- What can be written can be read back. -/
theorem Tag.IsWritable.isLegible {tag : Tag} (writable : tag.IsWritable) : tag.IsLegible where
  named := isLegibleName_of_isName writable.named
  keyed pair member := isLegibleName_of_isName (writable.keyed pair member)
  distinct := writable.distinct

theorem ne_of_isLegible {character other : Char}
    (named : isLegible character = true) (foreign : isLegible other = false) :
    character ≠ other := by
  rintro rfl
  exact absurd named (by simp [foreign])

/-- No space stands in a name. -/
theorem not_isSpace_of_isLegible {character : Char}
    (named : isLegible character = true) : isSpace character = false := by
  rw [Bool.eq_false_iff]
  intro space
  rcases eq_of_isSpace space with rfl | rfl | rfl | rfl <;> exact absurd named (by decide)

theorem isLegible_of_mem {name : String} (named : isLegibleName name = true) {character : Char}
    (member : character ∈ name.toList) : isLegible character = true :=
  List.all_eq_true.1 (Bool.and_eq_true_iff.1 named).2 character member

/-- A name has a first character. -/
theorem exists_cons_of_isLegibleName {name : String} (named : isLegibleName name = true) :
    ∃ first others, name.toList = first :: others ∧ isLegible first = true := by
  cases characters : name.toList with
  | nil => simp [isLegibleName, characters] at named
  | cons first others =>
      exact ⟨first, others, rfl, isLegible_of_mem named (by simp [characters])⟩

/-- A name has a last character. -/
theorem exists_concat_of_isLegibleName {name : String} (named : isLegibleName name = true) :
    ∃ others last, name.toList = others ++ [last] ∧ isLegible last = true := by
  rcases List.eq_nil_or_concat name.toList with empty | ⟨others, last, characters⟩
  · simp [isLegibleName, empty] at named
  · rw [List.concat_eq_append] at characters
    exact ⟨others, last, characters, isLegible_of_mem named (by simp [characters])⟩

/-- The search for the end of a tag goes through these characters wherever they stand. -/
def Inside (characters : List Char) : Prop :=
  ∀ newestFirst rest, tagContent? newestFirst none (characters ++ rest) =
    tagContent? (characters.reverse ++ newestFirst) none rest

namespace Inside

theorem nil : Inside [] := fun _ _ => rfl

/-- The search goes through both of two texts that it goes through. -/
theorem append {first second : List Char} (before : Inside first) (after : Inside second) :
    Inside (first ++ second) := by
  intro newestFirst rest
  rw [List.append_assoc, before, after, List.reverse_append, List.append_assoc]

theorem flatMap {Part : Type} {parts : List Part} {written : Part → List Char}
    (each : ∀ part ∈ parts, Inside (written part)) : Inside (parts.flatMap written) := by
  induction parts with
  | nil => exact nil
  | cons part others inductionHypothesis =>
      rw [List.flatMap_cons]
      exact (each part List.mem_cons_self).append
        (inductionHypothesis fun other member => each other (List.mem_cons_of_mem part member))

/-- The search goes through everything but quotes and the closing mark. -/
theorem singleton {character : Char} (open_ : character ≠ '>') (double : character ≠ '"')
    (single : character ≠ '\'') : Inside [character] := by
  intro newestFirst rest
  rw [List.singleton_append, tagContent?, if_neg open_, if_neg (by simp [double, single])]
  rfl

/-- The search goes through a name. -/
theorem ofName {name : String} (named : isLegibleName name = true) : Inside name.toList := by
  have each : ∀ character ∈ name.toList, Inside [character] := fun character member =>
    have legible := isLegible_of_mem named member
    singleton (ne_of_isLegible legible (by decide))
      (ne_of_isLegible legible (by decide))
      (ne_of_isLegible legible (by decide))
  simpa using flatMap each

/-- In quotes the search goes on to the next quote of their kind. -/
theorem quoted {mark : Char} {inner : List Char} (quote : mark = '"' ∨ mark = '\'')
    (closed : mark ∉ inner) : Inside (mark :: inner ++ [mark]) := by
  have toQuote (newestFirst rest : List Char) :
      tagContent? newestFirst (some mark) (inner ++ mark :: rest) =
        tagContent? (mark :: inner.reverse ++ newestFirst) none rest := by
    induction inner generalizing newestFirst with
    | nil => rw [List.nil_append, tagContent?, if_pos rfl]; rfl
    | cons character others inductionHypothesis =>
        have different : character ≠ mark := fun same => closed (by simp [same])
        rw [List.cons_append, tagContent?, if_neg different,
          inductionHypothesis fun member => closed (List.mem_cons_of_mem character member)]
        simp
  intro newestFirst rest
  have shape : mark :: inner ++ [mark] ++ rest = mark :: (inner ++ mark :: rest) := by simp
  have notClosing : mark ≠ '>' := by
    rintro rfl
    revert quote
    decide
  rw [shape, tagContent?, if_neg notClosing, if_pos quote, toQuote]
  simp

/-- The search goes through an attribute, whatever its value. -/
theorem writeAttribute {pair : String × String} (named : isLegibleName pair.1 = true) :
    Inside (Node.writeAttribute pair) := by
  have shape : Node.writeAttribute pair =
      [' '] ++ pair.1.toList ++ ['='] ++ ('"' :: escape pair.2.toList ++ ['"']) := by
    simp [Node.writeAttribute]
  rw [shape]
  exact (((singleton (by decide) (by decide) (by decide)).append (ofName named)).append
    (singleton (by decide) (by decide) (by decide))).append
    (quoted (Or.inl rfl) (not_mem_escape (by decide) _))

/-- The search goes through all of a tag. -/
theorem writeTag {tag : Tag} (legible : tag.IsLegible) :
    Inside (Node.writeTag tag.name tag.attributes) :=
  (ofName legible.named).append
    (flatMap fun pair member => writeAttribute (legible.keyed pair member))

end Inside

/-- The search ends at the closing mark. -/
theorem tagContent?_of_inside {content : List Char} (inside : Inside content) (rest : List Char) :
    tagContent? [] none (content ++ '>' :: rest) = some (content, rest) := by
  rw [inside, tagContent?, if_pos rfl, List.append_nil, List.reverse_reverse]

/-- What begins with a name is a tag, and it goes on to the closing mark. -/
theorem scan_of_inside {name : String} (named : isLegibleName name = true) {others : List Char}
    (inside : Inside (name.toList ++ others)) (rest : List Char) :
    scan ('<' :: (name.toList ++ others ++ '>' :: rest)) =
      .found (startToken (name.toList ++ others)) rest := by
  have content := tagContent?_of_inside inside rest
  obtain ⟨first, tail, characters, legible⟩ := exists_cons_of_isLegibleName named
  have tag : first ∉ ['/', '!', '?'] := by
    intro mark
    apply (isLegible_iff first).1 legible
    exact List.mem_append_right [' ', '\t', '\r', '\n', '>', '"', '\'', '='] mark
  rw [characters, List.cons_append, List.cons_append] at content ⊢
  rw [scan, scanMarkup_tag tag, content]
  rfl

/-- What is written for a tag does not end with a slash. -/
theorem getLast?_writeTag {tag : Tag} (legible : tag.IsLegible) :
    (Node.writeTag tag.name tag.attributes).getLast? ≠ some '/' := by
  rw [Node.writeTag]
  rcases List.eq_nil_or_concat tag.attributes with none | ⟨others, last, attributes⟩
  · obtain ⟨before, character, characters, named⟩ := exists_concat_of_isLegibleName legible.named
    rw [none, List.flatMap_nil, List.append_nil, characters, List.getLast?_concat]
    exact fun same => ne_of_isLegible named (by decide) (Option.some.inj same)
  · rw [attributes, List.concat_eq_append, List.flatMap_append, List.flatMap_singleton,
      Node.writeAttribute, ← List.append_assoc, ← List.append_assoc, List.getLast?_concat]
    decide

/-- An opening tag is scanned as it was written. -/
theorem scan_opening {tag : Tag} (legible : tag.IsLegible) (rest : List Char) :
    scan ('<' :: (Node.writeTag tag.name tag.attributes ++ '>' :: rest)) =
      .found (.opening (Node.writeTag tag.name tag.attributes)) rest := by
  have opening : startToken (Node.writeTag tag.name tag.attributes) =
      .opening (Node.writeTag tag.name tag.attributes) :=
    if_neg (getLast?_writeTag legible)
  rw [← opening]
  exact scan_of_inside legible.named (Inside.writeTag legible) rest

/-- A tag without content is scanned as it was written. -/
theorem scan_standalone {tag : Tag} (legible : tag.IsLegible) (rest : List Char) :
    scan ('<' :: (Node.writeTag tag.name tag.attributes ++ '/' :: '>' :: rest)) =
      .found (.standalone (Node.writeTag tag.name tag.attributes)) rest := by
  have inside : Inside (Node.writeTag tag.name tag.attributes ++ ['/']) :=
    (Inside.writeTag legible).append (.singleton (by decide) (by decide) (by decide))
  have standalone : startToken (Node.writeTag tag.name tag.attributes ++ ['/']) =
      .standalone (Node.writeTag tag.name tag.attributes) := by
    simp [startToken]
  rw [← standalone]
  rw [Node.writeTag, List.append_assoc] at inside ⊢
  simpa using scan_of_inside legible.named inside rest

/-- A closing tag is scanned as it was written. -/
theorem scan_closing {name : String} (named : isLegibleName name = true) (rest : List Char) :
    scan ('<' :: '/' :: (name.toList ++ '>' :: rest)) = .found (.closing name.toList) rest := by
  rw [scan, scanMarkup, tagContent?_of_inside (.ofName named)]
  rfl

/-- A closing tag gives back the name that is written in it. -/
theorem closingName_of_isLegibleName {name : String} (named : isLegibleName name = true) :
    closingName name.toList = name.toList := by
  obtain ⟨others, last, characters, legible⟩ := exists_concat_of_isLegibleName named
  have wanted := not_isSpace_of_isLegible legible
  rw [closingName, characters, if_neg (by simp [wanted]), dropTrailing_eq_rdropWhile,
    List.rdropWhile_concat_neg _ _ _ (by simp [wanted])]

/-- An attribute is scanned as its key and its value, whatever follows it. -/
theorem scanAttribute_writeAttribute {pair : String × String} (named : isLegibleName pair.1 = true)
    (rest : List Char) :
    scanAttribute (Node.writeAttribute pair ++ rest) =
      .found pair.1.toList (escape pair.2.toList) rest := by
  obtain ⟨first, others, characters, legible⟩ := exists_cons_of_isLegibleName named
  have notSpace := not_isSpace_of_isLegible legible
  have within : ∀ character ∈ others, (!endsKey character) = true := by
    intro character member
    have legible : isLegible character = true :=
      isLegible_of_mem named (characters ▸ List.mem_cons_of_mem first member)
    simp [endsKey, not_isSpace_of_isLegible legible,
      ne_of_isLegible legible (show isLegible '=' = false by decide)]
  have begun : skipSpaces (Node.writeAttribute pair ++ rest) =
      first :: (others ++ '=' :: '"' :: (escape pair.2.toList ++ '"' :: rest)) := by
    have shape : Node.writeAttribute pair ++ rest =
        [' '] ++ first :: (others ++ '=' :: '"' :: (escape pair.2.toList ++ '"' :: rest)) := by
      simp [Node.writeAttribute, characters]
    rw [shape, skipSpaces, List.dropWhile_append_of_pos (by simp [isSpace]),
      List.dropWhile_cons_of_neg (by simp [notSpace])]
  have unquoted : '"' ∉ escape pair.2.toList := not_mem_escape (by decide) _
  rw [scanAttribute, begun]
  simp only [List.dropWhile_append_of_pos within, List.takeWhile_append_of_pos within]
  change scanValue (first :: (others ++ [])) ('"' :: (escape pair.2.toList ++ '"' :: rest)) = _
  rw [List.append_nil, scanValue, if_pos (Or.inl rfl), splitFirst?_append unquoted, characters]

/-- Attributes are read one after the other. -/
theorem readAttributes_eq (newestFirst : List (String × String)) (characters : List Char) :
    readAttributes newestFirst characters =
      match scanAttribute characters with
      | .finished => .ok newestFirst.reverse
      | .malformed => .error .malformedAttribute
      | .found key written rest =>
        if newestFirst.any fun earlier => earlier.1 == String.ofList key then
          .error .malformedAttribute
        else
          match unescape? written with
          | none => .error .badAttributeValue
          | some value =>
            readAttributes ((String.ofList key, String.ofList value) :: newestFirst) rest := by
  rw [readAttributes]
  split
  case h_1 finished => rw [finished]
  case h_2 malformed => rw [malformed]
  case h_3 found => exact found ▸ rfl

/-- Attributes are read under keys that differ, or one of two faults is reported. -/
theorem readAttributes_cases (newestFirst : List (String × String)) (characters : List Char)
    (distinct : (newestFirst.map Prod.fst).Nodup) :
    (∃ attributes, readAttributes newestFirst characters = .ok attributes ∧
      (attributes.map Prod.fst).Nodup) ∨
    readAttributes newestFirst characters = .error .malformedAttribute ∨
    readAttributes newestFirst characters = .error .badAttributeValue := by
  induction newestFirst, characters using readAttributes.induct with
  | case1 newestFirst characters finished =>
      rw [readAttributes_eq, finished]
      refine Or.inl ⟨_, rfl, ?_⟩
      rwa [List.map_reverse, (List.reverse_perm _).nodup_iff]
  | case2 newestFirst characters malformed =>
      rw [readAttributes_eq, malformed]
      exact Or.inr (Or.inl rfl)
  | case3 newestFirst characters key written rest found _ twice =>
      rw [readAttributes_eq, found]
      exact Or.inr (Or.inl (if_pos twice))
  | case4 newestFirst characters key written rest found _ fresh meaningless =>
      rw [readAttributes_eq, found]
      refine Or.inr (Or.inr ((if_neg fresh).trans ?_))
      rw [meaningless]
  | case5 newestFirst characters key written rest found _ fresh value meant inductionHypothesis =>
      have goesOn : readAttributes newestFirst characters =
          readAttributes ((String.ofList key, String.ofList value) :: newestFirst) rest := by
        rw [readAttributes_eq, found]
        refine (if_neg fresh).trans ?_
        rw [meant]
      rw [goesOn]
      apply inductionHypothesis
      refine List.nodup_cons.2 ⟨?_, distinct⟩
      intro earlier
      obtain ⟨pair, member, same⟩ := List.mem_map.1 earlier
      exact fresh (List.any_eq_true.2 ⟨pair, member, beq_iff_eq.2 same⟩)

/-- No two attributes of a tag have the same key. -/
def Tag.IsDistinct (tag : Tag) : Prop := (tag.attributes.map Prod.fst).Nodup

/-- A tag is read with distinct keys, or one of two faults is reported. -/
theorem Tag.read_cases (content : List Char) :
    (∃ tag, Tag.read content = .ok tag ∧ tag.IsDistinct) ∨
      Tag.read content = .error .malformedAttribute ∨
      Tag.read content = .error .badAttributeValue := by
  rw [Tag.read]
  rcases readAttributes_cases []
    (content.dropWhile fun character => !isSpace character) List.nodup_nil with
    ⟨attributes, read, distinct⟩ | read | read
  · rw [read]
    exact Or.inl ⟨_, rfl, distinct⟩
  · rw [read]
    exact Or.inr (Or.inl rfl)
  · rw [read]
    exact Or.inr (Or.inr rfl)

/-- A tag in which an attribute comes twice is not read. -/
theorem Tag.isDistinct_of_read {content : List Char} {tag : Tag}
    (read : Tag.read content = .ok tag) : tag.IsDistinct := by
  rcases Tag.read_cases content with ⟨_, readToo, distinct⟩ | readToo | readToo
  · obtain rfl := Except.ok.inj (read.symm.trans readToo)
    exact distinct
  · cases read.symm.trans readToo
  · cases read.symm.trans readToo

/-- An attribute that is read joins those before it, unless its key came earlier. -/
theorem readAttributes_of_found {characters rest value : List Char} {pair : String × String}
    {newestFirst : List (String × String)}
    (scanned : scanAttribute characters = .found pair.1.toList value rest)
    (meant : unescape? value = some pair.2.toList)
    (fresh : ∀ earlier ∈ newestFirst, earlier.1 ≠ pair.1) :
    readAttributes newestFirst characters = readAttributes (pair :: newestFirst) rest := by
  have fresh : ¬ (newestFirst.any fun earlier =>
      earlier.1 == String.ofList pair.1.toList) = true := by
    rw [String.ofList_toList, List.any_eq_true]
    rintro ⟨earlier, member, same⟩
    exact fresh earlier member (eq_of_beq same)
  rw [readAttributes_eq, scanned]
  refine (if_neg fresh).trans ?_
  simp only [meant, String.ofList_toList]

/-- The attributes of a tag are read back in order. -/
theorem readAttributes_write (attributes newestFirst : List (String × String))
    (keyed : ∀ pair ∈ attributes, isLegibleName pair.1 = true)
    (distinct : ((newestFirst.reverse ++ attributes).map Prod.fst).Nodup) :
    readAttributes newestFirst (attributes.flatMap Node.writeAttribute) =
      .ok (newestFirst.reverse ++ attributes) := by
  induction attributes generalizing newestFirst with
  | nil =>
      rw [List.flatMap_nil, List.append_nil, readAttributes]
      rfl
  | cons pair others inductionHypothesis =>
      have fresh : ∀ earlier ∈ newestFirst, earlier.1 ≠ pair.1 := by
        intro earlier member same
        rw [List.map_append, List.nodup_append] at distinct
        exact distinct.2.2 earlier.1 (List.mem_map_of_mem (List.mem_reverse.2 member)) pair.1
          List.mem_cons_self same
      have moved : newestFirst.reverse ++ pair :: others = (pair :: newestFirst).reverse ++ others := by
        simp
      rw [List.flatMap_cons, readAttributes_of_found
        (scanAttribute_writeAttribute (keyed pair List.mem_cons_self) _) (unescape?_escape _) fresh,
        inductionHypothesis (pair :: newestFirst)
          (fun other member => keyed other (List.mem_cons_of_mem pair member)) (moved ▸ distinct),
        moved]

/-- A tag is read back from what is written for it. -/
theorem Tag.read_writeTag {tag : Tag} (legible : tag.IsLegible) :
    Tag.read (Node.writeTag tag.name tag.attributes) = .ok tag := by
  have unspaced : ∀ character ∈ tag.name.toList, (!isSpace character) = true := by
    intro character member
    simp [not_isSpace_of_isLegible (isLegible_of_mem legible.named member)]
  have spaced : ∀ attributes : List (String × String),
      (attributes.flatMap Node.writeAttribute).takeWhile (!isSpace ·) = [] ∧
      (attributes.flatMap Node.writeAttribute).dropWhile (!isSpace ·) =
        attributes.flatMap Node.writeAttribute := by
    intro attributes
    cases attributes <;> exact ⟨rfl, rfl⟩
  have name : tagName (Node.writeTag tag.name tag.attributes) = tag.name := by
    rw [tagName, Node.writeTag, List.takeWhile_append_of_pos unspaced, (spaced _).1,
      List.append_nil, String.ofList_toList]
  have attributes := readAttributes_write tag.attributes [] legible.keyed
    (by simpa using legible.distinct)
  rw [Tag.read, name, Node.writeTag, List.dropWhile_append_of_pos unspaced, (spaced _).2, attributes]
  rfl

end SignOn.Markup
