import SignOn.Markup.Reference
import SignOn.Markup.Token
import SignOn.Proofs.Text.Blank

/-
This file shows that text is read back from its references, which keep nothing of its markup.
-/

namespace SignOn.Markup

open SignOn.Text

theorem escape_cons (character : Char) (others : List Char) :
    escape (character :: others) = escapeCharacter character ++ escape others := by
  rw [escape, escape, List.flatMap_cons]

theorem escape_append (first second : List Char) :
    escape (first ++ second) = escape first ++ escape second := by
  rw [escape, escape, escape, List.flatMap_append]

theorem escape_singleton (character : Char) : escape [character] = escapeCharacter character := by
  rw [escape, List.flatMap_singleton]

/-- The escape of a character is not empty. -/
theorem escapeCharacter_ne_nil (character : Char) : escapeCharacter character ≠ [] := by
  unfold escapeCharacter
  split <;> exact List.cons_ne_nil _ _

/-- The ampersand apart, a character that could be taken for markup is not written. -/
theorem not_mem_escape {mark : Char} (isMark : mark ∈ ['<', '>', '\'', '"'])
    (characters : List Char) : mark ∉ escape characters := by
  intro member
  obtain ⟨source, -, written⟩ := List.mem_flatMap.1 member
  unfold escapeCharacter at written
  simp only [List.mem_cons, List.not_mem_nil, or_false] at isMark
  split at written
  case h_6 notLess notGreater _ notSingle notDouble =>
    obtain rfl := List.mem_singleton.1 written
    rcases isMark with rfl | rfl | rfl | rfl
    · exact notLess rfl
    · exact notGreater rfl
    · exact notSingle rfl
    · exact notDouble rfl
  all_goals rcases isMark with rfl | rfl | rfl | rfl <;> exact absurd written (by decide)

/-- The reference of a character is replaced by the character. -/
theorem unescapeOnto_escapeCharacter (character : Char) (newestFirst rest : List Char) :
    unescapeOnto newestFirst none (escapeCharacter character ++ rest) =
      unescapeOnto (character :: newestFirst) none rest := by
  unfold escapeCharacter
  split
  case h_6 _ _ notAmpersand _ _ =>
    rw [List.singleton_append, unescapeOnto]
    exact if_neg notAmpersand
  all_goals rfl

/-- What is escaped comes back behind what was read before. -/
theorem unescapeOnto_escape (characters newestFirst : List Char) :
    unescapeOnto newestFirst none (escape characters) =
      some (newestFirst.reverse ++ characters) := by
  induction characters generalizing newestFirst with
  | nil => rw [List.append_nil]; rfl
  | cons character others inductionHypothesis =>
      rw [escape_cons, unescapeOnto_escapeCharacter, inductionHypothesis,
        List.reverse_cons, List.append_assoc, List.singleton_append]

/-- Text is read back from its references. -/
theorem unescape?_escape (characters : List Char) : unescape? (escape characters) = some characters :=
  unescapeOnto_escape characters []

theorem eq_of_isSpace {character : Char} (space : isSpace character = true) :
    character = ' ' ∨ character = '\t' ∨ character = '\r' ∨ character = '\n' := by
  simpa [isSpace, or_assoc] using space

theorem isBlank_of_isSpace {character : Char} (space : isSpace character = true) :
    isBlank character = true := by
  rcases eq_of_isSpace space with rfl | rfl | rfl | rfl <;> decide

/-- Trimming takes the spaces that reading has left, and what reading takes it would have taken. -/
theorem trim_strip_isSpace (text : String) :
    trim (String.ofList (strip isSpace text.toList)) = trim text := by
  rw [trim, String.toList_ofList, strip_strip_of_imp (fun _ => isBlank_of_isSpace), trim]

/-- A space stands for itself. -/
theorem escapeCharacter_of_isSpace {character : Char} (space : isSpace character = true) :
    escapeCharacter character = [character] := by
  rcases eq_of_isSpace space with rfl | rfl | rfl | rfl <;> rfl

/-- What is written for any other character neither begins nor ends with a space. -/
theorem escapeCharacter_of_not_isSpace {character : Char} (wanted : isSpace character = false) :
    (∃ first others, escapeCharacter character = first :: others ∧ isSpace first = false) ∧
      ∃ others last, escapeCharacter character = others ++ [last] ∧ isSpace last = false := by
  unfold escapeCharacter
  split
  case h_6 => exact ⟨⟨character, [], rfl, wanted⟩, [], character, rfl, wanted⟩
  · exact ⟨⟨'&', ['l', 't', ';'], rfl, rfl⟩, ['&', 'l', 't'], ';', rfl, rfl⟩
  · exact ⟨⟨'&', ['g', 't', ';'], rfl, rfl⟩, ['&', 'g', 't'], ';', rfl, rfl⟩
  · exact ⟨⟨'&', ['a', 'm', 'p', ';'], rfl, rfl⟩, ['&', 'a', 'm', 'p'], ';', rfl, rfl⟩
  · exact ⟨⟨'&', ['a', 'p', 'o', 's', ';'], rfl, rfl⟩, ['&', 'a', 'p', 'o', 's'], ';', rfl, rfl⟩
  · exact ⟨⟨'&', ['q', 'u', 'o', 't', ';'], rfl, rfl⟩, ['&', 'q', 'u', 'o', 't'], ';', rfl, rfl⟩

/-- Escapes leave the spaces before a text as they are. -/
theorem dropWhile_isSpace_escape (characters : List Char) :
    (escape characters).dropWhile isSpace = escape (characters.dropWhile isSpace) := by
  induction characters with
  | nil => rfl
  | cons character others inductionHypothesis =>
      rw [escape_cons]
      by_cases space : isSpace character = true
      · rw [escapeCharacter_of_isSpace space, List.singleton_append, List.dropWhile_cons_of_pos space,
          List.dropWhile_cons_of_pos space, inductionHypothesis]
      · obtain ⟨⟨first, tail, written, wanted⟩, -⟩ :=
          escapeCharacter_of_not_isSpace (by simpa using space)
        rw [List.dropWhile_cons_of_neg space, escape_cons, written, List.cons_append,
          List.dropWhile_cons_of_neg (by simp [wanted])]

/-- Escapes leave the spaces behind a text as they are. -/
theorem dropTrailing_isSpace_escape (characters : List Char) :
    dropTrailing isSpace (escape characters) = escape (dropTrailing isSpace characters) := by
  rw [dropTrailing_eq_rdropWhile, dropTrailing_eq_rdropWhile]
  induction characters using List.reverseRecOn with
  | nil => rfl
  | append_singleton others character inductionHypothesis =>
      rw [escape_append, escape_singleton]
      by_cases space : isSpace character = true
      · rw [escapeCharacter_of_isSpace space, List.rdropWhile_concat_pos _ _ _ space,
          List.rdropWhile_concat_pos _ _ _ space, inductionHypothesis]
      · obtain ⟨-, tail, last, written, wanted⟩ :=
          escapeCharacter_of_not_isSpace (by simpa using space)
        rw [List.rdropWhile_concat_neg _ _ _ space, written, ← List.append_assoc,
          List.rdropWhile_concat_neg _ _ _ (by simp [wanted]), List.append_assoc, ← written,
          escape_append, escape_singleton]

/-- Spaces around a text are the same before and after references are written. -/
theorem strip_isSpace_escape (characters : List Char) :
    strip isSpace (escape characters) = escape (strip isSpace characters) := by
  rw [strip, dropWhile_isSpace_escape, dropTrailing_isSpace_escape, ← strip]

/-- A text ends inside of a reference when no semicolon stands behind its last ampersand. -/
def EndsInReference (characters : List Char) : Prop :=
  ∃ before name, characters = before ++ '&' :: name ∧ ';' ∉ name

/-- What the spaces around a text are does not tell whether it ends inside of a reference. -/
theorem EndsInReference.of_strip {characters : List Char}
    (ends : EndsInReference (strip isSpace characters)) : EndsInReference characters := by
  obtain ⟨before, name, kept, unended⟩ := ends
  refine ⟨characters.takeWhile isSpace ++ before,
    name ++ (characters.dropWhile isSpace).rtakeWhile isSpace, ?_, ?_⟩
  · conv_lhs => rw [← takeWhile_append_strip isSpace characters, kept]
    simp
  · rw [List.mem_append, not_or]
    exact ⟨unended, fun member => absurd (List.mem_rtakeWhile_imp member) (by decide)⟩

theorem not_endsInReference_of_not_mem {characters : List Char} (absent : '&' ∉ characters) :
    ¬ EndsInReference characters := by
  rintro ⟨before, name, rfl, -⟩
  exact absent (by simp)

/-- A text that ends outside of references still does so without its first character. -/
theorem not_endsInReference_of_cons {character : Char} {others : List Char}
    (closed : ¬ EndsInReference (character :: others)) : ¬ EndsInReference others := by
  rintro ⟨before, name, rfl, unended⟩
  exact closed ⟨character :: before, name, rfl, unended⟩

/-- The characters that are meant already stand before those that are meant next. -/
theorem unescapeOnto_eq_map (newestFirst : List Char) (openName : Option (List Char))
    (characters : List Char) :
    unescapeOnto newestFirst openName characters =
      (unescapeOnto [] openName characters).map (newestFirst.reverse ++ ·) := by
  induction characters generalizing newestFirst openName with
  | nil => cases openName <;> simp [unescapeOnto]
  | cons character others inductionHypothesis =>
      unfold unescapeOnto
      cases openName with
      | none =>
          simp only
          split
          · exact inductionHypothesis _ _
          · rw [inductionHypothesis, inductionHypothesis [character], Option.map_map]
            simp [Function.comp_def]
      | some name =>
          simp only
          split
          · cases referenced? name.reverse with
            | none => rfl
            | some meant =>
                simp only
                rw [inductionHypothesis, inductionHypothesis [meant], Option.map_map]
                simp [Function.comp_def]
          · split
            · rfl
            · exact inductionHypothesis _ _

/-- A name that is open at the beginning must be closed before the place where a text is cut. -/
theorem unescapeOnto_append {first : List Char} (closed : ¬ EndsInReference first)
    {openName : Option (List Char)} (named : openName.isSome = true → ';' ∈ first)
    (newestFirst second : List Char) :
    unescapeOnto newestFirst openName (first ++ second) =
      (unescapeOnto newestFirst openName first).bind fun meant =>
        (unescape? second).map (meant ++ ·) := by
  induction first generalizing newestFirst openName with
  | nil =>
      cases openName with
      | none => exact unescapeOnto_eq_map newestFirst none second
      | some name => simp at named
  | cons character others inductionHypothesis =>
      have closedBehind := not_endsInReference_of_cons closed
      rw [List.cons_append]
      unfold unescapeOnto
      cases openName with
      | none =>
          simp only
          split
          · rename_i begins
            subst begins
            refine inductionHypothesis closedBehind (fun _ => ?_) _
            by_contra unended
            exact closed ⟨[], others, rfl, unended⟩
          · exact inductionHypothesis closedBehind (by simp) _
      | some name =>
          simp only
          split
          · cases referenced? name.reverse with
            | none => rfl
            | some meant => exact inductionHypothesis closedBehind (by simp) _
          · rename_i goesOn
            split
            · rfl
            · refine inductionHypothesis closedBehind (fun _ => ?_) _
              exact (List.mem_cons.1 (named rfl)).resolve_left (Ne.symm goesOn)

/-- A text that is cut outside of references means what its two parts mean. -/
theorem unescape?_append {first : List Char} (closed : ¬ EndsInReference first)
    (second : List Char) :
    unescape? (first ++ second) =
      (unescape? first).bind fun meant => (unescape? second).map (meant ++ ·) :=
  unescapeOnto_append closed (by simp) [] second

/-- Spaces need no escapes. -/
theorem escape_of_spaces {characters : List Char}
    (spaces : ∀ character ∈ characters, isSpace character = true) :
    escape characters = characters := by
  induction characters with
  | nil => rfl
  | cons character others inductionHypothesis =>
      obtain ⟨space, spaces⟩ := List.forall_mem_cons.1 spaces
      rw [escape_cons, escapeCharacter_of_isSpace space, inductionHypothesis spaces]
      rfl

/-- Spaces before a text stand for themselves. -/
theorem unescape?_spaces_append {spaces : List Char}
    (blank : ∀ character ∈ spaces, isSpace character = true) (characters : List Char) :
    unescape? (spaces ++ characters) = (unescape? characters).map (spaces ++ ·) := by
  have absent : '&' ∉ spaces := fun member => absurd (blank '&' member) (by decide)
  rw [unescape?_append (not_endsInReference_of_not_mem absent)]
  nth_rewrite 1 [← escape_of_spaces blank]
  rw [unescape?_escape, Option.bind_some]

/--
A run of text that is cut outside of references means what its two parts mean, with spaces in between
that stood at the cut.
-/
theorem exists_of_unescape?_strip_append {first second characters : List Char}
    (closed : ¬ EndsInReference first)
    (meant : unescape? (strip isSpace (first ++ second)) = some characters) :
    ∃ before spaces after, characters = before ++ spaces ++ after ∧
      unescape? (strip isSpace first) = some before ∧
      unescape? (strip isSpace second) = some after ∧
      (∀ character ∈ spaces, isSpace character = true) ∧
      ((∀ last ∈ first.getLast?, isSpace last = false) →
        (∀ next ∈ second.head?, isSpace next = false) → spaces = []) := by
  obtain ⟨spaces, kept, blank, tight⟩ := strip_append isSpace first second
  rw [kept, List.append_assoc, unescape?_append fun ends => closed ends.of_strip,
    unescape?_spaces_append blank] at meant
  simp only [Option.map_map] at meant
  obtain ⟨before, meantBefore, meant⟩ := Option.bind_eq_some_iff.1 meant
  obtain ⟨after, meantAfter, whole⟩ := Option.map_eq_some_iff.1 meant
  refine ⟨before, spaces, after, ?_, meantBefore, meantAfter, blank, tight⟩
  rw [List.append_assoc]
  exact whole.symm

end SignOn.Markup
