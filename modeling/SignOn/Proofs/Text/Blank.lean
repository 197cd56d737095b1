import Mathlib.Data.List.DropRight
import SignOn.Text.Blank

/-
This file shows what stripping leaves of a text.
-/

namespace SignOn.Text

theorem dropTrailing_eq_rdropWhile (unwanted : Char → Bool) (characters : List Char) :
    dropTrailing unwanted characters = characters.rdropWhile unwanted := rfl

/-- Nothing is left exactly when every character is unwanted. -/
theorem strip_eq_nil_iff (unwanted : Char → Bool) (characters : List Char) :
    strip unwanted characters = [] ↔ characters.all unwanted = true := by
  rw [strip, dropTrailing_eq_rdropWhile, List.rdropWhile_eq_nil_iff, List.all_eq_true]
  constructor
  · intro rest
    have unwantedRest := List.dropWhile_eq_nil_iff.2 rest
    rw [List.dropWhile_idempotent] at unwantedRest
    exact List.dropWhile_eq_nil_iff.1 unwantedRest
  · intro every character member
    exact every character (List.dropWhile_subset unwanted member)

/-- The first character that is left is wanted. -/
theorem dropWhile_strip (unwanted : Char → Bool) (characters : List Char) :
    (strip unwanted characters).dropWhile unwanted = strip unwanted characters := by
  cases stripped : strip unwanted characters with
  | nil => rfl
  | cons first others =>
      obtain ⟨trailing, equal⟩ : strip unwanted characters <+: characters.dropWhile unwanted :=
        List.rdropWhile_prefix unwanted _
      have wanted := List.head?_dropWhile_not unwanted characters
      rw [← equal, stripped] at wanted
      exact List.dropWhile_cons_of_neg (by simpa using wanted)

/-- Nothing is left to be stripped a second time. -/
theorem strip_strip (unwanted : Char → Bool) (characters : List Char) :
    strip unwanted (strip unwanted characters) = strip unwanted characters := by
  calc strip unwanted (strip unwanted characters)
      = (strip unwanted characters).rdropWhile unwanted := by
        rw [strip, dropWhile_strip, dropTrailing_eq_rdropWhile]
    _ = strip unwanted characters := by
        rw [strip, dropTrailing_eq_rdropWhile, List.rdropWhile_idempotent]

/-- Unwanted characters before a text do not count. -/
theorem strip_append_of_all_left {unwanted : Char → Bool} {leading : List Char}
    (every : ∀ character ∈ leading, unwanted character = true) (characters : List Char) :
    strip unwanted (leading ++ characters) = strip unwanted characters := by
  rw [strip, List.dropWhile_append_of_pos every, strip]

/-- Unwanted characters behind a text do not count. -/
theorem strip_append_of_all_right {unwanted : Char → Bool} {trailing : List Char}
    (every : ∀ character ∈ trailing, unwanted character = true) (characters : List Char) :
    strip unwanted (characters ++ trailing) = strip unwanted characters := by
  rw [strip, strip, List.dropWhile_append]
  split
  · rename_i nothing
    rw [List.dropWhile_eq_nil_iff.2 every, List.isEmpty_iff.1 nothing]
  · rw [dropTrailing, List.reverse_append, List.dropWhile_append_of_pos (by simpa using every),
      dropTrailing]

/-- What is left and what is dropped behind it make up the rest from the first wanted character on. -/
theorem strip_append_rtakeWhile (unwanted : Char → Bool) (characters : List Char) :
    strip unwanted characters ++ (characters.dropWhile unwanted).rtakeWhile unwanted =
      characters.dropWhile unwanted := by
  rw [strip, dropTrailing_eq_rdropWhile, List.rdropWhile_append_rtakeWhile]

/-- A text is what is dropped at its beginning, what is left and what is dropped at its end. -/
theorem takeWhile_append_strip (unwanted : Char → Bool) (characters : List Char) :
    characters.takeWhile unwanted ++ (strip unwanted characters ++
      (characters.dropWhile unwanted).rtakeWhile unwanted) = characters := by
  rw [strip_append_rtakeWhile, List.takeWhile_append_dropWhile]

/-- What is stripped of fewer kinds of characters first loses nothing else in the end. -/
theorem strip_strip_of_imp {fewer more : Char → Bool}
    (covered : ∀ character, fewer character = true → more character = true)
    (characters : List Char) :
    strip more (strip fewer characters) = strip more characters := by
  have leading : ∀ character ∈ characters.takeWhile fewer, more character = true :=
    fun character member => covered character (List.mem_takeWhile_imp member)
  have trailing : ∀ character ∈ (characters.dropWhile fewer).rtakeWhile fewer,
      more character = true :=
    fun character member => covered character (List.mem_rtakeWhile_imp member)
  calc strip more (strip fewer characters)
      = strip more (characters.takeWhile fewer ++
          (strip fewer characters ++ (characters.dropWhile fewer).rtakeWhile fewer)) := by
        rw [strip_append_of_all_left leading, strip_append_of_all_right trailing]
    _ = strip more characters := by rw [takeWhile_append_strip]

theorem isEmpty_dropWhile {unwanted : Char → Bool} {characters : List Char}
    (wanted : ¬ ∀ character ∈ characters, unwanted character = true) :
    (characters.dropWhile unwanted).isEmpty = false := by
  rw [Bool.eq_false_iff, ne_eq, List.isEmpty_iff, List.dropWhile_eq_nil_iff]
  exact wanted

/-- Nothing is dropped in front of a text that keeps something. -/
theorem dropTrailing_append {unwanted : Char → Bool} {second : List Char}
    (wanted : ¬ ∀ character ∈ second, unwanted character = true) (first : List Char) :
    dropTrailing unwanted (first ++ second) = first ++ dropTrailing unwanted second := by
  have left : (second.reverse.dropWhile unwanted).isEmpty = false :=
    isEmpty_dropWhile (by simpa using wanted)
  rw [dropTrailing, dropTrailing, List.reverse_append, List.dropWhile_append, left]
  simp

/-- Between two texts that both keep something, what is dropped of either on its own is kept. -/
theorem strip_append_of_wanted {unwanted : Char → Bool} {first second : List Char}
    (wanted : ¬ ∀ character ∈ first, unwanted character = true)
    (wantedToo : ¬ ∀ character ∈ second, unwanted character = true) :
    strip unwanted (first ++ second) =
      strip unwanted first ++ ((first.dropWhile unwanted).rtakeWhile unwanted ++
        second.takeWhile unwanted) ++ strip unwanted second := by
  have ends : ¬ ∀ character ∈ second.dropWhile unwanted, unwanted character = true := by
    intro every
    refine wantedToo (List.dropWhile_eq_nil_iff.1 ?_)
    rw [← List.dropWhile_idempotent, List.dropWhile_eq_nil_iff.2 every]
  calc strip unwanted (first ++ second)
      = dropTrailing unwanted (first.dropWhile unwanted ++
          (second.takeWhile unwanted ++ second.dropWhile unwanted)) := by
        rw [strip, List.dropWhile_append, isEmpty_dropWhile wanted, List.takeWhile_append_dropWhile]
        rfl
    _ = first.dropWhile unwanted ++ second.takeWhile unwanted ++ strip unwanted second := by
        rw [← List.append_assoc, dropTrailing_append ends, strip]
    _ = strip unwanted first ++ (first.dropWhile unwanted).rtakeWhile unwanted ++
          second.takeWhile unwanted ++ strip unwanted second := by
        rw [strip_append_rtakeWhile]
    _ = _ := by rw [List.append_assoc (strip unwanted first)]

/--
Two texts together keep what each of them keeps and unwanted characters in between, which stood where
the first one ends and the second one begins.
-/
theorem strip_append (unwanted : Char → Bool) (first second : List Char) :
    ∃ middle, strip unwanted (first ++ second) =
        strip unwanted first ++ middle ++ strip unwanted second ∧
      (∀ character ∈ middle, unwanted character = true) ∧
      ((∀ last ∈ first.getLast?, unwanted last = false) →
        (∀ next ∈ second.head?, unwanted next = false) → middle = []) := by
  by_cases nothing : ∀ character ∈ first, unwanted character = true
  · refine ⟨[], ?_, nofun, fun _ _ => rfl⟩
    rw [strip_append_of_all_left nothing,
      (strip_eq_nil_iff unwanted first).2 (List.all_eq_true.2 nothing)]
    rfl
  by_cases nothingElse : ∀ character ∈ second, unwanted character = true
  · refine ⟨[], ?_, nofun, fun _ _ => rfl⟩
    rw [strip_append_of_all_right nothingElse,
      (strip_eq_nil_iff unwanted second).2 (List.all_eq_true.2 nothingElse)]
    simp
  refine ⟨_, strip_append_of_wanted nothing nothingElse, ?_, ?_⟩
  · intro character member
    exact (List.mem_append.1 member).elim List.mem_rtakeWhile_imp List.mem_takeWhile_imp
  · intro lastWanted nextWanted
    have noneBefore : (first.dropWhile unwanted).rtakeWhile unwanted = [] := by
      rw [List.rtakeWhile_eq_nil_iff]
      intro nonempty
      rw [(List.dropWhile_suffix unwanted).getLast nonempty, Bool.not_eq_true]
      exact lastWanted _ (List.getLast?_eq_some_getLast _)
    have noneBehind : second.takeWhile unwanted = [] := by
      cases second with
      | nil => rfl
      | cons next others =>
          exact List.takeWhile_cons_of_neg (by simpa using nextWanted next rfl)
    rw [noneBefore, noneBehind, List.append_nil]

/-- What is stripped anyway may be left out before. -/
theorem filter_strip {unwanted kept : Char → Bool}
    (covered : ∀ character, kept character = false → unwanted character = true)
    (characters : List Char) :
    (strip unwanted characters).filter kept = strip unwanted (characters.filter kept) := by
  have leading (characters : List Char) : (characters.dropWhile unwanted).filter kept =
      (characters.filter kept).dropWhile unwanted := by
    induction characters with
    | nil => rfl
    | cons character others inductionHypothesis =>
        cases keeps : kept character with
        | false =>
            rw [List.dropWhile_cons_of_pos (covered character keeps), inductionHypothesis,
              List.filter_cons_of_neg (by simp [keeps])]
        | true =>
            rw [List.filter_cons_of_pos keeps]
            by_cases drops : unwanted character = true
            · rw [List.dropWhile_cons_of_pos drops, List.dropWhile_cons_of_pos drops,
                inductionHypothesis]
            · rw [List.dropWhile_cons_of_neg drops, List.dropWhile_cons_of_neg drops,
                List.filter_cons_of_pos keeps]
  rw [strip, strip, dropTrailing, dropTrailing, List.filter_reverse, leading, List.filter_reverse,
    leading]

/-- A trimmed text has nothing left to trim. -/
@[simp] theorem trim_trim (text : String) : trim (trim text) = trim text := by
  simp only [trim, String.toList_ofList, strip_strip]

/-- Trimming leaves nothing of a blank text and something of any other. -/
theorem trim_eq_empty_iff (text : String) : trim text = "" ↔ isBlankText text = true := by
  rw [isBlankText, ← strip_eq_nil_iff, trim, ← String.toList_inj, String.toList_ofList]
  simp

/-- A text without blanks is trimmed. -/
theorem trim_of_unbroken {text : String}
    (unbroken : ∀ character ∈ text.toList, isBlank character = false) : trim text = text := by
  have kept (characters : List Char) (unbroken : ∀ character ∈ characters, isBlank character = false) :
      characters.dropWhile isBlank = characters := by
    cases characters with
    | nil => rfl
    | cons first others =>
        exact List.dropWhile_cons_of_neg (by simp [unbroken first List.mem_cons_self])
  rw [trim, strip, kept _ unbroken, dropTrailing, kept _ (by simpa using unbroken),
    List.reverse_reverse, String.ofList_toList]

theorem bne_of_not_mem {separator : Char} {characters : List Char}
    (absent : separator ∉ characters) : ∀ character ∈ characters, (character != separator) = true := by
  intro character member
  rw [bne_iff_ne]
  rintro rfl
  exact absent member

/-- A list without the separator is not cut. -/
theorem splitFirst?_eq_none {separator : Char} {characters : List Char}
    (absent : separator ∉ characters) : splitFirst? separator characters = none := by
  rw [splitFirst?, List.dropWhile_eq_nil_iff.2 (bne_of_not_mem absent)]

/-- A list is cut at the separator behind a part that has none. -/
theorem splitFirst?_append {separator : Char} {first : List Char} (absent : separator ∉ first)
    (rest : List Char) : splitFirst? separator (first ++ separator :: rest) = some (first, rest) := by
  have unequal := bne_of_not_mem absent
  rw [splitFirst?, List.dropWhile_append_of_pos unequal, List.takeWhile_append_of_pos unequal]
  simp

end SignOn.Text
