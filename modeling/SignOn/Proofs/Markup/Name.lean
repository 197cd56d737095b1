import SignOn.Markup.Document
import SignOn.Proofs.Text.Blank

/-
This file shows how a full name falls into its parts, and which attributes declare a namespace.
-/

namespace SignOn.Markup

open Text

/-- A full name has a part before its first colon and one behind it, or no colon at all. -/
inductive SplitsAs : String → Option String → String → Prop
  | short {name : String} (colonless : ':' ∉ name.toList) : SplitsAs name none name
  | long {before behind : String} (colonless : ':' ∉ before.toList) :
      SplitsAs (before ++ ":" ++ behind) (some before) behind

theorem toList_joined (before behind : String) :
    (before ++ ":" ++ behind).toList = before.toList ++ ':' :: behind.toList := by
  rw [String.toList_append, String.toList_append, List.append_assoc]
  rfl

/-- A name is split in the only way in which it can be. -/
theorem SplitsAs.splitName_eq {full behind : String} {before : Option String}
    (splits : SplitsAs full before behind) : splitName full = (before, behind) := by
  cases splits with
  | short colonless => rw [splitName, splitFirst?_eq_none colonless]
  | long colonless =>
      rw [splitName, toList_joined, splitFirst?_append colonless]
      simp only [String.ofList_toList]

theorem splitName_joined (before behind : String) (colonless : ':' ∉ before.toList) :
    splitName (before ++ ":" ++ behind) = (some before, behind) :=
  (SplitsAs.long colonless).splitName_eq

/-- Every name can be split. -/
theorem exists_splitsAs (full : String) : ∃ before behind, SplitsAs full before behind := by
  by_cases colon : ':' ∈ full.toList
  · obtain ⟨front, back, characters, colonless⟩ := List.eq_append_cons_of_mem colon
    have joined : full = String.ofList front ++ ":" ++ String.ofList back := by
      rw [← String.toList_inj, toList_joined, String.toList_ofList, String.toList_ofList,
        characters]
    rw [joined]
    exact ⟨_, _, .long (by rwa [String.toList_ofList])⟩
  · exact ⟨none, full, .short colon⟩

/-- Every full name is split in this way and in no other. -/
theorem splitsAs_iff {full behind : String} {before : Option String} :
    SplitsAs full before behind ↔ splitName full = (before, behind) := by
  constructor
  · exact SplitsAs.splitName_eq
  · intro split
    obtain ⟨before', behind', splits⟩ := exists_splitsAs full
    obtain ⟨rfl, rfl⟩ := Prod.mk.inj (splits.splitName_eq.symm.trans split)
    exact splits

/-- The parts of a name are those that it is split into. -/
theorem splitsAs_splitName (full : String) :
    SplitsAs full (splitName full).1 (splitName full).2 := splitsAs_iff.2 rfl

/-- The attribute that declares a namespace for names with a part before the colon, or without. -/
def declarationName : Option String → String
  | none => "xmlns"
  | some before => "xmlns:" ++ before

/-- A declaration of a prefix has the prefix for its local part. -/
theorem splitName_declarationName (before : String) :
    splitName (declarationName (some before)) = (some "xmlns", before) :=
  splitName_joined "xmlns" before (by decide)

/-- An attribute declares a namespace exactly when it has one of these names. -/
theorem declaration?_eq_some_iff {name : String} {declared : Option String} :
    declaration? name = some declared ↔ name = declarationName declared := by
  rw [declaration?]
  by_cases plain : name = "xmlns"
  · rw [if_pos plain, Option.some.injEq, plain]
    constructor
    · rintro rfl
      rfl
    · intro named
      cases declared with
      | none => rfl
      | some before =>
          have split := splitName_declarationName before
          rw [← named] at split
          have colonless : splitName "xmlns" = (none, "xmlns") :=
            SplitsAs.splitName_eq (.short (by decide))
          rw [colonless] at split
          cases split
  · rw [if_neg plain]
    constructor
    · intro found
      split at found
      · rename_i before split
        obtain rfl := Option.some.inj found
        have splits := splitsAs_iff.2 split
        cases splits with
        | long => rfl
      · cases found
    · rintro rfl
      cases declared with
      | none => exact absurd rfl plain
      | some before =>
          rw [splitName_declarationName]
          rfl

/-- What declares nothing has not the name of a declaration. -/
theorem declaration?_eq_none_iff {name : String} :
    declaration? name = none ↔ ∀ declared, name ≠ declarationName declared := by
  rw [Option.eq_none_iff_forall_ne_some]
  exact forall_congr' fun declared => not_congr declaration?_eq_some_iff

end SignOn.Markup
