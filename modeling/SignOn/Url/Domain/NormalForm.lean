import SignOn.Url.Domain.Table.Composition

/-
This file writes every character with its marks in one way only.
-/

namespace SignOn.Url.Domain

open SignOn.Text

/-- A composite stands for a character and what follows it. -/
structure Composite where
  whole : Nat
  base : Nat
  follower : Nat
  deriving DecidableEq, Repr

namespace Composite

def ofStretch? (stretch : Stretch) : Option Composite :=
  match stretch.values with
  | [base, follower] => some ⟨stretch.first, base, follower⟩
  | _ => none

def all : Array Composite := Table.composites.toArray.filterMap ofStretch?

def firstSyllable : Nat := 0xAC00

def firstLead : Nat := 0x1100

def firstVowel : Nat := 0x1161

/-- A syllable without a tail counts as one with the tail before the first one. -/
def tailBase : Nat := 0x11A7

/-- There are nineteen leads, twenty-one vowels and twenty-seven tails. -/
def isSyllable (code : Nat) : Bool :=
  firstSyllable ≤ code && code < firstSyllable + 19 * 21 * 28

/-- A Korean syllable without a tail stands for its lead and its vowel, and one with a tail for the one without it. -/
def ofSyllable (code : Nat) : Composite :=
  let index := code - firstSyllable
  if index % 28 = 0 then
    ⟨code, firstLead + index / 28 / 21, firstVowel + index / 28 % 21⟩
  else ⟨code, code - index % 28, tailBase + index % 28⟩

def ofWhole? (code : Nat) : Option Composite :=
  if isSyllable code then some (ofSyllable code)
  else (Table.composites.find? code).bind ofStretch?

def ofParts? (base follower : Nat) : Option Composite :=
  if firstLead ≤ base ∧ base < firstLead + 19 ∧ firstVowel ≤ follower ∧ follower < firstVowel + 21 then
    some
      ⟨firstSyllable + ((base - firstLead) * 21 + (follower - firstVowel)) * 28, base, follower⟩
  else if isSyllable base ∧ (base - firstSyllable) % 28 = 0 ∧ tailBase < follower ∧
      follower < tailBase + 28 then
    some ⟨base + (follower - tailBase), base, follower⟩
  else all.find? fun composite => composite.base == base && composite.follower == follower

end Composite

/-- Nothing is put together in more steps than this. -/
def deepestComposite : Nat := 4

/-- The base of a composite may be a composite again. -/
def decomposed : Nat → Nat → List Nat
  | 0, code => [code]
  | steps + 1, code =>
    match Composite.ofWhole? code with
    | none => [code]
    | some composite => decomposed steps composite.base ++ [composite.follower]

/-- Characters that are no marks have the class zero. -/
def markClass (code : Nat) : Nat :=
  if code < 0x300 then 0
  else ((Table.markClasses.find? code).bind (·.values.head?)).getD 0

/-- What is in order so far, with the newest character first and the newest marks apart. -/
structure Arranging where
  finished : List Nat
  marks : List Nat

namespace Arranging

/-- Marks of one class keep their order. -/
def written (arranging : Arranging) : List Nat :=
  (arranging.marks.reverse.mergeSort fun first second => markClass first ≤ markClass second).reverse ++
    arranging.finished

/-- Nothing passes a character that is no mark. -/
def add (arranging : Arranging) (code : Nat) : Arranging :=
  if markClass code = 0 then ⟨code :: arranging.written, []⟩
  else { arranging with marks := code :: arranging.marks }

end Arranging

/-- What is put together so far, with the newest character first. -/
structure Composing where
  finished : List Nat
  base : Option Nat
  marks : List Nat

namespace Composing

def written (composing : Composing) : List Nat :=
  composing.marks ++ composing.base.toList ++ composing.finished

/-- A mark behind another one of its class, and a character behind any mark, is cut off from the base. -/
def isCutOff (composing : Composing) (code : Nat) : Bool :=
  match composing.marks with
  | [] => false
  | newest :: _ => markClass code ≤ markClass newest

def add (composing : Composing) (code : Nat) : Composing :=
  let joined? :=
    if composing.isCutOff code then none
    else composing.base.bind fun base => Composite.ofParts? base code
  match joined? with
  | some composite => { composing with base := some composite.whole }
  | none =>
    if markClass code = 0 then ⟨composing.written, some code, []⟩
    else { composing with marks := code :: composing.marks }

end Composing

/-- Characters are taken apart, their marks are ordered, and what belongs together is put together again. -/
def normalCodes (codes : List Nat) : List Nat :=
  let apart := codes.flatMap (decomposed deepestComposite)
  let ordered := (apart.foldl Arranging.add ⟨[], []⟩).written.reverse
  (ordered.foldl Composing.add ⟨[], none, []⟩).written.reverse

/-- Without marks there is nothing to put together. -/
def normalForm (characters : List Char) : List Char :=
  if characters.all (·.toNat < 0x300) then characters
  else (normalCodes (characters.map Char.toNat)).map Char.ofNat

end SignOn.Url.Domain
