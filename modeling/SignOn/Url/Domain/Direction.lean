import SignOn.Url.Domain.Mark

/-
This file tells whether the labels of a name can be read in one direction each.
-/

namespace SignOn.Url.Domain

open SignOn.Text

/-- The letters of scripts that are written from right to left. -/
def leftwards : Stretches := .ofRows #[
  "5be 5c0 5c3 5c6 5d0-5f4 608 60b 60d 61b-64a 66d-66f 671-6d5 6e5-6e6 6ee-6ef 6fa-710 712-72f",
  "74d-7a5 7b1-7ea 7f4-7f5 7fa 7fe-815 81a 824 828 830-858 85e-88f 8a0-8c9 fbb2-fbc2 fe73",
  "10800-1091b 10920-10a00 10a10-10a35 10a40-10ae4 10aeb-10b35 10b40-10d23 10d40-10d4f",
  "10d6f-10d8f 10e80-10ea9 10ead-10ec7 10f00-10f45 10f51-10f81 10f86-10ff6 1e800-1e8cf",
  "1e922-1e943 1e94b-1ed3d"]

/-- The digits that keep their place in such a script. -/
def arabicDigits : Stretches := .ofRows #[
  "660-669 66b-66c 10d30-10d39 10e60-10e7e"]

/-- The digits that go with letters of either direction. -/
def europeanDigits : Stretches := .ofRows #[
  "30-39 6f0-6f9 102e1-102fb"]

/-- Signs without a direction. -/
def neutrals : Stretches := .ofRows #[
  "0-8 e-1b 21-2f 3a-60 7b-d7 f7 2b9-2ba 2c2-2cf 2d2-2ed 2ef-2ff 375 3f6 58a-58f 606-607",
  "609-60a 60c 60e-60f 66a 6de 6e9 7f6-7f9 9f2-9f3 9fb af1 bf3-bfa c78-c7e e3f f3a-f3d",
  "1390-1399 1400 169b-169c 17db 17f0-180a 1940-1945 19de-19ff 200c-20c1 2104-214d 218a-2335",
  "237b-2394 2396-26ab 26ad-27ff 2900-2bff 2ce5-2cea 2cf9-2cff 2e00-3004 3008-3020 3030 3037",
  "303d-303f 30a0 30fb 31c0-31e5 4dc0-4dff a490-a4c6 a60d-a60f a673 a67e-a67f a700-a721 a788",
  "a828-a82b a838-a839 a874-a877 ab6a-ab6b fbc3-fdff fe45-fe46 10101 10140-1018c 10190-101a0",
  "1091f 10b39-10b3f 10d6e 10ed0-10ed8 11052-11065 11660-1166c 11fd5-11ff1 16fe2 1cc00-1cef0",
  "1d1e9-1d241 1d245 1d300-1d356 1e2ff 1eef0-1f12f 1f16d-1f16f 1f1ad 1f260-1fbfa"]

/-- Characters that are in no table are letters of scripts that are written from left to right. -/
inductive Direction
  | rightward
  | leftward
  | arabicDigit
  | europeanDigit
  | neutral
  | mark
  deriving DecidableEq, Repr

namespace Direction

def ofCharacter (character : Char) : Direction :=
  if character.isAlpha then .rightward
  else if leftwards.contains character then .leftward
  else if arabicDigits.contains character then .arabicDigit
  else if europeanDigits.contains character then .europeanDigit
  else if neutrals.contains character then .neutral
  else if isUndirectedMark character then .mark
  else .rightward

/-- No character before the Hebrew block belongs to a script that is written from right to left. -/
def turns (character : Char) : Bool :=
  0x590 ≤ character.toNat && (leftwards.contains character || arabicDigits.contains character)

/-- Letters of one direction only may stand beside digits, signs and marks, with a letter or digit at the end. -/
def isConsistent (directions : List Direction) : Bool :=
  let ending := ((directions.reverse.dropWhile (· == .mark)).head?).getD .neutral
  match directions.head? with
  | some .rightward =>
    !directions.contains .leftward && !directions.contains .arabicDigit &&
      (ending == .rightward || ending == .europeanDigit)
  | some .leftward =>
    !directions.contains .rightward &&
      (ending == .leftward || ending == .europeanDigit || ending == .arabicDigit) &&
      !(directions.contains .europeanDigit && directions.contains .arabicDigit)
  | _ => false

end Direction

/-- As soon as one label turns the direction of reading, every label must be consistent. -/
def areReadable (labels : List (List Char)) : Bool :=
  !labels.any (·.any Direction.turns) ||
    labels.all fun label => label.isEmpty || Direction.isConsistent (label.map Direction.ofCharacter)

end SignOn.Url.Domain
