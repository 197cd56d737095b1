import SignOn.Charset.Decoding
import SignOn.Charset.Rows
import SignOn.Charset.Table.Jis0208

/-
This file decodes ISO-2022-JP, in which escape sequences switch between sets of seven-bit characters.
-/

namespace SignOn.Charset.Iso2022Jp

inductive Mode
  | ascii
  | roman
  | katakana
  | pairs
  deriving DecidableEq, Repr

/-- A pair or an escape sequence may have been begun. -/
inductive Progress
  | between
  | lead (first : UInt8)
  | escape
  | escapeTo (intermediate : UInt8)
  deriving DecidableEq, Repr

structure State where
  decoding : Decoding
  mode : Mode
  progress : Progress
  /-- Nothing was read since the last switch. -/
  justSwitched : Bool
  deriving DecidableEq, Repr

def start : State := ⟨.start, .ascii, .between, false⟩

/-- Shifts and escapes are no characters. -/
def seven? (byte : UInt8) : Option Char :=
  if byte < 0x80 ∧ byte ≠ 0x0E ∧ byte ≠ 0x0F ∧ byte ≠ 0x1B then some (Char.ofNat byte.toNat)
  else none

/-- A yen sign and an overline take the places of two characters of ASCII. -/
def roman? (byte : UInt8) : Option Char :=
  if byte = 0x5C then some '¥' else if byte = 0x7E then some '‾' else seven? byte

def katakana? (byte : UInt8) : Option Char :=
  if isWithin 0x21 0x5F byte then some (narrowKatakana 0x21 byte) else none

/-- The sets that a sequence can switch to. -/
def switched? (intermediate final : UInt8) : Option Mode :=
  if intermediate = 0x28 then
    if final = 0x42 then some .ascii
    else if final = 0x4A then some .roman
    else if final = 0x49 then some .katakana
    else none
  else if final = 0x40 ∨ final = 0x42 then some .pairs
  else none

def State.put (state : State) (found : Option Char) : State :=
  { state with
    decoding := state.decoding.pushOrReplace found
    progress := .between
    justSwitched := false }

/-- A byte that begins something is read in the set of the current mode. -/
def State.begin (state : State) (byte : UInt8) : State :=
  if byte = 0x1B then { state with progress := .escape }
  else
    match state.mode with
    | .ascii => state.put (seven? byte)
    | .roman => state.put (roman? byte)
    | .katakana => state.put (katakana? byte)
    | .pairs =>
      if isWithin 0x21 0x7E byte then { state with progress := .lead byte, justSwitched := false }
      else state.put none

/-- An escape inside a pair begins a sequence. -/
def State.endPair (state : State) (lead trail : UInt8) : State :=
  if trail = 0x1B then
    { state with decoding := state.decoding.pushReplacement, progress := .escape }
  else
    { state with
      decoding := state.decoding.pushOrReplace (wardCell? Table.jis0208 0x21 0x7E lead trail)
      progress := .between }

/-- Two switches in a row leave an empty stretch between them, which is replaced. -/
def State.switchTo (state : State) (mode : Mode) : State :=
  let decoding := if state.justSwitched then state.decoding.pushReplacement else state.decoding
  ⟨decoding, mode, .between, true⟩

/-- A byte goes on with whatever has been begun, outside escape sequences. -/
def State.read (state : State) (byte : UInt8) : State :=
  match state.progress with
  | .lead first => state.endPair first byte
  | _ => state.begin byte

/-- The bytes of a sequence that switches to nothing are read again behind its escape. -/
def step (state : State) (byte : UInt8) : State :=
  match state.progress with
  | .escape =>
    if byte = 0x24 ∨ byte = 0x28 then { state with progress := .escapeTo byte }
    else (state.put none).begin byte
  | .escapeTo intermediate =>
    match switched? intermediate byte with
    | some mode => state.switchTo mode
    | none => ((state.put none).begin intermediate).read byte
  | _ => state.read byte

/-- A pair or a sequence that the end cuts off is replaced. -/
def State.finish (state : State) : Decoding :=
  match state.progress with
  | .between => state.decoding
  | .lead _ | .escape => state.decoding.pushReplacement
  | .escapeTo intermediate =>
    let reread := (state.put none).begin intermediate
    match reread.progress with
    | .between => reread.decoding
    | _ => reread.decoding.pushReplacement

def decode (bytes : List UInt8) : Decoding := (bytes.foldl step start).finish

end SignOn.Charset.Iso2022Jp
