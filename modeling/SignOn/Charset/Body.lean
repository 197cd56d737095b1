import SignOn.Charset.Basic
import SignOn.Charset.EucJp
import SignOn.Charset.Gb18030
import SignOn.Charset.Iso2022Jp
import SignOn.Charset.Pair
import SignOn.Charset.SingleByte
import SignOn.Charset.Utf16
import SignOn.Log

/-
This file decodes the body of an answer.
-/

namespace SignOn.Charset

open SignOn.Text

def decodeUtf8 (bytes : List UInt8) : Decoding :=
  let reading := Utf8.read bytes
  ⟨reading.newestFirst, reading.replaced⟩

/-- A body in a set that must not be decoded is replaced as a whole. -/
def decodeNothing (bytes : List UInt8) : Decoding :=
  if bytes.isEmpty then .start else Decoding.start.pushReplacement

def decodeWithoutMark (charset : Charset) (bytes : List UInt8) : Decoding :=
  match charset.upperHalf? with
  | some upperHalf => decodeSingleBytes upperHalf bytes
  | none =>
    match charset with
    | .utf8 => decodeUtf8 bytes
    | .utf16be => decodeUtf16 .bigEndian bytes
    | .utf16le => decodeUtf16 .littleEndian bytes
    | .xUserDefined => decodeUserDefined bytes
    | .replacement => decodeNothing bytes
    | .gbk | .gb18030 => Gb18030.decode bytes
    | .big5 => PairSet.big5.decode bytes
    | .eucJp => EucJp.decode bytes
    | .iso2022Jp => Iso2022Jp.decode bytes
    | .shiftJis => PairSet.shiftJis.decode bytes
    | .eucKr => PairSet.eucKr.decode bytes
    | _ => decodeSingleBytes #[] bytes

/-- A byte order mark at the start names the character set itself and is dropped. -/
def sniff (charset : Charset) : List UInt8 → Charset × List UInt8
  | 0xEF :: 0xBB :: 0xBF :: rest => (.utf8, rest)
  | 0xFE :: 0xFF :: rest => (.utf16be, rest)
  | 0xFF :: 0xFE :: rest => (.utf16le, rest)
  | bytes => (charset, bytes)

/-- Replaced bytes are reported under the character set that was used. -/
def decodeBody (charset : Charset) (bytes : List UInt8) : Logged String := do
  let (used, rest) := charset.sniff bytes
  let decoding := used.decodeWithoutMark rest
  if decoding.replaced then
    Logged.write .warn s!"Response body contained sequences invalid in {used.name}; replaced"
  return String.ofList decoding.characters

end SignOn.Charset
