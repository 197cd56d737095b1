import SignOn.Assertion

/-
This file reads the answers of protocol version 1, which are lines of plain text.
-/

namespace SignOn.PlainText

open SignOn.Text

/-- The second line of an acceptance names the user. -/
def readName (rest : List Char) : String :=
  match firstLine? rest with
  | none => ""
  | some (line, _) => trim (String.ofList line)

/-- The first line must be one of two words. -/
def read (body : String) (now : Instant) : Except Failure Reply :=
  match firstLine? body.toList with
  | some (['y', 'e', 's'], rest) =>
    let name := readName rest
    if name = "" then .error .noPrincipal
    else do
      let principal ← Principal.create name NameMap.empty
      return .ofAssertion (.openEnded principal now)
  | some (['n', 'o'], _) => .error (.serverRejected none "ticket not recognized")
  | _ => .error (.protocolViolation .neitherYesNorNo)

end SignOn.PlainText
