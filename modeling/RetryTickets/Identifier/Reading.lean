-- Reading an identifier from text: blank space around it, an optional mark,
-- and then as many hexadecimal digits of either case as its bytes need.
import RetryTickets.Identifier
import RetryTickets.Text.Blank
import RetryTickets.Text.CharLiteral
import RetryTickets.Text.Encoding
import RetryTickets.Text.Lowercase

namespace RetryTickets

/-- What is wrong with a value that a caller wrote; `what` names the value. -/
inductive InputFault where
  /-- The value is no row of hexadecimal digit pairs. -/
  | badHex (what : String) (fault : Hex.Fault)
  /-- The value has another number of bytes than it should. -/
  | wrongLength (what : String) (expected got : Nat)
  /-- The lifetime of a new ticket would end after the last point in time. -/
  | timestampOverflow
  deriving DecidableEq

/-- The wording of a refused digit row. -/
def Hex.Fault.message : Hex.Fault → String
  | .oddLength => "Odd number of digits"
  | .badDigit byte place =>
    "Invalid character " ++ Text.byteLiteral byte ++ " at position " ++ toString place

/-- The wording of a refused value. -/
def InputFault.message : InputFault → String
  | .badHex what fault => "Invalid " ++ what ++ " hex: " ++ fault.message
  | .wrongLength what expected got =>
    "Expected " ++ toString expected ++ "-byte " ++ what ++ ", got " ++ toString got ++ " bytes"
  | .timestampOverflow => "timestamp overflows"

/-- The identifier that a text names. Digits are checked before their number is. -/
def FixedBytes.parse (size : Nat) (what : String) (text : String) :
    Except InputFault (FixedBytes size) :=
  let digits := Text.lower (Text.withoutMark (Text.trim text.toList))
  match Hex.decode (Text.toBytes digits) with
  | .error fault => .error (.badHex what fault)
  | .ok bytes =>
    match ofBytes? bytes with
    | some name => .ok name
    | none => .error (.wrongLength what size bytes.length)

/-- The ticket id that a text names. -/
def TicketId.parse (text : String) : Except InputFault TicketId :=
  FixedBytes.parse 32 "ticket id" text

/-- The address that a text names. -/
def Address.parse (text : String) : Except InputFault Address :=
  FixedBytes.parse 20 "address" text

end RetryTickets
