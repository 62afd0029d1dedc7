-- What is told to the operator while requests are served: notices of four
-- levels, of which a threshold hides the lower ones.
import RetryTickets.Call
import RetryTickets.Error

namespace RetryTickets

/-- How grave a notice is. -/
inductive Level where
  | debug
  | info
  | warn
  | error
  deriving DecidableEq

namespace Level

/-- The graver, the higher. -/
def rank : Level → Nat
  | debug => 0
  | info => 1
  | warn => 2
  | error => 3

/-- The name of a level. -/
def name : Level → String
  | debug => "Debug"
  | info => "Info"
  | warn => "Warn"
  | error => "Error"

/-- The mark in front of a line. -/
def mark : Level → String
  | debug => "[DEBUG] "
  | info => "[INFO] "
  | warn => "[WARN] "
  | error => "[ERROR] "

/-- The level that a text names, in any case and with blank space around it. Anything
else means `info`. -/
def ofText (text : String) : Level :=
  match String.ofList (Text.lower (Text.trim text.toList)) with
  | "debug" => debug
  | "warn" => warn
  | "error" => error
  | _ => info

/-- Whether a threshold lets a level through. -/
def enabled (threshold level : Level) : Bool := threshold.rank ≤ level.rank

end Level

/-- Where a line is printed. -/
inductive Stream where
  | out
  | err
  deriving DecidableEq

/-- A printed line, without its end. -/
structure Line where
  stream : Stream
  text : String
  deriving DecidableEq

/-- Grave lines go to the error stream. -/
def Level.stream : Level → Stream
  | .debug => .out
  | .info => .out
  | .warn => .err
  | .error => .err

/-- A text said at a level, as far as the threshold lets it through. Errors are always told. -/
def Level.say (threshold level : Level) (text : String) : List Line :=
  if level = .error ∨ threshold.enabled level then [⟨level.stream, level.mark ++ text⟩] else []

/-- What there is to tell. -/
inductive Notice where
  | created (ticket : TicketId)
  | canceled (ticket : TicketId) (caller : Address)
  | extended (ticket : TicketId) (timeout : UInt64)
  | scheduled (sequence : UInt64) (ticket retry : TicketId)
  | redeemed (ticket : TicketId)
  /-- A call was refused. -/
  | failed (call : Call) (caller : Address) (error : Error)
  /-- A call went through, and the sink refused one of its events. -/
  | dropped (call : Call) (error : Error)
  deriving DecidableEq

namespace Notice

/-- How grave a notice is. -/
def level : Notice → Level
  | created _ => .debug
  | canceled _ _ => .debug
  | extended _ _ => .debug
  | scheduled _ _ _ => .debug
  | redeemed _ => .debug
  | failed _ _ _ => .warn
  | dropped _ _ => .error

/-- The wording of a notice. -/
def text : Notice → String
  | created id => "Created ticket " ++ id.text
  | canceled id caller => "Canceled ticket " ++ id.text ++ " by " ++ caller.text
  | extended id timeout => "Extended ticket " ++ id.text ++ " to timeout " ++ toString timeout
  | scheduled sequence id retry =>
    "Scheduled redeem " ++ toString sequence ++ " of ticket " ++ id.text ++ " as " ++ retry.text
  | redeemed id => "Redeemed ticket " ++ id.text
  | failed call caller error =>
    call.text ++ " by " ++ caller.text ++ " failed: " ++ error.message
  | dropped call error => call.text ++ " committed but event was dropped: " ++ error.message

/-- The lines that notices make under a threshold. -/
def lines (threshold : Level) (notices : List Notice) : List Line :=
  notices.flatMap fun notice => threshold.say notice.level notice.text

end Notice

end RetryTickets
