import LexFront.Config.Basic
import LexFront.Span
import LexFront.Token.Kind

/-! Log events: what scanning and loading a configuration tell about themselves. -/
namespace LexFront

/-- How much a log has to be opened up for an event to show. -/
inductive LogLevel where
  | debug
  | trace
  deriving DecidableEq, Repr

/-- The level as the log writes it. -/
def LogLevel.name : LogLevel → String
  | .debug => "DEBUG"
  | .trace => "TRACE"

/-- A log event. An offset is where the token concerned starts. -/
inductive Event where
  | scannedToken (kind : TokenKind) (span : Span)
  | illegalCharacter (text : String) (offset : Nat)
  | unterminatedString (offset : Nat)
  | unterminatedComment (offset : Nat)
  | loadedConfig (path : String) (config : ScanConfig)
  deriving DecidableEq, Repr

namespace Event

/-- The level of an event: tokens are traced, all else is for debugging. -/
def level : Event → LogLevel
  | .scannedToken .. => .trace
  | _ => .debug

/-- The sentence that an event is logged with. -/
def message : Event → String
  | .scannedToken .. => "scanned token"
  | .illegalCharacter .. => "illegal character"
  | .unterminatedString _ => "unterminated string literal"
  | .unterminatedComment _ => "unterminated block comment"
  | .loadedConfig .. => "loaded scanner configuration"

end Event

end LexFront
