/-! What can go wrong with a configuration. -/
namespace LexFront

/-- Why there is no configuration. -/
inductive ConfigError where
  /-- There is nothing at the path. -/
  | notFound (path : String)
  /-- Reading or writing failed, for a cause told in words. -/
  | io (cause : String)
  /-- The text is no document, or says something else than a configuration. -/
  | parse
  deriving DecidableEq, Repr

namespace ConfigError

/-- The kind of the error, in words. -/
def heading : ConfigError → String
  | .notFound _ => "Configuration file not found"
  | .io _ => "IO error"
  | .parse => "Failed to parse configuration"

/-- The sentence that tells the error. -/
def message : ConfigError → String
  | .notFound path => heading (.notFound path) ++ ": " ++ path
  | .io cause => heading (.io cause) ++ ": " ++ cause
  | .parse => heading .parse

/-- The words of the error underneath, if there is one. -/
def cause? : ConfigError → Option String
  | .io cause => some cause
  | _ => none

end ConfigError

end LexFront
