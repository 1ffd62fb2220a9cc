/-!
# Log records

## Main definitions

* `Waybill.Log.Level`, `Waybill.Log.Value`, `Waybill.Log.Record`.
-/

namespace Waybill.Log

/-- How important a record is. -/
inductive Level where
  | trace
  | debug
  | info
  | warning
deriving DecidableEq, Repr

/-- The name of a level. -/
def Level.name : Level → String
  | .trace => "TRACE"
  | .debug => "DEBUG"
  | .info => "INFO"
  | .warning => "WARN"

/-- The value of a field. -/
inductive Value where
  | text (s : String)
  | number (n : Nat)
  | flag (b : Bool)
deriving DecidableEq, Repr

/-- A record: something that happened, or the start of a span in which things happen. -/
inductive Record where
  | event (level : Level) (message : String) (fields : List (String × Value))
  | span (level : Level) (name : String) (fields : List (String × Value))
deriving DecidableEq, Repr

end Waybill.Log
