/-!
# Operations that can fail

An operation on something remote can fail in two ways: it takes no effect, or it takes effect and
only its reply is lost.  The caller cannot tell the one from the other.
-/

namespace Reactive

/-- What becomes of an operation. -/
inductive Reply
  | answered
  | refused
  | lost
  deriving DecidableEq

end Reactive
