/-!
# Failures of the stream

What can go wrong with one message or one alert.  A failure concerns that message or alert alone;
the watch goes on.

## Main definitions

* `Failure` — a failure with the stage it belongs to and its text.
* `Failure.message` — the failure in words.

## References

The reference's `DetectionError`; its specification, 7 and 10.2.
-/

namespace IbanWatch

/-- A failure scoped to one message or one alert, the reference's `DetectionError`. -/
inductive Failure where
  /-- The stream could not be read. -/
  | transport (text : String)
  /-- A message could not be understood. -/
  | decode (text : String)
  /-- An alert could not be handed over. -/
  | delivery (text : String)
  deriving DecidableEq, Repr

/-- The failure in words, its stage first. -/
def Failure.message : Failure → String
  | .transport text => "transport error: " ++ text
  | .decode text => "decode error: " ++ text
  | .delivery text => "delivery error: " ++ text

end IbanWatch
