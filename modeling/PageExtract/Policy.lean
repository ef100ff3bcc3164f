import PageExtract.Json.Decoder

/-!
How failures of single fields are reported and how far links are followed.
-/

set_option autoImplicit false

namespace PageExtract

/-- With `testing` the message of a failure stands in the place of the field; with `separateErrors`
it is listed beside the fields, and without `testing` a default takes the field's place. -/
structure Policy where
  testing : Bool
  separateErrors : Bool
  enableLogging : Bool
  maxFollowDepth : Nat
  deriving DecidableEq, Repr

namespace Policy

def standard : Policy :=
  ⟨false, false, false, 8⟩

/-- Failures of fields don't fail their mapping. -/
def allowsErrors (p : Policy) : Bool :=
  p.separateErrors || p.testing

open Json in
def decoder : Decoder Policy :=
  .record "ScrapeConfig" standard
    [.named "testing" .flag fun b p => { p with testing := b },
     .named "separateErrors" .flag fun b p => { p with separateErrors := b },
     .named "enableLogging" .flag fun b p => { p with enableLogging := b },
     .named "maxFollowDepth" (.count "usize") fun n p => { p with maxFollowDepth := n }]

end Policy

end PageExtract
