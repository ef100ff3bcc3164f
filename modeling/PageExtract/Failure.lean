import PageExtract.Plan
import PageExtract.Url.Host

/-!
Failures of scrapes. Main definitions: `Failure.message`, and `Failure.isRecoverable`, which tells
the failures that a policy may turn into values from those that always end the scrape.
-/

set_option autoImplicit false

namespace PageExtract

def decimal (n : Nat) : String :=
  String.ofList (Nat.toDigits 10 n)

/-- Why a page could not be loaded or a login not be made. -/
inductive FetchFailure where
  | status (url : String) (code : Nat)
  /-- The request can't be sent; `refused` is the URL if that is not one to send requests to. -/
  | request (url : String) (refused : Option String)
  | client
  | invalidMethod (method : String)
  | notFound (url : String)
  | loginUnsupported
  deriving DecidableEq, Repr

namespace FetchFailure

def message : FetchFailure → String
  | .status url code => "HTTP " ++ decimal code ++ " for " ++ url
  | .request url none => "Failed to fetch " ++ url ++ ": builder error"
  | .request url (some refused) =>
    "Failed to fetch " ++ url ++ ": builder error for url (" ++ refused ++ ")"
  | .client => "Failed to build HTTP client: builder error"
  | .invalidMethod method => "Invalid HTTP method '" ++ method ++ "'"
  | .notFound url => "No page available for " ++ url
  | .loginUnsupported => "Login is not supported by this fetcher"

/-- The status of the answer, if there was one. -/
def status? : FetchFailure → Option Nat
  | .status _ code => some code
  | _ => none

end FetchFailure

inductive AuthFailure where
  | missingSession
  | missingUrl
  | login (cause : FetchFailure)
  deriving DecidableEq, Repr

def AuthFailure.message : AuthFailure → String
  | .missingSession =>
    "Please specify a \x60sessionId\x60. This makes it unnecessary to repeat the auth data " ++
    "when continueing with the same session."
  | .missingUrl => "Please specify the \x60auth.url\x60."
  | .login cause => "Login failed: " ++ cause.message

/-- Mistakes of the caller. -/
inductive Misconfiguration where
  | missingUrl
  | invalidUrl (url : String) (problem : Url.Problem)
  | missingElement
  | malformed (reason : Malformation)
  | other (message : String)

def Misconfiguration.message : Misconfiguration → String
  | .missingUrl =>
    "Please specify the \x60url\x60. Even when passing in HTML, it's still necessary to make " ++
    "relative paths absolute."
  | .invalidUrl url problem => "Invalid url '" ++ url ++ "': " ++ problem.message
  | .missingElement => "An object was specified without an \x60_elem\x60, which is required."
  | .malformed reason => reason.message
  | .other message => message

inductive Failure where
  | configuration (mistake : Misconfiguration)
  | invalidSelector (selector reason : String)
  | selectorNotFound (selector : String) (context : Option String)
  | missingLink (selector : String)
  | followDepth (url : String) (limit : Nat)
  | fetch (cause : FetchFailure)
  | auth (cause : AuthFailure)

namespace Failure

def message : Failure → String
  | .configuration mistake => mistake.message
  | .invalidSelector selector reason => "Invalid selector '" ++ selector ++ "': " ++ reason
  | .selectorNotFound selector _ => "Couldn't find '" ++ selector ++ "'"
  | .missingLink selector => "No link to follow in '" ++ selector ++ "'"
  | .followDepth url limit =>
    "Not following " ++ url ++ ": follow depth limit of " ++ decimal limit ++ " reached"
  | .fetch cause => cause.message
  | .auth cause => cause.message

/-- Mistakes of the caller and failed logins always end the scrape. -/
def isRecoverable : Failure → Bool
  | .selectorNotFound _ _ => true
  | .missingLink _ => true
  | .followDepth _ _ => true
  | .fetch _ => true
  | .configuration _ => false
  | .invalidSelector _ _ => false
  | .auth _ => false

end Failure

end PageExtract
