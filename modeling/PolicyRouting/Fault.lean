import PolicyRouting.Text.Numeral

/-!
# Why a request is refused

One constructor for each cause, and one function that words it.  The causes
fall into a smaller number of kinds, which callers tell apart.
-/

namespace PolicyRouting

inductive FileFault where
  | missing
  | isDirectory
  | notADirectory
  | notText
  | alreadyExists
  /-- Any other answer, in the words of the file system. -/
  | other (answer : String)
  deriving DecidableEq, Repr

def FileFault.message : FileFault → String
  | .missing => "No such file or directory (os error 2)"
  | .isDirectory => "Is a directory (os error 21)"
  | .notADirectory => "Not a directory (os error 20)"
  | .notText => "stream did not contain valid UTF-8"
  | .alreadyExists => "File exists (os error 17)"
  | .other answer => answer

inductive Fault where
  | policyNotFound (given : String)
  | priorityNotNumeric (given : String)
  | unknownAction (given : String)
  | intraSpansRegions (src dst : String)
  | interWithinRegion
  | unnamedProfile
  | priorityOutOfRange (given : UInt32)
  | unknownApplication (given : String)
  | malformedHostId (given : String)
  | malformedConnectPoint (given : String)
  | malformedMac (given : String)
  | regionMissing
  | regionLengthTooLong (given : UInt8)
  | unnamedApp
  | unreadableFile (cause : FileFault)
  | malformedDocument
  deriving DecidableEq, Repr

inductive FaultKind where
  | policyNotFound | invalidPolicy | invalidPriority | unknownApplication | invalidHostId
  | invalidConnectPoint | invalidMac | regionMissing | configError | ioError | jsonError
  deriving DecidableEq, Repr

namespace Fault

def kind : Fault → FaultKind
  | policyNotFound _ => .policyNotFound
  | priorityNotNumeric _ | unknownAction _ | intraSpansRegions _ _ | interWithinRegion
  | unnamedProfile => .invalidPolicy
  | priorityOutOfRange _ => .invalidPriority
  | unknownApplication _ => .unknownApplication
  | malformedHostId _ => .invalidHostId
  | malformedConnectPoint _ => .invalidConnectPoint
  | malformedMac _ => .invalidMac
  | regionMissing => .regionMissing
  | regionLengthTooLong _ | unnamedApp => .configError
  | unreadableFile _ => .ioError
  | malformedDocument => .jsonError

def message : Fault → String
  | policyNotFound given => "policy not found: " ++ given
  | priorityNotNumeric given => "invalid policy: priority '" ++ given ++ "' is not a number"
  | unknownAction given => "invalid policy: unknown action: " ++ given
  | intraSpansRegions src dst =>
      "invalid policy: intra-route policy spans regions " ++ src ++ " and " ++ dst
  | interWithinRegion => "invalid policy: inter-route policy needs a distinct destination region"
  | unnamedProfile => "invalid policy: profile name is empty"
  | priorityOutOfRange given =>
      "priority " ++ Text.decimalText given.toNat ++ " out of range [1, 65535]"
  | unknownApplication given => "unknown application type: " ++ given
  | malformedHostId given => "invalid host id: " ++ given
  | malformedConnectPoint given => "invalid connect point: " ++ given
  | malformedMac given => "invalid MAC address: " ++ given
  | regionMissing => "region is required"
  | regionLengthTooLong given =>
      "config error: region_prefix_len " ++ Text.decimalText given.toNat ++ " exceeds 32"
  | unnamedApp => "config error: app_id is empty"
  | unreadableFile cause => "IO error: " ++ cause.message
  | malformedDocument => "JSON error"

end Fault

end PolicyRouting
