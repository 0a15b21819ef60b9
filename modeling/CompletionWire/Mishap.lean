import CompletionWire.Decimal.Numeral
import CompletionWire.Editor
import CompletionWire.Failure
import CompletionWire.Json.Reader
import CompletionWire.Json.Writer
import CompletionWire.Network
import CompletionWire.Request.Url
import CompletionWire.Text.Charset

/-!
# Mishaps

Everything that keeps a call from its result, in three families that callers tell apart: failures of
an adaptor, rejections of a value that the caller gave, and aborts, which no caller is expected to
handle.
-/

namespace CompletionWire

inductive Rejection
  | unknownBackend (tag : Text)
  | unknownEditor (tag : Text)
  | unknownAdaptor (setting : Text)
  | invalid (data : Invalid)
  | notJson (rules : Json.Rules) (fault : Json.Fault Json.Place)
  | notAnObject
  | notFinite
  | tooManyDigits (count? : Option Nat)
  | notUnicode (run : LoneSurrogates)
  | notUtf8 (bytes : Utf8.IllFormed)
  | notAscii (run : NotAscii)
  | domainName (fault : DomainNameFault)
  | unknownUrlType (url : Text)
  | charset (fault : CharsetFault)
  | nulInName

namespace Rejection

/-- How many issues make data invalid, and for which model. -/
def countText (data : Invalid) : Text :=
  Text.ofNat data.issues.length ++ text " for " ++ data.model

def message : Rejection → Text
  | unknownBackend tag => tag.quoted ++ text " is not a valid Backend"
  | unknownEditor tag => tag.quoted ++ text " is not a valid Ide"
  | unknownAdaptor setting =>
    text "Unknown adaptor '" ++ setting ++ text "' (expected one of: " ++
      (text ", ").intercalate (Backend.all.map Backend.tag) ++ text ")"
  | invalid data => countText data
  | notJson rules fault => fault.message rules
  | notAnObject => text "--request-body must be a JSON object"
  | notFinite => text "Out of range float values are not JSON compliant"
  | tooManyDigits count? => Json.digitsMessage Numeral.maxDigits count?
  | notUnicode run => run.message
  | notUtf8 bytes => bytes.message
  | notAscii run => run.message
  | domainName fault => fault.message
  | unknownUrlType url => text "unknown url type: " ++ url.quoted
  | charset fault => fault.message
  | nulInName => text "embedded null byte"

end Rejection

/-- What ends a call from outside the part that was asked. -/
inductive Abort
  | tooDeep
  | waitTooLarge
  | invalidUrl (fault : UrlFault)
  | network (error : NetworkError)
  | charset (fault : CharsetFault)
  | missingFile (name : Text)
  | isDirectory (name : Text)
  | modelWithoutText

namespace Abort

def message : Abort → Text
  | tooDeep => []
  | waitTooLarge => text "int too large to convert to float"
  | invalidUrl fault => fault.message
  | network error => error.message
  | charset fault => fault.message
  | missingFile name => text "[Errno 2] No such file or directory: " ++ name.quoted
  | isDirectory name => text "[Errno 21] Is a directory: " ++ name.quoted
  | modelWithoutText => text "'list' object has no attribute 'startswith'"

end Abort

inductive Mishap
  | failure (f : Failure)
  | rejection (r : Rejection)
  | abort (a : Abort)

namespace Mishap

def message : Mishap → Text
  | failure f => f.message
  | rejection r => r.message
  | abort a => a.message

/-- A URL that has no byte form is a value refused; any other fault of a URL ends the call. -/
def ofUrlFault : UrlFault → Mishap
  | .notUnicode run => .rejection (.notUnicode run)
  | fault => .abort (.invalidUrl fault)

def ofHostFault : HostFault → Mishap
  | .notAscii run => .rejection (.notAscii run)
  | .name fault => .rejection (.domainName fault)

/-- Nesting too deep ends the call; any other fault of a value is one that the caller gave. -/
def ofWriteFault : Json.WriteFault → Mishap
  | .notFinite => .rejection .notFinite
  | .tooManyDigits => .rejection (.tooManyDigits none)
  | .tooDeep => .abort .tooDeep

/-- A charset that is no charset of texts ends the call; its other faults refuse the response. -/
def ofCharsetFault : CharsetFault → Mishap
  | fault@(.textOnly) | fault@(.notText) | fault@(.unevenSegments _) => .abort (.charset fault)
  | fault => .rejection (.charset fault)

end Mishap

end CompletionWire
