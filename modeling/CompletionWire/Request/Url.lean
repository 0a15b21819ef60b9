import CompletionWire.Decimal.Numeral
import CompletionWire.Request.DomainName
import CompletionWire.Request.Host
import CompletionWire.Text.Ascii
import CompletionWire.Text.Base64
import CompletionWire.Text.Lowercase
import CompletionWire.Text.Utf8

/-!
# URLs of requests

A model is an HTTP URL or the name of a model on the standard host. A URL is taken apart and put
together again in a normal form: a host without capitals, no default number behind its colon, no dot
segments, and percent escapes for whatever a component does not hold literally. Credentials in a URL
are shown to the server in place of a token.
-/

namespace CompletionWire

/-- Why a text is not a URL that a request may go to. -/
inductive UrlFault
  | tooLong
  | controlCharacter (c : CodePoint) (position : Nat)
  | notUnicode (run : LoneSurrogates)
  | ipv4 (host : Text)
  | ipv6 (host : Text)
  | name (host : Text)
  | portNumber (numeral : Text)
  | componentTooLong (component : String)

def UrlFault.message : UrlFault → Text
  | tooLong => text "URL too long"
  | controlCharacter c position =>
    text "Invalid non-printable ASCII character in URL, " ++ Text.quoted [c] ++
      text " at position " ++ Text.ofNat position ++ text "."
  | notUnicode run => run.message
  | ipv4 host => text "Invalid IPv4 address: " ++ host.quoted
  | ipv6 host => text "Invalid IPv6 address: " ++ host.quoted
  | name host => text "Invalid IDNA hostname: " ++ host.quoted
  | portNumber numeral => text "Invalid port: " ++ numeral.quoted
  | componentTooLong component => text "URL component '" ++ text component ++ text "' too long"

/-- Why no server can be told which host is meant. -/
inductive HostFault
  | name (fault : DomainNameFault)
  | notAscii (run : NotAscii)
deriving DecidableEq

def HostFault.message : HostFault → Text
  | name fault => fault.message
  | notAscii run => run.message

/-- The parts of a URL in normal form; a URL without a host has no scheme either. -/
structure Url where
  scheme : Text := []
  userinfo : Text := []
  host : Text := []
  portNumber? : Option Int := none
  path : Text
  query? : Option Text := none
  fragment? : Option Text := none
deriving DecidableEq

namespace Url

/-- The standard host's URL of a model, unless the model is a URL itself. -/
def ofModel (model : Text) : Text :=
  if model.startsWith (text "http://") || model.startsWith (text "https://") then model
  else text "https://api-inference.huggingface.co/models/" ++ model

/-! ### Percent escapes -/

/-- Letters, digits and the four marks that stand literally everywhere. -/
def isUnreserved (c : CodePoint) : Bool :=
  c.isAsciiDigit || c.asciiLower.val - 0x61 < 26 && 0x61 ≤ c.asciiLower.val ||
    c.val = 0x2D || c.val = 0x2E || c.val = 0x5F || c.val = 0x7E

/-- Printable ASCII but for some code points. -/
def isPlain (except : String) (c : CodePoint) : Bool :=
  isUnreserved c || (0x20 < c.val && c.val < 0x7F && !(text except).contains c)

def isUserinfo : CodePoint → Bool := isPlain "\"#<>?`\x7b\x7d/;=@[\\]^|"

def isPath : CodePoint → Bool := isPlain "\"#<>?`\x7b\x7d"

def isQuery : CodePoint → Bool := isPlain "\"#<>"

def isFragment : CodePoint → Bool := isPlain "\"<>`"

def isHostName (c : CodePoint) : Bool :=
  isUnreserved c || (text "!$&'()*+,;=\"`\x7b\x7d%|\\").contains c

/-- The escapes of the bytes of a code point. -/
def escapeCodePoint (c : CodePoint) : Text :=
  c.utf8.flatMap fun b => CodePoint.ofChar '%' :: (Text.hex 2 b.toNat).map CodePoint.asciiUpper

/-- Whether a text goes on as an escape does behind its percent sign. -/
def continuesEscape : Text → Bool
  | a :: b :: _ => a.hexValue?.isSome && b.hexValue?.isSome
  | _ => false

/-- Escapes what a component does not hold literally and keeps escapes; `done` is held latest
first. -/
def escapeFrom (literal : CodePoint → Bool) (done : Text) : Text → Except UrlFault Text
  | [] => .ok done.reverse
  | c :: rest =>
    if literal c || (c.val = 0x25 && continuesEscape rest) then escapeFrom literal (c :: done) rest
    else if c.isSurrogate then .error (.notUnicode ⟨c, 0, 1⟩)
    else escapeFrom literal ((escapeCodePoint c).reverse ++ done) rest

def escape (literal : CodePoint → Bool) (t : Text) : Except UrlFault Text := escapeFrom literal [] t

/-- The value of the two hexadecimal digits behind a percent sign. -/
def escapedByte? (c a b : CodePoint) : Option UInt8 :=
  if c.val = 0x25 then do
    let high ← a.hexValue?
    let low ← b.hexValue?
    return UInt8.ofNat (high * 16 + low)
  else none

/-- The bytes that an escaped text stands for. -/
def unescape : Text → Bytes
  | [] => []
  | [c] => c.utf8
  | [c, d] => c.utf8 ++ d.utf8
  | c :: a :: b :: rest =>
    match escapedByte? c a b with
    | some byte => byte :: unescape rest
    | none => c.utf8 ++ unescape (a :: b :: rest)

/-! ### Parts -/

def slash : CodePoint := CodePoint.ofChar '/'

def openingBracket : CodePoint := CodePoint.ofChar '['

def closingBracket : CodePoint := CodePoint.ofChar ']'

/-- Adds a segment to those before it, latest first: a dot adds nothing, and two dots take one
away. -/
def pushSegment (done : List Text) (segment : Text) : List Text :=
  if segment = text "." then done
  else if segment = text ".." then (if done = [[]] then done else done.drop 1)
  else segment :: done

/-- A path without dot segments. -/
def withoutDots (path : Text) : Text :=
  let segments := Text.splitOn slash path
  if segments.any fun s => s = text "." || s = text ".." then
    [slash].intercalate (segments.foldl pushSegment []).reverse
  else path

/-- A host in normal form, an IPv6 address without its brackets. -/
def normalHost (host : Text) : Except UrlFault Text :=
  if host.isEmpty then .ok []
  else if Host.looksLikeIpv4 host then (if Host.isIpv4 host then .ok host else .error (.ipv4 host))
  else if host.head? = some openingBracket && host.getLast? = some closingBracket then
    let address := (host.drop 1).dropLast
    if Host.isIpv6 address then .ok address else .error (.ipv6 host)
  else if host.isAscii then escape isHostName host.lower
  else
    match DomainName.toAscii host.lower with
    | .ok ascii => .ok ascii
    | .error _ => .error (.name host)

/-- The number behind the colon of an authority, unless it is the one that the scheme implies. -/
def normalPortNumber (scheme numeral : Text) : Except UrlFault (Option Int) :=
  if numeral.isEmpty then .ok none
  else
    match Numeral.int? numeral with
    | none => .error (.portNumber numeral)
    | some n =>
      if n = 80 ∧ scheme = text "http" ∨ n = 443 ∧ scheme = text "https" then .ok none
      else .ok (some n)

/-- What stands before the last at sign, and what stands behind it. -/
def cutUserinfo (authority : Text) : Text × Text :=
  let behind := (authority.reverse.takeWhile (· ≠ CodePoint.ofChar '@')).reverse
  (authority.take (authority.length - behind.length - 1), behind)

/-- A host, which brackets may enclose, and the numeral behind a colon. -/
def cutHost (t : Text) : Text × Text :=
  let bracketed := (t.reverse.dropWhile (· ≠ closingBracket)).reverse
  let host :=
    if t.head? = some openingBracket && !bracketed.isEmpty then bracketed
    else t.takeWhile (· ≠ Host.colon)
  let rest := t.drop host.length
  (host, if rest.head? = some Host.colon then rest.drop 1 else rest)

/-- The parts of a URL behind its scheme. -/
def ofParts (scheme rest : Text) : Except UrlFault Url := do
  let (beforeFragment, fragment?) := Text.cutAt (CodePoint.ofChar '#') rest
  let (beforeQuery, query?) := Text.cutAt (CodePoint.ofChar '?') beforeFragment
  let authority := beforeQuery.takeWhile (· ≠ slash)
  let (userinfo, hostAndNumeral) := cutUserinfo authority
  let (host, numeral) := cutHost hostAndNumeral
  return {
    scheme
    userinfo := ← escape isUserinfo userinfo
    host := ← normalHost host
    portNumber? := ← normalPortNumber scheme numeral
    path := ← escape isPath (withoutDots (beforeQuery.drop authority.length))
    query? := ← query?.mapM (escape isQuery)
    fragment? := ← fragment?.mapM (escape isFragment) }

/-- The most code points of a URL, and of a part of one that stands alone. -/
def maxLength : Nat := 65536

/-- A URL without a host is a path on no host at all. -/
def withoutHost (u : Url) : Except UrlFault Url :=
  let path := slash :: u.path.dropWhile (· = slash)
  if maxLength < path.length then .error (.componentTooLong "path")
  else if u.query?.any fun query => maxLength < query.length then .error (.componentTooLong "query")
  else .ok { path, query? := u.query? }

/-- The URL that a text with the scheme of HTTP writes. -/
def ofText (t : Text) : Except UrlFault Url :=
  if maxLength < t.length then .error .tooLong
  else
    match t.dropWhile fun c => 0x20 ≤ c.val && c.val ≠ 0x7F with
    | c :: rest => .error (.controlCharacter c (t.length - rest.length - 1))
    | [] => do
      let url ←
        match Text.dropStart? (text "https://") t with
        | some rest => ofParts (text "https") rest
        | none => ofParts (text "http") (t.drop 7)
      if url.host.isEmpty then url.withoutHost else return url

/-! ### Views -/

/-- The host, an IPv6 address between brackets, and the number behind it: what the server is
told. -/
def location (u : Url) : Text :=
  (if Host.colon ∈ u.host then text "[" ++ u.host ++ text "]" else u.host) ++
    (u.portNumber?.map fun n => Host.colon :: Text.ofInt n).getD []

def authority (u : Url) : Text :=
  (if u.userinfo.isEmpty then [] else u.userinfo ++ text "@") ++ u.location

def toText (u : Url) : Text :=
  (if u.scheme.isEmpty then [] else u.scheme ++ text "://") ++ u.authority ++ u.path ++
    (u.query?.map fun q => CodePoint.ofChar '?' :: q).getD [] ++
    (u.fragment?.map fun f => CodePoint.ofChar '#' :: f).getD []

/-- Checks that the server can be told which host is meant: a name that begins as an encoded label
does must be a domain name, and all of it must be ASCII. -/
def checkHost (u : Url) : Except HostFault Unit := do
  if u.host.startsWith DomainName.encodedMark then (DomainName.check u.host).mapError .name
  match u.location.notAscii? with
  | some run => throw (.notAscii run)
  | none => return

/-- The authorization that the credentials of a URL call for. -/
def basicAuthorization? (u : Url) : Option Text :=
  let (user, password?) := Text.cutAt Host.colon u.userinfo
  let user := (Utf8.decodeReplacing (unescape user)).utf8
  let password := (Utf8.decodeReplacing (unescape (password?.getD []))).utf8
  if user.isEmpty && password.isEmpty then none
  else some (text "Basic " ++ Base64.encode (user ++ Host.colon.utf8 ++ password))

end Url

end CompletionWire
