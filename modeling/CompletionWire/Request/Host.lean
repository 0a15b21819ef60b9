import CompletionWire.Text.CodePoint

/-!
# Addresses of hosts

A host may be an IPv4 address or an IPv6 address, and what looks like one must be one.
-/

namespace CompletionWire

namespace Host

def dot : CodePoint := CodePoint.ofChar '.'

def colon : CodePoint := CodePoint.ofChar ':'

/-! ### IPv4 -/

/-- Whether a text is four groups of digits with full stops between them. -/
def looksLikeIpv4 (t : Text) : Bool :=
  let groups := Text.splitOn dot t
  groups.length = 4 && groups.all fun g => !g.isEmpty && g.all CodePoint.isAsciiDigit

/-- A number below 256 in at most three digits, without a leading zero. -/
def isOctet (t : Text) : Bool :=
  !t.isEmpty && t.all CodePoint.isAsciiDigit && t.length ≤ 3 &&
    (t.length = 1 || t.head? ≠ some (CodePoint.ofChar '0')) &&
    t.foldl (fun n c => n * 10 + (c.val - 0x30)) 0 ≤ 255

def isIpv4 (t : Text) : Bool :=
  let octets := Text.splitOn dot t
  octets.length = 4 && octets.all isOctet

/-! ### IPv6 -/

/-- One to four hexadecimal digits. -/
def isHextet (t : Text) : Bool := !t.isEmpty && t.length ≤ 4 && t.all fun c => c.hexValue?.isSome

/-- The groups of an address whose last one may be an IPv4 address, which counts as two. -/
def ipv6Groups? (t : Text) : Option (List Text) :=
  let groups := Text.splitOn colon t
  let last := groups.getLastD []
  if dot ∈ last then
    if isIpv4 last then some (groups.dropLast ++ [text "0", text "0"]) else none
  else some groups

/-- Eight groups, or fewer around one gap of at least one group. -/
def isIpv6Groups (groups : List Text) : Bool :=
  match List.splitOnP (·.isEmpty) groups with
  | [all] => all.length = 8 && all.all isHextet
  | [before, behind] =>
    !before.isEmpty && !behind.isEmpty && before.length + behind.length ≤ 7 &&
      before.all isHextet && behind.all isHextet
  | [[], [], behind] => behind.length ≤ 7 && !behind.isEmpty && behind.all isHextet
  | [before, [], []] => before.length ≤ 7 && !before.isEmpty && before.all isHextet
  | [[], [], [], []] => true
  | _ => false

/-- An IPv6 address, with or without the zone behind a percent sign. -/
def isIpv6 (t : Text) : Bool :=
  let (address, zone?) := Text.cutAt (CodePoint.ofChar '%') t
  zone?.all (fun zone => !zone.isEmpty && !zone.contains (CodePoint.ofChar '%')) &&
    2 ≤ address.count colon && (ipv6Groups? address).any isIpv6Groups

end Host

end CompletionWire
