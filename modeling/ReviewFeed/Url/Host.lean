import ReviewFeed.Text.Printable
import ReviewFeed.Text.Utf8
import ReviewFeed.Url.Address
import ReviewFeed.Url.Fault
import ReviewFeed.Url.Punycode

/-!
# Hosts

The host of a web address is a domain name or an internet address.  Its percent
signs are decoded, its letters taken to lower case, and its labels checked one by
one.  The host of any other address is taken as it stands.
-/

namespace ReviewFeed.Url

/-- The bytes of a text in which a percent sign may stand before two hexadecimal
digits. -/
def percentDecode : List Char → List UInt8
  | [] => []
  | '%' :: a :: b :: rest =>
      match Text.readHex? [a, b] with
      | some byte => UInt8.ofNat byte :: percentDecode rest
      | none => UInt8.ofNat '%'.toNat :: percentDecode (a :: b :: rest)
  | c :: rest => String.utf8EncodeChar c ++ percentDecode rest

/-- The ASCII characters that no domain name holds. -/
def isDenied (c : Char) : Bool :=
  c.toNat ≤ 0x20 || c.toNat == 0x7F || "%#/:<>?@[\\]^|".toList.contains c

/-- Characters that a domain name leaves out. -/
def isIgnored (c : Char) : Bool :=
  Text.inRanges
    [(0xAD, 0xAD), (0x34F, 0x34F), (0x115F, 0x1160), (0x17B4, 0x17B5), (0x180B, 0x180F),
      (0x200B, 0x200B), (0x2060, 0x2064), (0x206A, 0x206F), (0x3164, 0x3164),
      (0xFE00, 0xFE0F), (0xFEFF, 0xFEFF), (0xFFA0, 0xFFA0), (0x1BCA0, 0x1BCA3),
      (0x1D173, 0x1D17A), (0xE0100, 0xE01EF)]
    c.toNat

/-- Characters that can be shown and yet stand for something that no domain name
holds: spacing forms of marks, punctuation of denied characters, descriptions of
characters and replacements of objects. -/
def isRefused (c : Char) : Bool :=
  Text.inRanges
    [(0xA8, 0xA8), (0xAF, 0xAF), (0xB4, 0xB4), (0xB8, 0xB8), (0x2D8, 0x2DD), (0x37A, 0x37A),
      (0x384, 0x385), (0x1FBD, 0x1FBD), (0x1FBF, 0x1FC1), (0x1FCD, 0x1FCF),
      (0x1FDD, 0x1FDF), (0x1FED, 0x1FEE), (0x1FFD, 0x1FFE), (0x2017, 0x2017),
      (0x2024, 0x2026), (0x203E, 0x203E), (0x2047, 0x2049), (0x2100, 0x2101),
      (0x2105, 0x2106), (0x2488, 0x249B), (0x2A74, 0x2A74), (0x2FF0, 0x2FFF),
      (0x309B, 0x309C), (0x33C2, 0x33C2), (0x33C7, 0x33C7), (0x33D8, 0x33D8),
      (0xFC5E, 0xFC63), (0xFDFA, 0xFDFB), (0xFE12, 0xFE13), (0xFE16, 0xFE16),
      (0xFE19, 0xFE19), (0xFE30, 0xFE30), (0xFE47, 0xFE49), (0xFE52, 0xFE52),
      (0xFE55, 0xFE56), (0xFE5F, 0xFE5F), (0xFE64, 0xFE65), (0xFE68, 0xFE68),
      (0xFE6A, 0xFE6B), (0xFE70, 0xFE70), (0xFE72, 0xFE72), (0xFE74, 0xFE74),
      (0xFE76, 0xFE76), (0xFE78, 0xFE78), (0xFE7A, 0xFE7A), (0xFE7C, 0xFE7C),
      (0xFE7E, 0xFE7E), (0xFFE3, 0xFFE3), (0xFFFC, 0xFFFD), (0x1F100, 0x1F100)]
    c.toNat

/-- What a character of a domain name stands for: lower-case letters, ASCII for
its wide forms, and a dot for the other full stops. -/
def mapped (c : Char) : List Char :=
  let code := c.toNat
  if code < 0x80 then [c.toLower]
  else if isIgnored c then []
  else if code == 0x3002 || code == 0xFF61 then ['.']
  else if 0xFF01 ≤ code && code ≤ 0xFF5E then [(Char.ofNat (code - 0xFEE0)).toLower]
  else [c]

/-- Whether a domain name may hold a character. -/
def isAllowed (c : Char) : Bool :=
  if c.toNat < 0x80 then !isDenied c else Text.isPrintable c && !isRefused c

/-- Whether a label may stand as it is: it holds allowed characters only and does
not begin with a mark. -/
def isPlainLabel (label : List Char) : Bool :=
  label.all isAllowed && !label.head?.any Text.isExtending

/-- Whether a label is part of a domain name.  One that begins with `xn--` has to
be the encoded form of a label with other characters. -/
def isLabel (label : List Char) : Bool :=
  match label with
  | 'x' :: 'n' :: '-' :: '-' :: encoded =>
      label.all (fun c => c.toNat < 0x80 && isAllowed c) &&
        (Punycode.decode? encoded).any
          (fun decoded => isPlainLabel decoded && decoded.all (fun c => mapped c == [c]))
  | label => isPlainLabel label

/-- The domain name that the characters of a host stand for. -/
def domain (host : List Char) : Except UrlFault (List Char) :=
  match Utf8.decode? (percentDecode host) with
  | none => .error .domainName
  | some chars =>
      let name := chars.flatMap mapped
      if !(splitDots name).all isLabel then .error .domainName
      else if name.isEmpty then .error .emptyHost
      else .ok name

/-- The text between brackets at both ends. -/
def bracketed? (host : List Char) : Option (List Char) :=
  match host with
  | '[' :: rest => if rest.getLast? = some ']' then some rest.dropLast else none
  | _ => none

/-- Checks the text of a host that begins with a bracket. -/
def checkBracketed (host : List Char) : Except UrlFault Unit :=
  if (bracketed? host).any isIpv6 then .ok () else .error .ipv6

def checkDomain (host : List Char) : Except UrlFault Unit :=
  if host.head? = some '[' then checkBracketed host
  else
    match domain host with
    | .error fault => .error fault
    | .ok name => if endsInNumber name && !isIpv4 name then .error .ipv4 else .ok ()

/-- The characters that no host holds. -/
def isHostBreak (c : Char) : Bool :=
  c == '\x00' || " \t\n\r#/:<>?@[\\]^|".toList.contains c

/-- Checks a host that is taken as it stands. -/
def checkOpaque (host : List Char) : Except UrlFault Unit :=
  if host.head? = some '[' then checkBracketed host
  else if host.any isHostBreak then .error .domainCharacter
  else .ok ()

end ReviewFeed.Url
