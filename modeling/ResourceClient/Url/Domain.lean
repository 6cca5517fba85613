import ResourceClient.Text.Composition
import ResourceClient.Url.Domain.Direction
import ResourceClient.Url.Domain.Joining
import ResourceClient.Url.Domain.Mapping
import ResourceClient.Url.Percent
import ResourceClient.Url.Punycode

/-! # Domain names

    The host of a web address is a domain name: labels with dots between
    them.  Its ASCII form is in lower case, holds no character that delimits
    the parts of a URL, and has the labels that hold other characters
    written in Punycode.  A label that is given in Punycode has to be one
    that could have been given in its own characters. -/

namespace ResourceClient.Url

/-- Marks that no label begins with. -/
def markRows : List String := [
  "lc,33 ar,6 7i,18 1a,0 2,1 3,1 3,0 21,a 1n,k 11,0 2u,6 9,5 8,1 3,3 13,0 v,q 3a,a 1x,8 i,0 p,3",
  "5,8 a,2 4,4 1c,2 1r,7 1e,1l 34,2 4,h j,6 h,1 v,2 1n,0 2,f p,0 b,1 s,5 1q,l 1g,1 5,0 c,2 1n,0",
  "2,f 10,1 o,9 1u,0 2,p 10,1 w,0 1o,f p,0 15,4 1o,0 2,o 10,1 v,2 1n,0 2,o 10,1 u,3 1n,1 3,f",
  "p,0 b,1 v,2 21,l 14,1 1r,0 3,6 j,7 2y,0 3,8 k,5 28,1 t,0 2,0 2,0 5,1 1f,j l,1 7,1b 1l,0 2t,j",
  "17,3 8,2 4,2 5,6 a,3 h,b d,0 b,3 jn,2 qd,3 w,2 w,1 w,1 1w,t 13,0 4o,1 10,0 3b,r 6v,4 1q,16",
  "2j,u 28,4 1g,g 1j,8 l,2 x,c 1x,d 1q,j 4s,2 4,k p,0 7,0 3,2 5l,1r ls,w 2e7,2 40,0 2p,v ga,5",
  "33,1 n9y,3 5,9 16,1 2a,1 7m,0 4,0 5,0 o,4 9,0 2c,1 1g,h 18,h v,0 13,7 x,c 1l,3 1f,d 1e,0",
  "1w,d q,0 9,1 1b,2 1h,0 2,2 5,1 7,1 3,0 16,4 a,1 6m,7 9,1 fn6,0 le,f rh,0 6b,0 46,4 1aj,e",
  "1j,7 4t,1 fz,3 av,1 4b,a 1o,3 3i,2 1k,e 1k,0 3,1 c,3 1d,a i,0 1q,2 13,d u,1 1a,0 d,2 1f,d",
  "m,3 5,1 2m,b i,0 4h,b x,3 1n,1 3,f p,0 b,i 5v,h 15,0 2a,j 73,h 19,1 2c,g 3f,c 36,e 7j,e 78,e",
  "g,0 2,1 3z,f j,0 t,9 1e,6 8,3 c,0 a,a 1l,f bp,g 2r,10 4f,k m,0 1v,d a1,3 f0d,4 1s,6 tb,0",
  "2,1t 43,d f5l,1 3mr,1y h1,4 8,l o,6 11,3 48,2 1j2,1i 1n,1d 1m,0 f,0 n,k 12d,16 8g,6 am,0",
  "1q,3 15w,6 38,6"]

/-- The marks. -/
def marks : List Text.CodeRange := Text.ranges markRows

/-- ASCII characters that no domain name holds. -/
def forbiddenInDomain (c : Char) : Bool :=
  c.toNat ≤ 0x20 || c.toNat == 0x7f || "%#/:<>?@[\\]^|".toList.contains c

/-! ## Labels -/

/-- How a label in Punycode begins. -/
def punycodeMark : List Char := "xn--".toList

/-- The labels of a domain name. -/
def labels (cs : List Char) : List (List Char) := Text.splitAtEach '.' cs

/-- Whether the characters of a label may stand as they do. -/
def isLabel (cs : List Char) : Bool :=
  cs.all isStable && Text.composed cs == cs && !(cs.head?.any fun c => Text.isIn marks c.toNat)
    && joinersFit [] cs

/-- Whether all characters are ASCII. -/
def isAscii (cs : List Char) : Bool := cs.all (·.toNat < 0x80)

/-- The own characters of a label, if it is one. -/
def readLabel? (cs : List Char) : Option (List Char) :=
  if punycodeMark.isPrefixOf cs then do
    let own ← Punycode.decode? (cs.drop punycodeMark.length)
    guard (!isAscii own && isLabel own)
    return own
  else if isLabel cs then some cs
  else none

/-- A label in ASCII. -/
def writeLabel (cs : List Char) : List Char :=
  if isAscii cs then cs else punycodeMark ++ Punycode.encode cs

/-! ## Domain names -/

/-- The ASCII form of a domain name that holds other characters or labels in Punycode. -/
def mappedToAscii? (cs : List Char) : Option (List Char) := do
  let mapped ← mapChars? cs
  let own ← (labels (Text.composed mapped)).mapM readLabel?
  guard (Direction.fitAll own)
  return ['.'].intercalate (own.map writeLabel)

/-- The ASCII form of a domain name. -/
def domainToAscii? (bytes : List UInt8) : Option (List Char) := do
  let text ← String.fromUTF8? ⟨bytes.toArray⟩
  let lower := text.toList.map Char.toLower
  let plain := isAscii lower && !(labels lower).any punycodeMark.isPrefixOf
  let ascii ← if plain then some lower else mappedToAscii? text.toList
  guard (!ascii.any forbiddenInDomain)
  return ascii

end ResourceClient.Url
