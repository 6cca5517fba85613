import ResourceClient.Text.Composition

/-! # Joiners

    Two characters that are not seen change how their neighbours are joined.
    A label holds them only where they change something: after a sign that
    takes the vowel from its letter, or, for the one that keeps letters
    apart, between letters that would be joined. -/

namespace ResourceClient.Url

/-- Characters with the numbers of the ways in which they are joined. -/
def joiningRows : List String := [
  "lc,33,3 ar,6,3 7i,18,3 1a,0,3 2,1,3 3,1,3 3,0,3 21,a,3 g,0,1 2,3,2 4,0,1 1,0,2 1,0,1 1,0,2",
  "1,4,1 5,3,2 4,c,1 e,6,1 7,0,2 1,1,1 2,k,3 z,1,1 2,0,3 1,2,2 8,e,1 f,h,2 i,11,1 12,0,2 1,1,1",
  "2,8,2 9,0,1 1,0,2 1,0,1 1,0,2 1,1,1 2,1,2 3,0,2 1,6,3 9,5,3 8,1,3 3,3,3 4,1,2 c,2,1 5,0,1",
  "h,0,2 1,0,3 1,2,1 3,4,2 5,3,1 4,0,2 1,8,1 9,0,2 1,0,1 1,0,2 1,0,1 1,0,2 1,1,1 2,0,2 1,q,3",
  "t,0,2 1,a,1 b,2,2 3,e,1 f,1,2 2,3,1 4,0,2 1,0,1 1,1,2 2,2,1 3,1,2 2,5,1 18,a,3 10,w,1 x,8,3",
  "i,0,3 p,3,3 5,8,3 a,2,3 4,4,3 n,0,2 1,4,1 5,1,2 2,0,1 1,0,2 1,9,1 a,0,2 1,0,1 1,2,2 3,2,3",
  "7,0,1 2,3,1 5,0,2 1,0,1 1,p,2 t,0,1 3,4,1 5,0,2 1,0,1 8,8,3 9,9,1 a,2,2 4,0,2 1,1,1 2,1,2",
  "2,5,1 6,0,2 1,e,1 g,1k,3 34,0,3 2,0,3 5,7,3 c,0,3 4,6,3 h,1,3 v,0,3 1n,0,3 5,3,3 c,0,3 l,1,3",
  "s,4,3 1q,0,3 5,g,3 1b,1,3 5,0,3 c,1,3 1n,0,3 5,7,3 c,0,3 l,1,3 o,7,3 1u,0,3 3,0,3 2,3,3",
  "c,9,3 l,1,3 w,0,3 1q,0,3 d,0,3 1f,0,3 4,0,3 1k,0,3 2,2,3 8,g,3 s,1,3 v,0,3 1n,0,3 3,0,3",
  "7,0,3 6,1,3 m,1,3 u,1,3 1n,1,3 6,3,3 c,0,3 l,1,3 v,0,3 21,0,3 8,4,3 2n,0,3 3,6,3 j,7,3",
  "2y,0,3 3,8,3 k,6,3 28,1,3 t,0,3 2,0,3 2,0,3 1k,d,3 f,4,3 6,1,3 7,1b,3 1l,0,3 2v,3,3 5,5,3",
  "7,1,3 4,1,3 r,1,3 6,2,3 j,3,3 h,0,3 3,1,3 8,0,3 g,0,3 jk,2,3 qd,2,3 w,1,3 w,1,3 w,1,3 1x,6,3",
  "f,0,3 3,a,3 k,0,3 16,0,1 p,2g,1 2t,1,3 2,x,1 y,0,3 1,0,1 3a,2,3 7,1,3 b,0,3 7,2,3 66,1,3",
  "4,0,3 1n,0,3 2,8,3 a,0,3 3,7,3 e,c,3 1p,2b,3 3o,0,3 2,4,3 6,0,3 6,0,3 15,8,3 l,1,3 y,3,3",
  "6,1,3 3,2,3 1n,0,3 2,1,3 5,0,3 2,2,3 1p,7,3 a,1,3 4a,2,3 4,c,3 e,6,3 b,0,3 7,0,3 4,1,3",
  "5k,1r,3 ls,w,3 2e7,2,3 40,0,3 2p,v,3 ga,3,3 33,1,3 n9y,3,3 5,9,3 16,1,3 2a,1,3 7m,0,3 4,0,3",
  "5,0,3 q,1,3 7,0,3 k,1d,1 1e,0,0 2a,1,3 s,h,3 v,0,3 13,7,3 x,a,3 1l,2,3 1f,0,3 3,3,3 6,1,3",
  "15,0,3 1w,5,3 8,1,3 4,1,3 e,0,3 9,0,3 1c,0,3 1g,0,3 2,2,3 5,1,3 7,1,3 3,0,3 17,1,3 a,0,3",
  "6n,0,3 3,0,3 5,0,3 fn5,0,3 le,f,3 rh,0,3 6b,0,3 46,4,3 1aj,e,3 1j,7,3 3s,4,1 5,0,2 2,0,2",
  "2,1,2 4,0,0 1,4,2 5,3,1 4,0,0 1,4,1 5,0,2 1,2,1 3,0,2 3,0,2 1,1,3 6,3,1 4,0,2 41,0,1 1,0,2",
  "1,0,1 1,2,2 3,2,1 3,0,2 1,1,1 2,0,2 1,0,1 1,1,2 2,0,1 1,0,2 o,3,2 4,1,1 9f,0,0 1,w,1 x,0,2",
  "1,0,1 1,3,3 1x,4,3 8y,1,3 n,0,2 1,1,1 3,1,1 1g,5,3 1i,2,1 3,0,2 1,g,1 i,a,3 b,2,1 3,0,2",
  "s,3,1 4,1,2 2,b,1 c,3,3 1a,0,1 2,1,1 2,2,2 4,0,1 1,1,2 2,1,1 2,0,2 1,1,1 3,0,1 1,1,2 2,0,1",
  "5,0,2 1,0,1 1,0,0 1i,0,3 1j,e,3 1k,0,3 3,1,3 c,2,3 1g,3,3 6,1,3 9,0,3 1q,2,3 13,4,3 6,7,3",
  "1y,0,3 d,1,3 1i,8,3 j,3,3 6,0,3 2o,2,3 5,0,3 2,1,3 8,0,3 3,0,3 4e,0,3 4,7,3 t,1,3 1n,1,3",
  "5,0,3 12,e,3 2d,5,3 j,0,3 2,0,3 2,0,3 f,1,3 2f,7,3 a,2,3 4,0,3 o,0,3 2d,5,3 7,0,3 5,1,3",
  "3,1,3 6o,3,3 a,1,3 3,1,3 t,1,3 2f,7,3 a,0,3 2,1,3 30,0,3 2,0,3 3,5,3 7,0,3 2u,0,3 2,0,3",
  "3,3,3 5,4,3 7c,8,3 a,1,3 76,1,3 3,0,3 5,0,3 41,7,3 c,0,3 x,9,3 1e,5,3 8,3,3 c,0,3 a,5,3",
  "8,2,3 1d,c,3 e,1,3 5k,0,3 2,2,3 4,0,3 5m,d,3 f,0,3 2b,l,3 o,6,3 8,1,3 3,1,3 3g,k,3 m,0,3",
  "21,1,3 5,0,3 2,0,3 9o,1,3 d,1,3 1i,4,3 a,0,3 2,0,3 o,0,3 44m,0,3 7,e,3 8uv,b,3 f,2,3 1xf,4,3",
  "1s,6,3 tb,0,3 1s,3,3 2d,0,3 f5l,1,3 3mr,1y,3 h3,2,3 k,7,3 a,6,3 11,3,3 48,2,3 1j2,1i,3",
  "1n,1d,3 1m,0,3 f,0,3 n,k,3 12d,3z,3 8g,6,3 am,0,3 1q,3,3 e8,3,3 76,1,3 6t,0,3 3,0,3 8,1,3",
  "7,0,3 d7,6,3 2a,x,1 y,7,3"]

/-- How a letter is joined to its neighbours. -/
inductive Joining where
  /-- To the letter after it. -/
  | after
  /-- To both letters. -/
  | both
  /-- To the letter before it. -/
  | before
  /-- Not at all, but letters on both sides of it may be joined. -/
  | transparent
  deriving DecidableEq, Repr

namespace Joining

/-- The way of joining with a number of the table. -/
def ofNumber? : Nat → Option Joining
  | 0 => some after
  | 1 => some both
  | 2 => some before
  | 3 => some transparent
  | _ => none

/-- The ranges of the table. -/
def table : List Text.CodeRange := Text.ranges joiningRows

/-- How a character is joined, if it is. -/
def of? (c : Char) : Option Joining := (Text.valueIn? table c.toNat).bind ofNumber?

end Joining

/-- The class of the signs that take the vowel from a letter. -/
def viramaClass : Nat := 9

/-- Keeps letters apart. -/
def nonJoiner : Char := '\u200c'

/-- Joins letters. -/
def joiner : Char := '\u200d'

/-- How the first character that is not transparent is joined. -/
def nextJoining (cs : List Char) : Option Joining :=
  ((cs.map Joining.of?).dropWhile (· == some .transparent)).head?.join

/-- Whether joiners stand only where they change something; `before` are the
    characters in front, the last one first. -/
def joinersFit (before : List Char) : List Char → Bool
  | [] => true
  | c :: rest =>
    let afterVirama := before.head?.any fun d => Text.combiningClass d == viramaClass
    let keepsApart :=
      [some Joining.after, some .both].contains (nextJoining before)
        && [some Joining.before, some .both].contains (nextJoining rest)
    let fits :=
      if c == nonJoiner then afterVirama || keepsApart
      else if c == joiner then afterVirama
      else true
    fits && joinersFit (c :: before) rest

end ResourceClient.Url
