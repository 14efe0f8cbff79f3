import Phrasebook.Glob.Pattern

/-! # Matching paths against glob patterns

A path is matched as its bytes, case counting. `?` and a class match one byte, so a character
of several bytes is several bytes to them, and the members of a class are taken byte by byte: a
member of several bytes adds each of its bytes, and a range runs from the last byte of its start
to the first byte of its end. `?`, `*` and the runs of `**` match every byte, the line feed
included. A pattern may instead keep `?` and `*` within a path component: they then match every
byte but the slash, while the runs of `**` still cross components.
A branch of a group that is empty (or holds only empty groups) is dropped, and a group with no
branch left matches the empty text. The pattern `**` alone matches every path.

The match is computed as the set of places in the path that each token can end at, from the
places the previous token ended at; the path matches when its end is among the last set.
-/

namespace Phrasebook.Glob

/-- The byte of a line feed. -/
def lineFeed : UInt8 := 10

/-- The byte of a slash. -/
def slash : UInt8 := 47

/-- The bytes of a character. -/
def Char.bytes (c : Char) : List UInt8 :=
  (String.singleton c).toUTF8.toList

/-- The bytes that a class's members stand for, as ranges of bytes. -/
def classBytes : List (Char × Char) → List (UInt8 × UInt8)
  | [] => []
  | (lo, hi) :: rest =>
    if lo = hi then (Char.bytes lo).map (fun b => (b, b)) ++ classBytes rest
    else
      let l := Char.bytes lo
      let h := Char.bytes hi
      (l.dropLast.map fun b => (b, b)) ++ [(l.getLast?.getD 0, h.head?.getD 0)]
        ++ ((h.drop 1).map fun b => (b, b)) ++ classBytes rest

/-- Whether a byte is a member of a class. -/
def classHas (ranges : List (Char × Char)) (b : UInt8) : Bool :=
  (classBytes ranges).any fun (lo, hi) => lo ≤ b && b ≤ hi

/-- The places from `p` on that a run of bytes can end at: any run, or, when `stop` is given, a
run of bytes other than `stop`. -/
def runEnds (stop : Option UInt8) (bs : Array UInt8) (p : Nat) : List Nat :=
  let len := ((bs.toList.drop p).takeWhile (fun b => some b != stop)).length
  (List.range (len + 1)).map (p + ·)

/-- The byte at a place, if any. -/
def byteAt (bs : Array UInt8) (p : Nat) : Option UInt8 :=
  bs[p]?

/-- The places that a run of bytes followed by a slash can end at. -/
def runToSlashEnds (bs : Array UInt8) (p : Nat) : List Nat :=
  (runEnds none bs p).filterMap fun q => if byteAt bs q = some slash then some (q + 1) else none

/-- Keeps the first of equal places. -/
def dedup (ps : List Nat) : List Nat :=
  ps.foldl (fun acc p => if acc.contains p then acc else acc ++ [p]) []

mutual

/-- Whether tokens stand for no text at all: only groups without branches that are not empty. -/
def blankTokens : List Token → Bool
  | [] => true
  | .alternates branches :: rest => blankBranches branches && blankTokens rest
  | _ :: _ => false

/-- Whether every branch is blank. -/
def blankBranches : List (List Token) → Bool
  | [] => true
  | b :: bs => blankTokens b && blankBranches bs

end

mutual

/-- The places that a token can end at, from place `p`; `stop`, when given, is the byte that `?`
and `*` do not match. -/
def tokenEnds (stop : Option UInt8) (bs : Array UInt8) : Token → Nat → List Nat
  | .literal c, p =>
    let cb := Char.bytes c
    if (bs.toList.drop p).take cb.length = cb then [p + cb.length] else []
  | .any, p =>
    match byteAt bs p with
    | some b => if some b != stop then [p + 1] else []
    | none => []
  | .zeroOrMore, p => runEnds stop bs p
  | .recursivePrefix, p =>
    [p] ++ (if byteAt bs p = some slash then [p + 1] else []) ++ runToSlashEnds bs p
  | .recursiveSuffix, p => if byteAt bs p = some slash then runEnds none bs (p + 1) else []
  | .recursiveZeroOrMore, p =>
    if byteAt bs p = some slash then [p + 1] ++ runToSlashEnds bs (p + 1) else []
  | .charClass negated ranges, p =>
    match byteAt bs p with
    | some b => if classHas ranges b != negated then [p + 1] else []
    | none => []
  | .alternates branches, p =>
    if blankBranches branches then [p] else branchEnds stop bs branches p

/-- The places that a sequence of tokens can end at, from any of the places given. -/
def sequenceEnds (stop : Option UInt8) (bs : Array UInt8) : List Token → List Nat → List Nat
  | [], ps => ps
  | t :: ts, ps => sequenceEnds stop bs ts (dedup (ps.flatMap fun p => tokenEnds stop bs t p))

/-- The places that any branch that is not blank can end at, from place `p`. -/
def branchEnds (stop : Option UInt8) (bs : Array UInt8) : List (List Token) → Nat → List Nat
  | [], _ => []
  | b :: rest, p =>
    (if blankTokens b then [] else sequenceEnds stop bs b [p]) ++ branchEnds stop bs rest p

end

/-- A pattern read and ready to match. -/
structure Pattern where
  text : String
  tokens : List Token
  /-- Whether `?` and `*` stay within a path component. -/
  withinComponent : Bool := false
  deriving Repr

namespace Pattern

/-- Reads a pattern. -/
def ofText (text : String) : Except GlobError Pattern :=
  (parse text).map fun ts => ⟨text, ts, false⟩

/-- Reads a pattern whose `?` and `*` stay within a path component. -/
def ofComponentText (text : String) : Except GlobError Pattern :=
  (parse text).map fun ts => ⟨text, ts, true⟩

/-- The byte that the pattern's `?` and `*` do not match, if any. -/
def stop (g : Pattern) : Option UInt8 :=
  if g.withinComponent then some slash else none

/-- Whether a path is in the pattern's language. -/
def accepts (g : Pattern) (path : String) : Bool :=
  let bs := path.toUTF8.data
  match g.tokens with
  | [.recursivePrefix] => true
  | ts => (sequenceEnds g.stop bs ts [0]).contains bs.size

end Pattern

end Phrasebook.Glob
