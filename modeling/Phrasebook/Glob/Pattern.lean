/-! # Glob patterns

A glob pattern names a set of paths. `?` stands for any one byte and `*` for any run of bytes,
slashes included; `**` as a whole path component stands for any number of components (at the
start `**/`, in the middle `/**/`, at the end `/**`), and elsewhere for two `*`. A class `[...]`
or `[!...]` stands for a byte among (or not among) its characters and ranges, `{a,b}` for any of
its branches (which may nest), and a backslash makes the next character literal.

Reading a pattern fails for a class without its `]`, a range that runs backwards, a `}` that
closes no group, a group without its `}`, and a backslash at the end.
-/

namespace Phrasebook.Glob

/-- One piece of a pattern. -/
inductive Token where
  | literal (c : Char)
  /-- Any one byte. -/
  | any
  /-- Any run of bytes. -/
  | zeroOrMore
  /-- `**/` at the start: nothing, a slash, or any run of bytes ending in a slash. -/
  | recursivePrefix
  /-- `/**` at the end: a slash and any run of bytes. -/
  | recursiveSuffix
  /-- `/**/` in the middle: a slash, or a slash, any run of bytes and a slash. -/
  | recursiveZeroOrMore
  /-- A byte among (or, negated, not among) the characters of the ranges. -/
  | charClass (negated : Bool) (ranges : List (Char × Char))
  /-- Any of the branches. -/
  | alternates (branches : List (List Token))
  deriving Repr, Inhabited

/-- Why a pattern cannot be read. -/
inductive GlobError where
  | unclosedClass
  | invalidRange (lo hi : Char)
  | unopenedAlternates
  | unclosedAlternates
  | danglingEscape
  deriving Repr, DecidableEq

namespace GlobError

/-- The sentence for the fault. -/
def kind : GlobError → String
  | .unclosedClass => "unclosed character class; missing ']'"
  | .invalidRange lo hi =>
    "invalid range; '" ++ String.singleton lo ++ "' > '" ++ String.singleton hi ++ "'"
  | .unopenedAlternates => "unopened alternate group; missing '\x7b' (maybe escape '\x7d' with '[\x7d]'?)"
  | .unclosedAlternates => "unclosed alternate group; missing '\x7d' (maybe escape '\x7b' with '[\x7b]'?)"
  | .danglingEscape => "dangling '\\'"

/-- The sentence for the fault in a pattern. -/
def message (pattern : String) (e : GlobError) : String :=
  "error parsing glob '" ++ pattern ++ "': " ++ e.kind

end GlobError

/-- A pattern being read: the branches open so far (the innermost first, each with its tokens
last first), and for each open group the number of branches below it. -/
structure Reader where
  branches : List (List Token) := [[]]
  groups : List Nat := []

namespace Reader

/-- Adds a token to the innermost branch. -/
def push (r : Reader) (t : Token) : Except GlobError Reader :=
  match r.branches with
  | b :: bs => .ok { r with branches := (t :: b) :: bs }
  | [] => .error .unopenedAlternates

/-- Whether the innermost branch has tokens. -/
def hasTokens (r : Reader) : Bool :=
  match r.branches with
  | b :: _ => !b.isEmpty
  | [] => false

/-- Takes the last token of the innermost branch. -/
def pop (r : Reader) : Option Token × Reader :=
  match r.branches with
  | (t :: b) :: bs => (some t, { r with branches := b :: bs })
  | _ => (none, r)

/-- Opens a group. -/
def openGroup (r : Reader) : Reader :=
  { branches := [] :: r.branches, groups := r.branches.length :: r.groups }

/-- Closes the innermost group: its branches become one token of the branch around it. -/
def closeGroup (r : Reader) : Except GlobError Reader :=
  match r.groups with
  | [] => .error .unopenedAlternates
  | start :: gs =>
    let inner := r.branches.take (r.branches.length - start)
    let outer := r.branches.drop (r.branches.length - start)
    ({ branches := outer, groups := gs } : Reader).push
      (.alternates (inner.reverse.map List.reverse))

/-- A comma: a new branch inside a group, else a literal. -/
def comma (r : Reader) : Except GlobError Reader :=
  if r.groups.isEmpty then r.push (.literal ',')
  else .ok { r with branches := [] :: r.branches }

end Reader

/-- Sets the end of the last range, which must not run backwards. -/
def extendRange (ranges : List (Char × Char)) (c : Char) : Except GlobError (List (Char × Char)) :=
  match ranges with
  | (lo, _) :: rs => if c < lo then .error (.invalidRange lo c) else .ok ((lo, c) :: rs)
  | [] => .ok [(c, c)]

/-- A class being read: whether it is negated, whether no member has been read yet, whether the
last character was a `-` that starts a range, and the members so far, last first. -/
structure ClassReader where
  negated : Bool
  first : Bool := true
  inRange : Bool := false
  ranges : List (Char × Char) := []

/-- Reads one character of a class: the class goes on, or it ends with its token. -/
def ClassReader.step (k : ClassReader) (c : Char) : Except GlobError (ClassReader ⊕ Token) :=
  if c = ']' ∧ ¬k.first then
    .ok (.inr (.charClass k.negated (if k.inRange then ('-', '-') :: k.ranges else k.ranges).reverse))
  else if c = ']' then .ok (.inl { k with first := false, ranges := (']', ']') :: k.ranges })
  else if c = '-' then
    if k.first then .ok (.inl { k with first := false, ranges := ('-', '-') :: k.ranges })
    else if k.inRange then
      (extendRange k.ranges '-').map fun rs => .inl { k with inRange := false, ranges := rs }
    else .ok (.inl { k with inRange := true })
  else if k.inRange then
    (extendRange k.ranges c).map fun rs => .inl { k with first := false, inRange := false, ranges := rs }
  else .ok (.inl { k with first := false, ranges := (c, c) :: k.ranges })

/-- The tokens of `**`: `before` is the character before it and `rest` the text after it. Gives
the reader and whether the slash after `**` belongs to it. -/
def doubleStar (r : Reader) (before : Option Char) (rest : List Char) :
    Except GlobError (Reader × Bool) := do
  let twoStars : Except GlobError (Reader × Bool) := do
    let r ← r.push .zeroOrMore
    let r ← r.push .zeroOrMore
    pure (r, false)
  if !r.hasTokens then
    match rest with
    | c :: _ => if c ≠ '/' then twoStars else pure (← r.push .recursivePrefix, true)
    | [] => pure (← r.push .recursivePrefix, false)
  else if before ≠ some '/' ∧ (r.groups.isEmpty ∨ (before ≠ some ',' ∧ before ≠ some '{')) then
    twoStars
  else
    let suffix : Option (Bool × Bool) := match rest with
      | [] => some (true, false)
      | ',' :: _ => if r.groups.isEmpty then none else some (true, false)
      | '}' :: _ => if r.groups.isEmpty then none else some (true, false)
      | '/' :: _ => some (false, true)
      | _ => none
    match suffix with
    | none => twoStars
    | some (isSuffix, eatSlash) =>
      let (last, r) := r.pop
      let t := match last with
        | some .recursivePrefix => Token.recursivePrefix
        | some .recursiveSuffix => Token.recursiveSuffix
        | _ => if isSuffix then Token.recursiveSuffix else Token.recursiveZeroOrMore
      pure (← r.push t, eatSlash)

/-- Reads a pattern from the text left; `before` is the last character read, and `inClass` the
class being read, if any. -/
def readFrom (r : Reader) (before : Option Char) (inClass : Option ClassReader) :
    List Char → Except GlobError Reader
  | [] => if inClass.isSome then .error .unclosedClass else .ok r
  | c :: cs =>
    match inClass with
    | some k => do
      match ← k.step c with
      | .inl k' => readFrom r (some c) (some k') cs
      | .inr t => readFrom (← r.push t) (some c) none cs
    | none =>
    match c with
    | '?' => do readFrom (← r.push .any) (some c) none cs
    | '*' =>
      match _hcs : cs with
      | '*' :: rest => do
        let (r', eatSlash) ← doubleStar r before rest
        match _hrest : rest, eatSlash with
        | '/' :: more, true => readFrom r' (some '/') none more
        | _, _ => readFrom r' (some '*') none rest
      | _ => do readFrom (← r.push .zeroOrMore) (some c) none cs
    | '[' =>
      match _hcs : cs with
      | '!' :: more => readFrom r (some '!') (some { negated := true }) more
      | '^' :: more => readFrom r (some '^') (some { negated := true }) more
      | _ => readFrom r (some c) (some { negated := false }) cs
    | '{' => readFrom r.openGroup (some c) none cs
    | '}' => do readFrom (← r.closeGroup) (some c) none cs
    | ',' => do readFrom (← r.comma) (some c) none cs
    | '\\' =>
      match cs with
      | [] => .error .danglingEscape
      | d :: rest => do readFrom (← r.push (.literal d)) (some d) none rest
    | _ => do readFrom (← r.push (.literal c)) (some c) none cs
termination_by text => text.length
decreasing_by all_goals (try simp_wf); all_goals (try subst_vars); all_goals (try simp); all_goals omega

/-- The tokens of a pattern. -/
def parse (pattern : String) : Except GlobError (List Token) := do
  let r ← readFrom {} none none pattern.toList
  match r.branches with
  | [b] => pure b.reverse
  | _ => .error .unclosedAlternates

end Phrasebook.Glob
