import FormGuard.Fault
import FormGuard.Number.Numeral
import FormGuard.Pattern.Expr
import FormGuard.Text.CharacterNames

/-! Reading a pattern. The text is first cut into tokens, a backslash together with the character behind it; then
alternatives, sequences and items are read by descent, with a defect for each way in which a pattern can be
ill-formed. -/
namespace FormGuard.Pattern
open FormGuard.Text

inductive Defect where
  | danglingEscape
  | badEscape
  | unfinishedClass
  | badRange
  | nothingToRepeat
  | repeatedTwice
  | countsReversed
  | countTooLarge
  | countTooLong
  | codeTooLarge
  | missingBrace
  | unfinishedName
  | unknownCharacter
  | unknownExtension
  | unfinishedGroup
  | badGroupName
  | groupNamedTwice
  | unknownGroup
  | openGroup
  | tooManyBranches
  | unbalanced
  | badFlags
  | lateFlags
  | clashingAlphabets
  | looseLookbehind
  | loopForbidden
  deriving DecidableEq, Repr

namespace Defect

def detail : Defect → String
  | danglingEscape => "bad escape (end of pattern)"
  | badEscape => "bad escape"
  | unfinishedClass => "unterminated character set"
  | badRange => "bad character range"
  | nothingToRepeat => "nothing to repeat"
  | repeatedTwice => "multiple repeat"
  | countsReversed => "min repeat greater than max repeat"
  | countTooLarge => "the repetition number is too large"
  | countTooLong => "the repetition number has too many digits"
  | codeTooLarge => "the character code is too large"
  | missingBrace => "missing \x7b"
  | unfinishedName => "unterminated name"
  | unknownCharacter => "undefined character name"
  | unknownExtension => "unknown extension"
  | unfinishedGroup => "missing ), unterminated subpattern"
  | badGroupName => "bad character in group name"
  | groupNamedTwice => "redefinition of group name"
  | unknownGroup => "invalid group reference"
  | openGroup => "cannot refer to an open group"
  | tooManyBranches => "conditional backref with more than two branches"
  | unbalanced => "unbalanced parenthesis"
  | badFlags => "bad inline flags"
  | lateFlags => "global flags not at the start of the expression"
  | clashingAlphabets => "ASCII and UNICODE flags are incompatible"
  | looseLookbehind => "look-behind requires fixed-width pattern"
  | loopForbidden => "unsupported template operator"

/-- Most defects make a bad pattern; a number out of range, or two alphabets at once, break the reading off. -/
def fault : Defect → Fault
  | countTooLarge | codeTooLarge => .overflow
  | countTooLong | clashingAlphabets => .badValue
  | _ => .badPattern

end Defect

inductive Token where
  | plain (c : Char)
  | escaped (c : Char)
  | dangling
  deriving DecidableEq, Repr

def tokens : List Char → List Token
  | [] => []
  | '\\' :: [] => [.dangling]
  | '\\' :: c :: cs => .escaped c :: tokens cs
  | c :: cs => .plain c :: tokens cs

structure Flags where
  ignoreCase : Bool
  multiline : Bool
  dotAll : Bool
  verbose : Bool
  ascii : Bool
  unicode : Bool
  template : Bool
  deriving DecidableEq, Repr

namespace Flags

def none : Flags := ⟨false,false,false,false,false,false,false⟩
def caseless : Flags := { none with ignoreCase := true }

def folding (f : Flags) : Folding :=
  if f.ignoreCase then if f.ascii then .ascii else .full else .exact

def letters : List Char := ['i','L','m','s','x','a','t','u']

def set (f : Flags) (on : Bool) : Char → Flags
  | 'i' => { f with ignoreCase := on }
  | 'm' => { f with multiline := on }
  | 's' => { f with dotAll := on }
  | 'x' => { f with verbose := on }
  | 'a' => { f with ascii := on }
  | 'u' => { f with unicode := on }
  | 't' => { f with template := on }
  | _ => f

def setAll (f : Flags) (on : Bool) (cs : List Char) : Flags := cs.foldl (fun f c => f.set on c) f

def within (f : Flags) (on off : List Char) : Flags :=
  let f := if on.contains 'a' || on.contains 'u' then { f with ascii := false, unicode := false } else f
  (f.setAll true on).setAll false off

end Flags

/-- What is known while reading: one entry per group, open until its width is known. -/
structure Known where
  flags : Flags
  widths : List (Option (Nat × Nat))
  names : List (String × Nat)
  -- groups that existed when the outermost lookbehind began
  behindFrom : Option Nat
  -- groups asked for by conditions, to be checked at the end
  asked : List Nat
  loose : Bool
  loops : Bool
  deriving Repr

namespace Known

def start (flags : Flags) : Known := ⟨flags,[],[],none,[],false,false⟩

def groups (st : Known) : Nat := st.widths.length + 1

def closed (st : Known) (i : Nat) : Bool := i == 0 || (st.widths.getD (i - 1) none).isSome

/-- A reference to a group made inside a lookbehind has to be to a closed one outside of it. -/
def checkBehind (st : Known) (i : Nat) : Except Defect Unit :=
  match st.behindFrom with
  | none => .ok ()
  | some n => if i < st.groups ∧ i ≠ 0 ∧ st.closed i ∧ i < n then .ok () else .error .openGroup

def checkReference (st : Known) (i : Nat) : Except Defect Unit :=
  if i < st.groups then if st.closed i then st.checkBehind i else .error .openGroup
  else .error .unknownGroup

end Known

def isOctal (c : Char) : Bool := '0' ≤ c && c ≤ '7'

def isHex (c : Char) : Bool := Numeral.isDigit c || ('a' ≤ c && c ≤ 'f') || ('A' ≤ c && c ≤ 'F')

def hexValue (c : Char) : Nat :=
  if Numeral.isDigit c then c.toNat - 48 else (if c < 'a' then c.toNat - 55 else c.toNat - 87)

def isLetter (c : Char) : Bool := ('a' ≤ c && c ≤ 'z') || ('A' ≤ c && c ≤ 'Z')

def takePlain (p : Char → Bool) : (n : Nat) → List Token → List Char × List Token
  | 0,ts => ([],ts)
  | n + 1,.plain c :: ts =>
    if p c then
      let (cs,rest) := takePlain p n ts
      (c :: cs,rest)
    else ([],.plain c :: ts)
  | _ + 1,ts => ([],ts)

def octalValue (cs : List Char) : Nat := cs.foldl (fun n c => 8 * n + (c.toNat - 48)) 0

def readHex (width : Nat) (ts : List Token) : Except Defect (Nat × List Token) :=
  let (cs,rest) := takePlain isHex width ts
  if cs.length = width then
    let n := cs.foldl (fun n c => 16 * n + hexValue c) 0
    if rest = [.dangling] then .error .danglingEscape
    else if n < 0x110000 then .ok (n,rest)
    else if n < 0x80000000 then .error .badEscape
    else .error .codeTooLarge
  else .error .badEscape

def takeName (terminator : Char) : List Token → Except Defect (List Char × List Token)
  | [] => .error .unfinishedName
  | .dangling :: _ => .error .danglingEscape
  | .escaped c :: ts => do
    let (cs,rest) ← takeName terminator ts
    return ('\\' :: c :: cs,rest)
  | .plain c :: ts =>
    if c = terminator then .ok ([],ts)
    else do
      let (cs,rest) ← takeName terminator ts
      return (c :: cs,rest)

def readNamed : List Token → Except Defect (Nat × List Token)
  | .plain '\x7b' :: ts => do
    let (name,rest) ← takeName '\x7d' ts
    match characterNamed? name with
    | some n => return (n,rest)
    | none => .error .unknownCharacter
  | _ => .error .missingBrace

def checkOctal (n : Nat) (ts : List Token) : Except Defect (Nat × List Token) :=
  if n ≤ 255 then .ok (n,ts) else .error .badEscape

def controlEscape? : Char → Option Nat
  | 'a' => some 7
  | 'b' => some 8
  | 'f' => some 12
  | 'n' => some 10
  | 'r' => some 13
  | 't' => some 9
  | 'v' => some 11
  | '\\' => some 92
  | _ => none

def shorthandEscape? : Char → Option Item
  | 'd' => some (.shorthand false .digit)
  | 'D' => some (.shorthand true .digit)
  | 's' => some (.shorthand false .blank)
  | 'S' => some (.shorthand true .blank)
  | 'w' => some (.shorthand false .word)
  | 'W' => some (.shorthand true .word)
  | _ => none

def readCharEscape (c : Char) (ts : List Token) : Except Defect (Nat × List Token) :=
  if c = 'x' then readHex 2 ts
  else if c = 'u' then readHex 4 ts
  else if c = 'U' then readHex 8 ts
  else if c = 'N' then readNamed ts
  else if isLetter c || Numeral.isDigit c then .error .badEscape
  else .ok (c.toNat,ts)

def readClassEscape (c : Char) (ts : List Token) : Except Defect (Item × List Token) :=
  match controlEscape? c with
  | some n => .ok (.char n,ts)
  | none =>
    match shorthandEscape? c with
    | some item => .ok (item,ts)
    | none => do
      if isOctal c then
        let (cs,rest) := takePlain isOctal 2 ts
        let (n,rest) ← checkOctal (octalValue (c :: cs)) rest
        return (.char n,rest)
      else
        let (n,rest) ← readCharEscape c ts
        return (.char n,rest)

def readClassItem (t : Token) (ts : List Token) : Except Defect (Item × List Token) :=
  match t with
  | .plain c => .ok (.char c.toNat,ts)
  | .escaped c => readClassEscape c ts
  | .dangling => .error .danglingEscape

def readClass : (fuel : Nat) → (items : List Item) → List Token → Except Defect (List Item × List Token)
  | 0,_,_ => .error .unfinishedClass
  | _ + 1,_,[] => .error .unfinishedClass
  | fuel + 1,items,t :: ts =>
    if t = .plain ']' ∧ ¬ items.isEmpty then .ok (items.reverse,ts)
    else do
      let (item,ts) ← readClassItem t ts
      match ts with
      | .plain '-' :: [] => .error .unfinishedClass
      | .plain '-' :: .plain ']' :: ts => .ok ((.char 45 :: item :: items).reverse,ts)
      | .plain '-' :: u :: ts =>
        let (upper,ts) ← readClassItem u ts
        match item,upper with
        | .char lo,.char hi =>
          if hi < lo then .error .badRange else readClass fuel (.range lo hi :: items) ts
        | _,_ => .error .badRange
      | ts => readClass fuel (item :: items) ts

def readCount (digits : List Char) : Except Defect Nat :=
  if Numeral.digitLimit < digits.length then .error .countTooLong
  else if 4294967295 ≤ Numeral.natOf digits then .error .countTooLarge
  else .ok (Numeral.natOf digits)

/-- Bounds between braces, after the opening one: the digits of each bound and the rest, or nothing when the
brace stands for itself. -/
def braceDigits? (ts : List Token) : Option (List Char × List Char × List Token) :=
  if ts.head? = some (.plain '\x7d') then none
  else
    let (lo,rest) := takePlain Numeral.isDigit ts.length ts
    let (hi,rest) :=
      match rest with
      | .plain ',' :: rest => takePlain Numeral.isDigit rest.length rest
      | rest => (lo,rest)
    match rest with
    | .plain '\x7d' :: rest => some (lo,hi,rest)
    | _ => none

def readBounds (lo hi : List Char) : Except Defect (Nat × Option Nat) := do
  let least ← if lo.isEmpty then pure 0 else readCount lo
  if hi.isEmpty then return (least,none)
  let most ← readCount hi
  if most < least then .error .countsReversed else .ok (least,some most)

inductive Entry where
  | item (n : Node)
  | anchor (a : Anchor)
  | loop (n : Node)
  deriving Repr

def Entry.node : Entry → Node
  | item n | loop n => n
  | anchor a => .anchor a

def chain (entries : List Entry) : Node :=
  entries.foldl (fun tail e => match tail with | .empty => e.node | _ => .seq e.node tail) .empty

def repeatLatest (least : Nat) (most : Option Nat) (entries : List Entry) (st : Known) (ts : List Token) :
    Except Defect (List Entry × Known × List Token) :=
  match entries with
  | [] | .anchor _ :: _ => .error .nothingToRepeat
  | .loop _ :: _ => .error .repeatedTwice
  | .item n :: rest =>
    let (appetite,ts) :=
      match ts with
      | .plain '?' :: ts => (Appetite.lazy,ts)
      | .plain '+' :: ts => (Appetite.possessive,ts)
      | ts => (Appetite.greedy,ts)
    .ok (.loop (.loop least most appetite n) :: rest,{ st with loops := true },ts)

inductive Opening where
  | capture (name : Option String)
  | bare (flags : Flags)
  | atomic
  | ahead (negated : Bool)
  | behind (negated : Bool)
  | condition (index : Nat)
  | reference (index : Nat)
  | comment
  | global (letters : List Char)
  deriving Repr

def dropComment : List Token → Except Defect (List Token)
  | [] => .error .unfinishedGroup
  | .dangling :: _ => .error .danglingEscape
  | .plain ')' :: ts => .ok ts
  | _ :: ts => dropComment ts

def groupNumber (st : Known) (name : List Char) : Except Defect (Nat × Known) := do
  if isName name then
    match st.names.lookup (String.ofList name) with
    | some i => return (i,st)
    | none => .error .unknownGroup
  else
    match Numeral.readInt? name with
    | some n =>
      if n ≤ 0 then .error .badGroupName
      else if 1073741823 ≤ n then .error .unknownGroup
      else return (n.toNat,{ st with asked := n.toNat :: st.asked })
    | none => .error .badGroupName

def isFlag (c : Char) : Bool := Flags.letters.contains c

def readFlags (flags : Flags) (ts : List Token) : Except Defect (Opening × List Token) :=
  let (on,ts) := takePlain isFlag ts.length ts
  if on.contains 'L' || (on.contains 'a' && on.contains 'u') then .error .badFlags
  else
    match ts with
    | .plain ')' :: ts => if on.isEmpty then .error .unknownExtension else .ok (.global on,ts)
    | .plain ':' :: ts =>
      if on.isEmpty || on.contains 't' then .error .badFlags else .ok (.bare (flags.within on []),ts)
    | .plain '-' :: ts =>
      let (off,ts) := takePlain isFlag ts.length ts
      if off.isEmpty || on.contains 't' || off.any ['a','u','L','t'].contains || on.any off.contains then
        .error .badFlags
      else
        match ts with
        | .plain ':' :: ts => .ok (.bare (flags.within on off),ts)
        | _ => .error .badFlags
    | _ => .error .badFlags

def readOpening (flags : Flags) (st : Known) (ts : List Token) :
    Except Defect (Opening × Known × List Token) :=
  match ts with
  | .plain '?' :: ts =>
    match ts with
    | .plain ':' :: ts => .ok (.bare flags,st,ts)
    | .plain '>' :: ts => .ok (.atomic,st,ts)
    | .plain '=' :: ts => .ok (.ahead false,st,ts)
    | .plain '!' :: ts => .ok (.ahead true,st,ts)
    | .plain '#' :: ts => do return (.comment,st,← dropComment ts)
    | .plain '<' :: .plain '=' :: ts => .ok (.behind false,st,ts)
    | .plain '<' :: .plain '!' :: ts => .ok (.behind true,st,ts)
    | .plain 'P' :: .plain '<' :: ts => do
      let (name,ts) ← takeName '>' ts
      if isName name then return (.capture (some (String.ofList name)),st,ts) else .error .badGroupName
    | .plain 'P' :: .plain '=' :: ts => do
      let (name,ts) ← takeName ')' ts
      if !isName name then .error .badGroupName
      match st.names.lookup (String.ofList name) with
      | none => .error .unknownGroup
      | some i =>
        st.checkReference i
        return (.reference i,st,ts)
    | .plain '(' :: ts => do
      let (name,ts) ← takeName ')' ts
      let (i,st) ← groupNumber st name
      st.checkBehind i
      return (.condition i,st,ts)
    | .plain c :: rest =>
      if isFlag c || c = '-' then do
        let (o,rest) ← readFlags flags (.plain c :: rest)
        return (o,st,rest)
      else .error .unknownExtension
    | _ => .error .unknownExtension
  | ts => .ok (.capture none,st,ts)

def literal (flags : Flags) (n : Nat) : Entry := .item (.one (.single flags.folding n))

def readDigits (flags : Flags) (st : Known) (c : Char) (ts : List Token) :
    Except Defect (Entry × List Token) := do
  let (more,rest) := takePlain Numeral.isDigit 1 ts
  let digits := c :: more
  match more,takePlain isOctal 1 rest with
  | [d],([e],rest') =>
    if isOctal c && isOctal d then
      let (n,rest') ← checkOctal (octalValue [c,d,e]) rest'
      return (literal flags n,rest')
    st.checkReference (Numeral.natOf digits)
    return (.item (.sameAs (Numeral.natOf digits) flags.folding),rest)
  | _,_ =>
    st.checkReference (Numeral.natOf digits)
    return (.item (.sameAs (Numeral.natOf digits) flags.folding),rest)

def readEscape (flags : Flags) (st : Known) (c : Char) (ts : List Token) : Except Defect (Entry × List Token) :=
  match c with
  | 'A' => .ok (.anchor .textStart,ts)
  | 'Z' => .ok (.anchor .textEnd,ts)
  | 'b' => .ok (.anchor (.wordEdge flags.ascii),ts)
  | 'B' => .ok (.anchor (.noWordEdge flags.ascii),ts)
  | _ =>
    match shorthandEscape? c with
    | some item => .ok (.item (.one ⟨false,[item],flags.folding,flags.ascii⟩),ts)
    | none =>
      match controlEscape? c with
      | some n => .ok (literal flags n,ts)
      | none => do
        if c = '0' then
          let (cs,rest) := takePlain isOctal 2 ts
          return (literal flags (octalValue cs),rest)
        else if Numeral.isDigit c then readDigits flags st c ts
        else
          let (n,rest) ← readCharEscape c ts
          return (literal flags n,rest)

def dropLine : List Token → Except Defect (List Token)
  | [] => .ok []
  | .dangling :: _ => .error .danglingEscape
  | .plain '\n' :: ts => .ok ts
  | _ :: ts => dropLine ts

def isSkipped (c : Char) : Bool := [' ','\t','\n','\r','\x0b','\x0c'].contains c

def expectClose : List Token → Except Defect (List Token)
  | .plain ')' :: ts => .ok ts
  | .dangling :: _ => .error .danglingEscape
  | _ => .error .unfinishedGroup

/-- Two tokens of the text allow for two calls, one for a list of alternatives and one for a sequence. -/
def readFuel (ts : List Token) : Nat := 2 * ts.length + 2

inductive Piece where
  | stop
  | next (flags : Flags) (st : Known) (entries : List Entry) (rest : List Token)
  | opened (o : Opening) (st : Known) (rest : List Token)

def readPlain (first : Bool) (flags : Flags) (st : Known) (entries : List Entry) (c : Char) (ts : List Token) :
    Except Defect Piece :=
  match c with
  | '[' => do
    let (negated,ts) := match ts with
      | .plain '^' :: ts => (true,ts)
      | ts => (false,ts)
    let (items,ts) ← readClass (ts.length + 1) [] ts
    return .next flags st (.item (.one ⟨negated,items,flags.folding,flags.ascii⟩) :: entries) ts
  | '.' =>
    let set := if flags.dotAll then CharSet.anything else CharSet.exceptBreak
    .ok (.next flags st (.item (.one set) :: entries) ts)
  | '^' => .ok (.next flags st (.anchor (if flags.multiline then .lineStart else .textStart) :: entries) ts)
  | '$' => .ok (.next flags st (.anchor (if flags.multiline then .lineEnd else .lastLineEnd) :: entries) ts)
  | '*' => repeated (repeatLatest 0 none entries st ts)
  | '+' => repeated (repeatLatest 1 none entries st ts)
  | '?' => repeated (repeatLatest 0 (some 1) entries st ts)
  | '\x7b' =>
    match braceDigits? ts with
    | none => .ok (.next flags st (literal flags 123 :: entries) ts)
    | some (lo,hi,ts) => do
      if ts = [.dangling] then .error .danglingEscape
      let (least,most) ← readBounds lo hi
      repeated (repeatLatest least most entries st ts)
  | '(' => do
    let (opening,st,ts) ← readOpening flags st ts
    match opening with
    | .comment => return .next flags st entries ts
    | .reference i => return .next flags st (.item (.sameAs i flags.folding) :: entries) ts
    | .global letters =>
      if first && entries.isEmpty then
        let st := { st with flags := st.flags.setAll true letters }
        return .next st.flags st entries ts
      else .error .lateFlags
    | o => return .opened o st ts
  | c => .ok (.next flags st (literal flags c.toNat :: entries) ts)
where
  repeated (r : Except Defect (List Entry × Known × List Token)) : Except Defect Piece := do
    let (entries,st,ts) ← r
    return .next flags st entries ts

def readPiece (first : Bool) (flags : Flags) (st : Known) (entries : List Entry) (ts : List Token) :
    Except Defect Piece :=
  match ts with
  | [] => .ok .stop
  | .dangling :: _ => .error .danglingEscape
  | .escaped c :: ts => do
    let (e,ts) ← readEscape flags st c ts
    return .next flags st (e :: entries) ts
  | .plain c :: ts =>
    if c = '|' ∨ c = ')' then .ok .stop
    else if flags.verbose && isSkipped c then .ok (.next flags st entries ts)
    else if flags.verbose && c = '#' then do
      let ts ← dropLine ts
      return .next flags st entries ts
    else readPlain first flags st entries c ts

def Opening.enter (flags : Flags) (st : Known) : Opening → Except Defect (Flags × Known)
  | capture name =>
    match name with
    | none => .ok (flags,{ st with widths := st.widths ++ [none] })
    | some n =>
      if (st.names.lookup n).isSome then .error .groupNamedTwice
      else .ok (flags,{ st with widths := st.widths ++ [none], names := (n,st.groups) :: st.names })
  | bare inner => .ok (inner,st)
  | behind _ => .ok (flags,{ st with behindFrom := some (st.behindFrom.getD st.groups) })
  | _ => .ok (flags,st)

def Opening.leave (outer : Known) (body : Node) (st : Known) : Opening → Entry × Known
  | capture _ =>
    (.item (.group outer.groups body),
      { st with widths := st.widths.set (outer.groups - 1) (some (body.width st.widths)) })
  | atomic => (.item (.atomic body),st)
  | ahead negated => (.item (.ahead negated body),st)
  | behind negated =>
    let (lo,hi) := body.width st.widths
    (.item (.behind negated lo body),
      { st with behindFrom := outer.behindFrom, loose := st.loose || lo != hi || 4294967295 < lo })
  | _ => (.item body,st)

mutual

def readAlternatives (top first : Bool) (flags : Flags) :
    (fuel : Nat) → Known → List Token → Except Defect (Node × Known × List Token)
  | 0,_,_ => .error .unfinishedGroup
  | fuel + 1,st,ts => do
    let (a,st,ts) ← readSequence first flags fuel st [] ts
    match ts with
    | .plain '|' :: ts =>
      let (b,st,ts) ← readAlternatives top false (if top then st.flags else flags) fuel st ts
      return (.alt a b,st,ts)
    | ts => return (a,st,ts)

def readSequence (first : Bool) (flags : Flags) :
    (fuel : Nat) → Known → (entries : List Entry) → List Token → Except Defect (Node × Known × List Token)
  | 0,_,_,_ => .error .unfinishedGroup
  | fuel + 1,st,entries,ts => do
    match ← readPiece first flags st entries ts with
    | .stop => return (chain entries,st,ts)
    | .next flags st entries ts => readSequence first flags fuel st entries ts
    | .opened (.condition i) st ts =>
      let (yes,st,ts) ← readSequence false flags fuel st [] ts
      match ts with
      | .plain '|' :: ts =>
        let (no,st,ts) ← readSequence false flags fuel st [] ts
        if ts.head? = some (.plain '|') then .error .tooManyBranches
        let ts ← expectClose ts
        readSequence first flags fuel st (.item (.ifGroup i yes no) :: entries) ts
      | ts =>
        let ts ← expectClose ts
        readSequence first flags fuel st (.item (.ifGroup i yes .empty) :: entries) ts
    | .opened o outer ts =>
      let (inner,st) ← o.enter flags outer
      let (body,st,ts) ← readAlternatives false false inner fuel st ts
      let ts ← expectClose ts
      let (entry,st) := o.leave outer body st
      readSequence first flags fuel st (entry :: entries) ts

end

def read (flags : Flags) (source : List Char) : Except Defect Node := do
  let ts := tokens source
  let (node,st,rest) ← readAlternatives true true flags (readFuel ts) (.start flags) ts
  if st.flags.ascii && st.flags.unicode then .error .clashingAlphabets
  if !rest.isEmpty then .error .unbalanced
  if st.asked.any (st.groups ≤ ·) then .error .unknownGroup
  if st.loose then .error .looseLookbehind
  if st.flags.template && st.loops then .error .loopForbidden
  return node

end FormGuard.Pattern
