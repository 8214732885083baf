import FormGuard.Pattern.Reader

/-! Reading a pattern does not depend on whether letter case matters: the same patterns are refused, for the same defects,
and those that are taken differ in their foldings only. -/
namespace FormGuard.Pattern

inductive Alike {ε α β} (R : α → β → Prop) : Except ε α → Except ε β → Prop
  | refused (e) : Alike R (.error e) (.error e)
  | taken {a b} (same : R a b) : Alike R (.ok a) (.ok b)

theorem Alike.next {ε α β γ δ} {R : α → β → Prop} {S : γ → δ → Prop} {x : Except ε α} {y f g} (first : Alike R x y)
    (rest : ∀ a b, R a b → Alike S (f a) (g b)) : Alike S (x >>= f) (y >>= g) := by
  cases first with
  | refused e => exact .refused e
  | taken same => exact rest _ _ same

theorem Alike.shared {ε α γ δ} {S : γ → δ → Prop} (x : Except ε α) {f g} (rest : ∀ a, Alike S (f a) (g a)) :
    Alike S (x >>= f) (x >>= g) := by
  cases x with
  | error e => exact .refused e
  | ok a => exact rest a

theorem Alike.takenIff {ε α β} {R : α → β → Prop} {x : Except ε α} {y} (alike : Alike R x y) :
    (∃ b, y = .ok b) ↔ ∃ a, x = .ok a := by
  cases alike <;> simp

namespace Node

def exact : Node → Node
  | one s => one { s with folding := .exact }
  | seq a b => seq a.exact b.exact
  | alt a b => alt a.exact b.exact
  | group i a => group i a.exact
  | sameAs i _ => sameAs i .exact
  | ahead negated a => ahead negated a.exact
  | behind negated width a => behind negated width a.exact
  | loop least most appetite a => loop least most appetite a.exact
  | atomic a => atomic a.exact
  | ifGroup i a b => ifGroup i a.exact b.exact
  | empty => empty
  | anchor a => anchor a

theorem exactWidth (n : Node) (groups) : n.exact.width groups = n.width groups := by
  induction n <;> simp_all [exact,width]

end Node

namespace Entry

def exact : Entry → Entry
  | item n => item n.exact
  | loop n => loop n.exact
  | anchor a => anchor a

theorem exactNode (e : Entry) : e.exact.node = e.node.exact := by
  cases e <;> rfl

end Entry

def Entry.before (e : Entry) (tail : Node) : Node :=
  match tail with
  | .empty => e.node
  | _ => .seq e.node tail

theorem chainEq (es : List Entry) : chain es = es.foldl (fun tail e => e.before tail) .empty := rfl

theorem exactBefore (e : Entry) (tail : Node) : (e.before tail).exact = e.exact.before tail.exact := by
  cases tail <;> simp [Entry.before,Node.exact,Entry.exactNode]

theorem exactChain (es : List Entry) : (chain es).exact = chain (es.map Entry.exact) := by
  rw [chainEq,chainEq,List.foldl_map]
  have each (tail : Node) : (es.foldl (fun tail e => e.before tail) tail).exact =
      es.foldl (fun tail e => e.exact.before tail) tail.exact := by
    induction es generalizing tail with
    | nil => rfl
    | cons e es ih => rw [List.foldl_cons,ih,exactBefore,List.foldl_cons]
  exact each .empty

/-! ## What the readers know -/

def Flags.Same (f f' : Flags) : Prop := ∃ on, f' = { f with ignoreCase := on }

def Known.Same (st st' : Known) : Prop := ∃ on, st' = { st with flags := { st.flags with ignoreCase := on } }

inductive Opening.Same : Opening → Opening → Prop
  | one (o) : Same o o
  | bare {f f'} (same : f.Same f') : Same (.bare f) (.bare f')

namespace Flags

theorem setSame {f f' : Flags} (same : f.Same f') (on c) : (f.set on c).Same (f'.set on c) := by
  obtain ⟨b,rfl⟩ := same
  by_cases letter : c = 'i'
  · subst letter
    exact ⟨on,rfl⟩
  · refine ⟨b,?_⟩
    unfold set
    split <;> first | rfl | contradiction

theorem setAllSame {f f' : Flags} (same : f.Same f') (on cs) : (f.setAll on cs).Same (f'.setAll on cs) := by
  unfold setAll
  induction cs generalizing f f' with
  | nil => exact same
  | cons c cs ih => exact ih (setSame same on c)

theorem withinSame {f f' : Flags} (same : f.Same f') (on off) : (f.within on off).Same (f'.within on off) := by
  unfold within
  refine setAllSame (setAllSame ?_ true on) false off
  split
  · obtain ⟨b,rfl⟩ := same
    exact ⟨b,rfl⟩
  · exact same

end Flags

theorem Known.flagsSame {st st' : Known} (same : st.Same st') : st.flags.Same st'.flags := by
  obtain ⟨b,rfl⟩ := same
  exact ⟨b,rfl⟩

theorem Known.checkedSame {st st' : Known} (same : st.Same st') : st'.flags.ascii = st.flags.ascii ∧
    st'.flags.unicode = st.flags.unicode ∧ st'.flags.template = st.flags.template ∧ st'.groups = st.groups ∧
    st'.asked = st.asked ∧ st'.loose = st.loose ∧ st'.loops = st.loops := by
  obtain ⟨b,rfl⟩ := same
  exact ⟨rfl,rfl,rfl,rfl,rfl,rfl,rfl⟩

theorem Known.Same.reflagged {st st' : Known} (same : st.Same st') {f f' : Flags} (flags : f.Same f') :
    Known.Same { st with flags := f } { st' with flags := f' } := by
  obtain ⟨_,rfl⟩ := same
  obtain ⟨b,rfl⟩ := flags
  exact ⟨b,rfl⟩

def Beside {α} (R : α → α → Prop) (x y : α × Known × List Token) : Prop :=
  R x.1 y.1 ∧ x.2.1.Same y.2.1 ∧ y.2.2 = x.2.2

section Readers
variable {flags flags' : Flags} {st st' : Known} {entries entries' : List Entry}

theorem digitsSame (same : flags.Same flags') (known : st.Same st') (c ts) :
    Alike (fun x y => y.1.exact = x.1.exact ∧ y.2 = x.2) (readDigits flags st c ts) (readDigits flags' st' c ts) := by
  obtain ⟨b,rfl⟩ := same
  obtain ⟨b',rfl⟩ := known
  have reference (i : Nat) (rest : List Token) : Alike (fun x y : Entry × List Token => y.1.exact = x.1.exact ∧ y.2 = x.2)
      (do
        st.checkReference i
        return (.item (.sameAs i flags.folding),rest))
      (do
        st.checkReference i
        return (.item (.sameAs i { flags with ignoreCase := b }.folding),rest)) :=
    .shared _ fun _ => .taken ⟨rfl,rfl⟩
  unfold readDigits
  dsimp only
  split
  · split
    · exact .shared _ fun _ => .taken ⟨rfl,rfl⟩
    · exact reference _ _
  · exact reference _ _

theorem escapeSame (same : flags.Same flags') (known : st.Same st') (c ts) :
    Alike (fun x y => y.1.exact = x.1.exact ∧ y.2 = x.2) (readEscape flags st c ts) (readEscape flags' st' c ts) := by
  have digits := digitsSame same known c ts
  obtain ⟨b,rfl⟩ := same
  obtain ⟨b',rfl⟩ := known
  unfold readEscape
  split
  · exact .taken ⟨rfl,rfl⟩
  · exact .taken ⟨rfl,rfl⟩
  · exact .taken ⟨rfl,rfl⟩
  · exact .taken ⟨rfl,rfl⟩
  · split
    · exact .taken ⟨rfl,rfl⟩
    · split
      · exact .taken ⟨rfl,rfl⟩
      · split
        · exact .taken ⟨rfl,rfl⟩
        · split
          · exact digits
          · exact .shared _ fun _ => .taken ⟨rfl,rfl⟩

theorem repeatSame (known : st.Same st') (same : entries'.map Entry.exact = entries.map Entry.exact) (least most ts) :
    Alike (Beside fun es es' => es'.map Entry.exact = es.map Entry.exact) (repeatLatest least most entries st ts)
      (repeatLatest least most entries' st' ts) := by
  obtain ⟨b,rfl⟩ := known
  cases entries with
  | nil =>
    cases List.map_eq_nil_iff.mp same
    exact .refused _
  | cons e entries =>
    obtain ⟨e',entries',rfl,first,rest⟩ := List.map_eq_cons_iff.mp same
    cases e <;> cases e' <;> simp only [Entry.exact,Entry.item.injEq,Entry.loop.injEq,reduceCtorEq] at first
    · refine .taken ⟨?_,⟨b,rfl⟩,rfl⟩
      simp [Entry.exact,Node.exact,first,rest]
    · exact .refused _
    · exact .refused _

theorem flagsAlike (same : flags.Same flags') (ts) :
    Alike (fun x y => x.1.Same y.1 ∧ y.2 = x.2) (readFlags flags ts) (readFlags flags' ts) := by
  have bare (on off) : Opening.Same (.bare (flags.within on off)) (.bare (flags'.within on off)) :=
    .bare (Flags.withinSame same on off)
  unfold readFlags
  dsimp only
  split
  · exact .refused _
  · split
    · split
      · exact .refused _
      · exact .taken ⟨.one _,rfl⟩
    · split
      · exact .refused _
      · exact .taken ⟨bare _ _,rfl⟩
    · split
      · exact .refused _
      · split
        · exact .taken ⟨bare _ _,rfl⟩
        · exact .refused _
    · exact .refused _

theorem groupNumberSame (known : st.Same st') (name) :
    Alike (fun x y => y.1 = x.1 ∧ x.2.Same y.2) (groupNumber st name) (groupNumber st' name) := by
  obtain ⟨b,rfl⟩ := known
  unfold groupNumber
  split
  · dsimp only
    split
    · exact .taken ⟨rfl,b,rfl⟩
    · exact .refused _
  · split
    · split
      · exact .refused _
      · split
        · exact .refused _
        · exact .taken ⟨rfl,b,rfl⟩
    · exact .refused _

theorem checksSame (known : st.Same st') (i) : st'.checkReference i = st.checkReference i ∧ st'.checkBehind i = st.checkBehind i := by
  obtain ⟨b,rfl⟩ := known
  exact ⟨rfl,rfl⟩

theorem openingSame (same : flags.Same flags') (known : st.Same st') (ts) :
    Alike (Beside Opening.Same) (readOpening flags st ts) (readOpening flags' st' ts) := by
  have names : st'.names = st.names := by
    obtain ⟨b,rfl⟩ := known
    rfl
  unfold readOpening
  split
  · split
    · exact .taken ⟨.bare same,known,rfl⟩
    · exact .taken ⟨.one _,known,rfl⟩
    · exact .taken ⟨.one _,known,rfl⟩
    · exact .taken ⟨.one _,known,rfl⟩
    · exact .shared _ fun _ => .taken ⟨.one _,known,rfl⟩
    · exact .taken ⟨.one _,known,rfl⟩
    · exact .taken ⟨.one _,known,rfl⟩
    · refine .shared _ fun taken => ?_
      dsimp only
      split
      · exact .taken ⟨.one _,known,rfl⟩
      · exact .refused _
    · refine .shared _ fun taken => ?_
      dsimp only
      rw [names]
      split
      · exact .refused _
      · split
        · exact .refused _
        · rw [(checksSame known _).1]
          exact .shared _ fun _ => .taken ⟨.one _,known,rfl⟩
    · refine .shared _ fun taken => ?_
      refine .next (groupNumberSame known _) ?_
      rintro ⟨i,st⟩ ⟨_,st'⟩ ⟨rfl,known⟩
      dsimp only
      rw [(checksSame known _).2]
      exact .shared _ fun _ => .taken ⟨.one _,known,rfl⟩
    · split
      · refine .next (flagsAlike same _) ?_
        rintro ⟨o,ts⟩ ⟨o',_⟩ ⟨same,rfl⟩
        exact .taken ⟨same,known,rfl⟩
      · exact .refused _
    · exact .refused _
  · exact .taken ⟨.one _,known,rfl⟩

theorem enterSame {o o' : Opening} (same : o.Same o') (within : flags.Same flags') (known : st.Same st') :
    Alike (fun x y => x.1.Same y.1 ∧ x.2.Same y.2) (o.enter flags st) (o'.enter flags' st') := by
  obtain ⟨b,rfl⟩ := known
  cases same with
  | bare same => exact .taken ⟨same,b,rfl⟩
  | one o =>
    unfold Opening.enter
    split
    · split
      · exact .taken ⟨within,b,rfl⟩
      · split
        · exact .refused _
        · exact .taken ⟨within,b,rfl⟩
    · exact .taken ⟨⟨_,rfl⟩,b,rfl⟩
    · exact .taken ⟨within,b,rfl⟩
    · exact .taken ⟨within,b,rfl⟩

theorem leaveSame {o o' : Opening} (same : o.Same o') {outer outer' : Known} (around : outer.Same outer') (known : st.Same st')
    {body body' : Node} (alike : body'.exact = body.exact) :
    (o'.leave outer' body' st').1.exact = (o.leave outer body st).1.exact ∧
      (o.leave outer body st).2.Same (o'.leave outer' body' st').2 := by
  have width (groups) : body'.width groups = body.width groups := by
    rw [← body'.exactWidth,alike,body.exactWidth]
  obtain ⟨b,rfl⟩ := around
  obtain ⟨b',rfl⟩ := known
  cases same with
  | bare => exact ⟨congrArg Entry.item alike,b',rfl⟩
  | one o =>
    cases o <;> simp only [Opening.leave,width]
    all_goals
      refine ⟨?_,b',rfl⟩
      simp [Entry.exact,Node.exact,alike,Known.groups]

inductive Piece.Same : Piece → Piece → Prop
  | stop : Same .stop .stop
  | next {f f' st st' es es' ts} (within : Flags.Same f f') (known : Known.Same st st')
    (same : es'.map Entry.exact = es.map Entry.exact) : Same (.next f st es ts) (.next f' st' es' ts)
  | opened {o o' st st' ts} (same : Opening.Same o o') (known : Known.Same st st') : Same (.opened o st ts) (.opened o' st' ts)

theorem plainSame (within : flags.Same flags') (known : st.Same st') (same : entries'.map Entry.exact = entries.map Entry.exact)
    (first c ts) : Alike Piece.Same (readPlain first flags st entries c ts) (readPlain first flags' st' entries' c ts) := by
  have repeated (least most ts) : Alike Piece.Same (readPlain.repeated flags (repeatLatest least most entries st ts))
      (readPlain.repeated flags' (repeatLatest least most entries' st' ts)) := by
    refine .next (repeatSame known same least most ts) ?_
    rintro ⟨es,st,ts⟩ ⟨es',st',_⟩ ⟨same,known,rfl⟩
    exact .taken (.next within known same)
  have entry {e e' : Entry} (alike : e'.exact = e.exact) {ts} :
      Piece.Same (.next flags st (e::entries) ts) (.next flags' st' (e'::entries') ts) :=
    .next within known (by simp [alike,same])
  have empty : entries'.isEmpty = entries.isEmpty := by
    simpa using congrArg List.isEmpty same
  have opening := openingSame within known
  obtain ⟨b,rfl⟩ := within
  unfold readPlain
  split
  · refine .shared _ fun taken => ?_
    exact .taken (entry (by rfl))
  · exact .taken (entry (by rfl))
  · exact .taken (entry (by rfl))
  · exact .taken (entry (by rfl))
  · exact repeated _ _ _
  · exact repeated _ _ _
  · exact repeated _ _ _
  · split
    · exact .taken (entry (by rfl))
    · split
      · exact .refused _
      · exact .shared _ fun taken => repeated _ _ _
  · refine .next (opening _) ?_
    rintro ⟨o,st,ts⟩ ⟨o',st',_⟩ ⟨alike,known,rfl⟩
    cases alike with
    | bare alike => exact .taken (.opened (.bare alike) known)
    | one o =>
      dsimp only
      split
      · exact .taken (.next ⟨b,rfl⟩ known same)
      · exact .taken (.next ⟨b,rfl⟩ known (by simp [Entry.exact,Node.exact,same]))
      · rw [empty]
        split
        · have set := Flags.setAllSame (Known.flagsSame known) true ‹_›
          exact .taken (.next set (Known.Same.reflagged known set) same)
        · exact .refused _
      · exact .taken (.opened (.one _) known)
  · exact .taken (entry (by rfl))

theorem pieceSame (within : flags.Same flags') (known : st.Same st') (same : entries'.map Entry.exact = entries.map Entry.exact)
    (first ts) : Alike Piece.Same (readPiece first flags st entries ts) (readPiece first flags' st' entries' ts) := by
  have verbose : flags'.verbose = flags.verbose := by
    obtain ⟨b,rfl⟩ := within
    rfl
  unfold readPiece
  split
  · exact .taken .stop
  · exact .refused _
  · refine .next (escapeSame within known _ _) ?_
    rintro ⟨e,ts⟩ ⟨e',_⟩ ⟨alike,rfl⟩
    exact .taken (.next within known (by simp [alike,same]))
  · rw [verbose]
    split
    · exact .taken .stop
    · split
      · exact .taken (.next within known same)
      · split
        · exact .shared _ fun _ => .taken (.next within known same)
        · exact plainSame within known same _ _ _

theorem chainSame (same : entries'.map Entry.exact = entries.map Entry.exact) : (chain entries').exact = (chain entries).exact := by
  rw [exactChain,exactChain,same]

end Readers

def NodesSame : Except Defect (Node × Known × List Token) → Except Defect (Node × Known × List Token) → Prop :=
  Alike (Beside fun a b => b.exact = a.exact)

def AlternativesSame (fuel : Nat) : Prop := ∀ {top first flags flags' st st'} ts, Flags.Same flags flags' → Known.Same st st' →
  NodesSame (readAlternatives top first flags fuel st ts) (readAlternatives top first flags' fuel st' ts)

def SequenceSame (fuel : Nat) : Prop := ∀ {first flags flags' st st' entries entries'} ts, Flags.Same flags flags' →
  Known.Same st st' → entries'.map Entry.exact = entries.map Entry.exact →
  NodesSame (readSequence first flags fuel st entries ts) (readSequence first flags' fuel st' entries' ts)

section Descent
variable {fuel : Nat} {first : Bool} {flags flags' : Flags} {st st' : Known} {entries entries' : List Entry}

theorem groupSame (alternatives : AlternativesSame fuel) (sequence : SequenceSame fuel) (within : flags.Same flags')
    (known : st.Same st') (same : entries'.map Entry.exact = entries.map Entry.exact) {o o' : Opening} (alike : o.Same o') (ts) :
    NodesSame
      (do
        let (inner,now) ← o.enter flags st
        let (body,now,ts) ← readAlternatives false false inner fuel now ts
        let ts ← expectClose ts
        let (entry,now) := o.leave st body now
        readSequence first flags fuel now (entry::entries) ts)
      (do
        let (inner,now) ← o'.enter flags' st'
        let (body,now,ts) ← readAlternatives false false inner fuel now ts
        let ts ← expectClose ts
        let (entry,now) := o'.leave st' body now
        readSequence first flags' fuel now (entry::entries') ts) := by
  refine .next (enterSame alike within known) ?_
  rintro ⟨inner,now⟩ ⟨inner',now'⟩ ⟨inside,entered⟩
  refine .next (alternatives ts inside entered) ?_
  rintro ⟨body,now,ts⟩ ⟨body',now',_⟩ ⟨bodies,left,rfl⟩
  refine .shared _ fun ts => ?_
  obtain ⟨entry,after⟩ := leaveSame alike known left bodies
  exact sequence ts within after (List.cons_eq_cons.mpr ⟨entry,same⟩)

theorem conditionSame (sequence : SequenceSame fuel) (within : flags.Same flags') (known : st.Same st')
    (same : entries'.map Entry.exact = entries.map Entry.exact) (i ts) :
    NodesSame
      (do
        let (yes,now,ts) ← readSequence false flags fuel st [] ts
        match ts with
        | .plain '|'::ts =>
          let (no,now,ts) ← readSequence false flags fuel now [] ts
          if ts.head? = some (.plain '|') then .error .tooManyBranches
          let ts ← expectClose ts
          readSequence first flags fuel now (.item (.ifGroup i yes no)::entries) ts
        | ts =>
          let ts ← expectClose ts
          readSequence first flags fuel now (.item (.ifGroup i yes .empty)::entries) ts)
      (do
        let (yes,now,ts) ← readSequence false flags' fuel st' [] ts
        match ts with
        | .plain '|'::ts =>
          let (no,now,ts) ← readSequence false flags' fuel now [] ts
          if ts.head? = some (.plain '|') then .error .tooManyBranches
          let ts ← expectClose ts
          readSequence first flags' fuel now (.item (.ifGroup i yes no)::entries') ts
        | ts =>
          let ts ← expectClose ts
          readSequence first flags' fuel now (.item (.ifGroup i yes .empty)::entries') ts) := by
  refine .next (sequence ts within known rfl) ?_
  rintro ⟨yes,now,ts⟩ ⟨yes',now',_⟩ ⟨left,after,rfl⟩
  dsimp only
  split
  · refine .next (sequence _ within after rfl) ?_
    rintro ⟨no,now,ts⟩ ⟨no',now',_⟩ ⟨right,after,rfl⟩
    dsimp only
    split
    · exact .refused _
    · exact .shared _ fun ts => sequence ts within after (by simp [Entry.exact,Node.exact,left,right,same])
  · exact .shared _ fun ts => sequence ts within after (by simp [Entry.exact,Node.exact,left,same])

end Descent

theorem readersSame (fuel : Nat) : AlternativesSame fuel ∧ SequenceSame fuel := by
  -- A unit of fuel is one alternative or one piece, and both readings find the same one: letter case decides no defect.
  induction fuel with
  | zero => exact ⟨fun _ _ _ => .refused _,fun _ _ _ _ => .refused _⟩
  | succ fuel ih =>
    obtain ⟨alternatives,sequence⟩ := ih
    constructor
    · intro top first flags flags' st st' ts within known
      unfold readAlternatives
      refine .next (sequence ts within known rfl) ?_
      rintro ⟨a,st,ts⟩ ⟨a',st',_⟩ ⟨left,known,rfl⟩
      dsimp only
      split
      · have next : Flags.Same (if top then st.flags else flags) (if top then st'.flags else flags') := by
          split
          · exact Known.flagsSame known
          · exact within
        refine .next (alternatives _ next known) ?_
        rintro ⟨b,st,ts⟩ ⟨b',st',_⟩ ⟨right,known,rfl⟩
        exact .taken ⟨by simp [Node.exact,left,right],known,rfl⟩
      · exact .taken ⟨left,known,rfl⟩
    · intro first flags flags' st st' entries entries' ts within known same
      unfold readSequence
      refine .next (pieceSame within known same first ts) ?_
      intro piece piece' alike
      cases alike with
      | stop => exact .taken ⟨chainSame same,known,rfl⟩
      | next within known same => exact sequence _ within known same
      | @opened o _ _ _ _ alike known =>
        cases alike with
        | bare alike => exact groupSame alternatives sequence within known same (.bare alike) _
        | one =>
          cases o with
          | condition i => exact conditionSame sequence within known same i _
          | _ => exact groupSame alternatives sequence within known same (.one _) _

theorem readSame (source : List Char) : Alike (fun a b : Node => b.exact = a.exact) (read .none source) (read .caseless source) := by
  unfold read
  refine .next ((readersSame _).1 _ ⟨true,rfl⟩ ⟨true,rfl⟩) ?_
  rintro ⟨node,st,rest⟩ ⟨node',st',_⟩ ⟨same,known,rfl⟩
  obtain ⟨ascii,unicode,template,groups,asked,loose,loops⟩ := Known.checkedSame known
  dsimp only at ascii unicode template groups asked loose loops ⊢
  rw [ascii,unicode,template,groups,asked,loose,loops]
  split
  · exact .refused _
  · split
    · exact .refused _
    · split
      · exact .refused _
      · split
        · exact .refused _
        · split
          · exact .refused _
          · exact .taken same

theorem readCaseless (source : List Char) :
    (∃ node, read .caseless source = .ok node) ↔ ∃ node, read .none source = .ok node :=
  (readSame source).takenIff

end FormGuard.Pattern
