import FormGuard.Proofs.PatternRoom

/-! Regular parts of a pattern: sets, choices and greedy rounds, no round of which is empty. Whatever order the choices are tried in, a
regular part gets to just the places behind the texts that it denotes, so that a pattern made of such parts and tied to both ends of the
text finds what they denote, and the same before a line break that ends the text. -/
namespace FormGuard.Pattern

def Enough (least : Nat) (most : Option Nat) (n : Nat) : Prop := least ≤ n ∧ ∀ m, most = some m → n ≤ m

namespace Node

def filled : Node → Bool
  | one _ => true
  | seq a b => a.filled || b.filled
  | alt a b => a.filled && b.filled
  | group _ a => a.filled
  | loop least _ _ a => least != 0 && a.filled
  | _ => false

def regular : Node → Bool
  | empty | one _ => true
  | seq a b | alt a b => a.regular && b.regular
  | group _ a => a.regular
  | loop least most .greedy a => a.regular && a.filled && most.all (least ≤ ·)
  | _ => false

def Denotes : Node → List Char → Prop
  | empty,text => text = []
  | one set,text => ∃ c, text = [c] ∧ set.holds c = true
  | seq a b,text => ∃ x y, text = x++y ∧ a.Denotes x ∧ b.Denotes y
  | alt a b,text => a.Denotes text ∨ b.Denotes text
  | group _ a,text => a.Denotes text
  | loop least most _ a,text => ∃ rounds : List (List Char), text = rounds.flatten ∧ Enough least most rounds.length ∧ ∀ x ∈ rounds, a.Denotes x
  | _,_ => False

theorem filledDenotes {n : Node} (filled : n.filled = true) {text : List Char} (denotes : n.Denotes text) : text ≠ [] := by
  induction n generalizing text with
  | one set =>
    obtain ⟨c,rfl,_⟩ := denotes
    exact List.cons_ne_nil _ _
  | seq a b first second =>
    obtain ⟨x,y,rfl,left,right⟩ := denotes
    rw [Node.filled,Bool.or_eq_true] at filled
    rcases filled with filled | filled
    · exact List.append_ne_nil_of_left_ne_nil (first filled left) y
    · exact List.append_ne_nil_of_right_ne_nil x (second filled right)
  | alt a b first second =>
    rw [Node.filled,Bool.and_eq_true] at filled
    exact denotes.elim (first filled.1) (second filled.2)
  | group i a body => exact body filled denotes
  | loop least most appetite a body =>
    obtain ⟨rounds,rfl,enough,each⟩ := denotes
    rw [Node.filled,Bool.and_eq_true,bne_iff_ne] at filled
    cases rounds with
    | nil => exact absurd (Nat.le_zero.mp enough.1) filled.1
    | cons x rounds => exact List.append_ne_nil_of_left_ne_nil (body filled.2 (each x (by simp))) _
  | _ => cases filled

end Node

section Rounds
variable {α : Type} {spell : α → List Char} {holds : α → Prop} {a : Node}

theorem roundsSpelled (each : ∀ x, a.Denotes x → ∃ y, x = spell y ∧ holds y) {rounds : List (List Char)}
    (denotes : ∀ x ∈ rounds, a.Denotes x) : ∃ ys : List α, rounds = ys.map spell ∧ ∀ y ∈ ys, holds y := by
  induction rounds with
  | nil => exact ⟨[],rfl,List.forall_mem_nil _⟩
  | cons x rounds ih =>
    obtain ⟨first,rest⟩ := List.forall_mem_cons.mp denotes
    obtain ⟨y,rfl,held⟩ := each x first
    obtain ⟨ys,rfl,others⟩ := ih rest
    exact ⟨y::ys,rfl,List.forall_mem_cons.mpr ⟨held,others⟩⟩

theorem loopSpelled (each : ∀ x, a.Denotes x ↔ ∃ y, x = spell y ∧ holds y) {least most appetite} {text : List Char} :
    (Node.loop least most appetite a).Denotes text ↔
      ∃ ys : List α, text = (ys.map spell).flatten ∧ Enough least most ys.length ∧ ∀ y ∈ ys, holds y := by
  constructor
  · rintro ⟨rounds,rfl,enough,denotes⟩
    obtain ⟨ys,rfl,held⟩ := roundsSpelled (fun x => (each x).mp) denotes
    exact ⟨ys,rfl,by rwa [List.length_map] at enough,held⟩
  · rintro ⟨ys,rfl,enough,held⟩
    refine ⟨ys.map spell,rfl,by rwa [List.length_map],?_⟩
    rw [List.forall_mem_map]
    exact fun y inside => (each _).mpr ⟨y,rfl,held y inside⟩

end Rounds

theorem loopCounts {least most appetite a} {holds : Char → Prop} (single : ∀ x, Node.Denotes a x ↔ ∃ c, x = [c] ∧ holds c)
    {text : List Char} : (Node.loop least most appetite a).Denotes text ↔ Enough least most text.length ∧ ∀ c ∈ text, holds c := by
  have joined (cs : List Char) : (cs.map fun c => [c]).flatten = cs := by rw [← List.flatMap_def,List.flatMap_singleton']
  simp only [loopSpelled single,joined,exists_eq_left']

theorem optionDenotes {appetite a} {text : List Char} :
    (Node.loop 0 (some 1) appetite a).Denotes text ↔ text = [] ∨ a.Denotes text := by
  constructor
  · rintro ⟨rounds,rfl,enough,each⟩
    have few := enough.2 1 rfl
    rcases rounds with _ | ⟨x,_ | ⟨y,rest⟩⟩
    · exact .inl rfl
    · exact .inr (by simpa using each x (by simp))
    · simp at few
  · rintro (rfl | denotes)
    · exact ⟨[],rfl,⟨Nat.le_refl _,fun _ _ => Nat.zero_le _⟩,List.forall_mem_nil _⟩
    · exact ⟨[text],by simp,⟨Nat.zero_le _,by simp⟩,by simpa using denotes⟩

/-! ## Searching -/

def Cursor.Past (s : Cursor) (text : List Char) (s' : Cursor) : Prop :=
  s.after = text++s'.after ∧ s'.index = s.index+text.length

theorem Cursor.Past.trans {s s' s'' : Cursor} {x y : List Char} (first : s.Past x s') (second : s'.Past y s'') : s.Past (x++y) s'' := by
  refine ⟨by rw [first.1,second.1,List.append_assoc],?_⟩
  rw [second.2,first.2,List.length_append,Nat.add_assoc]

/-- The part gets to what follows it exactly behind the texts that it denotes. What follows may depend on the place, and
on nothing that was taken on the way. -/
def Runs (size : Nat) (part : Kont → Kont) (denotes : List Char → Prop) : Prop :=
  ∀ (k : Kont) (ends : List Char → Prop) (s : Cursor), s.after.length ≤ size →
    (∀ x s', denotes x → s.Past x s' → ((k s').isSome = true ↔ ends s'.after)) →
    ((part k s).isSome = true ↔ ∃ x rest, s.after = x++rest ∧ denotes x ∧ ends rest)

section Loop
variable {size least : Nat} {most : Option Nat} {denotes ends : List Char → Prop} {count : Nat}

def Rounds (least : Nat) (most : Option Nat) (denotes ends : List Char → Prop) (count : Nat) (cs : List Char) : Prop :=
  ∃ rounds rest, cs = List.flatten rounds++rest ∧ Enough least most (count+rounds.length) ∧ (∀ x ∈ rounds, denotes x) ∧ ends rest

theorem roundsStep {cs} : Rounds least most denotes ends count cs ↔ (Enough least most count ∧ ends cs) ∨
    ∃ x rest, cs = x++rest ∧ denotes x ∧ Rounds least most denotes ends (count+1) rest := by
  have longer (n) : count+(n+1) = count+1+n := by omega
  constructor
  · rintro ⟨rounds,rest,rfl,enough,each,last⟩
    cases rounds with
    | nil => exact .inl ⟨enough,last⟩
    | cons x rounds =>
      obtain ⟨first,each⟩ := List.forall_mem_cons.mp each
      rw [List.length_cons,longer] at enough
      exact .inr ⟨x,rounds.flatten++rest,by simp,first,rounds,rest,rfl,enough,each,last⟩
  · rintro (⟨enough,last⟩ | ⟨x,_,rfl,first,rounds,rest,rfl,enough,each,last⟩)
    · exact ⟨[],cs,rfl,enough,List.forall_mem_nil _,last⟩
    · rw [← longer] at enough
      exact ⟨x::rounds,rest,by simp,enough,List.forall_mem_cons.mpr ⟨first,each⟩,last⟩

theorem moreIff : moreAllowed most count = true ↔ ∀ m, most = some m → count < m := by
  cases most <;> simp [moreAllowed]

theorem greedyRuns {round : Kont → Kont} (runs : Runs size round denotes) (filled : ∀ x, denotes x → x ≠ [])
    (ordered : ∀ m, most = some m → least ≤ m) {k : Kont} {fuel last} {s : Cursor} (inside : s.after.length ≤ size)
    (fresh : ∀ i, last = some i → i < s.index) (room : s.after.length+(least-count) < fuel) (few : ∀ m, most = some m → count ≤ m)
    (found : ∀ (rounds : List (List Char)) s', Enough least most (count+rounds.length) → (∀ x ∈ rounds, denotes x) → s.Past rounds.flatten s' →
      ((k s').isSome = true ↔ ends s'.after)) :
    (greedyLoop round least most k fuel count last s).isSome = true ↔ Rounds least most denotes ends count s.after := by
  induction fuel generalizing count last s with
  | zero => simp at room
  | succ fuel ih =>
    have again {last'} (marked : ∀ i, last' = some i → i ≤ s.index) (more : ∀ m, most = some m → count < m) :
        (round (greedyLoop round least most k fuel (count+1) last') s).isSome = true ↔
          ∃ x rest, s.after = x++rest ∧ denotes x ∧ Rounds least most denotes ends (count+1) rest := by
      refine runs _ _ s inside fun x s' first past => ih ?_ ?_ ?_ more fun rounds s'' enough each later => ?_
      -- A round that denotes no empty text leaves less of the text, and a later place.
      all_goals have some := List.length_pos_iff.mpr (filled x first)
      · rw [past.1,List.length_append] at inside
        omega
      · rw [past.2]
        exact fun i same => Nat.lt_of_le_of_lt (marked i same) (Nat.lt_add_of_pos_right some)
      · rw [past.1,List.length_append] at room
        omega
      · refine found (x::rounds) s'' ?_ (List.forall_mem_cons.mpr ⟨first,each⟩) (past.trans later)
        rwa [List.length_cons,Nat.add_comm rounds.length,← Nat.add_assoc]
    rw [greedyLoop,roundsStep]
    by_cases started : count < least
    · have early : ¬ Enough least most count := fun enough => Nat.not_lt.mpr enough.1 started
      rw [if_pos started,or_iff_right fun stop => early stop.1]
      exact again (fun i same => Nat.le_of_lt (fresh i same)) fun m same => Nat.lt_of_lt_of_le started (ordered m same)
    · have enough : Enough least most count := ⟨Nat.not_lt.mp started,few⟩
      have here : (k s).isSome = true ↔ ends s.after := found [] s enough (List.forall_mem_nil _) ⟨rfl,rfl⟩
      have unlike : (last != some s.index) = true := bne_iff_ne.mpr fun same => Nat.lt_irrefl _ (fresh _ same)
      rw [if_neg started,unlike,Bool.and_true,and_iff_right enough,← here]
      by_cases more : moreAllowed most count = true
      · rw [if_pos more,← again (fun i same => Nat.le_of_eq (Option.some.inj same).symm) (moreIff.mp more)]
        cases round (greedyLoop round least most k fuel (count+1) (some s.index)) s <;> simp
      · -- A round more would be one too many.
        rw [if_neg more,or_iff_left]
        rintro ⟨x,rest,_,_,rounds,_,_,enough,_⟩
        refine more (moreIff.mpr fun m same => ?_)
        have := enough.2 m same
        omega

end Loop

theorem regularRuns {size : Nat} {n : Node} (regular : n.regular = true) : Runs size (run size n) n.Denotes := by
  -- On the part, for whatever follows it.
  induction n with
  | empty =>
    intro k ends s _ found
    have here := found [] s rfl ⟨rfl,rfl⟩
    rw [run,here]
    exact ⟨fun last => ⟨[],s.after,rfl,rfl,last⟩,by rintro ⟨_,_,whole,rfl,last⟩; rwa [whole]⟩
  | one set =>
    intro k ends s _ found
    unfold run Cursor.step?
    cases whole : s.after with
    | nil =>
      refine iff_of_false (by simp) ?_
      rintro ⟨_,rest,none,⟨c,rfl,_⟩,_⟩
      cases none
    | cons c cs =>
      have step : s.Past [c] { s with before := c::s.before, after := cs, index := s.index+1 } := ⟨whole,rfl⟩
      dsimp only
      split
      · rename_i holds
        rw [found [c] _ ⟨c,rfl,holds⟩ step]
        refine ⟨fun last => ⟨[c],cs,rfl,⟨c,rfl,holds⟩,last⟩,?_⟩
        rintro ⟨_,_,same,⟨_,rfl,_⟩,last⟩
        cases same
        exact last
      · rename_i fails
        refine iff_of_false (by simp) ?_
        rintro ⟨_,_,same,⟨_,rfl,holds⟩,_⟩
        cases same
        exact fails holds
  | seq a b first second =>
    simp only [Node.regular,Bool.and_eq_true] at regular
    intro k ends s inside found
    have rests : ∀ x s', a.Denotes x → s.Past x s' →
        ((run size b k s').isSome = true ↔ ∃ y rest, s'.after = y++rest ∧ b.Denotes y ∧ ends rest) := by
      intro x s' left past
      refine second regular.2 k ends s' ?_ fun y s'' right later => found (x++y) s'' ⟨x,y,rfl,left,right⟩ (past.trans later)
      rw [past.1,List.length_append] at inside
      omega
    rw [run,first regular.1 _ (fun cs => ∃ y rest, cs = y++rest ∧ b.Denotes y ∧ ends rest) s inside rests]
    constructor
    · rintro ⟨x,_,whole,left,y,rest,rfl,right,last⟩
      exact ⟨x++y,rest,by rw [whole,List.append_assoc],⟨x,y,rfl,left,right⟩,last⟩
    · rintro ⟨_,rest,whole,⟨x,y,rfl,left,right⟩,last⟩
      exact ⟨x,y++rest,by rw [whole,List.append_assoc],left,y,rest,rfl,right,last⟩
  | alt a b first second =>
    simp only [Node.regular,Bool.and_eq_true] at regular
    intro k ends s inside found
    have left := first regular.1 k ends s inside fun x s' denotes => found x s' (.inl denotes)
    have right := second regular.2 k ends s inside fun x s' denotes => found x s' (.inr denotes)
    have either : (run size (.alt a b) k s).isSome = true ↔ (run size a k s).isSome = true ∨ (run size b k s).isSome = true := by
      rw [run]
      cases run size a k s <;> simp
    rw [either,left,right]
    simp only [Node.Denotes,or_and_right,and_or_left,exists_or]
  | group i a body =>
    intro k ends s inside found
    rw [run]
    exact body regular _ ends s inside fun x s' denotes past => found x _ denotes past
  | loop least most appetite a body =>
    cases appetite <;> simp only [Node.regular,Bool.and_eq_true,Option.all_eq_true,decide_eq_true_eq] at regular
    case greedy =>
      obtain ⟨⟨regular,filled⟩,ordered⟩ := regular
      intro k ends s inside found
      have room : s.after.length+(least-0) < loopFuel size least := by
        unfold loopFuel
        omega
      have rounds : (greedyLoop (run size a) least most k (loopFuel size least) 0 none s).isSome = true ↔
          Rounds least most a.Denotes ends 0 s.after :=
        greedyRuns (body regular) (fun x => Node.filledDenotes filled) ordered inside (by simp) room (fun _ _ => Nat.zero_le _)
          fun rounds s' enough each past => found rounds.flatten s' ⟨rounds,rfl,by rwa [Nat.zero_add] at enough,each⟩ past
      rw [run,rounds]
      simp only [Rounds,Node.Denotes,Nat.zero_add]
      constructor
      · rintro ⟨rounds,rest,whole,enough,each,last⟩
        exact ⟨_,rest,whole,⟨rounds,rfl,enough,each⟩,last⟩
      · rintro ⟨_,rest,whole,⟨rounds,rfl,enough,each⟩,last⟩
        exact ⟨rounds,rest,whole,enough,each,last⟩
    all_goals cases regular
  | _ => cases regular

/-! ## Tied to both ends -/

def inOrder (parts : List Node) : Node := parts.foldr .seq .empty

def tied (parts : List Node) : Node := .seq (.anchor .textStart) (parts.foldr .seq (.anchor .lastLineEnd))

theorem inOrderSingle {n : Node} {text : List Char} : (inOrder [n]).Denotes text ↔ n.Denotes text := by
  constructor
  · rintro ⟨x,_,rfl,denotes,rfl⟩
    rwa [List.append_nil]
  · exact fun denotes => ⟨text,[],(List.append_nil text).symm,denotes,rfl⟩

theorem inOrderRegular {parts : List Node} (regular : ∀ n ∈ parts, n.regular = true) : (inOrder parts).regular = true := by
  induction parts with
  | nil => rfl
  | cons n parts ih =>
    obtain ⟨first,rest⟩ := List.forall_mem_cons.mp regular
    exact Bool.and_eq_true_iff.mpr ⟨first,ih rest⟩

theorem inOrderRun (size : Nat) (parts : List Node) (last : Node) (k : Kont) :
    run size (parts.foldr .seq last) k = run size (inOrder parts) (run size last k) := by
  funext s
  induction parts generalizing s with
  | nil => rfl
  | cons n parts ih =>
    rw [List.foldr_cons,inOrder,List.foldr_cons,run,run,funext ih]
    rfl

def Leftover (cs : List Char) : Prop := cs = [] ∨ cs = ['\n']

theorem tiedSearch {parts : List Node} (regular : ∀ n ∈ parts, n.regular = true) (cs : List Char) :
    (tied parts).search cs = true ↔ (inOrder parts).Denotes cs ∨ ∃ front, cs = front++['\n'] ∧ (inOrder parts).Denotes front := by
  have ends (s : Cursor) : (run cs.length (.anchor .lastLineEnd) some s).isSome = true ↔ Leftover s.after := by
    simp [run,Anchor.holds,Leftover]
  have start : Anchor.holds (.start cs) .textStart = true := rfl
  have found : (run cs.length (inOrder parts) (run cs.length (.anchor .lastLineEnd) some) (.start cs)).isSome = true ↔
      ∃ x rest, cs = x++rest ∧ (inOrder parts).Denotes x ∧ Leftover rest :=
    regularRuns (inOrderRegular regular) _ Leftover (.start cs) (Nat.le_refl _) fun _ s' _ _ => ends s'
  rw [openedSearch rfl,tied,run,run,if_pos start,inOrderRun,found]
  constructor
  · rintro ⟨x,_,whole,denotes,rfl | rfl⟩
    · rw [List.append_nil] at whole
      subst whole
      exact .inl denotes
    · exact .inr ⟨x,whole,denotes⟩
  · rintro (denotes | ⟨front,whole,denotes⟩)
    · exact ⟨cs,[],(List.append_nil cs).symm,denotes,.inl rfl⟩
    · exact ⟨front,['\n'],whole,denotes,.inr rfl⟩

end FormGuard.Pattern
