import FormGuard.Pattern.Matching

/-! How much a pattern can take. A part without an unbounded loop passes a bounded number of characters wherever it is tried,
so that a pattern tied to both ends of a text matches short texts only. -/
namespace FormGuard.Pattern

/-- The most characters that a part can pass, when a group takes no more than its cap; none when a loop has no end or
a group may take more. -/
def Node.room? (caps : Nat → Nat) : Node → Option Nat
  | empty | anchor _ => some 0
  | one _ => some 1
  | seq a b => do return (← a.room? caps)+(← b.room? caps)
  | alt a b | ifGroup _ a b => do return max (← a.room? caps) (← b.room? caps)
  | group i a => do
    let m ← a.room? caps
    if m ≤ caps i then some m else none
  | sameAs i _ => some (caps i)
  | ahead _ a | behind _ _ a => do
    let _ ← a.room? caps
    return 0
  | loop least most _ a => do return (← a.room? caps)*max least (← most)
  | atomic a => a.room? caps

def Cursor.Capped (caps : Nat → Nat) (s : Cursor) : Prop := ∀ e ∈ s.groups, e.2.text.length ≤ caps e.1

def Passes (caps : Nat → Nat) (m : Nat) (part : Kont → Kont) : Prop :=
  ∀ k s r, s.Capped caps → part k s = some r →
    ∃ s', s.after.length ≤ s'.after.length+m ∧ s'.Capped caps ∧ k s' = some r

section Parts
variable {caps : Nat → Nat}

theorem Passes.stay : Passes caps 0 id := fun _ s _ capped found => ⟨s,by omega,capped,found⟩

theorem Passes.wider {m n part} (passes : Passes caps m part) (le : m ≤ n) : Passes caps n part := by
  intro k s r capped found
  obtain ⟨s',short,rest⟩ := passes k s r capped found
  exact ⟨s',by omega,rest⟩

theorem Passes.before {m n part next} (first : Passes caps m part) (second : Passes caps n next) :
    Passes caps (m+n) fun k => part (next k) := by
  intro k s r capped found
  obtain ⟨s₁,short₁,capped₁,found₁⟩ := first _ s r capped found
  obtain ⟨s₂,short₂,rest⟩ := second _ s₁ r capped₁ found₁
  exact ⟨s₂,by omega,rest⟩

theorem stepShort {s : Cursor} {c s'} (step : s.step? = some (c,s')) : s.after.length = s'.after.length+1 ∧ s'.groups = s.groups := by
  unfold Cursor.step? at step
  split at step
  · contradiction
  · rename_i whole
    cases step
    simp [whole]

theorem passTextShort {folding cs s s'} (passed : passText folding cs s = some s') :
    s.after.length = s'.after.length+cs.length ∧ s'.groups = s.groups := by
  induction cs generalizing s with
  | nil =>
    cases passed
    exact ⟨rfl,rfl⟩
  | cons c cs ih =>
    unfold passText at passed
    split at passed
    · rename_i step
      split at passed
      · obtain ⟨short,same⟩ := stepShort step
        obtain ⟨rest,same'⟩ := ih passed
        exact ⟨by rw [List.length_cons]; omega,same'.trans same⟩
      · contradiction
    · contradiction

theorem backGroups {n} {s s' : Cursor} (back : s.back? n = some s') : s'.groups = s.groups := by
  induction n generalizing s with
  | zero => cases back; rfl
  | succ n ih =>
    unfold Cursor.back? at back
    split at back
    · contradiction
    · exact (ih back).trans rfl

theorem captureCapped {s : Cursor} (capped : s.Capped caps) {i c} (taken : s.capture? i = some c) : c.text.length ≤ caps i := by
  obtain ⟨before,behind,whole,_⟩ := List.lookup_eq_some_iff.mp taken
  exact capped (i,c) (by simp [whole])

theorem recordCapped {s : Cursor} (capped : s.Capped caps) {i c} (short : c.text.length ≤ caps i) :
    (s.record i c).Capped caps := by
  intro e inside
  rcases List.mem_cons.mp inside with rfl | rest
  · exact short
  · exact capped e (List.mem_filter.mp rest).1

theorem roundPasses {m n count part next} (passes : Passes caps m part) (rest : Passes caps (m*(n-(count+1))) next)
    (more : count < n) : Passes caps (m*(n-count)) fun k => part (next k) := by
  have room : m+m*(n-(count+1)) = m*(n-count) := by
    rw [show n-count = n-(count+1)+1 by omega,Nat.mul_succ,Nat.add_comm]
  exact room ▸ passes.before rest

section Loops
variable {m least most : Nat}

theorem greedyPasses {part} (passes : Passes caps m part) (fuel count last) :
    Passes caps (m*(max least most-count)) fun k => greedyLoop part least (some most) k fuel count last := by
  induction fuel generalizing count last with
  | zero => exact fun _ _ _ _ found => absurd found (by simp [greedyLoop])
  | succ fuel ih =>
    intro k s r capped found
    have done (found : k s = some r) := (Passes.stay.wider (Nat.zero_le (m*(max least most-count)))) k s r capped found
    dsimp only at found
    unfold greedyLoop at found
    split at found
    · rename_i more
      exact roundPasses passes (ih _ _) (by omega) k s r capped found
    · split at found
      · rename_i more
        have more : count < most := by simp [moreAllowed] at more; exact more.1
        split at found
        · rename_i again
          cases found
          exact roundPasses passes (ih _ _) (by omega) k s r capped again
        · exact done found
      · exact done found

theorem lazyPasses {part} (passes : Passes caps m part) (fuel count last) :
    Passes caps (m*(max least most-count)) fun k => lazyLoop part least (some most) k fuel count last := by
  induction fuel generalizing count last with
  | zero => exact fun _ _ _ _ found => absurd found (by simp [lazyLoop])
  | succ fuel ih =>
    intro k s r capped found
    dsimp only at found
    unfold lazyLoop at found
    split at found
    · rename_i more
      exact roundPasses passes (ih _ _) (by omega) k s r capped found
    · split at found
      · rename_i done
        cases found
        exact (Passes.stay.wider (Nat.zero_le _)) k s r capped done
      · split at found
        · rename_i more
          have more : count < most := by simp [moreAllowed] at more; exact more.1
          exact roundPasses passes (ih _ _) (by omega) k s r capped found
        · contradiction

theorem possessivePasses {part} (passes : Passes caps m part) (fuel count last) :
    Passes caps (m*(max least most-count)) fun k => possessiveLoop (part some) least (some most) k fuel count last := by
  induction fuel generalizing count last with
  | zero => exact fun _ _ _ _ found => absurd found (by simp [possessiveLoop])
  | succ fuel ih =>
    intro k s r capped found
    have done (found : k s = some r) := (Passes.stay.wider (Nat.zero_le (m*(max least most-count)))) k s r capped found
    have round {s' last} (more : count < max least most) (once : part some s = some s')
        (found : possessiveLoop (part some) least (some most) k fuel (count+1) last s' = some r) :
        ∃ s', s.after.length ≤ s'.after.length+m*(max least most-count) ∧ s'.Capped caps ∧ k s' = some r := by
      obtain ⟨s₁,short,capped₁,⟨⟩⟩ := passes some s s' capped once
      obtain ⟨s₂,short₂,rest⟩ := ih (count+1) last k s' r capped₁ found
      have room : m*(max least most-count) = m*(max least most-(count+1))+m := by
        rw [show max least most-count = max least most-(count+1)+1 by omega,Nat.mul_succ]
      exact ⟨s₂,by omega,rest⟩
    dsimp only at found
    unfold possessiveLoop at found
    split at found
    · rename_i more
      split at found
      · rename_i once
        exact round (by omega) once found
      · contradiction
    · split at found
      · rename_i more
        have more : count < most := by simp [moreAllowed] at more; exact more.1
        split at found
        · rename_i once
          exact round (by omega) once found
        · exact done found
      · exact done found

end Loops

theorem runPasses {size : Nat} {n : Node} {m} (room : n.room? caps = some m) : Passes caps m (run size n) := by
  -- On the part, for whatever is to succeed behind it. The caps carry over because only a group that keeps to its cap has room.
  induction n generalizing m with
  | empty =>
    cases room
    exact Passes.stay
  | one set =>
    cases room
    intro k s r capped found
    unfold run at found
    split at found
    · rename_i step
      split at found
      · obtain ⟨short,same⟩ := stepShort step
        exact ⟨_,by omega,by rwa [Cursor.Capped,same],found⟩
      · contradiction
    · contradiction
  | seq a b first second =>
    simp only [Node.room?,Option.bind_eq_bind,Option.bind_eq_some_iff] at room
    obtain ⟨m₁,room₁,m₂,room₂,⟨⟩⟩ := room
    intro k s r
    rw [run]
    exact (first room₁).before (second room₂) k s r
  | alt a b left right =>
    simp only [Node.room?,Option.bind_eq_bind,Option.bind_eq_some_iff] at room
    obtain ⟨m₁,room₁,m₂,room₂,⟨⟩⟩ := room
    intro k s r capped found
    unfold run at found
    split at found
    · rename_i left'
      cases found
      exact (left room₁).wider (by omega) k s r capped left'
    · exact (right room₂).wider (by omega) k s r capped found
  | group i a body =>
    simp only [Node.room?,Option.bind_eq_bind,Option.bind_eq_some_iff] at room
    obtain ⟨m₁,room₁,fits⟩ := room
    split at fits
    · cases fits
      intro k s r capped found
      rw [run] at found
      obtain ⟨s',short,capped',found⟩ := body room₁ _ s r capped found
      refine ⟨s'.record i ⟨s.after,s'.after⟩,short,recordCapped capped' ?_,found⟩
      simp only [Capture.text,List.length_take]
      omega
    · contradiction
  | sameAs i folding =>
    cases room
    intro k s r capped found
    unfold run at found
    split at found
    · rename_i taken
      split at found
      · rename_i passed
        obtain ⟨short,same⟩ := passTextShort passed
        have := captureCapped capped taken
        exact ⟨_,by omega,by rwa [Cursor.Capped,same],found⟩
      · contradiction
    · contradiction
  | anchor a =>
    cases room
    intro k s r capped found
    unfold run at found
    split at found
    · exact Passes.stay k s r capped found
    · contradiction
  | ahead negated a body =>
    simp only [Node.room?,Option.bind_eq_bind,Option.bind_eq_some_iff] at room
    obtain ⟨m₁,room₁,⟨⟩⟩ := room
    intro k s r capped found
    unfold run at found
    split at found
    · rename_i last seen
      split at found
      · contradiction
      · obtain ⟨_,_,capped',same⟩ := body room₁ some s _ capped seen
        exact ⟨{ s with groups := last.groups },Nat.le_refl _,Option.some.inj same ▸ capped',found⟩
    · split at found
      · exact Passes.stay k s r capped found
      · contradiction
  | behind negated width a body =>
    simp only [Node.room?,Option.bind_eq_bind,Option.bind_eq_some_iff] at room
    obtain ⟨m₁,room₁,⟨⟩⟩ := room
    intro k s r capped found
    unfold run at found
    split at found
    · rename_i last seen
      split at found
      · contradiction
      · obtain ⟨s₀,back,seen⟩ := Option.bind_eq_some_iff.mp seen
        obtain ⟨_,_,capped',same⟩ := body room₁ some s₀ _ (by rwa [Cursor.Capped,backGroups back]) seen
        exact ⟨{ s with groups := last.groups },Nat.le_refl _,Option.some.inj same ▸ capped',found⟩
    · split at found
      · exact Passes.stay k s r capped found
      · contradiction
  | loop least most appetite a body =>
    simp only [Node.room?,Option.bind_eq_bind,Option.bind_eq_some_iff] at room
    obtain ⟨m₁,room₁,most,rfl,⟨⟩⟩ := room
    intro k s r
    cases appetite with
    | greedy =>
      rw [run]
      exact greedyPasses (body room₁) (loopFuel size least) 0 none k s r
    | lazy =>
      rw [run]
      exact lazyPasses (body room₁) (loopFuel size least) 0 none k s r
    | possessive =>
      rw [run]
      exact possessivePasses (body room₁) (loopFuel size least) 0 none k s r
  | atomic a body =>
    intro k s r capped found
    unfold run at found
    split at found
    · rename_i seen
      obtain ⟨s',short,capped',⟨⟩⟩ := body room some s _ capped seen
      exact ⟨_,short,capped',found⟩
    · contradiction
  | ifGroup i a b yes no =>
    simp only [Node.room?,Option.bind_eq_bind,Option.bind_eq_some_iff] at room
    obtain ⟨m₁,room₁,m₂,room₂,⟨⟩⟩ := room
    intro k s r capped found
    unfold run at found
    split at found
    · exact (yes room₁).wider (by omega) k s r capped found
    · exact (no room₂).wider (by omega) k s r capped found

end Parts

/-! ## Patterns tied to both ends -/

def Node.opened : Node → Bool
  | anchor .textStart => true
  | seq a _ => a.opened
  | _ => false

def Node.closed : Node → Bool
  | anchor .lastLineEnd => true
  | seq _ b => b.closed
  | _ => false

theorem openedStart {size n k s r} (opened : Node.opened n = true) (found : run size n k s = some r) : s.before = [] := by
  induction n generalizing k with
  | anchor a =>
    cases a <;> cases opened
    unfold run at found
    split at found
    · rename_i start
      simpa [Anchor.holds] using start
    · contradiction
  | seq a b first =>
    rw [run] at found
    exact first opened found
  | _ => cases opened

theorem closedShort {caps size n m k s r} (closed : Node.closed n = true) (room : n.room? caps = some m)
    (capped : s.Capped caps) (found : run size n k s = some r) : s.after.length ≤ m+1 := by
  induction n generalizing m s with
  | anchor a =>
    cases a <;> cases closed
    unfold run at found
    split at found
    · rename_i ends
      simp only [Anchor.holds,Bool.or_eq_true,List.isEmpty_iff,beq_iff_eq] at ends
      rcases ends with ends | ends <;> simp [ends]
    · contradiction
  | seq a b _ second =>
    simp only [Node.room?,Option.bind_eq_bind,Option.bind_eq_some_iff] at room
    obtain ⟨m₁,room₁,m₂,room₂,⟨⟩⟩ := room
    rw [run] at found
    obtain ⟨s',short,capped',found⟩ := runPasses room₁ _ s r capped found
    have := second closed room₂ capped' found
    omega
  | _ => cases closed

theorem openedSearch {n : Node} (opened : n.opened = true) (text : List Char) :
    n.search text = (run text.length n some (.start text)).isSome := by
  have later (size before after index) (some : before ≠ []) : searchFrom size n before after index = false := by
    induction after generalizing before index with
    | nil =>
      cases found : run size n Option.some ⟨before,[],index,[]⟩ with
      | none => simp [searchFrom,found]
      | some r => exact absurd (openedStart opened found) some
    | cons c cs ih =>
      cases found : run size n Option.some ⟨before,c::cs,index,[]⟩ with
      | none => simp [searchFrom,found,ih]
      | some r => exact absurd (openedStart opened found) some
  cases text with
  | nil => rfl
  | cons c cs =>
    rw [Node.search,searchFrom,later _ _ _ _ (by simp),Bool.or_false]
    rfl

theorem searchShort {caps} {n : Node} {m text} (opened : n.opened = true) (closed : n.closed = true)
    (room : n.room? caps = some m) (found : n.search text = true) : text.length ≤ m+1 := by
  rw [openedSearch opened] at found
  obtain ⟨r,run⟩ := Option.isSome_iff_exists.mp found
  exact closedShort closed room (by simp [Cursor.Capped,Cursor.start]) run

end FormGuard.Pattern
