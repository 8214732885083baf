import FormGuard.Proofs.CharacterClasses
import FormGuard.Proofs.TextCuts

/-! The rule on addresses of eight groups. Its pattern counts the groups before and after a double colon each for itself, so that it stands for
the addresses and, beyond these, for texts with a double colon among eight groups and more. -/
namespace FormGuard
open Pattern (Node Item CharSet Enough inOrder loopCounts loopSpelled)
open Text

namespace Address

def HexDigit (c : Char) : Prop := '0' ≤ c ∧ c ≤ '9' ∨ 'a' ≤ c ∧ c ≤ 'f' ∨ 'A' ≤ c ∧ c ≤ 'F'

def Group (cs : List Char) : Prop := 1 ≤ cs.length ∧ cs.length ≤ 4 ∧ ∀ c ∈ cs, HexDigit c

def Row (groups : List (List Char)) (text : List Char) : Prop := text = join [':'] groups ∧ ∀ g ∈ groups, Group g

instance (c : Char) : Decidable (HexDigit c) := inferInstanceAs (Decidable (_ ∨ _))

instance (cs : List Char) : Decidable (Group cs) :=
  decidable_of_iff (1 ≤ cs.length ∧ cs.length ≤ 4 ∧ cs.all (HexDigit ·) = true) (by simp [Group])

instance (groups : List (List Char)) (text : List Char) : Decidable (Row groups text) :=
  decidable_of_iff (text = join [':'] groups ∧ groups.all (Group ·) = true) (by simp [Row])

def Cut (left right : List (List Char)) (text : List Char) : Prop :=
  ∃ front back, text = front++([':',':']++back) ∧ Row left front ∧ Row right back

def Written (text : List Char) : Prop :=
  (∃ groups, groups.length = 8 ∧ Row groups text) ∨ ∃ left right, left.length+right.length ≤ 7 ∧ Cut left right text

/-- A double colon has at most seven groups on either side, and more than that on both together. -/
def Crowded (text : List Char) : Prop :=
  ∃ left right, left.length ≤ 7 ∧ right.length ≤ 7 ∧ 7 < left.length+right.length ∧ Cut left right text

/-! ## The pattern -/

def hexDigit : CharSet := ⟨false,[.range 48 57,.range 97 102],.full,false⟩

def colon : Node := .one (.single .full 58)

def group : Node := .loop 1 (some 4) .greedy (.one hexDigit)

def groupColon (i : Nat) : Node := .group i (.seq group colon)

def row (i least most : Nat) : Node := .seq (.loop least (some most) .greedy (groupColon i)) group

def side (i : Nat) : Node := .loop 0 (some 1) .greedy (.group i (row (i+1) 0 6))

def pattern : Node := .group 1 (.alt (row 2 7 7) (.seq (side 3) (.seq colon (.seq colon (side 5)))))

theorem hexCodes {c : Char} :
    HexDigit c ↔ 48 ≤ c.toNat ∧ c.toNat ≤ 57 ∨ 97 ≤ c.toNat ∧ c.toNat ≤ 102 ∨ 65 ≤ c.toNat ∧ c.toNat ≤ 70 := Iff.rfl

theorem hexHolds {c : Char} : hexDigit.holds c = true ↔ HexDigit c := by
  have digits : Item.holds .full false c.toNat (.range 48 57) = true ↔ 48 ≤ lower c.toNat ∧ lower c.toNat ≤ 57 :=
    Pattern.rangeLow (by decide) (by decide) false
  have letters : Item.holds .full false c.toNat (.range 97 102) = true ↔ 97 ≤ lower c.toNat ∧ lower c.toNat ≤ 102 :=
    Pattern.rangeLow (by decide) (by decide) false
  have forms : lower c.toNat < 105 → c.toNat = lower c.toNat ∨ 97 ≤ lower c.toNat ∧ c.toNat+32 = lower c.toNat :=
    fun low => lowerLow low rfl
  have fixed (low : c.toNat < 105) : c.toNat < 65 ∨ 90 < c.toNat → lower c.toNat = c.toNat := lowerFixed low
  have capital : 65 ≤ c.toNat ∧ c.toNat ≤ 90 → lower c.toNat = c.toNat+32 := lowerCapital
  simp only [hexDigit,CharSet.holds,List.any_cons,List.any_nil,Bool.or_false,Bool.bne_false,Bool.or_eq_true,digits,letters,hexCodes]
  omega

theorem colonDenotes {text : List Char} : colon.Denotes text ↔ text = [':'] := by
  have stands (c : Char) : (CharSet.single .full 58).holds c = true ↔ c = ':' := by
    simp [CharSet.single,CharSet.holds,CharacterClass.charStands (m := 58) (by decide) (c := c) (d := ':') rfl]
  simp [colon,Node.Denotes,stands]

theorem groupDenotes {text : List Char} : group.Denotes text ↔ Group text := by
  have single (x) : (Node.one hexDigit).Denotes x ↔ ∃ c, x = [c] ∧ HexDigit c := by simp only [Node.Denotes,hexHolds]
  rw [group,loopCounts single]
  simp [Enough,Group,and_assoc]

theorem groupColonDenotes {i : Nat} {text : List Char} : (groupColon i).Denotes text ↔ ∃ g, text = g++[':'] ∧ Group g := by
  simp only [groupColon,Node.Denotes,groupDenotes,colonDenotes]
  grind

theorem joinLast (sep : Char) (gs : List (List Char)) (g : List Char) :
    join [sep] (gs++[g]) = (gs.map fun x => x++[sep]).flatten++g := by
  induction gs with
  | nil => rfl
  | cons x gs ih => cases gs <;> simp_all [join]

theorem rowDenotes {i least most : Nat} {text : List Char} : (row i least most).Denotes text ↔
    ∃ groups, least < groups.length ∧ groups.length ≤ most+1 ∧ Row groups text := by
  change (∃ x y, text = x++y ∧ (Node.loop least (some most) .greedy (groupColon i)).Denotes x ∧ group.Denotes y) ↔ _
  have spelled (x) : (groupColon i).Denotes x ↔ ∃ g, x = g++[':'] ∧ Group g := groupColonDenotes
  simp only [loopSpelled spelled,groupDenotes]
  constructor
  · rintro ⟨_,g,rfl,⟨gs,rfl,enough,each⟩,last⟩
    refine ⟨gs++[g],?_,?_,(joinLast ':' gs g).symm,?_⟩
    · have := enough.1
      simp only [List.length_append,List.length_singleton]
      omega
    · have := enough.2 most rfl
      simpa using this
    · simpa [or_imp,forall_and] using ⟨each,last⟩
  · rintro ⟨groups,some,few,rfl,each⟩
    obtain rfl | ⟨gs,g,rfl⟩ := List.eq_nil_or_concat groups
    · exact absurd some (Nat.not_lt_zero _)
    · rw [List.concat_eq_append] at *
      simp only [List.length_append,List.length_singleton] at some few
      refine ⟨_,g,joinLast ':' gs g,⟨gs,rfl,⟨Nat.lt_succ_iff.mp some,?_⟩,fun x inside => each x (by simp [inside])⟩,each g (by simp)⟩
      rintro _ ⟨⟩
      exact Nat.le_of_succ_le_succ few

theorem sideDenotes {i : Nat} {text : List Char} : (side i).Denotes text ↔ ∃ groups, groups.length ≤ 7 ∧ Row groups text := by
  rw [side,Pattern.optionDenotes]
  change (text = [] ∨ (row (i+1) 0 6).Denotes text) ↔ _
  rw [rowDenotes]
  constructor
  · rintro (rfl | ⟨groups,_,few,row⟩)
    · exact ⟨[],Nat.zero_le _,rfl,List.forall_mem_nil _⟩
    · exact ⟨groups,few,row⟩
  · rintro ⟨groups,few,row⟩
    by_cases some : 0 < groups.length
    · exact .inr ⟨groups,some,few,row⟩
    · obtain rfl := List.length_eq_zero_iff.mp (Nat.eq_zero_of_not_pos some)
      exact .inl row.1

theorem cutDenotes {text : List Char} : (Node.seq (side 3) (.seq colon (.seq colon (side 5)))).Denotes text ↔
    ∃ left right, left.length ≤ 7 ∧ right.length ≤ 7 ∧ Cut left right text := by
  simp only [Node.Denotes,sideDenotes,colonDenotes]
  constructor
  · rintro ⟨front,_,rfl,⟨left,few,before⟩,_,_,rfl,rfl,_,back,rfl,rfl,right,few',behind⟩
    exact ⟨left,right,few,few',front,back,rfl,before,behind⟩
  · rintro ⟨left,right,few,few',front,back,rfl,before,behind⟩
    exact ⟨front,_,rfl,⟨left,few,before⟩,[':'],_,rfl,rfl,[':'],back,rfl,rfl,right,few',behind⟩

theorem patternDenotes {text : List Char} : (inOrder [pattern]).Denotes text ↔ Written text ∨ Crowded text := by
  have full : (row 2 7 7).Denotes text ↔ ∃ groups, groups.length = 8 ∧ Row groups text := by
    rw [rowDenotes]
    exact exists_congr fun groups => by rw [← and_assoc]; exact and_congr_left fun _ => by omega
  rw [Pattern.inOrderSingle]
  change (row 2 7 7).Denotes text ∨ Node.Denotes _ text ↔ _
  rw [full,cutDenotes,Written,Crowded,or_assoc]
  refine or_congr_right ⟨?_,?_⟩
  · rintro ⟨left,right,few,few',cut⟩
    rcases Nat.lt_or_ge 7 (left.length+right.length) with many | within
    · exact .inr ⟨left,right,few,few',many,cut⟩
    · exact .inl ⟨left,right,within,cut⟩
  · rintro (⟨left,right,within,cut⟩ | ⟨left,right,few,few',_,cut⟩)
    · exact ⟨left,right,by omega,by omega,cut⟩
    · exact ⟨left,right,few,few',cut⟩

/-! ## The groups of a text -/

theorem Group.free {g : List Char} (group : Group g) : ':' ∉ g := fun inside => absurd (group.2.2 ':' inside) (by decide)

theorem Group.filled {g : List Char} (group : Group g) : g ≠ [] := List.ne_nil_of_length_pos group.1

def groupsOf (text : List Char) : List (List Char) := (splitOn ':' text).filter (! ·.isEmpty)

theorem rowGroups {groups : List (List Char)} {text : List Char} (row : Row groups text) : groupsOf text = groups := by
  obtain ⟨rfl,each⟩ := row
  by_cases some : groups = []
  · subst some
    rfl
  · rw [groupsOf,splitPieces some fun g inside => (each g inside).free,List.filter_eq_self]
    simpa using fun g inside => (each g inside).filled

theorem splitDouble (front back : List Char) : splitOn ':' (front++([':',':']++back)) = splitOn ':' front++[]::splitOn ':' back :=
  (splitJoint ':' front (':' :: back)).trans (by rw [splitOn,if_pos rfl])

theorem cutGroups {left right : List (List Char)} {text : List Char} (cut : Cut left right text) : groupsOf text = left++right := by
  obtain ⟨front,back,rfl,before,behind⟩ := cut
  rw [← rowGroups before,← rowGroups behind,groupsOf,splitDouble,List.filter_append]
  rfl

theorem rowUncut {groups left right : List (List Char)} {text : List Char} (row : Row groups text) (some : groups ≠ []) :
    ¬ Cut left right text := by
  rintro ⟨front,back,whole,_⟩
  obtain ⟨same,each⟩ := row
  have pieces : splitOn ':' text = groups := same ▸ splitPieces some fun g inside => (each g inside).free
  have gap : [] ∈ splitOn ':' text := by
    rw [whole,splitDouble]
    simp
  exact absurd rfl (each [] (pieces ▸ gap)).filled

theorem crowdedUnwritten {text : List Char} (crowded : Crowded text) : ¬ Written text := by
  obtain ⟨left,right,_,_,many,cut⟩ := crowded
  rintro (⟨groups,eight,row⟩ | ⟨left',right',within,cut'⟩)
  · exact rowUncut row (by rintro rfl; cases eight) cut
  · have same := congrArg List.length ((cutGroups cut).symm.trans (cutGroups cut'))
    simp only [List.length_append] at same
    omega

theorem rowUnbroken {groups : List (List Char)} {text : List Char} (row : Row groups text) : '\n' ∉ text := by
  obtain ⟨rfl,each⟩ := row
  rw [← List.singleton_infix_iff,infixJoin (by decide) (List.cons_ne_nil _ _)]
  rintro ⟨g,inside,here⟩
  exact absurd ((each g inside).2.2 '\n' ((List.singleton_infix_iff _ _).mp here)) (by decide)

theorem cutUnbroken {left right : List (List Char)} {text : List Char} (cut : Cut left right text) : '\n' ∉ text := by
  obtain ⟨front,back,rfl,before,behind⟩ := cut
  simp [rowUnbroken before,rowUnbroken behind]

theorem unbroken {text : List Char} (taken : Written text ∨ Crowded text) : '\n' ∉ text := by
  obtain (⟨groups,_,row⟩ | ⟨left,right,_,cut⟩) | ⟨left,right,_,_,_,cut⟩ := taken
  · exact rowUnbroken row
  · exact cutUnbroken cut
  · exact cutUnbroken cut

end Address

/-! ## Verdicts -/

namespace Catalog
open Address (Written Crowded)

theorem addressTaken {c : Catalog} (same : SameBook bundled c) (remembers : c.Remembers) {rules p}
    (read : (c.parse rules).1 = .ok p) {d} (inside : d ∈ p.descriptors) (named : d.ruleName = "ipv6")
    (t : Translator) (strict : Bool) {ctx : FieldContext} (enabled : ctx.isDisabled = false) {s : String} (filled : s ≠ "") :
    ∃ r, evaluate t strict d (.text s) ctx = .ok r ∧
      (r.valid = true ↔ (Written s.toList ∨ Crowded s.toList) ∨
        ∃ front, s.toList = front++['\n'] ∧ (Written front ∨ Crowded front)) := by
  obtain ⟨r,judged,verdict⟩ := tiedVerdict same remembers read inside named (by decide) [Address.pattern]
    (by decide +kernel) t strict enabled filled
  simp only [Address.patternDenotes] at verdict
  exact ⟨r,judged,verdict⟩

/-- A text passes if it is an address, if its double colon stands among eight groups and more, and also if such a text is before a line break
that ends it; only in the latter two cases is the verdict wrong. -/
theorem addressVerdict {c : Catalog} (same : SameBook bundled c) (remembers : c.Remembers) {rules p}
    (read : (c.parse rules).1 = .ok p) {d} (inside : d ∈ p.descriptors) (named : d.ruleName = "ipv6")
    (t : Translator) (strict : Bool) {ctx : FieldContext} (enabled : ctx.isDisabled = false) {s : String} (filled : s ≠ "") :
    ∃ r, evaluate t strict d (.text s) ctx = .ok r ∧
      (r.valid = true ↔ (Written s.toList ∨ Crowded s.toList) ∨
        ∃ front, s.toList = front++['\n'] ∧ (Written front ∨ Crowded front)) ∧
      ((r.valid = true ↔ Written s.toList) ↔
        ¬ (Crowded s.toList ∨ ∃ front, s.toList = front++['\n'] ∧ (Written front ∨ Crowded front))) := by
  obtain ⟨r,judged,verdict⟩ := addressTaken same remembers read inside named t strict enabled filled
  refine ⟨r,judged,verdict,?_⟩
  rw [verdict]
  constructor
  · rintro agrees (crowded | ⟨front,whole,taken⟩)
    · exact Address.crowdedUnwritten crowded (agrees.mp (.inl (.inr crowded)))
    · have written := agrees.mp (.inr ⟨front,whole,taken⟩)
      exact Address.unbroken (.inl written) (by simp [whole])
  · intro spared
    rw [not_or] at spared
    rw [or_iff_left spared.2,or_iff_left spared.1]

theorem addressRead : ∃ p d, (bundled.parse "ipv6").1 = .ok p ∧ d ∈ p.descriptors ∧ d.ruleName = "ipv6" :=
  soleRead "ipv6" "ipv6" (by decide +kernel)

theorem documentationAddress : ∃ p d r, (bundled.parse "ipv6").1 = .ok p ∧ d ∈ p.descriptors ∧
    evaluate untranslated false d (.text "2001:DB8::1") enabled = .ok r ∧ r.valid = true := by
  obtain ⟨p,d,read,inside,named⟩ := addressRead
  obtain ⟨r,judged,verdict,_⟩ := addressVerdict (.refl _) bundledChecked.remembers read inside
    named untranslated false (show enabled.isDisabled = false from rfl) (s := "2001:DB8::1") (by decide)
  refine ⟨p,d,r,read,inside,judged,verdict.mpr (.inl (.inl (.inr ?_)))⟩
  exact ⟨["2001".toList,"DB8".toList],["1".toList],by decide,"2001:DB8".toList,"1".toList,rfl,by decide,by decide⟩

theorem eighthGroupTaken : ∃ p d r, (bundled.parse "ipv6").1 = .ok p ∧ d ∈ p.descriptors ∧ d.ruleName = "ipv6" ∧
    evaluate untranslated false d (.text "1:2:3:4:5:6:7::8") enabled = .ok r ∧ r.valid = true ∧
    ¬ Written "1:2:3:4:5:6:7::8".toList := by
  have crowded : Crowded "1:2:3:4:5:6:7::8".toList :=
    ⟨[['1'],['2'],['3'],['4'],['5'],['6'],['7']],[['8']],by decide,by decide,by decide,"1:2:3:4:5:6:7".toList,['8'],rfl,by decide,by decide⟩
  obtain ⟨p,d,read,inside,named⟩ := addressRead
  obtain ⟨r,judged,verdict⟩ := addressTaken (.refl _) bundledChecked.remembers read inside
    named untranslated false (show enabled.isDisabled = false from rfl) (s := "1:2:3:4:5:6:7::8") (by decide)
  exact ⟨p,d,r,read,inside,named,judged,verdict.mpr (.inl (.inr crowded)),Address.crowdedUnwritten crowded⟩

end Catalog
end FormGuard
