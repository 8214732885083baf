import FormGuard.Calendar.Layout
import Mathlib.Algebra.Ring.Nat
import Mathlib.Data.List.TakeWhile

/-! Dates read from a text without colons, or from a short one. The pieces of the date are too short for a number beyond 32
bits; no time is read without colons, and none out of range from a short text, so that reading it never overflows. -/
namespace FormGuard
open Text

theorem splitChars {sep c : Char} {cs piece : List Char} (piece' : piece ∈ splitOn sep cs) (inside : c ∈ piece) :
    c ∈ cs ∧ c ≠ sep := by
  induction cs generalizing piece with
  | nil =>
    simp only [splitOn,List.mem_singleton] at piece'
    subst piece'
    contradiction
  | cons d cs ih =>
    simp only [splitOn] at piece'
    split at piece'
    · rcases List.mem_cons.mp piece' with rfl | tail
      · contradiction
      · exact ⟨List.mem_cons_of_mem _ (ih tail inside).1,(ih tail inside).2⟩
    · rename_i other
      split at piece'
      · rename_i none
        exact absurd none (splitOnNonempty sep cs)
      · rename_i p ps whole
        rcases List.mem_cons.mp piece' with rfl | tail
        · rcases List.mem_cons.mp inside with rfl | rest
          · exact ⟨by simp,other⟩
          · have := ih (by simp [whole]) rest
            exact ⟨List.mem_cons_of_mem _ this.1,this.2⟩
        · have := ih (by simp [whole,tail]) inside
          exact ⟨List.mem_cons_of_mem _ this.1,this.2⟩

theorem splitFree {sep : Char} {cs : List Char} (free : sep ∉ cs) : splitOn sep cs = [cs] := by
  induction cs with
  | nil => rfl
  | cons c cs ih =>
    simp only [List.mem_cons,not_or] at free
    simp [splitOn,Ne.symm free.1,ih free.2]

namespace Numeral

theorem foldBound (ds : List Char) (all : ∀ d ∈ ds, isDigit d = true) (n : Nat) :
    ds.foldl (fun n d => 10*n+(d.toNat-48)) n < (n+1)*10^ds.length := by
  induction ds generalizing n with
  | nil => simp
  | cons d ds ih =>
    have digit := all d (by simp)
    simp only [isDigit,isAsciiDigit,Bool.and_eq_true,decide_eq_true_eq] at digit
    have rest := ih (fun e inside => all e (by simp [inside])) (10*n+(d.toNat-48))
    calc ds.foldl _ (10*n+(d.toNat-48)) < (10*n+(d.toNat-48)+1)*10^ds.length := rest
      _ ≤ (10*(n+1))*10^ds.length := Nat.mul_le_mul_right _ (by omega)
      _ = (n+1)*10^(d::ds).length := by rw [List.length_cons,Nat.pow_succ',Nat.mul_comm 10,Nat.mul_assoc]

theorem natOfBound {ds : List Char} (all : ∀ d ∈ ds, isDigit d = true) : natOf ds < 10^ds.length := by
  simpa [natOf] using foldBound ds all 0

theorem goShort {p cs us} (read : dropUnderscores?.go p cs = some us) : us.length ≤ cs.length := by
  induction cs generalizing p us with
  | nil =>
    simp only [dropUnderscores?.go] at read
    split at read <;> simp_all
  | cons c cs ih =>
    simp only [dropUnderscores?.go] at read
    repeat' split at read
    · exact Nat.le_succ_of_le (ih read)
    · contradiction
    · contradiction
    · obtain ⟨vs,inner,rfl⟩ := Option.map_eq_some_iff.mp read
      simpa using ih inner

theorem trimShort (cs : List Char) : (trim cs).length ≤ cs.length := by
  have drop (cs : List Char) : (dropBlanks cs).length ≤ cs.length := (List.dropWhile_sublist _).length_le
  calc (trim cs).length = (dropBlanks (dropBlanks cs).reverse).length := by simp [trim]
    _ ≤ (dropBlanks cs).length := by simpa using drop (dropBlanks cs).reverse
    _ ≤ cs.length := drop cs

theorem signShort (cs : List Char) : (sign cs).2.length ≤ cs.length := by
  unfold sign
  split <;> simp

theorem readIntBound {cs n} (read : readInt? cs = some n) : n.natAbs < 10^cs.length := by
  simp only [readInt?,Option.bind_eq_bind,Option.bind_eq_some_iff] at read
  obtain ⟨ds,clean,read⟩ := read
  split at read
  · contradiction
  · rename_i digits
    simp only [Bool.or_eq_true,Bool.not_eq_true',not_or,decide_eq_true_eq,Bool.not_eq_false] at digits
    have short : ds.length ≤ cs.length :=
      calc ds.length ≤ (sign (trim (cs.map plain))).2.length := goShort clean
        _ ≤ (trim (cs.map plain)).length := signShort _
        _ ≤ cs.length := by simpa using trimShort (cs.map plain)
    have bound := natOfBound (List.all_eq_true.mp digits.1.2)
    have grown : 10^ds.length ≤ 10^cs.length := Nat.pow_le_pow_right (by omega) short
    cases read
    split <;> simp <;> omega

end Numeral

theorem joinLength (sep : Char) (a : List Char) (ps : List (List Char)) :
    (join [sep] (a::ps)).length = a.length+(ps.map fun p => p.length+1).sum := by
  induction ps generalizing a with
  | nil => simp [join]
  | cons p ps ih =>
    simp only [join,List.length_append,ih,List.map_cons,List.sum_cons,List.length_singleton]
    omega

theorem piecesShort {sep cs a b c rest} (split : splitOn sep cs = a::b::c::rest) :
    a.length+b.length+c.length+2 ≤ cs.length := by
  have whole := joinSplitOn sep cs
  rw [split] at whole
  rw [← whole,joinLength]
  simp only [List.map_cons,List.sum_cons]
  omega

namespace Layout

theorem widthShort (l : Layout) : l.width ≤ 10 := by cases l <;> decide

theorem arrangedShort (l : Layout) {a b c : List Char} {n} (ha : a.length ≤ n) (hb : b.length ≤ n) (hc : c.length ≤ n) :
    (l.arrange a b c).1.length ≤ n ∧ (l.arrange a b c).2.1.length ≤ n ∧ (l.arrange a b c).2.2.length ≤ n := by
  cases l <;> exact ⟨by assumption,by assumption,by assumption⟩

theorem fieldFits {cs n} (read : Numeral.readInt? cs = some n) (short : cs.length ≤ 8) : -100000000 < n ∧ n < 100000000 := by
  have bound := Numeral.readIntBound read
  have grown : 10^cs.length ≤ 10^8 := Nat.pow_le_pow_right (by omega) short
  omega

theorem yearFits (l : Layout) {n : Int} (fits : -100000000 < n ∧ n < 100000000) :
    -2147483648 ≤ l.yearOf n ∧ l.yearOf n ≤ 2147483647 := by
  unfold yearOf
  split
  · split <;> omega
  · omega

theorem readMidnight {cs : List Char} (free : ':' ∉ cs) : readTime? cs = some (0,0,0) := by
  unfold readTime?
  rw [splitFree free]

theorem wordFits {n : Int} (fits : -100000000 < n ∧ n < 100000000) : Instant.Reading.fitsWord n = true := by
  simp [Instant.Reading.fitsWord]
  omega

theorem dateFits {l : Layout} {cs r} (read : l.reading? cs = some r) :
    readTime? (l.timePart cs) = some (r.hour,r.minute,r.second) ∧
      ∀ n ∈ [r.year,r.month,r.day], Instant.Reading.fitsWord n = true := by
  unfold reading? at read
  split at read
  · rename_i a b c rest whole
    have short := piecesShort whole
    have taken : (cs.take l.width).length ≤ 10 := Nat.le_trans (List.length_take_le _ _) l.widthShort
    obtain ⟨hy,hm,hd⟩ := l.arrangedShort (a := a) (b := b) (c := c) (n := 8) (by omega) (by omega) (by omega)
    simp only [Option.bind_eq_bind,Option.bind_eq_some_iff] at read
    obtain ⟨year,readYear,time,readTime,month,readMonth,day,readDay,last⟩ := read
    cases last
    have year' := l.yearFits (fieldFits readYear hy)
    simp only [List.forall_mem_cons]
    refine ⟨readTime,?_,wordFits (fieldFits readMonth hm),wordFits (fieldFits readDay hd),by simp⟩
    simpa [Instant.Reading.fitsWord] using year'
  · contradiction

theorem readingFits {l : Layout} {cs r} (read : l.reading? cs = some r)
    (time : ∀ n ∈ [r.hour,r.minute,r.second], Instant.Reading.fitsWord n = true) :
    r.fields.all Instant.Reading.fitsWord = true := by
  have date := (dateFits read).2
  simp only [List.forall_mem_cons] at date time
  simp [Instant.Reading.fields,date,time]

theorem fittingReads {l : Layout} {cs : List Char} (fits : ∀ h m s, readTime? (l.timePart cs) = some (h,m,s) →
    ∀ n ∈ [h,m,s], Instant.Reading.fitsWord n = true) : (∃ i, l.read cs = .ok i) ∨ l.read cs = .error .badValue := by
  unfold Layout.read
  split
  · rename_i r read
    unfold Instant.Reading.instant
    rw [if_pos (readingFits read (fits _ _ _ (dateFits read).1))]
    repeat' split
    · exact .inl ⟨_,rfl⟩
    all_goals exact .inr rfl
  · exact .inr rfl

theorem readsWithin {l : Layout} {cs : List Char} (free : ':' ∉ cs) : (∃ i, l.read cs = .ok i) ∨ l.read cs = .error .badValue := by
  refine fittingReads fun h m s read => ?_
  have time : ':' ∉ l.timePart cs := by
    unfold timePart
    split
    · simp
    · exact fun inside => free (List.mem_of_mem_drop inside)
  rw [readMidnight time] at read
  cases read
  decide

theorem shortReads {l : Layout} {cs : List Char} (short : cs.length ≤ 20) : (∃ i, l.read cs = .ok i) ∨ l.read cs = .error .badValue := by
  refine fittingReads fun h m s read => ?_
  have time : (l.timePart cs).length ≤ 9 := by
    unfold timePart
    split
    · simp
    · rw [List.length_drop]
      omega
  unfold readTime? at read
  split at read
  · rename_i a b c pieces
    have pieces := piecesShort pieces
    simp only [Option.bind_eq_bind,Option.bind_eq_some_iff] at read
    obtain ⟨h,hour,m,minute,s,second,⟨⟩⟩ := read
    simp only [List.forall_mem_cons]
    exact ⟨wordFits (fieldFits hour (by omega)),wordFits (fieldFits minute (by omega)),wordFits (fieldFits second (by omega)),by simp⟩
  · cases read
    decide

end Layout

end FormGuard
