import FormGuard.Calendar.Naming
import FormGuard.Proofs.CatalogReading
import FormGuard.Proofs.ExemptFields
import FormGuard.Proofs.InstantOrder
import FormGuard.Proofs.WrittenDates

/-! What a text reads as. The year of a short layout is whatever number stands in its place, so that it leaves the hundred years
that two digits stand for exactly if that number has more of them; and the only failure that is no fault of the text as a date
comes from a time of day beyond the range of a word. -/
namespace FormGuard
open Text

namespace Layout
variable {l : Layout} {cs : List Char}

theorem readIff {i} : l.read cs = .ok i ↔ l.reading? cs = some i.reading := by
  unfold read
  cases l.reading? cs with
  | none => simp
  | some r => simp [Instant.instantIff]

def Cut (l : Layout) (cs a b c : List Char) : Prop := ∃ rest, splitOn (l.separator cs) (cs.take l.width) = a::b::c::rest

theorem readingIff {r} : l.reading? cs = some r ↔ ∃ a b c year, l.Cut cs a b c ∧
    Numeral.readInt? (l.arrange a b c).1 = some year ∧ r.year = l.yearOf year ∧
    Numeral.readInt? (l.arrange a b c).2.1 = some r.month ∧ Numeral.readInt? (l.arrange a b c).2.2 = some r.day ∧
    readTime? (l.timePart cs) = some (r.hour,r.minute,r.second) := by
  unfold reading? Cut
  split
  · rename_i a b c rest whole
    simp only [Option.bind_eq_bind,Option.bind_eq_some_iff,whole,List.cons.injEq]
    constructor
    · rintro ⟨year,readYear,time,readTime,month,readMonth,day,readDay,⟨⟩⟩
      exact ⟨a,b,c,year,⟨rest,rfl,rfl,rfl,rfl⟩,readYear,rfl,readMonth,readDay,readTime⟩
    · rintro ⟨_,_,_,year,⟨_,rfl,rfl,rfl,rfl⟩,readYear,same,readMonth,readDay,readTime⟩
      refine ⟨year,readYear,_,readTime,_,readMonth,_,readDay,?_⟩
      rw [← same]
      rfl
  · rename_i few
    refine iff_of_false nofun ?_
    rintro ⟨a,b,c,_,⟨rest,whole⟩,_⟩
    exact few a b c rest whole

end Layout

theorem readDateText {strict name l} (named : Layout.resolve strict name = .ok l) (s : String) :
    readDate strict name (.text s) = (l.read s.toList).mapError Failure.fault := by
  have text : l.readValue (.text s) = l.read s.toList := rfl
  rw [readDate]
  simp only [named,text]
  cases l.read s.toList <;> rfl

theorem readDateOk {strict name l} (named : Layout.resolve strict name = .ok l) {s : String} {i} :
    readDate strict name (.text s) = .ok i ↔ l.read s.toList = .ok i := by
  rw [readDateText named]
  cases l.read s.toList <;> simp [Except.mapError]

/-! ## Short years -/

def Layout.WritesYear (l : Layout) (cs : List Char) (n : Int) : Prop :=
  ∃ a b c, l.Cut cs a b c ∧ Numeral.readInt? (l.arrange a b c).1 = some n

def InWindow (year : Nat) : Prop := 1950 ≤ year ∧ year ≤ 2049

def InCentury (n : Int) (year : Nat) : Prop :=
  (n < 50 → 2000 ≤ year ∧ year ≤ 2049) ∧ (50 ≤ n → 1950 ≤ year ∧ year ≤ 1999)

/-- A year is in its century exactly if its number has two digits at most. It is among the hundred years of both exactly if the
number is less than fifty away from those. -/
theorem shortYears {l : Layout} (short : l.isShort = true) {strict name} (named : Layout.resolve strict name = .ok l)
    {s : String} {i} (read : readDate strict name (.text s) = .ok i) :
    ∃ n, l.WritesYear s.toList n ∧ (i.year : Int) = l.yearOf n ∧ (InCentury n i.year ↔ 0 ≤ n ∧ n < 100) ∧
      (InWindow i.year ↔ -50 ≤ n ∧ n < 150) := by
  obtain ⟨a,b,c,n,cut,year,same,_⟩ := Layout.readingIff.mp (Layout.readIff.mp ((readDateOk named).mp read))
  change (i.year : Int) = l.yearOf n at same
  refine ⟨n,⟨a,b,c,cut,year⟩,same,?_⟩
  unfold Layout.yearOf at same
  rw [if_pos short] at same
  unfold InCentury InWindow
  split at same <;> omega

theorem lastOfWindow : Layout.euroShort.isShort = true ∧ Layout.resolve false (.text "uk") = .ok .euroShort ∧
    ∃ i n, readDate false (.text "uk") (.text "31/12/49 10:00") = .ok i ∧ Layout.euroShort.WritesYear "31/12/49 10:00".toList n ∧
      (i.year : Int) = Layout.euroShort.yearOf n ∧ (InCentury n i.year ↔ 0 ≤ n ∧ n < 100) ∧
      (InWindow i.year ↔ -50 ≤ n ∧ n < 150) := by
  have named : Layout.resolve false (.text "uk") = .ok .euroShort := by rfl
  obtain ⟨i,read⟩ : ∃ i, (readDate false (.text "uk") (.text "31/12/49 10:00")).toOption = some i :=
    Option.isSome_iff_exists.mp (by decide +kernel)
  obtain ⟨n,written⟩ := shortYears rfl named (answered read)
  exact ⟨rfl,named,i,n,answered read,written⟩

/-- Four digits fit where day and month have one each. -/
theorem fourDigitsTaken : ∃ i, readDate false (.text "EURO_SHORT") (.text "1-1-2024") = .ok i ∧ i.year = 3924 ∧ ¬ InWindow i.year := by
  have read : (readDate false (.text "EURO_SHORT") (.text "1-1-2024")).toOption.map (·.year) = some 3924 := by decide +kernel
  obtain ⟨i,read,year⟩ := Option.map_eq_some_iff.mp read
  refine ⟨i,answered read,year,?_⟩
  rw [InWindow,year]
  decide

/-! ## Failures -/

structure Layout.Overruns (l : Layout) (cs : List Char) : Prop where
  long : l.isShort = false
  date : ∃ a b c, l.Cut cs a b c ∧ ∀ p ∈ [a,b,c], ∃ n, Numeral.readInt? p = some n
  time : ∃ h m s, splitOn ':' (cs.drop 11) = [h,m,s] ∧ (∀ p ∈ [h,m,s], ∃ n, Numeral.readInt? p = some n) ∧
    ∃ p ∈ [h,m,s], ∃ n, Numeral.readInt? p = some n ∧ (n < -2^31 ∨ 2^31 ≤ n)

namespace Layout
variable {l : Layout} {cs : List Char}

theorem unfit {n : Int} : Instant.Reading.fitsWord n = false ↔ n < -2^31 ∨ 2^31 ≤ n := by
  simp only [Instant.Reading.fitsWord,Bool.and_eq_false_iff,decide_eq_false_iff_not]
  omega

theorem overflowIff {r : Instant.Reading} : r.instant = .error .overflow ↔ ∃ n ∈ r.fields, Instant.Reading.fitsWord n = false := by
  unfold Instant.Reading.instant
  split
  · rename_i fits
    rw [List.all_eq_true] at fits
    constructor
    · intro overflows
      repeat' split at overflows
      all_goals cases overflows
    · rintro ⟨n,inside,beyond⟩
      simp [fits n inside] at beyond
  · rename_i beyond
    simpa using beyond

theorem arrangedEach {α} {p : α → Prop} {a b c : α} : (p (l.arrange a b c).1 ∧ p (l.arrange a b c).2.1 ∧ p (l.arrange a b c).2.2) ↔
    ∀ x ∈ [a,b,c], p x := by
  simp only [List.forall_mem_cons,List.not_mem_nil,false_implies,implies_true,and_true]
  cases l <;> simp only [arrange] <;> tauto

theorem timeRead {a b c : List Char} (pieces : splitOn ':' cs = [a,b,c]) {h m s : Int} : readTime? cs = some (h,m,s) ↔
    Numeral.readInt? a = some h ∧ Numeral.readInt? b = some m ∧ Numeral.readInt? c = some s := by
  unfold readTime?
  simp [pieces,Option.bind_eq_some_iff]

theorem timeMidnight (other : ∀ a b c, splitOn ':' cs ≠ [a,b,c]) : readTime? cs = some (0,0,0) := by
  unfold readTime?
  split
  · rename_i a b c pieces
    exact absurd pieces (other a b c)
  · rfl

theorem overruns {n} {r : Instant.Reading} (read : l.reading? cs = some r) (inside : n ∈ r.fields)
    (beyond : Instant.Reading.fitsWord n = false) : l.Overruns cs := by
  obtain ⟨time,date⟩ := dateFits read
  obtain ⟨a,b,c,year,cut,readYear,_,readMonth,readDay,_⟩ := readingIff.mp read
  have late : n ∈ [r.hour,r.minute,r.second] := by
    rcases List.mem_append.mp (show n ∈ [r.year,r.month,r.day]++[r.hour,r.minute,r.second] from inside) with early | late
    · simp [date n early] at beyond
    · exact late
  by_cases some : ∃ x y z, splitOn ':' (l.timePart cs) = [x,y,z]
  · obtain ⟨x,y,z,pieces⟩ := some
    obtain ⟨hour,minute,second⟩ := (timeRead pieces).mp time
    have long : l.isShort = false := by
      cases short : l.isShort with
      | false => rfl
      | true => simp [timePart,short,splitOn] at pieces
    refine ⟨long,⟨a,b,c,cut,arrangedEach.mp ⟨⟨_,readYear⟩,⟨_,readMonth⟩,⟨_,readDay⟩⟩⟩,x,y,z,?_,?_,?_⟩
    · simpa [timePart,long] using pieces
    · simp [hour,minute,second]
    · simp only [List.mem_cons,List.not_mem_nil,or_false] at late
      rcases late with rfl | rfl | rfl
      · exact ⟨x,by simp,_,hour,unfit.mp beyond⟩
      · exact ⟨y,by simp,_,minute,unfit.mp beyond⟩
      · exact ⟨z,by simp,_,second,unfit.mp beyond⟩
  · have midnight := time.symm.trans (timeMidnight fun x y z pieces => some ⟨x,y,z,pieces⟩)
    simp only [Option.some.injEq,Prod.mk.injEq] at midnight
    simp only [midnight,List.mem_cons,List.not_mem_nil,or_false,or_self] at late
    simp [late,Instant.Reading.fitsWord] at beyond

theorem overrunsIff : l.read cs = .error .overflow ↔ l.Overruns cs := by
  unfold read
  constructor
  · intro fails
    split at fails
    · rename_i r read
      obtain ⟨n,inside,beyond⟩ := overflowIff.mp fails
      exact overruns read inside beyond
    · cases fails
  · rintro ⟨long,⟨a,b,c,cut,numbers⟩,x,y,z,pieces,times,p,inside,n,number,beyond⟩
    obtain ⟨⟨year,readYear⟩,⟨month,readMonth⟩,⟨day,readDay⟩⟩ := arrangedEach.mpr numbers
    simp only [List.forall_mem_cons] at times
    obtain ⟨⟨hour,readHour⟩,⟨minute,readMinute⟩,⟨second,readSecond⟩,_⟩ := times
    have time : readTime? (l.timePart cs) = some (hour,minute,second) := by
      rw [timePart,long]
      exact (timeRead pieces).mpr ⟨readHour,readMinute,readSecond⟩
    have read : l.reading? cs = some ⟨l.yearOf year,month,day,hour,minute,second⟩ :=
      readingIff.mpr ⟨a,b,c,year,cut,readYear,rfl,readMonth,readDay,time⟩
    have late : n ∈ [hour,minute,second] := by
      simp only [List.mem_cons,List.not_mem_nil,or_false] at inside ⊢
      rcases inside with rfl | rfl | rfl <;> simp_all
    rw [read]
    exact overflowIff.mpr ⟨n,List.mem_append_right [_,_,_] late,unfit.mpr beyond⟩

end Layout

inductive NoDate (strict : Bool) (name : Value) : Failure → Prop
  | text : NoDate strict name (.fault .badValue)
  | layout (asked : strict = true) (unknown : Layout.named? (if name.truthy then name.plainText else "") = none) :
    NoDate strict name (.problem (.unknownLayout name))

/-- Whatever is asked for is answered by an instant or by a failure that says there is none, but where a time of day overruns; there,
and only there, the reading breaks off. -/
theorem dateFailures (strict : Bool) (name : Value) (s : String) :
    (((∃ i, readDate strict name (.text s) = .ok i) ∨ ∃ f, readDate strict name (.text s) = .error f ∧ NoDate strict name f) ↔
      ¬ ∃ l, Layout.resolve strict name = .ok l ∧ l.Overruns s.toList) ∧
    (readDate strict name (.text s) = .error (.fault .overflow) ↔
      ∃ l, Layout.resolve strict name = .ok l ∧ l.Overruns s.toList) := by
  have faulty : ∀ f, NoDate strict name f → f ≠ .fault .overflow := by
    rintro _ ⟨⟩ <;> nofun
  have breaks : readDate strict name (.text s) = .error (.fault .overflow) ↔
      ∃ l, Layout.resolve strict name = .ok l ∧ l.Overruns s.toList := by
    cases named : Layout.resolve strict name with
    | error p => simp [readDate,named]
    | ok l =>
      rw [readDateText named]
      simp only [Except.ok.injEq,exists_eq_left',← Layout.overrunsIff]
      cases l.read s.toList <;> simp [Except.mapError]
  refine ⟨?_,breaks⟩
  rw [← breaks]
  constructor
  · rintro (⟨i,read⟩ | ⟨f,fails,noDate⟩) broken
    · simp [read] at broken
    · rw [fails,Except.error.injEq] at broken
      exact faulty f noDate broken
  · intro unbroken
    cases named : Layout.resolve strict name with
    | error p =>
      unfold Layout.resolve at named
      split at named
      · cases named
      · rename_i unknown
        split at named
        · rename_i asked
          cases named
          exact .inr ⟨_,by simp [readDate,Layout.resolve,unknown,asked],.layout asked unknown⟩
        · cases named
    | ok l =>
      rw [readDateText named] at unbroken ⊢
      cases read : l.read s.toList with
      | ok i => exact .inl ⟨i,rfl⟩
      | error f =>
        rcases Layout.readFaults read with rfl | rfl
        · exact .inr ⟨_,rfl,.text⟩
        · simp [read,Except.mapError] at unbroken

theorem hourOverruns : readDate false (.text "ISO") (.text "2024-01-01 99999999999:0:0") = .error (.fault .overflow) ∧
    ¬ ∃ f, readDate false (.text "ISO") (.text "2024-01-01 99999999999:0:0") = .error f ∧ NoDate false (.text "ISO") f := by
  have named : Layout.resolve false (.text "ISO") = .ok .iso := by rfl
  have read : Layout.iso.read "2024-01-01 99999999999:0:0".toList = .error .overflow := by decide +kernel
  rw [readDateText named,read]
  refine ⟨rfl,?_⟩
  rintro ⟨f,⟨⟩,⟨⟩⟩

end FormGuard
