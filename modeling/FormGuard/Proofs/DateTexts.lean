import FormGuard.Proofs.DateReading
import FormGuard.Proofs.NumberBounds
import FormGuard.Proofs.TextCuts

/-! Dates as they are written: numbers of a fixed width, in the order of the layout, around one separator, and behind a long date
perhaps a time of day. What is written of an instant reads as that instant. -/
namespace FormGuard
open Text

namespace Numeral

def digit (d : Nat) : Char := Char.ofNat (48+d)

def padded : (width : Nat) → (n : Nat) → List Char
  | 0,_ => []
  | width+1,n => padded width (n/10)++[digit (n%10)]

theorem paddedLength (width n : Nat) : (padded width n).length = width := by
  induction width generalizing n with
  | zero => rfl
  | succ width ih => simp [padded,ih]

theorem paddedDigits (width n : Nat) : ∀ c ∈ padded width n, isDigit c = true := by
  induction width generalizing n with
  | zero => exact List.forall_mem_nil _
  | succ width ih =>
    intro c inside
    rcases List.mem_append.mp inside with front | last
    · exact ih _ c front
    · rw [List.mem_singleton.mp last]
      exact (digitChar (Nat.mod_lt n (by decide))).1

theorem digitNumber : ∀ d < 10, (digit d).toNat-48 = d := by decide

theorem natOfPadded (width n : Nat) : natOf (padded width n) = n%10^width := by
  induction width generalizing n with
  | zero => simp [padded,natOf,Nat.mod_one]
  | succ width ih =>
    have split : natOf (padded (width+1) n) = 10*natOf (padded width (n/10))+((digit (n%10)).toNat-48) := by
      simp [natOf,padded]
    rw [split,ih,digitNumber _ (Nat.mod_lt n (by decide)),Nat.pow_succ',Nat.mod_mul]
    omega

theorem digitsRead {ds : List Char} (digits : ∀ c ∈ ds, isDigit c = true) (filled : ds ≠ []) (few : ds.length ≤ digitLimit) :
    readInt? ds = some (natOf ds : Int) := by
  have lacks {c} (other : isDigit c = false) : c ∉ ds := fun inside => by simp [digits c inside] at other
  have plain : ds.map plain = ds := by
    refine (List.map_congr_left fun c inside => ?_).trans (List.map_id ds)
    have := digits c inside
    simp only [isDigit,isAsciiDigit,Bool.and_eq_true,decide_eq_true_eq] at this
    simp only [Numeral.plain,id_eq]
    rw [if_pos (by omega)]
  have trimmed : trim ds = ds := by
    have between : trim ([]++(ds++[])) = ds := trimBetween (List.forall_mem_nil _) (List.forall_mem_nil _)
      (fun c first => digitUnblank (digits c (List.mem_of_mem_head? first)))
      (fun c last => digitUnblank (digits c (List.mem_of_mem_getLast? last))) filled
    simpa using between
  have unsigned : sign ds = (false,ds) := signPlain fun c first => by
    have inside := List.mem_of_mem_head? first
    exact ⟨fun same => lacks rfl (same ▸ inside),fun same => lacks rfl (same ▸ inside)⟩
  have clean : dropUnderscores? ds = some ds := goFree (lacks rfl) (Option.some_ne_none '_').symm
  simpa [readInt?,plain,trimmed,unsigned,clean,filled,Nat.not_lt.mpr few] using digits

theorem paddedRead {width n : Nat} (some : 0 < width) (few : width ≤ digitLimit) (small : n < 10^width) :
    readInt? (padded width n) = .some (n : Int) := by
  have filled : padded width n ≠ [] := by
    rw [← List.length_pos_iff,paddedLength]
    exact some
  rw [digitsRead (paddedDigits width n) filled (by rwa [paddedLength]),natOfPadded,Nat.mod_eq_of_lt small]

end Numeral
open Numeral

/-! ## Writing -/

namespace Layout

def yearText (l : Layout) (year : Nat) : List Char := if l.isShort then padded 2 (year%100) else padded 4 year

def written (l : Layout) (year month day : Nat) : List (List Char) :=
  match l with
  | iso => [l.yearText year,padded 2 month,padded 2 day]
  | usShort | usLong => [padded 2 month,padded 2 day,l.yearText year]
  | euroShort | euroLong => [padded 2 day,padded 2 month,l.yearText year]

def dateText (l : Layout) (sep : Char) (year month day : Nat) : List Char := join [sep] (l.written year month day)

def Covers (l : Layout) (year : Nat) : Prop := if l.isShort then InWindow year else year < 10000

end Layout

def clockText (hour minute second : Nat) : List Char := join [':'] [padded 2 hour,padded 2 minute,padded 2 second]

/-! ## Reading back -/

namespace Layout
variable {l : Layout} {sep : Char} {year month day : Nat} {rest : List Char}

theorem yearDigits : ∀ c ∈ l.yearText year, isDigit c = true := by
  unfold yearText
  split <;> exact paddedDigits _ _

theorem writtenDigits : ∀ p ∈ l.written year month day, ∀ c ∈ p, isDigit c = true := by
  cases l <;> simp only [written,List.forall_mem_cons,List.not_mem_nil,false_implies,implies_true,and_true] <;>
    refine ⟨?_,?_,?_⟩ <;> first | exact yearDigits | exact paddedDigits _ _

theorem dateLength : (l.dateText sep year month day).length = l.width := by cases l <;> rfl

theorem separatorFound (known : sep ∈ separators) : l.separator (l.dateText sep year month day++rest) = sep := by
  have place : (l.dateText sep year month day++rest)[l.separatorAt]? = some sep := by cases l <;> rfl
  simp [separator,place,known]

theorem dateCut (known : sep ∈ separators) : ∃ a b c, l.written year month day = [a,b,c] ∧
    l.Cut (l.dateText sep year month day++rest) a b c := by
  have free : ∀ p ∈ l.written year month day, sep ∉ p := fun p piece inside => by
    have digit := writtenDigits p piece sep inside
    have none : separators.all (!isDigit ·) = true := by decide
    have := List.all_eq_true.mp none sep known
    simp [digit] at this
  obtain ⟨a,b,c,three⟩ : ∃ a b c, l.written year month day = [a,b,c] := by cases l <;> exact ⟨_,_,_,rfl⟩
  refine ⟨a,b,c,three,[],?_⟩
  rw [separatorFound known,List.take_left' dateLength,dateText,splitPieces (by simp [three]) free,three]

theorem yearRead (covered : l.Covers year) : ∃ n, readInt? (l.yearText year) = some n ∧ (year : Int) = l.yearOf n := by
  unfold Covers InWindow at covered
  unfold yearText yearOf
  cases short : l.isShort with
  | false =>
    simp only [short,Bool.false_eq_true,if_false] at covered ⊢
    exact ⟨_,paddedRead (by decide) (by decide) covered,rfl⟩
  | true =>
    simp only [short,if_true] at covered ⊢
    refine ⟨_,paddedRead (by decide) (by decide) (Nat.mod_lt year (by decide)),?_⟩
    split <;> omega

theorem dateRead (known : sep ∈ separators) (covered : l.Covers year) (months : month < 100) (days : day < 100)
    {h m s : Int} (time : readTime? (l.timePart (l.dateText sep year month day++rest)) = some (h,m,s)) :
    l.reading? (l.dateText sep year month day++rest) = some ⟨year,month,day,h,m,s⟩ := by
  obtain ⟨a,b,c,three,cut⟩ : ∃ a b c, l.written year month day = [a,b,c] ∧
      l.Cut (l.dateText sep year month day++rest) a b c := dateCut known
  obtain ⟨n,readYear,same⟩ := yearRead covered
  have arranged : l.arrange a b c = (l.yearText year,padded 2 month,padded 2 day) := by
    cases l <;> cases three <;> rfl
  refine readingIff.mpr ⟨a,b,c,n,cut,?_,same,?_,?_,time⟩
  · rwa [arranged]
  · rw [arranged]
    exact paddedRead (by decide) (by decide) months
  · rw [arranged]
    exact paddedRead (by decide) (by decide) days

theorem clockRead {h m s : Nat} (hours : h < 100) (minutes : m < 100) (seconds : s < 100) :
    readTime? (clockText h m s) = some ((h : Int),(m : Int),(s : Int)) := by
  have free : ∀ p ∈ [padded 2 h,padded 2 m,padded 2 s], ':' ∉ p := by
    have (n : Nat) : ':' ∉ padded 2 n := fun inside => absurd (paddedDigits 2 n ':' inside) (by decide)
    simp [this]
  refine (timeRead (splitPieces (by simp) free)).mpr ⟨?_,?_,?_⟩ <;>
    exact paddedRead (by decide) (by decide) (by assumption)

theorem longLength (long : l.isShort = false) : (l.dateText sep year month day).length = 10 := by
  rw [dateLength,width,long]
  rfl

theorem longTime (long : l.isShort = false) {c : Char} : l.timePart (l.dateText sep year month day ++ c :: rest) = rest := by
  rw [timePart,long]
  simp [List.drop_append,longLength long]

theorem longUntimed (long : l.isShort = false) : l.timePart (l.dateText sep year month day) = [] := by
  simp [timePart,longLength long]

theorem midnightRead (free : l.isShort = true ∨ rest = []) :
    readTime? (l.timePart (l.dateText sep year month day++rest)) = some (0,0,0) := by
  have none : l.timePart (l.dateText sep year month day++rest) = [] := by
    cases short : l.isShort with
    | true => simp [timePart,short]
    | false =>
      obtain rfl : rest = [] := by simpa [short] using free
      rw [List.append_nil]
      exact longUntimed short
  rw [none]
  rfl

end Layout

def Instant.midnight (i : Instant) : Instant := { i with hour := 0, minute := 0, second := 0, timeOk := by decide }

/-- What is written of an instant reads as that instant: with its time of day behind a long date, and as midnight of its day
without, and behind a short date whatever follows. -/
theorem dateTextsRead {strict name l} (named : Layout.resolve strict name = .ok l) {sep} (known : sep ∈ Layout.separators)
    (i : Instant) :
    (l.isShort = false →
      readDate strict name (.text (String.ofList (l.dateText sep i.year i.month i.day ++ ' ' :: clockText i.hour i.minute i.second))) =
        .ok i ∧
      readDate strict name (.text (String.ofList (l.dateText sep i.year i.month i.day))) = .ok i.midnight) ∧
    (l.isShort = true → InWindow i.year → ∀ rest,
      readDate strict name (.text (String.ofList (l.dateText sep i.year i.month i.day++rest))) = .ok i.midnight) := by
  have covered (year : l.isShort = true → InWindow i.year) : l.Covers i.year := by
    have := i.yearOk
    unfold Layout.Covers
    split
    · exact year (by assumption)
    · omega
  have := i.dateOk
  have := Instant.monthShort i.year i.month
  have := i.timeOk
  have month : i.month < 100 := by omega
  have day : i.day < 100 := by omega
  simp only [readDateOk named,String.toList_ofList,Layout.readIff]
  refine ⟨fun long => ⟨?_,?_⟩,fun short year rest => ?_⟩
  · refine Layout.dateRead known (covered (by simp [long])) month day ?_
    rw [Layout.longTime long]
    exact Layout.clockRead (by omega) (by omega) (by omega)
  · have untimed := Layout.dateRead known (covered (by simp [long])) month day (Layout.midnightRead (.inr (Eq.refl [])))
    rwa [List.append_nil] at untimed
  · exact Layout.dateRead known (covered fun _ => year) month day (Layout.midnightRead (.inl short))

def lastLeapDay : Instant := ⟨2000,2,29,23,59,8,by decide,by decide,by decide⟩

theorem leapDayRead : Layout.resolve true (.text "us-long") = .ok .usLong ∧ Layout.resolve true (.text "Europe") = .ok .euroShort ∧
    '.' ∈ Layout.separators ∧ InWindow lastLeapDay.year ∧
    readDate true (.text "us-long") (.text "02.29.2000 23:59:08") = .ok lastLeapDay ∧
    readDate true (.text "us-long") (.text "02.29.2000") = .ok lastLeapDay.midnight ∧
    readDate true (.text "Europe") (.text "29.02.00 at noon") = .ok lastLeapDay.midnight := by
  have long : Layout.resolve true (.text "us-long") = .ok .usLong := by rfl
  have short : Layout.resolve true (.text "Europe") = .ok .euroShort := by rfl
  have dot : '.' ∈ Layout.separators := by decide
  have year : InWindow lastLeapDay.year := ⟨by decide,by decide⟩
  obtain ⟨timed,untimed⟩ := (dateTextsRead long dot lastLeapDay).1 rfl
  exact ⟨long,short,dot,year,timed,untimed,(dateTextsRead short dot lastLeapDay).2 rfl year " at noon".toList⟩

end FormGuard
