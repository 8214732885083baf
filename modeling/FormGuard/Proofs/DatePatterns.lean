import FormGuard.Pattern.Reader
import FormGuard.Proofs.DateTexts
import FormGuard.Proofs.PatternRoom
import FormGuard.Rule.Bundled

/-! The patterns of dates. Each is made of parts that spell numbers within bounds, with a separator between them that has to be the
same twice; so each finds the dates of its layout whose month and day are such as some month and day are. -/
namespace FormGuard

def Bundled.datePattern : Layout → String
  | .iso => dateIsoPattern
  | .euroLong => dateEuroLongPattern
  | .euroShort => dateEuroShortPattern
  | .usLong => dateUsLongPattern
  | .usShort => dateUsShortPattern

namespace Pattern
open Text Numeral

/-! ## Parts that spell a text -/

def Node.spells : Node → List Char → Bool
  | one set,[c] => set.holds c
  | seq a b,cs => (List.range (cs.length+1)).any fun j => a.spells (cs.take j) && b.spells (cs.drop j)
  | alt a b,cs => a.spells cs || b.spells cs
  | group _ a,cs => a.spells cs
  | _,_ => false

def Node.spares (kept : Nat) : Node → Bool
  | seq a b | alt a b => a.spares kept && b.spares kept
  | group i a => i != kept && a.spares kept
  | _ => true

def Leads (kept : Nat) (n : Node) (text : List Char) : Prop := ∀ (size : Nat) (k : Kont) (s : Cursor) (rest : List Char),
  s.after = text++rest → (∀ s' : Cursor, s'.after = rest → s'.capture? kept = s.capture? kept → (k s').isSome = true) →
    (run size n k s).isSome = true

section Leading
variable {kept : Nat} {a b : Node} {x y : List Char}

theorem captureSame (s : Cursor) (i : Nat) (c : Capture) : (s.record i c).capture? i = some c := by
  simp [Cursor.record,Cursor.capture?]

theorem captureOther {s : Cursor} {i : Nat} (other : i ≠ kept) (c : Capture) :
    (s.record i c).capture? kept = s.capture? kept := by
  have apart : (kept == i) = false := by simpa using other.symm
  simp only [Cursor.record,Cursor.capture?,List.lookup_cons,apart]
  induction s.groups with
  | nil => rfl
  | cons g gs ih =>
    obtain ⟨j,taken⟩ := g
    by_cases same : j = i
    · simpa [same,List.lookup_cons,apart] using ih
    · simp [same,List.lookup_cons,ih]

theorem Leads.one {set : CharSet} {c : Char} (holds : set.holds c = true) : Leads kept (.one set) [c] := by
  intro size k s rest next found
  have next : s.after = c::rest := next
  simp only [run,Cursor.step?,next,holds,if_true]
  exact found _ rfl rfl

theorem Leads.seq (first : Leads kept a x) (second : Leads kept b y) : Leads kept (.seq a b) (x++y) := by
  intro size k s rest next found
  rw [run]
  refine first size _ s (y++rest) (by rw [next,List.append_assoc]) fun s₁ next₁ same₁ => ?_
  exact second size k s₁ rest next₁ fun s₂ next₂ same₂ => found s₂ next₂ (same₂.trans same₁)

theorem Leads.left (first : Leads kept a x) : Leads kept (.alt a b) x := by
  intro size k s rest next found
  obtain ⟨r,ran⟩ := Option.isSome_iff_exists.mp (first size k s rest next found)
  simp [run,ran]

theorem Leads.right (second : Leads kept b x) : Leads kept (.alt a b) x := by
  intro size k s rest next found
  rw [run]
  split
  · rfl
  · exact second size k s rest next found

theorem Leads.group {i : Nat} (other : i ≠ kept) (body : Leads kept a x) : Leads kept (.group i a) x := by
  intro size k s rest next found
  rw [run]
  exact body size _ s rest next fun s' next' same => found _ next' ((captureOther other _).trans same)

theorem spelledLeads {n : Node} {text : List Char} (spelled : n.spells text = true) (spares : n.spares kept = true) :
    Leads kept n text := by
  -- On the part, for whatever text it spells.
  induction n generalizing text with
  | one set =>
    unfold Node.spells at spelled
    split at spelled
    · rename_i same
      cases same
      exact .one spelled
    all_goals simp_all
  | seq a b first second =>
    rw [Node.spells,List.any_eq_true] at spelled
    obtain ⟨j,_,both⟩ := spelled
    simp only [Bool.and_eq_true] at both
    simp only [Node.spares,Bool.and_eq_true] at spares
    rw [← List.take_append_drop j text]
    exact (first both.1 spares.1).seq (second both.2 spares.2)
  | alt a b first second =>
    rw [Node.spells,Bool.or_eq_true] at spelled
    simp only [Node.spares,Bool.and_eq_true] at spares
    exact spelled.elim (fun spelled => (first spelled spares.1).left) fun spelled => (second spelled spares.2).right
  | group i a body =>
    rw [Node.spells] at spelled
    simp only [Node.spares,Bool.and_eq_true,bne_iff_ne] at spares
    exact (body spelled spares.2).group spares.1
  | _ => simp [Node.spells] at spelled

/-! ## Parts that may be left out -/

def Node.maybe (a : Node) : Node := .loop 0 (some 1) .greedy a

theorem maybeRun (size : Nat) (k : Kont) (s : Cursor) : run size a.maybe k s =
    match run size a k s with
    | some r => some r
    | none => k s := rfl

theorem Leads.taken (body : Leads kept a x) : Leads kept a.maybe x := by
  intro size k s rest next found
  obtain ⟨r,ran⟩ := Option.isSome_iff_exists.mp (body size k s rest next found)
  rw [maybeRun,ran]
  rfl

theorem leadsAside : Leads kept a.maybe [] := by
  intro size k s rest next found
  rw [maybeRun]
  split
  · rfl
  · exact found s next rfl

end Leading

/-! ## Parts one after another -/

def Node.row (parts : List Node) (last : Node) : Node := parts.foldr .seq last

theorem rowFound {kept size : Nat} {parts : List Node} {texts : List (List Char)} (each : List.Forall₂ (Leads kept) parts texts)
    {last : Node} {k : Kont} {rest : List Char} {s : Cursor} (next : s.after = texts.flatten++rest)
    (found : ∀ s' : Cursor, s'.after = rest → s'.capture? kept = s.capture? kept → (run size last k s').isSome = true) :
    (run size (.row parts last) k s).isSome = true := by
  induction each generalizing s with
  | nil => exact found s next rfl
  | @cons part text parts texts leads _ ih =>
    rw [Node.row,List.foldr_cons,run]
    refine leads size _ s (texts.flatten++rest) (by rw [next,List.flatten_cons,List.append_assoc]) fun s₁ next₁ same₁ => ?_
    exact ih next₁ fun s₂ next₂ same₂ => found s₂ next₂ (same₂.trans same₁)

def among (items : List Item) : CharSet := ⟨false,items,.full,false⟩

def around (front middle back : List Node) : Node :=
  .seq (.anchor .textStart) (.row front (.seq (.group 2 (.one (among [.char 45,.char 47,.char 46])))
    (.row middle (.seq (.sameAs 2 .full) (.row back (.anchor .lastLineEnd))))))

theorem sepHolds : ∀ sep ∈ Layout.separators, (among [.char 45,.char 47,.char 46]).holds sep = true :=
  List.all_eq_true.mp (by decide)

theorem aroundFound {front middle back : List Node} {a b c : List (List Char)} (first : List.Forall₂ (Leads 2) front a)
    (second : List.Forall₂ (Leads 2) middle b) (third : List.Forall₂ (Leads 2) back c) {sep : Char} (known : sep ∈ Layout.separators) :
    (around front middle back).search (a.flatten ++ sep :: (b.flatten ++ sep :: c.flatten)) = true := by
  rw [openedSearch rfl]
  generalize size : (a.flatten ++ sep :: (b.flatten ++ sep :: c.flatten)).length = n
  rw [around,run,run]
  simp only [Anchor.holds,Cursor.start,List.isEmpty_nil,if_true]
  refine rowFound first rfl fun s₁ next₁ _ => ?_
  simp only [run,Cursor.step?,next₁,sepHolds sep known,if_true]
  refine rowFound second rfl fun s₂ next₂ same₂ => ?_
  -- What the group took is the separator alone, so that the same again is the separator.
  rw [captureSame] at same₂
  have sepAgain : Capture.text ⟨sep :: (b.flatten ++ sep :: c.flatten),b.flatten ++ sep :: c.flatten⟩ = [sep] := by
    simp [Capture.text]
  simp only [run,same₂,sepAgain,passText,Cursor.step?,next₂,sameFolded,beq_self_eq_true,if_true]
  refine rowFound third (List.append_nil c.flatten).symm fun s₃ next₃ _ => ?_
  simp [run,Anchor.holds,next₃]

/-! ## Dates -/

def unit (c : Char) : Node := .one (.single .full c.toNat)

def span (lo hi : Char) : CharSet := among [.range lo.toNat hi.toNat]

def decimal : CharSet := among [.shorthand false .digit]

def century : Node := .alt (.seq (unit '1') (unit '9')) (.seq (unit '2') (unit '0'))

def month : Node :=
  .alt (.seq (unit '0') (.one (span '1' '9'))) (.seq (unit '1') (.one (among [.char 48,.char 49,.char 50])))

def day : Node :=
  .alt (.seq (unit '0') (.one (span '1' '9')))
    (.alt (.seq (.one (among [.char 49,.char 50])) (.one (span '0' '9'))) (.seq (unit '3') (.one (among [.char 48,.char 49]))))

def hour : Node := .alt (.seq (.one (among [.char 48,.char 49])) (.one decimal)) (.seq (unit '2') (.one (span '0' '3')))

def clock : Node :=
  .group 5 (.seq (unit ' ') (.seq (.group 6 hour) (.seq (unit ':') (.seq (.one (span '0' '5')) (.seq (.one decimal)
    (.seq (unit ':') (.seq (.one (span '0' '5')) (.one decimal))))))))

def longYear (index : Nat) : List Node := [.group index century,.one decimal,.one decimal]

def ofLayout : Layout → Node
  | .iso => around (longYear 1) [.group 3 month] [.group 4 day,clock.maybe]
  | .euroLong => around [.group 1 day] [.group 3 month] (longYear 4++[clock.maybe])
  | .usLong => around [.group 1 month] [.group 3 day] (longYear 4++[clock.maybe])
  | .euroShort => around [.group 1 day] [.group 3 month] [.one decimal,.one decimal]
  | .usShort => around [.group 1 month] [.group 3 day] [.one decimal,.one decimal]

theorem datePatternRead (l : Layout) : read .caseless (Bundled.datePattern l).toList = .ok (ofLayout l) := by
  cases l <;> decide +kernel

theorem decimalHolds : ∀ d < 10, decimal.holds (digit d) = true := by decide

theorem sixtyHolds : ∀ t < 6, (span '0' '5').holds (digit t) = true := by decide

theorem monthSpells : ∀ m < 13, 1 ≤ m → month.spells (padded 2 m) = true := by decide

theorem daySpells : ∀ d < 32, 1 ≤ d → day.spells (padded 2 d) = true := by decide

theorem hourSpells : ∀ h < 24, hour.spells (padded 2 h) = true := by decide

theorem centurySpells : ∀ c < 21, 19 ≤ c → century.spells (padded 2 c) = true := by decide

section Parts
variable {kept : Nat}

theorem unitLeads (c : Char) : Leads kept (unit c) [c] := .one (by
  simp [CharSet.single,CharSet.holds,Item.holds,Text.sameLetter])

theorem decimalsLead (n : Nat) : List.Forall₂ (Leads kept) [.one decimal,.one decimal] ((padded 2 n).map fun c => [c]) :=
  .cons (.one (decimalHolds _ (Nat.mod_lt _ (by decide)))) (.cons (.one (decimalHolds _ (Nat.mod_lt _ (by decide)))) .nil)

theorem clockLeads {h m s : Nat} (hours : h < 24) (minutes : m < 60) (seconds : s < 60) (apart : 5 ≠ kept ∧ 6 ≠ kept) :
    Leads kept clock (' ' :: clockText h m s) := by
  have tens {n} (small : n < 60) : Leads kept (.one (span '0' '5')) [digit (n/10%10)] := .one (sixtyHolds _ (by omega))
  have ones (n) : Leads kept (.one decimal) [digit (n%10)] := .one (decimalHolds _ (Nat.mod_lt n (by decide)))
  have hour : Leads kept (.group 6 hour) (padded 2 h) := (spelledLeads (hourSpells h hours) rfl).group apart.2
  have seconds := (unitLeads ':').seq ((tens seconds).seq (ones s))
  exact .group apart.1 <| (unitLeads ' ').seq <| hour.seq <| (unitLeads ':').seq <| (tens minutes).seq <| (ones m).seq seconds

theorem longYearLeads {index year : Nat} (other : index ≠ kept) (early : 1900 ≤ year) (late : year ≤ 2099) :
    List.Forall₂ (Leads kept) (longYear index) (padded 2 (year/10/10) :: (padded 2 year).map fun c => [c]) :=
  .cons ((spelledLeads (centurySpells _ (by omega) (by omega)) rfl).group other) (decimalsLead year)

end Parts

def Behind (l : Layout) (rest : List Char) : Prop :=
  rest = [] ∨ l.isShort = false ∧ ∃ h m s, h < 24 ∧ m < 60 ∧ s < 60 ∧ rest = ' ' :: clockText h m s

theorem behindLeads {l : Layout} {rest : List Char} (behind : Behind l rest) : Leads 2 clock.maybe rest := by
  rcases behind with rfl | ⟨_,h,m,s,hours,minutes,seconds,rfl⟩
  · exact leadsAside
  · exact (clockLeads hours minutes seconds (by decide)).taken

theorem dateFound {l : Layout} {sep : Char} (known : sep ∈ Layout.separators) {year month day : Nat}
    (years : l.isShort = false → 1900 ≤ year ∧ year ≤ 2099) (months : 1 ≤ month ∧ month ≤ 12) (days : 1 ≤ day ∧ day ≤ 31)
    {rest : List Char} (behind : Behind l rest) : (ofLayout l).search (l.dateText sep year month day++rest) = true := by
  have month (i) (other : i ≠ 2) : Leads 2 (.group i Pattern.month) (padded 2 month) :=
    (spelledLeads (monthSpells month (by omega) months.1) rfl).group other
  have day (i) (other : i ≠ 2) : Leads 2 (.group i Pattern.day) (padded 2 day) :=
    (spelledLeads (daySpells day (by omega) days.1) rfl).group other
  have long (i) (other : i ≠ 2) (long : l.isShort = false) := longYearLeads other (years long).1 (years long).2
  have spelled : padded 4 year = (padded 2 (year/10/10) :: (padded 2 year).map fun c => [c]).flatten := rfl
  have clock := behindLeads behind
  have aside (short : l.isShort = true) : rest = [] := behind.elim id fun timed => by simp [short] at timed
  cases l with
  | iso =>
    have found := aroundFound (long 1 (by decide) rfl) (.cons (month 3 (by decide)) .nil)
      (.cons (day 4 (by decide)) (.cons clock .nil)) known
    rw [← spelled] at found
    simpa [ofLayout,Layout.dateText,Layout.written,Layout.yearText,Layout.isShort,Text.join] using found
  | euroLong =>
    have found := aroundFound (.cons (day 1 (by decide)) .nil) (.cons (month 3 (by decide)) .nil)
      (List.rel_append (long 4 (by decide) rfl) (.cons clock .nil)) known
    rw [List.flatten_append,← spelled] at found
    simpa [ofLayout,Layout.dateText,Layout.written,Layout.yearText,Layout.isShort,Text.join] using found
  | usLong =>
    have found := aroundFound (.cons (month 1 (by decide)) .nil) (.cons (day 3 (by decide)) .nil)
      (List.rel_append (long 4 (by decide) rfl) (.cons clock .nil)) known
    rw [List.flatten_append,← spelled] at found
    simpa [ofLayout,Layout.dateText,Layout.written,Layout.yearText,Layout.isShort,Text.join] using found
  | euroShort =>
    have found := aroundFound (.cons (day 1 (by decide)) .nil) (.cons (month 3 (by decide)) .nil) (decimalsLead (year%100)) known
    simpa [ofLayout,Layout.dateText,Layout.written,Layout.yearText,Layout.isShort,Text.join,aside rfl,← List.flatMap_def] using found
  | usShort =>
    have found := aroundFound (.cons (month 1 (by decide)) .nil) (.cons (day 3 (by decide)) .nil) (decimalsLead (year%100)) known
    simpa [ofLayout,Layout.dateText,Layout.written,Layout.yearText,Layout.isShort,Text.join,aside rfl,← List.flatMap_def] using found

end Pattern
end FormGuard
