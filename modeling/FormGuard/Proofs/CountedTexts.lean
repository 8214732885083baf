import FormGuard.Pattern.Reader
import FormGuard.Pattern.Template
import FormGuard.Proofs.CatalogReading
import FormGuard.Proofs.RegularPatterns
import Mathlib.Data.List.Basic

/-! Patterns that count characters. A loop over any character, tied to both ends of a text, finds the texts of a length within its
bounds, and with them those that are within the bounds but for a line break at their end. -/
namespace FormGuard.Pattern
open Text

def anyChar : Node := .group 1 (.alt (.one .exceptBreak) (.one ⟨false,[.char 13,.char 10],.full,false⟩))

def counted (least : Nat) (most : Option Nat) : Node :=
  .seq (.anchor .textStart) (.seq (.loop least most .greedy anyChar) (.anchor .lastLineEnd))

/-! ## Searching -/

theorem anyDenotes {text : List Char} : anyChar.Denotes text ↔ ∃ c, text = [c] := by
  constructor
  · rintro (⟨c,rfl,_⟩ | ⟨c,rfl,_⟩) <;> exact ⟨c,rfl⟩
  · rintro ⟨c,rfl⟩
    by_cases same : c = '\n'
    · subst same
      exact .inr ⟨_,rfl,by decide⟩
    · refine .inl ⟨c,rfl,?_⟩
      have : c.toNat ≠ 10 := fun code => same (Char.toNat_inj.mp code)
      simp [CharSet.holds,CharSet.exceptBreak,Item.holds,this]

theorem countedSearch {least : Nat} {most : Option Nat} (ordered : ∀ m, most = some m → least ≤ m) (cs : List Char) :
    (counted least most).search cs = true ↔
      Enough least most cs.length ∨ ∃ front, cs = front++['\n'] ∧ Enough least most front.length := by
  have regular : ∀ n ∈ [Node.loop least most .greedy anyChar], n.regular = true := by
    simp only [List.mem_singleton,forall_eq,Node.regular,Bool.and_eq_true,Option.all_eq_true,decide_eq_true_eq]
    exact ⟨⟨rfl,rfl⟩,ordered⟩
  have counts (text : List Char) : (inOrder [.loop least most .greedy anyChar]).Denotes text ↔ Enough least most text.length := by
    have single (x) : anyChar.Denotes x ↔ ∃ c, x = [c] ∧ True := by simp [anyDenotes]
    rw [inOrderSingle,loopCounts single]
    simp
  have found := tiedSearch regular cs
  simp only [counts] at found
  exact found

theorem countedAmiss {least : Nat} {most : Option Nat} (ordered : ∀ m, most = some m → least ≤ m) (cs : List Char) :
    ((counted least most).search cs = true ↔ Enough least most cs.length) ↔
      ¬ ∃ front, cs = front++['\n'] ∧ most = some front.length := by
  rw [countedSearch ordered]
  constructor
  · rintro counts ⟨front,rfl,full⟩
    have fits : Enough least most front.length := ⟨ordered _ full,fun m same => by
      cases full.symm.trans same
      exact Nat.le_refl _⟩
    have excess := (counts.mp (.inr ⟨front,rfl,fits⟩)).2 _ full
    rw [List.length_append] at excess
    exact absurd excess (Nat.not_succ_le_self _)
  · intro spared
    refine ⟨?_,.inl⟩
    rintro (enough | ⟨front,rfl,enough⟩)
    · exact enough
    · rw [List.length_append,List.length_singleton]
      refine ⟨Nat.le_succ_of_le enough.1,fun m same => Nat.lt_of_le_of_ne (enough.2 m same) fun full => ?_⟩
      exact spared ⟨front,rfl,full ▸ same⟩

/-! ## Reading -/

def countingFront : List Char := "^(.|[\\r\\n])\x7b".toList

def counting (bounds : List Char) : List Char := countingFront++(bounds++['\x7d','$'])

def braceEnd : List Token := [.plain '\x7d',.plain '$']

theorem frontRead (n : Nat) (rest : List Token) :
    readSequence true .caseless (n+9) (.start .caseless) [] (tokens countingFront++rest) =
      readSequence true .caseless (n+7) { Known.start .caseless with widths := [some (1,1)] }
        [.item anyChar,.anchor .textStart] (.plain '\x7b'::rest) := rfl

theorem endRead (n : Nat) (entries : List Entry) (st : Known) :
    readSequence true .caseless (n+2) st entries [.plain '$'] = .ok (chain (.anchor .lastLineEnd::entries),st,[]) := rfl

theorem tokensPlain {cs : List Char} (plain : '\\' ∉ cs) : tokens cs = cs.map .plain := by
  fun_induction tokens cs with
  | case1 => rfl
  | case2 => simp at plain
  | case3 => simp at plain
  | case4 c cs _ _ ih => simp_all

theorem tokensAround {bounds : List Char} (plain : '\\' ∉ bounds) :
    tokens (bounds++['\x7d','$']) = bounds.map .plain++braceEnd := by
  have : '\\' ∉ bounds++['\x7d','$'] := by
    intro inside
    rcases List.mem_append.mp inside with inside | inside
    · exact plain inside
    · exact absurd inside (by decide)
  rw [tokensPlain this,List.map_append]
  rfl

theorem tokensCounting {bounds : List Char} (plain : '\\' ∉ bounds) :
    tokens (counting bounds) = tokens countingFront++(bounds.map .plain++braceEnd) := by
  rw [← tokensAround plain]
  rfl

theorem countingFuel (ts : List Token) : ∃ n, readFuel (tokens countingFront++ts) = n+10 := by
  have : (tokens countingFront).length = 10 := rfl
  refine ⟨2*ts.length+12,?_⟩
  simp only [readFuel,List.length_append,this]
  omega

theorem braceRead {ts rest : List Token} {lo hi : List Char} (digits : braceDigits? ts = some (lo,hi,.plain '$'::rest))
    (st : Known) (n : Node) (entries : List Entry) :
    readPiece true .caseless st (.item n::entries) (.plain '\x7b'::ts) =
      (readBounds lo hi).map fun b =>
        .next .caseless { st with loops := true } (.loop (.loop b.1 b.2 .greedy n)::entries) (.plain '$'::rest) := by
  simp [readPiece,readPlain,digits,bind,Except.bind,readPlain.repeated,repeatLatest,Flags.caseless,Flags.none]
  cases readBounds lo hi <;> rfl

theorem countingRead {bounds lo hi : List Char} (plain : '\\' ∉ bounds)
    (digits : braceDigits? (bounds.map .plain++braceEnd) = some (lo,hi,[.plain '$'])) :
    read .caseless (counting bounds) = (readBounds lo hi).map fun b => counted b.1 b.2 := by
  obtain ⟨n,fuel⟩ := countingFuel (bounds.map .plain++braceEnd)
  rw [read]
  simp only [tokensCounting plain,fuel]
  rw [readAlternatives,frontRead,readSequence,braceRead digits]
  cases readBounds lo hi with
  | error d => rfl
  | ok b =>
    simp only [Except.map,bind,Except.bind]
    rw [endRead]
    rfl

theorem boundsOk {lo hi : List Char} {b : Nat × Option Nat} (ok : readBounds lo hi = .ok b) :
    b = (Numeral.natOf lo,if hi = [] then none else some (Numeral.natOf hi)) ∧ ∀ m, b.2 = some m → b.1 ≤ m := by
  have spelled {ds n} (ok : readCount ds = .ok n) : n = Numeral.natOf ds := by
    unfold readCount at ok
    grind
  have parts : readBounds lo hi = (if lo.isEmpty then .ok 0 else readCount lo) >>= fun least =>
      if hi.isEmpty then .ok (least,none)
      else readCount hi >>= fun most => if most < least then .error .countsReversed else .ok (least,some most) := by
    cases lo <;> rfl
  rw [parts] at ok
  obtain ⟨least,first,ok⟩ := bindOk.mp ok
  have low : least = Numeral.natOf lo := by
    cases lo with
    | nil => cases first; rfl
    | cons d ds => exact spelled first
  cases hi with
  | nil =>
    cases ok
    exact ⟨by simp [low],by simp⟩
  | cons d ds =>
    obtain ⟨most,second,ok⟩ := bindOk.mp ok
    split at ok
    · contradiction
    · rename_i ordered
      cases ok
      refine ⟨by simp [low,spelled second],?_⟩
      rintro m ⟨⟩
      omega

theorem countingNode {bounds lo hi : List Char} (plain : '\\' ∉ bounds)
    (digits : braceDigits? (bounds.map .plain++braceEnd) = some (lo,hi,[.plain '$'])) {node}
    (ok : read .caseless (counting bounds) = .ok node) :
    node = counted (Numeral.natOf lo) (if hi = [] then none else some (Numeral.natOf hi)) ∧
      ∀ m, (if hi = [] then none else some (Numeral.natOf hi)) = some m → Numeral.natOf lo ≤ m := by
  rw [countingRead plain digits] at ok
  cases bounds : readBounds lo hi with
  | error d => simp [bounds,Except.map] at ok
  | ok b =>
    obtain ⟨rfl,ordered⟩ := boundsOk bounds
    rw [bounds] at ok
    cases ok
    exact ⟨rfl,ordered⟩

/-! ## Bounds between braces -/

def Digits (cs : List Char) : Prop := ∀ c ∈ cs, Numeral.isDigit c = true

theorem Digits.lacks {cs} (digits : Digits cs) {c} (other : Numeral.isDigit c = false) : c ∉ cs :=
  fun inside => by simp [digits c inside] at other

theorem takeDigits {ds : List Char} (digits : Digits ds) {c} (other : Numeral.isDigit c = false) (ts : List Token) {n}
    (room : ds.length ≤ n) : takePlain Numeral.isDigit n (ds.map .plain++.plain c::ts) = (ds,.plain c::ts) := by
  induction ds generalizing n with
  | nil =>
    cases n with
    | zero => rfl
    | succ n => simp [takePlain,other]
  | cons d ds ih =>
    obtain ⟨n,rfl⟩ := Nat.exists_eq_add_of_le' (Nat.lt_of_lt_of_le (Nat.succ_pos _) room)
    obtain ⟨first,digits⟩ := List.forall_mem_cons.mp digits
    have rest := ih digits (Nat.le_of_succ_le_succ room)
    simp [takePlain,first,rest]

section Bounds
variable {a b : List Char}

theorem Digits.head? (digits : Digits a) (filled : a ≠ []) (ts : List Token) :
    (a.map Token.plain++ts).head? ≠ some (.plain '\x7d') := by
  cases a with
  | nil => exact absurd rfl filled
  | cons c cs =>
    intro same
    cases same
    exact absurd (digits '\x7d' (.head _)) (by decide)

theorem takeToBrace (digits : Digits a) {n} (room : a.length ≤ n) :
    takePlain Numeral.isDigit n (a.map .plain++braceEnd) = (a,braceEnd) := takeDigits digits rfl _ room

theorem braceOne (digits : Digits a) (filled : a ≠ []) :
    braceDigits? (a.map .plain++braceEnd) = some (a,a,[.plain '$']) := by
  rw [braceDigits?,if_neg (digits.head? filled _),takeToBrace digits (by simp)]
  rfl

theorem braceTwo (digits : Digits a) (filled : a ≠ []) (others : Digits b) :
    braceDigits? ((a ++ ',' :: b).map .plain++braceEnd) = some (a,b,[.plain '$']) := by
  have cut : (a ++ ',' :: b).map Token.plain++braceEnd =
      a.map .plain++.plain ','::(b.map .plain++braceEnd) := by simp
  have second : takePlain Numeral.isDigit (b.map Token.plain++braceEnd).length (b.map .plain++braceEnd) = (b,braceEnd) :=
    takeToBrace others (by simp)
  rw [cut,braceDigits?,if_neg (digits.head? filled _),takeDigits digits rfl _ (by simp)]
  generalize b.map Token.plain++braceEnd = behind at second
  simp [second,braceEnd]

theorem Digits.escaped (digits : Digits a) : escape a = a := by
  have special : ∀ c ∈ specialChars, Numeral.isDigit c = false := by simp [specialChars,Numeral.isDigit,isAsciiDigit]
  have each : ∀ c ∈ a, escapeChar c = [c] := fun c inside => by
    have : specialChars.contains c = false := by
      by_contra found
      have := special c (by simpa using found)
      simp [digits c inside] at this
    simp only [escapeChar,this,Bool.false_eq_true,if_false]
  rw [escape,List.flatMap_congr each,List.flatMap_singleton']

theorem replaceBehind {i : Nat} {fresh front rest : List Char} (free : '$' ∉ front) :
    replaceAll (placeholder i) fresh (front++rest) = front++replaceAll (placeholder i) fresh rest := by
  induction front with
  | nil => rfl
  | cons c cs ih =>
    rw [List.mem_cons,not_or] at free
    have := ih free.2
    simp_all [replaceAll,replaceFrom,placeholder,startsWith,dropLead?]

theorem filledExact (digits : Digits a) : fill (counting "$1".toList) [a] = counting a := by
  rw [fill,fillFrom,fillFrom,digits.escaped]
  rfl

theorem filledLeast (digits : Digits a) : fill (counting "$1,".toList) [a] = counting (a++[',']) := by
  rw [fill,fillFrom,fillFrom,digits.escaped]
  simp [counting]
  rfl

theorem filledMost (digits : Digits a) : fill (counting "0,$1".toList) [a] = counting ('0' :: ',' :: a) := by
  rw [fill,fillFrom,fillFrom,digits.escaped]
  rfl

theorem filledBoth (digits : Digits a) (others : Digits b) :
    fill (counting "$1,$2".toList) [a,b] = counting (a ++ ',' :: b) := by
  have front : '$' ∉ countingFront := by decide
  have first : replaceAll (placeholder 1) a (counting "$1,$2".toList) = countingFront++(a++",$2\x7d$".toList) := rfl
  rw [fill,fillFrom,fillFrom,fillFrom,digits.escaped,others.escaped,first,replaceBehind front,
    replaceBehind (digits.lacks (by decide))]
  simp only [counting,List.append_assoc]
  rfl

end Bounds

end FormGuard.Pattern
