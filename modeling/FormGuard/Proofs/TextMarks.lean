import FormGuard.Proofs.TextCuts

/-! How often a mark stands in a text. What is joined to a text, and what is put in the place of another mark, takes none of
them away; where a text is left as it is by a replacement, none stood there. -/
namespace FormGuard.Text

def occurrences (mark : List Char) : List Char → Nat
  | [] => 0
  | c :: cs => (if startsWith mark (c::cs) then 1 else 0)+occurrences mark cs

section Mark
variable {mark : List Char}

theorem occurrencesNext {c cs} (other : ¬ mark <+: c::cs) : occurrences mark (c::cs) = occurrences mark cs := by
  rw [← startsIff] at other
  simp [occurrences,other]

theorem occurrencesHere {c cs} (here : mark <+: c::cs) : occurrences mark (c::cs) = occurrences mark cs+1 := by
  rw [← startsIff] at here
  simp [occurrences,here,Nat.add_comm]

theorem occurrencesNone (filled : mark ≠ []) {text} : occurrences mark text = 0 ↔ ¬ mark <:+: text := by
  induction text with
  | nil => simp [occurrences,filled]
  | cons c cs ih =>
    by_cases here : mark <+: c::cs
    · simp [occurrencesHere here,here.isInfix]
    · rw [occurrencesNext here,ih,List.infix_cons_iff]
      simp [here]

theorem occurrencesBoth (a b : List Char) : occurrences mark a+occurrences mark b ≤ occurrences mark (a++b) := by
  induction a with
  | nil => simp [occurrences]
  | cons c a ih =>
    rw [List.cons_append]
    by_cases here : mark <+: c::a
    · have longer : mark <+: c::(a++b) := here.trans (List.prefix_append _ _)
      rw [occurrencesHere here,occurrencesHere longer]
      omega
    · rw [occurrencesNext here]
      exact ih.trans (by rw [occurrences]; omega)

theorem occurrencesBehind (a b : List Char) : occurrences mark b ≤ occurrences mark (a++b) :=
  (Nat.le_add_left _ _).trans (occurrencesBoth a b)

theorem replaceBehind {fresh a b : List Char} (same : occurrences mark (a++b) = occurrences mark b) :
    replaceAll mark fresh (a++b) = a++replaceAll mark fresh b := by
  induction a with
  | nil => rfl
  | cons c a ih =>
    rw [List.cons_append] at same ⊢
    have least : occurrences mark b ≤ occurrences mark (a++b) := occurrencesBehind a b
    have other : ¬ mark <+: c::(a++b) := by
      intro here
      rw [occurrencesHere here] at same
      omega
    rw [occurrencesNext other] at same
    have rest := ih same
    rw [← startsIff] at other
    simp only [replaceAll,replaceFrom,other] at rest ⊢
    simp [rest]

theorem replaceSkip (mark fresh a b : List Char) : replaceFrom mark fresh a.length (a++b) = replaceAll mark fresh b := by
  induction a with
  | nil => rfl
  | cons c a ih => simpa [replaceFrom] using ih

theorem replaceHere (filled : mark ≠ []) (fresh b : List Char) :
    replaceAll mark fresh (mark++b) = fresh++replaceAll mark fresh b := by
  cases mark with
  | nil => contradiction
  | cons c cs =>
    have here : startsWith (c::cs) (c::(cs++b)) = true := startsIff.mpr (List.prefix_append (c::cs) b)
    rw [List.cons_append,replaceAll,replaceFrom,if_pos here]
    exact congrArg (fresh++·) (replaceSkip _ _ cs b)

end Mark

/-! ## Marks that begin alike -/

section Alike
variable {c d : Char} {cs ds : List Char}

theorem prefixBefore (apart : c ∉ ds) {a b : List Char} (filled : a ≠ []) (begins : d::ds <+: a++c::b) : d::ds <+: a := by
  obtain ⟨tail,whole⟩ := begins
  rcases List.append_eq_append_iff.mp whole with ⟨more,inside,_⟩ | ⟨extra,short,next⟩
  · exact ⟨more,inside.symm⟩
  · cases extra with
    | nil => exact ⟨[],by simpa using short⟩
    | cons e extra =>
      obtain rfl : c = e := (List.cons.inj next).1
      cases a with
      | nil => contradiction
      | cons x a =>
        have inside : c ∈ ds := by
          rw [(List.cons.inj short).2]
          simp
        exact absurd inside apart

theorem occurrencesJoint (apart : c ∉ ds) (a b : List Char) :
    occurrences (d::ds) (a++c::b) = occurrences (d::ds) a+occurrences (d::ds) (c::b) := by
  induction a with
  | nil => simp [occurrences]
  | cons x a ih =>
    rw [List.cons_append]
    by_cases here : d::ds <+: x::a
    · have longer : d::ds <+: x::(a++c::b) := here.trans (List.prefix_append _ _)
      rw [occurrencesHere here,occurrencesHere longer,ih]
      omega
    · have nor : ¬ d::ds <+: x::(a++c::b) := fun begins => here (prefixBefore apart (List.cons_ne_nil x a) begins)
      rw [occurrencesNext here,occurrencesNext nor,ih]

theorem occurrencesUnled {a : List Char} (apart : d ∉ a) (b : List Char) :
    occurrences (d::ds) (a++b) = occurrences (d::ds) b := by
  induction a with
  | nil => rfl
  | cons x a ih =>
    rw [List.mem_cons,not_or] at apart
    have other : ¬ d::ds <+: x::(a++b) := fun begins => apart.1 (List.cons_prefix_cons.mp begins).1
    rw [List.cons_append,occurrencesNext other,ih apart.2]

theorem occurrencesLed (fresh : c ∉ cs) (b : List Char) :
    occurrences (c::cs) ((c::cs)++b) = occurrences (c::cs) b+1 := by
  have here : c::cs <+: c::(cs++b) := List.prefix_append (c::cs) b
  rw [List.cons_append,occurrencesHere here,occurrencesUnled fresh]

theorem occurrencesOther (fresh : c ∉ cs) (unlike : ¬ cs <+: ds ∧ ¬ ds <+: cs) (b : List Char) :
    occurrences (c::ds) ((c::cs)++b) = occurrences (c::ds) b := by
  have other : ¬ c::ds <+: c::(cs++b) := by
    intro begins
    have begins := (List.cons_prefix_cons.mp begins).2
    rcases List.prefix_or_prefix_of_prefix begins (List.prefix_append cs b) with short | long
    · exact unlike.2 short
    · exact unlike.1 long
  rw [List.cons_append,occurrencesNext other,occurrencesUnled fresh]

end Alike

namespace Distinct

theorem cut {mark : List Char} (distinct : Distinct mark) {motive : List Char → Prop}
    (none : ∀ text, ¬ mark <:+: text → motive text)
    (first : ∀ front rest, ¬ mark <:+: front → motive rest → motive (front++(mark++rest))) (text : List Char) : motive text := by
  cases found : breakOn? mark text with
  | none => exact none text (breakNone.mp found)
  | some parts =>
    obtain ⟨front,rest⟩ := parts
    obtain ⟨whole,free⟩ := distinct.breakIff.mp found
    have shorter : rest.length < text.length := by
      obtain ⟨c,cs,rfl,_⟩ := distinct
      simp only [whole,List.length_append,List.length_cons]
      omega
    rw [whole]
    exact first front rest free (cut distinct none first rest)
termination_by text.length

variable {mark : List Char}

theorem filled (distinct : Distinct mark) : mark ≠ [] := by
  obtain ⟨c,cs,rfl,_⟩ := distinct
  exact List.cons_ne_nil c cs

theorem occurrencesAround (distinct : Distinct mark) (a b : List Char) :
    occurrences mark (a++(mark++b)) = occurrences mark a+occurrences mark b+1 := by
  obtain ⟨c,cs,rfl,fresh⟩ := distinct
  rw [List.cons_append,occurrencesJoint fresh,← List.cons_append,occurrencesLed fresh]
  omega

theorem replaceFirstMark (distinct : Distinct mark) (fresh : List Char) {front : List Char} (free : ¬ mark <:+: front)
    (rest : List Char) : replaceAll mark fresh (front++(mark++rest)) = front++(fresh++replaceAll mark fresh rest) := by
  have none := (occurrencesNone distinct.filled).mpr free
  have same : occurrences mark (front++(mark++rest)) = occurrences mark (mark++rest) := by
    rw [distinct.occurrencesAround,none]
    exact (distinct.occurrencesAround [] rest).symm
  rw [replaceBehind same,replaceHere distinct.filled]

theorem countReplaced (distinct : Distinct mark) (fresh : List Char) (c : Char) (text : List Char) :
    (replaceAll mark fresh text).count c+occurrences mark text*mark.count c =
      text.count c+occurrences mark text*fresh.count c := by
  induction text using distinct.cut with
  | none text free => simp [replaceNone free,(occurrencesNone distinct.filled).mpr free]
  | first front rest free ih =>
    rw [distinct.replaceFirstMark fresh free,distinct.occurrencesAround,(occurrencesNone distinct.filled).mpr free]
    simp only [List.count_append,Nat.zero_add,Nat.add_mul,Nat.one_mul]
    omega

end Distinct

theorem occurrencesReplaced {c : Char} {cs ds : List Char} (first : c ∉ cs) (second : c ∉ ds)
    (unlike : ¬ cs <+: ds ∧ ¬ ds <+: cs) (fresh text : List Char) :
    occurrences (c::ds) text ≤ occurrences (c::ds) (replaceAll (c::cs) fresh text) := by
  have distinct : Distinct (c::cs) := ⟨c,cs,rfl,first⟩
  induction text using distinct.cut with
  | none text free => rw [replaceNone free]
  | first front rest free ih =>
    rw [distinct.replaceFirstMark fresh free,List.cons_append,occurrencesJoint second,← List.cons_append,
      occurrencesOther first unlike]
    calc occurrences (c::ds) front+occurrences (c::ds) rest
      _ ≤ occurrences (c::ds) front+occurrences (c::ds) (fresh++replaceAll (c::cs) fresh rest) :=
        Nat.add_le_add_left (ih.trans (occurrencesBehind _ _)) _
      _ ≤ occurrences (c::ds) (front++(fresh++replaceAll (c::cs) fresh rest)) := occurrencesBoth _ _

end FormGuard.Text
