import FormGuard.Check.Evaluation
import FormGuard.Proofs.EscapedTexts
import FormGuard.Proofs.TemplatePlaces

/-! When the parameters of a pattern are literal. They are put into the template's own places only, as long as none of them, with
the text before it, looks like the place of a later one; what is put there matches its own characters. -/
namespace FormGuard
open Text

namespace Pattern

def inPlaces (template : List Char) (params : List (List Char)) : List Char := written params (slots params.length template)

/-- With the parameters before one put in, its place stands where the template has none. -/
def Forges (template : List Char) (params : List (List Char)) : Prop :=
  ∃ k, k < params.length ∧ (slots params.length template).count (.place k) <
    occurrences (placeholder (k+1)) (written (params.take k) (slots params.length template))

instance (template params) : Decidable (Forges template params) :=
  inferInstanceAs (Decidable (∃ k, k < params.length ∧ (slots params.length template).count (.place k) <
    occurrences (placeholder (k+1)) (written (params.take k) (slots params.length template))))

theorem filledLiteral (template : List Char) (params : List (List Char)) :
    fill template params = inPlaces template params ↔ ¬ Forges template params := by
  have small : ∀ i, .place i ∈ slots params.length template → i < 9 := fun _ => placesSmall
  have whole := filledIff small params []
  rw [slots,unwritten,← slots,List.drop_zero,List.nil_append,List.length_nil] at whole
  rw [fill,inPlaces,whole]
  have least {k} (inside : k < params.length) : (slots params.length template).count (.place k) ≤
      occurrences (placeholder (k+1)) (written (params.take k) (slots params.length template)) :=
    placesStand (by rw [List.length_take]; omega) _
  constructor
  · rintro own ⟨k,inside,more⟩
    have same := own k (Nat.zero_le k) inside
    omega
  · intro clean k _ inside
    have stand := least inside
    have most : ¬ _ := fun more => clean ⟨k,inside,more⟩
    omega

/-! ## Parameters without a dollar -/

theorem escapeUndollared {p : List Char} (free : '$' ∉ p) : '$' ∉ escape p := by
  intro inside
  obtain ⟨c,member,here⟩ := List.mem_flatMap.mp inside
  have other : c ≠ '$' := fun same => free (same ▸ member)
  unfold escapeChar at here
  split at here <;> simp [Ne.symm other] at here

theorem dollarAlone {n k : Nat} (low : k < n) {cs : List Char} (none : placeAt? n ('$'::cs) = none) {before : List (List Char)}
    (clear : before = [] ∨ ¬ ['$'] <+: cs) : ¬ placeholder (k+1) <+: '$'::written before (slotsFrom n 0 cs) := by
  have nowhere {d} (small : d < n) : ¬ Nat.toDigits 10 (d+1) <+: cs := by
    intro begins
    have absent := List.find?_range_eq_none.mp none d small
    have here : placeholder (d+1) <+: '$'::cs := List.cons_prefix_cons.mpr ⟨rfl,begins⟩
    simp [startsIff.mpr here] at absent
  intro begins
  have digits := (List.cons_prefix_cons.mp begins).2
  rcases clear with rfl | single
  · rw [unwritten] at digits
    exact nowhere low digits
  · obtain ⟨d,digit,least,first⟩ := firstDigit (n := k+1) (by omega)
    have first := first.trans digits
    rw [Nat.toDigits_of_lt_base (by omega)] at first
    cases cs with
    | nil => simp [slotsFrom,written] at first
    | cons c cs =>
      have other : c ≠ '$' := by
        rintro rfl
        exact single ⟨cs,rfl⟩
      have plain : placeAt? n (c::cs) = Option.none :=
        List.find?_eq_none.mpr fun i _ here => other (List.cons_prefix_cons.mp (startsIff.mp here)).1.symm
      rw [slotsFrom,plain] at first
      have same := (List.cons_prefix_cons.mp first).1
      have here := nowhere (d := d) (by omega)
      rw [Nat.toDigits_of_lt_base (by omega),same] at here
      exact here ⟨cs,rfl⟩

theorem placeOther {i : Nat} (small : i < 9) {before : List (List Char)} (other : i ≠ before.length) (free : ∀ p ∈ before, '$' ∉ p)
    (rest : List Char) : occurrences (placeholder (before.length+1)) ((Slot.place i).filled before++rest) =
      occurrences (placeholder (before.length+1)) rest := by
  by_cases ahead : before.length ≤ i
  · have unlike := digitsApart (i := i) (j := before.length) small (by omega) other
    have unlike' := digitsApart (i := before.length) (j := i) (by omega) small (Ne.symm other)
    rw [filledOpen ahead]
    exact occurrencesOther (digitsFree _) ⟨unlike,unlike'⟩ _
  · have inside : i < before.length := by omega
    have text : (Slot.place i).filled before = escape before[i] := by
      simp [Slot.filled,List.getElem?_eq_getElem inside]
    rw [text]
    exact occurrencesUnled (escapeUndollared (free _ (List.getElem_mem inside))) _

theorem ownPlaces {n skip : Nat} {before : List (List Char)} (low : before.length < n) (free : ∀ p ∈ before, '$' ∉ p) {cs : List Char}
    (apart : before = [] ∨ ¬ ['$','$'] <:+: cs) :
    occurrences (placeholder (before.length+1)) (written before (slotsFrom n skip cs)) =
      (slotsFrom n skip cs).count (.place before.length) := by
  induction cs generalizing skip with
  | nil => cases skip <;> rfl
  | cons c cs ih =>
    have rest := fun skip => @ih skip (apart.imp_right fun free inside => free (List.infix_cons inside))
    cases skip with
    | succ skip => exact rest skip
    | zero =>
      rw [slotsFrom]
      split
      · rename_i i found
        rw [writtenCons]
        by_cases here : i = before.length
        · subst here
          rw [filledOpen (Nat.le_refl _),placeholder,occurrencesLed (digitsFree _),List.count_cons_self,← placeholder,rest]
        · have other : Slot.place i ≠ .place before.length := by simpa using here
          rw [List.count_cons_of_ne other,← rest,placeOther (placeSmall found) here free]
      · rename_i none
        have other : Slot.plain c ≠ .place before.length := by simp
        have begins : ¬ placeholder (before.length+1) <+: c::written before (slotsFrom n 0 cs) := by
          by_cases dollar : c = '$'
          · subst dollar
            exact dollarAlone low none (apart.imp_right fun free first => free (List.cons_prefix_cons.mpr ⟨rfl,first⟩).isInfix)
          · intro begins
            exact dollar (List.cons_prefix_cons.mp begins).1.symm
        have first : (Slot.plain c).filled before = [c] := rfl
        rw [writtenCons,List.count_cons_of_ne other,first,List.singleton_append,occurrencesNext begins,rest]

theorem dollarless {template : List Char} {params : List (List Char)} (apart : ¬ ['$','$'] <:+: template)
    (free : ∀ p ∈ params.dropLast, '$' ∉ p) : ¬ Forges template params := by
  rintro ⟨k,inside,more⟩
  have length : (params.take k).length = k := by
    rw [List.length_take]
    omega
  have clean : ∀ p ∈ params.take k, '$' ∉ p := by
    intro p member
    have early : params.take k <+: params.dropLast := by
      rw [List.dropLast_eq_take]
      exact List.take_prefix_take_left (by omega)
    exact free p (early.subset member)
  have own : occurrences (placeholder (k+1)) (written (params.take k) (slotsFrom params.length 0 template)) =
      (slotsFrom params.length 0 template).count (.place k) := by
    have places := @ownPlaces params.length 0 _ (length.trans_lt inside) clean _ (.inr apart)
    rwa [length] at places
  rw [slots,own] at more
  exact Nat.lt_irrefl _ more

theorem singleFilled {template : List Char} {params : List (List Char)} (few : params.length ≤ 1) : ¬ Forges template params := by
  rintro ⟨k,inside,more⟩
  obtain rfl : k = 0 := by omega
  have own := @ownPlaces params.length 0 [] inside nofun template (.inl rfl)
  rw [List.take_zero,slots] at more
  rw [List.length_nil] at own
  omega

end Pattern

open Pattern

def SpelledLike : List Char → List Char → Prop := List.Forall₂ fun c d => sameLetter d.toNat c.toNat = true

theorem escapedSearch (param text : String) : ∃ found, searchIn (String.ofList (escape param.toList)) text = .ok found ∧
    (found = true ↔ ∃ w, w <:+: text.toList ∧ SpelledLike param.toList w) := by
  have read := escapedRead .caseless (.inl rfl) param.toList
  have stands (c d : Char) : StandsFor Flags.caseless.folding c d ↔ sameLetter d.toNat c.toNat = true := by
    simp [StandsFor,Flags.folding,Flags.caseless,Flags.none,CharSet.single,CharSet.holds,Item.holds]
  have search := spelledSearch .caseless param.toList text.toList
  rw [funext fun c => funext fun d => propext (stands c d)] at search
  rw [searchIn,String.toList_ofList,read]
  exact ⟨_,rfl,search⟩

namespace RuleDefinition

def patternInPlaces (d : RuleDefinition) (params : List String) : Option String :=
  d.pattern.map fun t => String.ofList (inPlaces t.toList (params.map String.toList))

theorem builtInPlaces (d : RuleDefinition) (params : List String) :
    d.buildPattern params = d.patternInPlaces params ↔ ∀ t, d.pattern = some t → ¬ Forges t.toList (params.map String.toList) := by
  unfold buildPattern patternInPlaces
  cases d.pattern with
  | none => simp
  | some t => simp [String.ofList_inj,filledLiteral]

/-- A pattern has its parameters in its own places and is otherwise the template exactly if none of them forges a place. A single
one never does, and without `$` before the last one none does, where the template has no `$$`. What a parameter is put in as is
found exactly where its own characters stand, whichever they are. -/
theorem literalParams (d : RuleDefinition) (params : List String) :
    (d.buildPattern params = d.patternInPlaces params ↔
      ∀ t, d.pattern = some t → ¬ Forges t.toList (params.map String.toList)) ∧
    (params.length ≤ 1 ∨ (∀ t, d.pattern = some t → ¬ ['$','$'] <:+: t.toList) ∧ (∀ p ∈ params.dropLast, '$' ∉ p.toList) →
      d.buildPattern params = d.patternInPlaces params) ∧
    ∀ param ∈ params, ∀ text, ∃ found, searchIn (String.ofList (escape param.toList)) text = .ok found ∧
      (found = true ↔ ∃ w, w <:+: text.toList ∧ SpelledLike param.toList w) := by
  have iff := d.builtInPlaces params
  refine ⟨iff,fun clean => iff.mpr fun t given => ?_,fun param _ => escapedSearch param⟩
  rcases clean with few | ⟨apart,free⟩
  · exact singleFilled (by rwa [List.length_map])
  · have free' : ∀ p ∈ (params.map String.toList).dropLast, '$' ∉ p := by
      intro p member
      rw [← List.map_dropLast] at member
      obtain ⟨q,inside,rfl⟩ := List.mem_map.mp member
      exact free q inside
    exact dollarless (apart t given) free'

def pairRule : RuleDefinition := ⟨"pair",.pattern,"NO_PAIR",some "^$1-$2$",.absent,none,2,2,.free "text"⟩

theorem dollarInLastParam : pairRule.buildPattern ["a.","$2"] = some "^a\\.-\\$2$" :=
  ((pairRule.literalParams ["a.","$2"]).2.1 (.inr (by decide +kernel))).trans (by decide +kernel)

/-- The first text brings the place of the second. -/
theorem placeForged : Forges "^$1-$2$".toList ["$2".toList,"a".toList] ∧
    pairRule.patternInPlaces ["$2","a"] = some "^\\$2-a$" ∧ pairRule.buildPattern ["$2","a"] = some "^\\a-a$" ∧
    ¬ ∀ (d : RuleDefinition) (params : List String), d.buildPattern params = d.patternInPlaces params := by
  have own : pairRule.patternInPlaces ["$2","a"] = some "^\\$2-a$" := by decide +kernel
  have built : pairRule.buildPattern ["$2","a"] = some "^\\a-a$" := by decide +kernel
  refine ⟨by decide +kernel,own,built,fun every => ?_⟩
  have same := every pairRule ["$2","a"]
  rw [own,built] at same
  exact absurd same (by decide +kernel)

end RuleDefinition
end FormGuard
