import FormGuard.Proofs.LetterForms
import FormGuard.Proofs.TextLengths

/-! Rules that name a class of characters. A rule whose pattern is a row of regular parts, tied to both ends of the text, takes what the parts
stand for and the same before a line break at the end; which texts these are is then settled for the parts alone. -/
namespace FormGuard
open Pattern (Node Item CharSet inOrder tied)

def RuleDefinition.tiedTo (parts : List Node) (d : RuleDefinition) : Bool :=
  d.kind == .pattern && d.mostParams == 0 && parts.all Node.regular &&
    d.pattern.any fun p => (Pattern.read .caseless p.toList).toOption == some (tied parts)

theorem tiedEvaluates {d : RuleDefinition} {parts : List Node} (tied : d.tiedTo parts = true) {token : Token} {e : Descriptor}
    (gives : d.Gives token e) (t : Translator) (strict : Bool) {ctx : FieldContext} (enabled : ctx.isDisabled = false) {s : String}
    (filled : s ≠ "") : ∃ r, evaluate t strict e (.text s) ctx = .ok r ∧
      (r.valid = true ↔ (inOrder parts).Denotes s.toList ∨ ∃ front, s.toList = front++['\n'] ∧ (inOrder parts).Denotes front) := by
  simp only [RuleDefinition.tiedTo,Bool.and_eq_true,beq_iff_eq,List.all_eq_true,Option.any_eq_true] at tied
  obtain ⟨⟨⟨kind,most⟩,regular⟩,p,given,read⟩ := tied
  have none : e.params = [] := by
    have few := gives.most
    rw [most] at few
    exact List.length_eq_zero_iff.mp (by omega)
  have same : e.pattern = some p := by
    rw [gives.pattern,none,RuleDefinition.buildPattern,given]
    exact congrArg some (String.ofList_toList)
  obtain ⟨r,judged,verdict⟩ := textEvaluates (gives.kind.trans kind) same (answered read) t strict enabled filled
  exact ⟨r,judged,by rw [verdict,Pattern.tiedSearch regular]⟩

theorem Catalog.tiedVerdict {c : Catalog} (same : SameBook bundled c) (remembers : c.Remembers) {rules p}
    (read : (c.parse rules).1 = .ok p) {d} (inside : d ∈ p.descriptors) {name : String} (named : d.ruleName = name)
    (plain : name ≠ customRule) (parts : List Node)
    (fits : ∀ e ∈ Bundled.catalogRules, (RuleDefinition.ofEntry e.1 e.2).toOption.all (fun d => d.name != name || d.tiedTo parts) = true)
    (t : Translator) (strict : Bool) {ctx : FieldContext} (enabled : ctx.isDisabled = false) {s : String} (filled : s ≠ "") :
    ∃ r, evaluate t strict d (.text s) ctx = .ok r ∧
      (r.valid = true ↔ (inOrder parts).Denotes s.toList ∨ ∃ front, s.toList = front++['\n'] ∧ (inOrder parts).Denotes front) := by
  obtain ⟨token,rule,found,described⟩ := parsedEach remembers read d inside
  have ruled : rule.name = name := (describedRule described).1.symm.trans named
  have tied : rule.tiedTo parts = true := by
    have := bundledEach (fun d => d.name != name || d.tiedTo parts) fits same found
    simpa [ruled] using this
  exact tiedEvaluates tied (describedGives described (ruled ▸ plain)) t strict enabled filled

theorem breakDeparts {stands : List Char → Prop} (unbroken : ∀ front, ¬ stands (front++['\n'])) {text : List Char} {passes : Prop}
    (verdict : passes ↔ stands text ∨ ∃ front, text = front++['\n'] ∧ stands front) :
    (passes ↔ stands text) ↔ ¬ ∃ front, text = front++['\n'] ∧ stands front := by
  rw [verdict]
  constructor
  · rintro agrees ⟨front,rfl,stood⟩
    exact unbroken front (agrees.mp (.inr ⟨front,rfl,stood⟩))
  · exact fun spared => or_iff_left spared

inductive CharacterClass where
  | alpha
  | alphaNum
  | alphaDash
  | integer
  | integerSigned
  deriving DecidableEq, Repr

namespace CharacterClass

def rule : CharacterClass → String
  | alpha => "alpha"
  | alphaNum => "alpha_num"
  | alphaDash => "alpha_dash"
  | integer => "integer"
  | integerSigned => "integer_signed"

def Holds (k : CharacterClass) (c : Char) : Prop :=
  match k with
  | alpha => Text.isWord c.toNat = true ∧ Text.isDigit c.toNat = false ∧ c ≠ '_'
  | alphaNum => Text.isWord c.toNat = true ∧ c ≠ '_'
  | alphaDash => Text.isWord c.toNat = true ∨ c = '-'
  | integer | integerSigned => Text.isDigit c.toNat = true

instance (k : CharacterClass) (c : Char) : Decidable (k.Holds c) :=
  match k with
  | alpha => inferInstanceAs (Decidable (_ ∧ _ ∧ _))
  | alphaNum => inferInstanceAs (Decidable (_ ∧ _))
  | alphaDash => inferInstanceAs (Decidable (_ ∨ _))
  | integer | integerSigned => inferInstanceAs (Decidable (_ = _))

def Sign (k : CharacterClass) (cs : List Char) : Prop :=
  cs = [] ∨ k = integerSigned ∧ (cs = ['-'] ∨ cs = ['+'])

def Whole (k : CharacterClass) (text : List Char) : Prop :=
  ∃ sign body, text = sign++body ∧ k.Sign sign ∧ body ≠ [] ∧ ∀ c ∈ body, k.Holds c

def set : CharacterClass → CharSet
  | alpha => ⟨true,[.shorthand true .word,.shorthand false .digit,.char 95],.full,false⟩
  | alphaNum => ⟨true,[.shorthand true .word,.char 95],.full,false⟩
  | alphaDash => ⟨false,[.shorthand false .word,.char 45],.full,false⟩
  | integer | integerSigned => ⟨false,[.shorthand false .digit],.full,false⟩

def signs : CharSet := ⟨false,[.char 45,.char 43],.full,false⟩

def parts (k : CharacterClass) : List Node :=
  let body := .loop 1 none .greedy (.one k.set)
  match k with
  | integerSigned => [.loop 0 (some 1) .greedy (.one signs),body]
  | _ => [body]

theorem charStands {m : Nat} (plain : m < 65 ∨ 90 < m ∧ m < 97) {c d : Char} (code : d.toNat = m) :
    Item.holds .full false c.toNat (.char m) = decide (c = d) := by
  rw [Bool.eq_iff_iff,Pattern.charAlone plain false,← code,Char.toNat_inj,decide_eq_true_iff]

theorem shorthandStands {c : Char} {negated s} :
    Item.holds .full false c.toNat (.shorthand negated s) = (s.holds false c.toNat != negated) := rfl

theorem setHolds {k : CharacterClass} {c : Char} : k.set.holds c = true ↔ k.Holds c := by
  have underscore := charStands (m := 95) (by decide) (c := c) (d := '_') rfl
  have hyphen := charStands (m := 45) (by decide) (c := c) (d := '-') rfl
  cases k
  case alphaDash => simp [set,Holds,CharSet.holds,shorthandStands,Pattern.Shorthand.holds,hyphen]
  all_goals simp [set,Holds,CharSet.holds,shorthandStands,Pattern.Shorthand.holds,underscore]

theorem signsHold {c : Char} : signs.holds c = true ↔ c = '-' ∨ c = '+' := by
  have hyphen := charStands (m := 45) (by decide) (c := c) (d := '-') rfl
  have plus := charStands (m := 43) (by decide) (c := c) (d := '+') rfl
  simp [signs,CharSet.holds,hyphen,plus]

theorem bodyDenotes {k : CharacterClass} {text : List Char} :
    (Node.loop 1 none .greedy (.one k.set)).Denotes text ↔ text ≠ [] ∧ ∀ c ∈ text, k.Holds c := by
  have single (x) : (Node.one k.set).Denotes x ↔ ∃ c, x = [c] ∧ k.Holds c := by simp only [Node.Denotes,setHolds]
  rw [Pattern.loopCounts single]
  simp [Pattern.Enough,Nat.one_le_iff_ne_zero]

theorem signDenotes {text : List Char} : (Node.loop 0 (some 1) .greedy (.one signs)).Denotes text ↔ integerSigned.Sign text := by
  have single (x) : (Node.one signs).Denotes x ↔ ∃ c, x = [c] ∧ (c = '-' ∨ c = '+') := by simp only [Node.Denotes,signsHold]
  rw [Pattern.loopCounts single]
  rcases text with _ | ⟨c,_ | ⟨d,cs⟩⟩ <;> simp [Pattern.Enough,Sign]

theorem partsDenote {k : CharacterClass} {text : List Char} : (inOrder k.parts).Denotes text ↔ k.Whole text := by
  have alone (unsigned : k ≠ integerSigned) : k.Whole text ↔ text ≠ [] ∧ ∀ c ∈ text, k.Holds c := by
    simp [Whole,Sign,unsigned]
  cases k
  case integerSigned =>
    change (∃ sign rest, text = sign++rest ∧ _ ∧ (inOrder _).Denotes rest) ↔ _
    simp only [Pattern.inOrderSingle,signDenotes,bodyDenotes]
    rfl
  all_goals
    rw [alone (by decide)]
    exact Pattern.inOrderSingle.trans bodyDenotes

theorem wholeUnsigned {k : CharacterClass} {text : List Char} (filled : text ≠ []) (each : text.all (k.Holds ·) = true) : k.Whole text :=
  ⟨[],text,rfl,.inl rfl,filled,by simpa using each⟩

theorem breakOutside (k : CharacterClass) : ¬ k.Holds '\n' := by
  cases k <;> decide

theorem wholeUnbroken (k : CharacterClass) (front : List Char) : ¬ k.Whole (front++['\n']) := by
  rintro ⟨sign,body,same,_,filled,each⟩
  have last : body.getLast filled = '\n' := by
    have := congrArg List.getLast? same
    rw [List.getLast?_append_of_ne_nil _ filled,List.getLast?_eq_some_getLast filled] at this
    simpa using this.symm
  exact breakOutside k (last ▸ each _ (List.getLast_mem filled))

end CharacterClass

/-! ## Verdicts -/

namespace Catalog

theorem classTaken {c : Catalog} (same : SameBook bundled c) (remembers : c.Remembers) {rules p}
    (read : (c.parse rules).1 = .ok p) {d} (inside : d ∈ p.descriptors) {k : CharacterClass} (named : d.ruleName = k.rule)
    (t : Translator) (strict : Bool) {ctx : FieldContext} (enabled : ctx.isDisabled = false) {s : String} (filled : s ≠ "") :
    ∃ r, evaluate t strict d (.text s) ctx = .ok r ∧
      (r.valid = true ↔ k.Whole s.toList ∨ ∃ front, s.toList = front++['\n'] ∧ k.Whole front) := by
  have fits : ∀ e ∈ Bundled.catalogRules, (RuleDefinition.ofEntry e.1 e.2).toOption.all
      (fun d => d.name != k.rule || d.tiedTo k.parts) = true := by
    cases k <;> decide
  obtain ⟨r,judged,verdict⟩ := tiedVerdict same remembers read inside named (by cases k <;> decide) k.parts fits t strict enabled filled
  simp only [CharacterClass.partsDenote] at verdict
  exact ⟨r,judged,verdict⟩

/-- A text passes if it is whole, and also if it is whole but for a line break that ends it; only there does the verdict depart from
what the characters are. -/
theorem classVerdict {c : Catalog} (same : SameBook bundled c) (remembers : c.Remembers) {rules p}
    (read : (c.parse rules).1 = .ok p) {d} (inside : d ∈ p.descriptors) {k : CharacterClass} (named : d.ruleName = k.rule)
    (t : Translator) (strict : Bool) {ctx : FieldContext} (enabled : ctx.isDisabled = false) {s : String} (filled : s ≠ "") :
    ∃ r, evaluate t strict d (.text s) ctx = .ok r ∧
      (r.valid = true ↔ k.Whole s.toList ∨ ∃ front, s.toList = front++['\n'] ∧ k.Whole front) ∧
      ((r.valid = true ↔ k.Whole s.toList) ↔ ¬ ∃ front, s.toList = front++['\n'] ∧ k.Whole front) := by
  obtain ⟨r,judged,verdict⟩ := classTaken same remembers read inside named t strict enabled filled
  exact ⟨r,judged,verdict,breakDeparts k.wholeUnbroken verdict⟩

/-! Rules that stand alone, over the bundled catalog. -/

theorem soleRead (rules name : String)
    (read : (bundled.parse rules).1.toOption.map (fun p => p.descriptors.map (·.ruleName)) = some [name]) :
    ∃ p d, (bundled.parse rules).1 = .ok p ∧ d ∈ p.descriptors ∧ d.ruleName = name := by
  obtain ⟨p,read,each⟩ := Option.map_eq_some_iff.mp read
  obtain ⟨d,single,named⟩ := List.map_eq_singleton_iff.mp each
  exact ⟨p,d,answered read,by simp [single],named⟩

theorem lettersRead : ∃ p d, (bundled.parse "alpha").1 = .ok p ∧ d ∈ p.descriptors ∧ d.ruleName = CharacterClass.alpha.rule :=
  soleRead "alpha" "alpha" (by decide)

theorem accentedName : ∃ p d r, (bundled.parse "alpha").1 = .ok p ∧ d ∈ p.descriptors ∧
    evaluate untranslated false d (.text "Zoë") enabled = .ok r ∧ r.valid = true := by
  obtain ⟨p,d,read,inside,named⟩ := lettersRead
  obtain ⟨r,judged,verdict,_⟩ := classVerdict (.refl _) bundledChecked.remembers read inside
    named untranslated false (show enabled.isDisabled = false from rfl) (s := "Zoë") (by decide)
  exact ⟨p,d,r,read,inside,judged,verdict.mpr (.inl (CharacterClass.wholeUnsigned (by decide) (by decide +kernel)))⟩

theorem lastBreakTaken : ∃ p d r, (bundled.parse "alpha").1 = .ok p ∧ d ∈ p.descriptors ∧
    d.ruleName = CharacterClass.alpha.rule ∧ evaluate untranslated false d (.text "abc\n") enabled = .ok r ∧
    r.valid = true ∧ ¬ CharacterClass.alpha.Whole "abc\n".toList := by
  obtain ⟨p,d,read,inside,named⟩ := lettersRead
  obtain ⟨r,judged,verdict⟩ := classTaken (.refl _) bundledChecked.remembers read inside
    named untranslated false (show enabled.isDisabled = false from rfl) (s := "abc\n") (by decide)
  have whole : CharacterClass.alpha.Whole "abc".toList := CharacterClass.wholeUnsigned (by decide) (by decide)
  exact ⟨p,d,r,read,inside,named,judged,verdict.mpr (.inr ⟨_,rfl,whole⟩),CharacterClass.alpha.wholeUnbroken "abc".toList⟩

end Catalog
end FormGuard
