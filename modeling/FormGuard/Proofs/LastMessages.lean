import FormGuard.Message.English
import FormGuard.Proofs.BundledCatalog
import FormGuard.Proofs.FieldVerdict
import FormGuard.Proofs.SoundRules

/-! Which message is left where only the last one is kept. The last rule that speaks has the last word, unless it only repeats
the keyboard message: then the last rule that does not repeat it has. -/
namespace FormGuard
open Text

namespace RuleResult

def speaks (r : RuleResult) : Bool := !r.valid && r.message != ""

def keyboard (r : RuleResult) : Bool := r.messageKey == keyCharMessage

end RuleResult

def heard : (given : Bool) → List RuleResult → List RuleResult
  | _,[] => []
  | given,r :: rs => if r.keyboard && given then heard given rs else r :: heard (given || r.keyboard) rs

/-- It speaks after the keyboard message was given, and only repetitions of this come behind it. -/
def DrownedIn (spoken : List RuleResult) (r : RuleResult) : Prop :=
  r.keyboard = false ∧ ∃ before echoes, spoken = before++r::echoes ∧ before.any RuleResult.keyboard = true ∧
    echoes ≠ [] ∧ echoes.all RuleResult.keyboard = true

theorem heardAppend (given : Bool) (rs ss : List RuleResult) :
    heard given (rs++ss) = heard given rs++heard (given || rs.any RuleResult.keyboard) ss := by
  induction rs generalizing given with
  | nil => simp [heard]
  | cons r rs ih =>
    cases given <;> cases key : r.keyboard <;> simp [heard,key,ih]

theorem heardEchoes {echoes : List RuleResult} (typed : echoes.all RuleResult.keyboard = true) : heard true echoes = [] := by
  induction echoes with
  | nil => rfl
  | cons r echoes ih =>
    simp only [List.all_cons,Bool.and_eq_true] at typed
    simp [heard,typed.1,ih typed.2]

theorem drownedHeard {spoken : List RuleResult} {r} (drowned : DrownedIn spoken r) : (heard false spoken).getLast? = some r := by
  obtain ⟨plain,before,echoes,rfl,given,_,typed⟩ := drowned
  simp [heardAppend,given,heard,plain,heardEchoes typed]

theorem beforeEchoes (rs : List RuleResult) (given : rs.any RuleResult.keyboard = true) {echoes : List RuleResult} (filled : echoes ≠ [])
    (typed : echoes.all RuleResult.keyboard = true) :
    (∃ r, DrownedIn (rs++echoes) r) ∨ ∃ k ∈ rs, k.keyboard = true ∧ (heard false rs).getLast? = some k := by
  induction rs using List.reverseRecOn generalizing echoes with
  | nil => simp at given
  | append_singleton rs r ih =>
    simp only [List.any_append,List.any_cons,List.any_nil,Bool.or_false,Bool.or_eq_true] at given
    cases key : r.keyboard with
    | false =>
      have given : rs.any RuleResult.keyboard = true := given.resolve_right (by simp [key])
      exact .inl ⟨r,key,rs,echoes,by simp,given,filled,typed⟩
    | true =>
      cases before : rs.any RuleResult.keyboard with
      | false => exact .inr ⟨r,by simp,key,by simp [heardAppend,heard,before]⟩
      | true =>
        have typed : (r::echoes).all RuleResult.keyboard = true := by simp [key,typed]
        rcases ih before (List.cons_ne_nil r echoes) typed with ⟨s,drowned⟩ | ⟨k,inside,keyed,last⟩
        · exact .inl ⟨s,by simpa using drowned⟩
        · exact .inr ⟨k,List.mem_append_left _ inside,keyed,by simpa [heardAppend,heard,before,key] using last⟩

theorem lastHeard {rs : List RuleResult} {text : String} (one : ∀ r ∈ rs, r.keyboard = true → r.message = text)
    (clear : ∀ r, ¬ DrownedIn rs r) : (heard false rs).getLast?.map RuleResult.message = rs.getLast?.map RuleResult.message := by
  rcases List.eq_nil_or_concat' rs with rfl | ⟨rs,r,rfl⟩
  · rfl
  · by_cases echo : r.keyboard = true ∧ rs.any RuleResult.keyboard = true
    · rcases beforeEchoes rs echo.2 (List.cons_ne_nil r []) (by simp [echo.1]) with ⟨s,drowned⟩ | ⟨k,inside,keyed,last⟩
      · exact absurd drowned (clear s)
      · have same := (one k (List.mem_append_left _ inside) keyed).trans (one r (by simp) echo.1).symm
        simp [heardAppend,heard,echo,last,same]
    · have new : (r.keyboard && rs.any RuleResult.keyboard) = false := by simpa using echo
      simp [heardAppend,heard,new]

/-! ## Texts -/

theorem joinedHeard (rs : List RuleResult) (text : List Char) (given : Bool) : (rs.foldl (joinMessage true) (text,given)).1 =
    (heard given (rs.filter RuleResult.speaks)).getLast?.elim text fun r => ' '::r.message.toList := by
  induction rs generalizing text given with
  | nil => rfl
  | cons r rs ih =>
    rw [List.foldl_cons,List.filter_cons]
    have silent : (r.valid || r.message == "") = !r.speaks := by simp [RuleResult.speaks,bne]
    cases speaks : r.speaks with
    | false =>
      have same : joinMessage true (text,given) r = (text,given) := by simp [joinMessage,silent,speaks]
      simp [same,ih]
    | true =>
      cases echo : r.keyboard && given with
      | true =>
        have repeats : (r.messageKey == keyCharMessage && given) = true := echo
        have same : joinMessage true (text,given) r = (text,given) := by simp [joinMessage,silent,speaks,repeats]
        simp [same,ih,heard,echo]
      | false =>
        have fresh : (r.messageKey == keyCharMessage && given) = false := echo
        have next : joinMessage true (text,given) r = (' '::r.message.toList,given || r.keyboard) := by
          cases text <;> simp [joinMessage,silent,speaks,fresh,RuleResult.keyboard]
        rw [next,ih]
        simp only [if_true,heard,echo,Bool.false_eq_true,if_false,List.getLast?_cons,Option.elim_some]
        cases (heard (given || r.keyboard) (rs.filter RuleResult.speaks)).getLast? <;> rfl

theorem stripLead (cs : List Char) : strip (' '::cs) = strip cs := by
  have first : dropBlanks (' '::cs) = dropBlanks cs := List.dropWhile_cons_of_pos (by decide)
  rw [strip,first,← strip]

namespace FieldOutcome

def spoken (o : FieldOutcome) : List RuleResult := o.results.filter RuleResult.speaks

def Drowns (o : FieldOutcome) (r : RuleResult) : Prop := DrownedIn o.spoken r

def tells (o : FieldOutcome) (r : Option RuleResult) : String :=
  let text := strip ((r.map RuleResult.message).elim [] String.toList)
  if text = [] then failedKeys o.results else String.ofList text

end FieldOutcome

section Evaluation
variable {t : Translator} {strict : Bool} {d : Descriptor} {p : Pipeline} {v : Value} {ctx : FieldContext} {r : RuleResult}
  {o : FieldOutcome}

theorem evaluatedFor (ok : evaluate t strict d v ctx = .ok r) : r.descriptor = d ∧
    r.messageKey = (if d.isKeyEntry v ctx then keyCharMessage else d.messageKey) ∧
    (r.valid = false → r.keyboard = true → r.message = t.textOr keyCharMessage "") := by
  unfold evaluate at ok
  dsimp only at ok
  split at ok
  · contradiction
  · split at ok <;> cases ok
    · exact ⟨rfl,rfl,nofun⟩
    · exact ⟨rfl,rfl,fun _ keyed => if_pos (by simpa [RuleResult.keyboard] using keyed)⟩

theorem evaluatedOrder {ds rs} (each : List.Forall₂ (fun d r => evaluate t strict d v ctx = .ok r) ds rs) :
    rs.map RuleResult.descriptor = ds := by
  induction each with
  | nil => rfl
  | cons first _ ih => rw [List.map_cons,(evaluatedFor first).1,ih]

theorem keyboardOne (ok : evaluateField t strict true p v ctx = .ok o) :
    ∀ r ∈ o.spoken, r.keyboard = true → r.message = t.textOr keyCharMessage "" := by
  intro r member keyed
  obtain ⟨inside,speaks⟩ := List.mem_filter.mp member
  obtain ⟨d,_,evaluated⟩ := evaluatedFrom (outcomeEach ok).2 r inside
  have failed : r.valid = false := by simpa using (Bool.and_eq_true_iff.mp speaks).1
  exact (evaluatedFor evaluated).2.2 failed keyed

theorem lastTold (ok : evaluateField t strict true p v ctx = .ok o) (bad : o.valid = false) :
    o.message = o.tells (heard false o.spoken).getLast? := by
  have made := (outcomeEach ok).1
  have joined : joinMessages true o.results =
      String.ofList (strip (((heard false o.spoken).getLast?.map RuleResult.message).elim [] String.toList)) := by
    rw [joinMessages,joinedHeard,← FieldOutcome.spoken]
    cases (heard false o.spoken).getLast? with
    | none => rfl
    | some r => rw [Option.elim_some,Option.map_some,Option.elim_some,stripLead]
  have message : o.message = if !o.valid && joinMessages true o.results == "" then failedKeys o.results else
      joinMessages true o.results := by
    rw [made]
    rfl
  rw [message,joined,bad]
  simp [FieldOutcome.tells]

theorem keyboardSpared (ok : evaluateField t strict true p v ctx = .ok o) (unnamed : ∀ d ∈ p.descriptors, d.messageKey ≠ keyCharMessage)
    (entered : ctx.isNumberInput = false ∨ v ≠ .text "") : ∀ r ∈ o.spoken, r.keyboard = false := by
  intro r member
  obtain ⟨d,inside,evaluated⟩ := evaluatedFrom (outcomeEach ok).2 r (List.mem_filter.mp member).1
  have plain : d.isKeyEntry v { ctx with isRequired := p.isRequired } = false := by
    have number : FieldContext.isNumberInput { ctx with isRequired := p.isRequired } = ctx.isNumberInput := rfl
    rcases entered with other | other
    · simp [Descriptor.isKeyEntry,number,other]
    · have filled : isEmptyText v = false := by cases v <;> simp_all [isEmptyText]
      simp [Descriptor.isKeyEntry,filled]
  have key := (evaluatedFor evaluated).2.1
  rw [plain] at key
  simp [RuleResult.keyboard,key,unnamed d inside]

/-- Of the rules that speak, in the order in which they are declared, the last has the last word exactly if none is drowned in
repetitions of the keyboard message, or what it has to say is the same; a rule that is drowned is what is heard. Without the
keyboard message none is. -/
theorem lastMessage (ok : evaluateField t strict true p v ctx = .ok o) (bad : o.valid = false) :
    o.results.map RuleResult.descriptor = p.descriptors ∧
    (∀ r, o.Drowns r → o.message = o.tells (some r)) ∧
    (o.message = o.tells o.spoken.getLast? ↔ ∀ r, o.Drowns r → o.tells (some r) = o.tells o.spoken.getLast?) ∧
    ((∀ d ∈ p.descriptors, d.messageKey ≠ keyCharMessage) → ctx.isNumberInput = false ∨ v ≠ .text "" →
      o.message = o.tells o.spoken.getLast?) := by
  have told := lastTold ok bad
  have drowned (r) (drowns : o.Drowns r) : o.message = o.tells (some r) := by rw [told,drownedHeard drowns]
  have clear (none : ∀ r, ¬ o.Drowns r) : o.message = o.tells o.spoken.getLast? := by
    rw [told,FieldOutcome.tells,lastHeard (keyboardOne ok) none,← FieldOutcome.tells]
  refine ⟨?_,drowned,?_,fun unnamed entered => clear fun r => ?_⟩
  · exact evaluatedOrder (outcomeEach ok).2
  · constructor
    · intro same r drowns
      rw [← drowned r drowns,same]
    · intro same
      by_cases some : ∃ r, o.Drowns r
      · obtain ⟨r,drowns⟩ := some
        rw [drowned r drowns,same r drowns]
      · exact clear (not_exists.mp some)
  · rintro ⟨_,before,echoes,whole,given,_⟩
    obtain ⟨k,inside,keyed⟩ := List.any_eq_true.mp given
    have spared := keyboardSpared ok unnamed entered k (by rw [whole]; exact List.mem_append_left _ inside)
    rw [spared] at keyed
    contradiction

end Evaluation

namespace Catalog

def inEnglish : Translator := ⟨messagesEnglish,[],"en"⟩

theorem lastOfTwo : ∃ p o, (bundled.parse "required|min_len:3|email").1 = .ok p ∧
    evaluateField inEnglish true true p (.text "a") enabled = .ok o ∧ o.valid = false ∧
    o.message = o.tells o.spoken.getLast? ∧ o.message = "Must be a valid email address." := by
  have read : (bundled.parse "required|min_len:3|email").1.toOption.map (fun p =>
      (p.descriptors.all (·.messageKey != keyCharMessage),(evaluateField inEnglish true true p (.text "a") enabled).toOption.map fun o =>
        (o.valid,o.message))) = some (true,some (false,"Must be a valid email address.")) := by decide +kernel
  obtain ⟨p,read,both⟩ := Option.map_eq_some_iff.mp read
  obtain ⟨unnamed,judged⟩ := Prod.mk.inj both
  obtain ⟨o,judged,both⟩ := Option.map_eq_some_iff.mp judged
  obtain ⟨bad,message⟩ := Prod.mk.inj both
  have last := (lastMessage (answered judged) bad).2.2.2 (by simpa using unnamed) (.inl (by decide))
  exact ⟨p,o,answered read,answered judged,bad,last,message⟩

def numberInput : FieldContext := ⟨"f",false,false,"number",some fun _ => .null⟩

/-- The last of three failing rules repeats what the first said, and the second is what is heard. -/
theorem secondOfThree : ∃ p o, (bundled.parse "required|min_num:5|email").1 = .ok p ∧
    evaluateField inEnglish true true p (.text "") numberInput = .ok o ∧ o.valid = false ∧
    o.tells o.spoken.getLast? = "Invalid keyboard entry on a field of type \"number\"." ∧
    o.message = "Needs to be a numeric value, equal to, or higher than 5." := by
  have read : (bundled.parse "required|min_num:5|email").1.toOption.map (fun p =>
      (evaluateField inEnglish true true p (.text "") numberInput).toOption.map fun o =>
        (o.valid,o.tells o.spoken.getLast?,o.message)) = some (some (false,"Invalid keyboard entry on a field of type \"number\".",
          "Needs to be a numeric value, equal to, or higher than 5.")) := by decide +kernel
  obtain ⟨p,read,judged⟩ := Option.map_eq_some_iff.mp read
  obtain ⟨o,judged,all⟩ := Option.map_eq_some_iff.mp judged
  obtain ⟨bad,both⟩ := Prod.mk.inj all
  obtain ⟨last,message⟩ := Prod.mk.inj both
  exact ⟨p,o,answered read,answered judged,bad,last,message⟩

end Catalog
end FormGuard
