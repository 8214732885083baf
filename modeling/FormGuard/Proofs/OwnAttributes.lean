import FormGuard.Proofs.FailedCalls

/-! Which attributes a field is registered with: its own and, where it has none, those of the page. Three of them have two
spellings, and the first of these counts before the second even when the page gives the first and the field the second. -/
namespace FormGuard

namespace Table
variable {α : Type}

theorem overlayFinds {lower upper : Table α} (distinct : (names upper).Nodup) (name : String) :
    get? (overlay lower upper) name = (get? upper name).or (get? lower name) := by
  induction upper generalizing lower with
  | nil => rfl
  | cons e rest ih =>
    obtain ⟨n,a⟩ := e
    obtain ⟨absent,distinct⟩ := List.nodup_cons.mp distinct
    change get? (overlay (put lower n a) rest) name = _
    rw [ih distinct,getAfterPut,getOfCons]
    by_cases same : name = n
    · subst same
      have none : get? rest name = none := by
        by_contra some
        exact absent (namedIff.mpr (Option.ne_none_iff_exists'.mp some))
      simp [none]
    · simp [same]

end Table

namespace Attributes

def given (own page : Value.Fields) (name : String) : Option Value := (own.get? name).or (page.get? name)

def used (own page : Value.Fields) (first second : String) : Option Value := (given own page first).or (given own page second)

def favoured (own page : Value.Fields) (first second : String) : Option Value :=
  ((own.get? first).or (own.get? second)).or ((page.get? first).or (page.get? second))

def Overridden (own page : Value.Fields) (first second : String) : Prop :=
  own.get? first = none ∧ ∃ v w, own.get? second = some v ∧ page.get? first = some w ∧ v ≠ w

theorem usedFavoured {own page : Value.Fields} {first second} :
    used own page first second = favoured own page first second ↔ ¬ Overridden own page first second := by
  unfold used favoured given Overridden
  cases own.get? first <;> cases own.get? second <;> cases page.get? first <;> simp [eq_comm]

theorem usedOverridden {own page : Value.Fields} {first second} (overridden : Overridden own page first second) :
    used own page first second = page.get? first := by
  obtain ⟨none,_,w,_,some,_⟩ := overridden
  simp [used,given,none,some]

structure Accepted (attrs : Value.Fields) : Prop where
  name : ∀ v, attrs.get? "name" = some v → ∃ s, v = .text s ∧ s ≠ ""
  elmName : ∀ v, attrs.get? "elmName" = some v → ∃ s, v = .text s ∧ s ≠ ""
  rules : ∀ v, attrs.get? "rules" = some v → ∃ s, v = .text s
  validation : ∀ v, attrs.get? "validation" = some v → ∃ s, v = .text s
  ruled : (attrs.get? "rules").isSome = true ∨ (attrs.get? "validation").isSome = true

theorem demanded {schema : Schema} {v} (ok : demand schema v = .ok ()) : schema.Meets v := by
  unfold demand at ok
  split at ok
  · rename_i silent
    exact Schema.checkedMeets.mp silent
  · contradiction

theorem textMet {v} (ok : (Schema.all [.kinds [.text]]).Meets v) : ∃ s, v = .text s := by
  simp only [Schema.meetsAll,List.forall_mem_cons] at ok
  exact Schema.textOfKind (Schema.kindsMet.mp ok.1)

theorem accepted {attrs : Value.Fields} (ok : ofField.Meets (.object attrs)) : Accepted attrs := by
  simp only [ofField,Schema.meetsAll,List.forall_mem_cons] at ok
  obtain ⟨_,shapes,ruled,_⟩ := ok
  have shape := Schema.entriesMet.mp shapes
  simp only [known,List.forall_mem_cons] at shape
  obtain ⟨name,elmName,rules,validation,_⟩ := shape
  refine ⟨fun v found => Schema.nonEmptyTextMet (name v found),fun v found => Schema.nonEmptyTextMet (elmName v found),
    fun v found => textMet (rules v found),fun v found => textMet (validation v found),?_⟩
  obtain ⟨b,inside,met⟩ := Schema.anyOfMet.mp ruled
  simp only [List.mem_cons,List.not_mem_nil,or_false] at inside
  rcases inside with rfl | rfl <;> simp only [Schema.meetsAll,List.forall_mem_cons] at met
  · exact .inl (Schema.requiredMet.mp met.1 "rules" (by simp))
  · exact .inr (Schema.requiredMet.mp met.1 "validation" (by simp))

structure Describes (own : Value.Fields) (s : Session) (r : Record) : Prop where
  name : used own s.options "name" "elmName" = some (.text r.name)
  rules : used own s.options "rules" "validation" = some (.text r.rules)
  limit : (∃ v, used own s.options "debounce" "typingLimit" = some v ∧ (wholeNumber v).map .ofInt = .ok r.typingLimit) ∨
    used own s.options "debounce" "typingLimit" = none ∧ r.typingLimit = s.inactivityLimit
  attributes : ∀ name, r.attributes.get? name = given own s.options name
  friendlyName : r.friendlyName = friendlyName s.translator r.attributes r.translate
  form : r.form = text? r.attributes "form"
  inputType : r.inputType = (text? r.attributes "type").getD "text"
  target : r.target = target r.attributes
  translate : r.translate = isOn r.attributes "translate"

theorem nameTaken {attrs : Value.Fields} (accepted : Accepted attrs) (named : (nameOf attrs).truthy = true) :
    (attrs.get? "name").or (attrs.get? "elmName") = some (.text (nameOf attrs).plainText) := by
  unfold nameOf at named ⊢
  cases first : attrs.get? "name" with
  | some v =>
    obtain ⟨t,rfl,filled⟩ := accepted.name v first
    simp [Value.truthy,Value.plainText,filled]
  | none =>
    cases second : attrs.get? "elmName" with
    | some v =>
      obtain ⟨t,rfl,filled⟩ := accepted.elmName v second
      simp [Value.truthy,Value.plainText]
    | none => simp [first,second,Value.truthy] at named

theorem rulesTaken {attrs : Value.Fields} (accepted : Accepted attrs) :
    (attrs.get? "rules").or (attrs.get? "validation") =
      some (.text (((text? attrs "rules").or (text? attrs "validation")).getD "")) := by
  unfold text?
  cases first : attrs.get? "rules" with
  | some v =>
    obtain ⟨t,rfl⟩ := accepted.rules v first
    simp
  | none =>
    cases second : attrs.get? "validation" with
    | some v =>
      obtain ⟨t,rfl⟩ := accepted.validation v second
      simp
    | none =>
      have ruled := accepted.ruled
      simp [first,second] at ruled

theorem limitTaken {attrs : Value.Fields} {usual limit} (limited : typingLimit attrs usual = .ok limit) :
    (∃ v, (attrs.get? "debounce").or (attrs.get? "typingLimit") = some v ∧ (wholeNumber v).map .ofInt = .ok limit) ∨
      (attrs.get? "debounce").or (attrs.get? "typingLimit") = none ∧ limit = usual := by
  unfold typingLimit at limited
  split at limited
  · rename_i v some
    exact .inl ⟨v,by simp [some],limited⟩
  · rename_i v none some
    exact .inl ⟨v,by simp [none,some],limited⟩
  · rename_i none none'
    cases limited
    exact .inr ⟨by simp [none,none'],rfl⟩

theorem recordDescribes {own : Value.Fields} {s : Session} {stamp r} (distinct : (Table.names own).Nodup)
    (made : record s.translator s.inactivityLimit stamp (s.options.overlay own) = .ok r) : Describes own s r := by
  have finds (name : String) : (s.options.overlay own).get? name = given own s.options name :=
    Table.overlayFinds distinct name
  have stands (first second : String) : used own s.options first second =
      ((s.options.overlay own).get? first).or ((s.options.overlay own).get? second) := by
    rw [finds,finds,used]
  unfold record at made
  dsimp only at made
  split at made
  · contradiction
  · rename_i named
    split at made
    · contradiction
    · contradiction
    · rename_i limit demand limited
      cases made
      have accepted := accepted (demanded demand)
      refine ⟨?_,?_,?_,finds,rfl,rfl,rfl,rfl,rfl⟩ <;> rw [stands]
      · exact nameTaken accepted (by simpa using named)
      · exact rulesTaken accepted
      · exact limitTaken limited

theorem Describes.judged {own : Value.Fields} {s : Session} {r : Record} (describes : Describes own s r)
    (pipeline : Option Pipeline) (isValid : Bool) (message : String) : Describes own s { r with pipeline, isValid, message } :=
  ⟨describes.name,describes.rules,describes.limit,describes.attributes,describes.friendlyName,describes.form,
    describes.inputType,describes.target,describes.translate⟩

end Attributes

namespace Session

theorem enlistedDescribes {s s' : Session} {own r} (distinct : (Table.names own).Nodup)
    (entry : s.enlist own = (.ok r,s')) : Attributes.Describes own s r := by
  unfold enlist at entry
  split at entry
  · cases entry
  · rename_i r₀ made
    split at entry
    · cases entry
    · rename_i p s₁ _
      cases entry
      exact (Attributes.recordDescribes distinct made).judged (some p) r₀.isValid r₀.message

theorem addedDescribes {s : Session} {own} (distinct : (Table.names own).Nodup) :
    (∀ m, (s.add own).2.registry.find? m = s.registry.find? m) ∨ ∃ r, Attributes.Describes own s r ∧
      ∀ m, (s.add own).2.registry.find? m = if m = r.name then some r else s.registry.find? m := by
  rw [addEq]
  rcases entry : s.enlist own with ⟨f | r,s₁⟩
  · have same := (enlistFails entry).aside.registry
    exact .inl fun m => congrArg (·.find? m) same
  · have describes := enlistedDescribes distinct entry
    obtain ⟨_,_,p,_,_,rfl⟩ := enlisted entry
    dsimp only
    rcases silent : judgeSilently _ r with ⟨f | r',s'⟩
    · obtain ⟨rfl,_⟩ := judgeSilentlyFails silent
      exact .inr ⟨r,describes,fun m => Registry.findUpsert⟩
    · obtain ⟨o,_,rfl,rfl⟩ := judgedSilently silent
      refine .inr ⟨r.withVerdict o,describes.judged r.pipeline _ _,fun m => ?_⟩
      have registry : ((s.registry.upsert r).upsert (r.withVerdict o)).find? m =
          if m = r.name then some (r.withVerdict o) else (s.registry.upsert r).find? m := Registry.findUpsert
      refine registry.trans ?_
      rw [Registry.findUpsert]
      by_cases own : m = r.name <;> simp [own,Record.withVerdict]

/-- A field is registered with its own attributes and, where it has none, with those of the page. Of an attribute with two
spellings it bears its own in either, unless it gives the second only and the page gives the first with another value. -/
theorem registeredAttributes {opening : Session} {past s} (opened : opening.Opened) (run : opening.Run past s)
    {attributes rules own} (given : attributesGiven attributes rules = .ok own) (distinct : (Table.names own).Nodup) {name r}
    (found : ((SessionEvent.add attributes rules).run s).2.registry.find? name = some r) (fresh : r.stamp = s.made) :
    r.name = name ∧ Attributes.Describes own s r ∧ ∀ first second,
      (Attributes.used own s.options first second = Attributes.favoured own s.options first second ↔
        ¬ Attributes.Overridden own s.options first second) ∧
      (Attributes.Overridden own s.options first second →
        Attributes.used own s.options first second = s.options.get? first) := by
  have filed := (runOrdered opened run).toFiled
  -- A record that was there before bears an earlier stamp, so this one was put there by the call.
  have old : s.registry.find? name ≠ some r := fun registered => by
    have earlier := (filed.proper registered).made
    omega
  have described : r.name = name ∧ Attributes.Describes own s r := by
    have after : ((SessionEvent.add attributes rules).run s).2 = (s.add own).2 := by
      change (s.addGiven attributes rules).2 = _
      rw [addGivenEq,given]
    rw [after] at found
    rcases addedDescribes distinct with same | ⟨r₁,describes,registry⟩
    · exact absurd ((same name).symm.trans found) old
    · rw [registry] at found
      split at found
      · rename_i named
        cases found
        exact ⟨named.symm,describes⟩
      · exact absurd found old
  exact ⟨described.1,described.2,fun _ _ => ⟨Attributes.usedFavoured,Attributes.usedOverridden⟩⟩

def hastyPage : Session := { smallPage true with options := [("debounce",.int 0)] }

def patientField : Value.Fields := [("name",.text "x"),("rules",.text "letter"),("typingLimit",.int 500)]

theorem hastyRun : (smallPage true).Run [⟨smallPage true,.setOptions (.object [("debounce",.int 0)])⟩] hastyPage := by
  have demanded : Attributes.demand Attributes.ofPage (.object [("debounce",.int 0)]) = .ok () := answered (by decide +kernel)
  have set : ((SessionEvent.setOptions (.object [("debounce",.int 0)])).run (smallPage true)).2 = hastyPage := by
    simp only [SessionEvent.run,setOptions,demanded]
    rfl
  rw [← set]
  exact .next .start _ nofun

theorem patientRegistered : ∃ r, ((SessionEvent.add (.object patientField) .null).run hastyPage).2.registry.find? "x" = some r ∧
    r.stamp = hastyPage.made ∧ r.typingLimit.ms = 0 := by
  have entry : (((SessionEvent.add (.object patientField) .null).run hastyPage).2.registry.find? "x").map
      (fun r => (r.stamp,r.typingLimit.ms)) = some (hastyPage.made,0) := by decide +kernel
  obtain ⟨r,found,both⟩ := Option.map_eq_some_iff.mp entry
  obtain ⟨fresh,limit⟩ := Prod.mk.inj both
  exact ⟨r,found,fresh,limit⟩

theorem hastyDescribes : (smallPage true).Opened ∧ ∃ past r, (smallPage true).Run past hastyPage ∧
    attributesGiven (.object patientField) .null = .ok patientField ∧ (Table.names patientField).Nodup ∧
    ((SessionEvent.add (.object patientField) .null).run hastyPage).2.registry.find? "x" = some r ∧ r.stamp = hastyPage.made ∧
    Attributes.Describes patientField hastyPage r ∧
    Attributes.used patientField hastyPage.options "debounce" "typingLimit" = some (.int 0) := by
  obtain ⟨r,found,fresh,_⟩ := patientRegistered
  have overridden : Attributes.Overridden patientField hastyPage.options "debounce" "typingLimit" :=
    ⟨rfl,.int 500,.int 0,rfl,rfl,by simp⟩
  have given : attributesGiven (.object patientField) .null = .ok patientField := rfl
  have distinct : (Table.names patientField).Nodup := by decide
  obtain ⟨_,describes,spelled⟩ := registeredAttributes (smallOpened true) hastyRun given distinct found fresh
  exact ⟨smallOpened true,_,r,hastyRun,given,distinct,found,fresh,describes,(spelled _ _).2 overridden⟩

theorem patienceLost : (smallPage true).Opened ∧ ∃ past r, (smallPage true).Run past hastyPage ∧
    ((SessionEvent.add (.object patientField) .null).run hastyPage).2.registry.find? "x" = some r ∧ r.stamp = hastyPage.made ∧
    patientField.get? "typingLimit" = some (.int 500) ∧ r.typingLimit ≠ .ofInt 500 := by
  obtain ⟨r,found,fresh,limit⟩ := patientRegistered
  refine ⟨smallOpened true,_,r,hastyRun,found,fresh,rfl,fun patient => ?_⟩
  simp [patient,Delay.ofInt] at limit

end Session
end FormGuard
