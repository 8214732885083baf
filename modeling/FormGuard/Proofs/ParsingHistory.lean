import FormGuard.Proofs.CheckedCatalogs
import FormGuard.Proofs.SessionOrder
import FormGuard.Proofs.SoundRules

/-! What rules mean has no history. An engine answers as one that has just been made, whatever it was asked before and
however that ended; and a session that judges with it holds, with every record, the pipeline that a first reading of the
record's present rules would give. -/
namespace FormGuard

structure RuleListing where
  descriptor : Descriptor
  message : String
  isRequired : Bool

def Pipeline.listing (t : Translator) (p : Pipeline) : List RuleListing :=
  p.descriptors.map fun d => ⟨d,d.render t,p.isRequired⟩

inductive EngineCall where
  | lookup (name : String)
  | parse (rules : String)
  | discover (rules : String)
  | evaluate (r : Record) (v : Value) (ctx : FieldContext) (lastOnly : Bool)

inductive EngineAnswer where
  | definition (d : RuleDefinition)
  | pipeline (p : Pipeline)
  | listings (rules : List RuleListing)
  | outcome (o : FieldOutcome)

namespace Catalog

def pipelineFor (c : Catalog) (r : Record) : Except Failure Pipeline × Catalog :=
  match r.pipeline with
  | some p => (.ok p,c)
  | none => c.parse r.rules

theorem pipelineKeeps {c : Catalog} (h : c.Remembers) (r : Record) :
    SameBook c (c.pipelineFor r).2 ∧ (c.pipelineFor r).2.Remembers := by
  unfold pipelineFor
  split
  · exact ⟨.refl c,h⟩
  · exact parseKeeps h r.rules

theorem pipelineSameBook {c c' : Catalog} (h : c.Remembers) (h' : c'.Remembers) (same : SameBook c c')
    (r : Record) : (c'.pipelineFor r).1 = (c.pipelineFor r).1 := by
  unfold pipelineFor
  split
  · rfl
  · exact parseSameBook h h' same r.rules

theorem lookupSameBook {c c' : Catalog} (h : c.Remembers) (h' : c'.Remembers) (same : SameBook c c')
    (name : String) : (c'.lookup name).1 = (c.lookup name).1 := by
  rw [lookupFinds h',lookupFinds h,findSameBook same]

end Catalog

namespace EngineCall

def run (t : Translator) (strict : Bool) : EngineCall → Catalog → Except Failure EngineAnswer × Catalog
  | lookup name,c => ((c.lookup name).1.map .definition,(c.lookup name).2)
  | parse rules,c => ((c.parse rules).1.map .pipeline,(c.parse rules).2)
  | discover rules,c => ((c.parse rules).1.map fun p => .listings (p.listing t),(c.parse rules).2)
  | evaluate r v ctx lastOnly,c =>
    (do
      let p ← (c.pipelineFor r).1
      let o ← evaluateField t strict lastOnly p v ctx
      return .outcome o,(c.pipelineFor r).2)

variable (t : Translator) (strict : Bool) (call : EngineCall) {c c' : Catalog}

theorem runKeeps (h : c.Remembers) : c.SameBook (call.run t strict c).2 ∧ (call.run t strict c).2.Remembers := by
  cases call with
  | lookup name => exact Catalog.lookupKeeps h name
  | parse rules => exact Catalog.parseKeeps h rules
  | discover rules => exact Catalog.parseKeeps h rules
  | evaluate r => exact Catalog.pipelineKeeps h r

theorem runSameBook (h : c.Remembers) (h' : c'.Remembers) (same : c.SameBook c') :
    (call.run t strict c').1 = (call.run t strict c).1 := by
  cases call with
  | lookup name => simp only [run,Catalog.lookupSameBook h h' same name]
  | parse rules => simp only [run,Catalog.parseSameBook h h' same rules]
  | discover rules => simp only [run,Catalog.parseSameBook h h' same rules]
  | evaluate r => simp only [run,Catalog.pipelineSameBook h h' same r]

end EngineCall

namespace Catalog

def after (c : Catalog) (t : Translator) (strict : Bool) (calls : List EngineCall) : Catalog :=
  calls.foldl (fun c call => (call.run t strict c).2) c

theorem afterKeeps {c : Catalog} (h : c.Remembers) (t : Translator) (strict : Bool) (calls : List EngineCall) :
    c.SameBook (c.after t strict calls) ∧ (c.after t strict calls).Remembers := by
  induction calls generalizing c with
  | nil => exact ⟨.refl c,h⟩
  | cons call rest ih =>
    have first := call.runKeeps t strict h
    have later := ih first.2
    exact ⟨first.1.trans later.1,later.2⟩

theorem documentRead {document} (shape : Schema.ruleCatalog.Meets document) :
    ∃ c, ofDocument document = .ok c ∧ c.Remembers := by
  obtain ⟨fields,_,rfl,_,_⟩ := Schema.catalogRules shape
  exact ⟨_,rfl,freshRemembers rfl⟩

end Catalog

theorem Session.usedOrdered {opening : Session} {used : Catalog} (opened : opening.Opened)
    (kept : opening.catalog.SameBook used ∧ used.Remembers) : { opening with catalog := used }.Ordered :=
  (openedOrdered opened).beside ⟨rfl,rfl,rfl,rfl,rfl,rfl,rfl,rfl,fun _ => kept⟩

namespace Catalog

/-- After any calls, an engine over a document that met its schema answers every call as one just made over it, and so it
does at every point of a session that goes on with it; the records of the session hold what it would read afresh. -/
theorem historyUnseen {document} (shape : Schema.ruleCatalog.Meets document) :
    ∃ fresh, ofDocument document = .ok fresh ∧ ∀ t strict calls,
      (∀ name, ((fresh.after t strict calls).lookup name).1 = (fresh.lookup name).1) ∧
      (∀ rules, ((fresh.after t strict calls).parse rules).1 = (fresh.parse rules).1) ∧
      (∀ r : Record, r.pipeline = none → ((fresh.after t strict calls).pipelineFor r).1 = (fresh.parse r.rules).1) ∧
      (∀ call : EngineCall, (call.run t strict (fresh.after t strict calls)).1 = (call.run t strict fresh).1) ∧
      ∀ (opening : Session) past s, opening.Opened → opening.catalog = fresh →
        { opening with catalog := fresh.after t strict calls }.Run past s →
        (∀ name r, s.registry.find? name = some r → ∃ p, r.pipeline = some p ∧ (fresh.parse r.rules).1 = .ok p) ∧
        ∀ call : EngineCall, (call.run t strict s.catalog).1 = (call.run t strict fresh).1 := by
  obtain ⟨fresh,read,remembers⟩ := documentRead shape
  refine ⟨fresh,read,fun t strict calls => ?_⟩
  have kept := afterKeeps remembers t strict calls
  refine ⟨lookupSameBook remembers kept.2 kept.1,parseSameBook remembers kept.2 kept.1,fun r unread => ?_,
    fun call => call.runSameBook t strict remembers kept.2 kept.1,?_⟩
  · rw [pipelineSameBook remembers kept.2 kept.1,pipelineFor,unread]
  rintro opening past s opened rfl run
  have ordered := Session.orderedRun (Session.usedOrdered opened kept) run
  have same : opening.catalog.SameBook s.catalog := kept.1.trans ((Session.runRooted run).book kept.2).1
  refine ⟨fun name r found => ?_,fun call => call.runSameBook t strict remembers ordered.remembers same⟩
  obtain ⟨p,pipeline,parsed⟩ := (ordered.proper found).read
  exact ⟨p,pipeline,(parseSameBook remembers ordered.remembers same r.rules).symm.trans parsed⟩

-- Of the four, the second and the third fail, after a rule has been looked up for them.
def mixedCalls : List EngineCall :=
  [.lookup "letter",.parse "letter|none",.discover "letter|due:soon",
    .evaluate (.fresh 0 "y" "letter") (.text "a") enabled false]

def mixedPage : Session :=
  { Session.smallPage true with catalog := (Session.smallPage true).catalog.after untranslated true mixedCalls }

def mixedEvents : List SessionEvent := [.rebind (.text "x") (.text "letter|letter"),Session.smallEntry]

theorem mixedHistoryUnseen : Schema.ruleCatalog.Meets Session.smallDocument ∧
    ((Session.smallPage true).catalog.after untranslated true mixedCalls).loaded.length = 2 ∧
    ∃ past s r p, mixedPage.Run past s ∧ s.registry.find? "x" = some r ∧ r.rules = "letter|letter" ∧
      r.pipeline = some p ∧ ((Session.smallPage true).catalog.parse "letter|letter").1 = .ok p := by
  have shape : Schema.ruleCatalog.Meets Session.smallDocument := Schema.checkedMeets.mp (by decide)
  have run : mixedPage.Run (mixedPage.live mixedEvents).1 (mixedPage.live mixedEvents).2 :=
    Session.liveRun (.inr (by simp [mixedEvents,Session.smallEntry]))
  have found : ((mixedPage.live mixedEvents).2.registry.find? "x").map (·.rules) = some "letter|letter" := by decide +kernel
  obtain ⟨r,found,rules⟩ := Option.map_eq_some_iff.mp found
  obtain ⟨fresh,read,unseen⟩ := historyUnseen shape
  cases (rfl : ofDocument Session.smallDocument = .ok (Session.smallPage true).catalog).symm.trans read
  obtain ⟨p,pipeline,parsed⟩ :=
    ((unseen untranslated true mixedCalls).2.2.2.2 _ _ _ (Session.smallOpened true) rfl run).1 "x" r found
  exact ⟨shape,by decide +kernel,_,_,r,p,run,found,rules,pipeline,rules ▸ parsed⟩

end Catalog
end FormGuard
